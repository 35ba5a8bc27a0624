import WyrePlumber.Native.LinkEffects

/-!
# One live link for each identity

The preflight of `execute_create_link` looks for the identity among the links
that are visible with info, through the ledger entries with their endpoints.  A
link of the identity that the preflight does not see this way is created a second
time, and its ledger entry is overwritten.
-/

set_option autoImplicit false

namespace WyrePlumber.Native.LinkUniqueness

open LabelledMachine KeyedTable Python
open WyrePlumber.Native.ManagedLinks
open WyrePlumber.Native.LinkEffects

section Counting

def liveFor (identity : Identity) (link : WpLink) : Bool :=
  link.live && link.creator = some identity

def liveCount (runtime : LinkRuntime) (identity : Identity) : Nat :=
  runtime.links.countP (liveFor identity)

/-- Changing one element to one that is not counted anew counts no more. -/
theorem countP_modify_le {α : Type} {test : α → Bool} {change : α → α} {list : List α}
    {position : Nat}
    (weaker : ∀ element, list[position]? = some element →
      test (change element) = true → test element = true) :
    (list.modify position change).countP test ≤ list.countP test := by
  induction list generalizing position with
  | nil => simp
  | cons head rest inductionHypothesis =>
      cases position with
      | zero =>
          have atHead := weaker head rfl
          rw [List.modify_zero_cons, List.countP_cons, List.countP_cons]
          cases counted : test (change head) with
          | false => simp
          | true => simp [atHead counted]
      | succ position =>
          have inRest := inductionHypothesis weaker
          rw [List.modify_succ_cons, List.countP_cons, List.countP_cons]
          omega

variable {runtime next : LinkRuntime}

theorem liveCount_of_changesLink (changes : ChangesLink runtime next)
    (identity : Identity) : liveCount next identity ≤ liveCount runtime identity := by
  obtain ⟨ref, change, changed, weakens⟩ := changes
  rw [liveCount, changed]
  refine countP_modify_le ?_
  intro link atRef counted
  obtain ⟨sameCreator, live⟩ := weakens link atRef
  simp only [liveFor, Bool.and_eq_true, decide_eq_true_eq] at counted ⊢
  exact ⟨live counted.1, by rw [← sameCreator, counted.2]⟩

theorem liveCount_eq_zero_iff {identity : Identity} :
    liveCount runtime identity = 0 ↔
      ∀ link ∈ runtime.links, link.live = true → link.creator ≠ some identity := by
  simp [liveCount, List.countP_eq_zero, liveFor]

theorem liveCount_created {identity : Identity} {endpoints : Endpoints}
    (created : next.links =
      runtime.links ++ [⟨some identity, some endpoints, .pending, .requested, []⟩])
    (other : Identity) :
    liveCount next other = liveCount runtime other + if other = identity then 1 else 0 := by
  rw [liveCount, created, List.countP_append, List.countP_singleton, liveCount]
  simp [liveFor, WpLink.live, eq_comm]

theorem liveCount_foreign {global : LinkGlobal}
    (appeared : next.links =
      runtime.links ++ [⟨none, none, .finished true, .visible global, []⟩]) (identity : Identity) :
    liveCount next identity = liveCount runtime identity := by
  rw [liveCount, appeared, List.countP_append, List.countP_singleton, liveCount]
  simp [liveFor]

end Counting

section Uniqueness

/-- The store replaced no entry of a live link. -/
def KeepsLiveEntry : Effect → Prop
  | .stored _ _ overwritten => overwritten = none
  | _ => True

instance : DecidablePred KeepsLiveEntry
  | .stored _ _ overwritten => inferInstanceAs (Decidable (overwritten = none))
  | .destroyRequested _ _ => isTrue trivial
  | .snapshot _ => isTrue trivial
  | .raised _ => isTrue trivial
  | .answered _ => isTrue trivial
  | .forgot _ _ => isTrue trivial
  | .captureFailed => isTrue trivial

/-- At most one live link for each identity, and no live link's entry overwritten. -/
def LinksUnique (runtime : LinkRuntime) (reported : List Effect) : Prop :=
  (∀ identity, liveCount runtime identity ≤ 1) ∧ ∀ effect ∈ reported, KeepsLiveEntry effect

/-- Every live link of the call's identity, and the live link whose entry is under
the call's key, is one the preflight sees. -/
def AllSeen (runtime : LinkRuntime) (call : LinkCall) : Prop :=
  (∀ link ∈ runtime.links, link.live = true → link.creator = some call.identity →
    SeenAs runtime.managedLinks call link) ∧
  ∀ link ∈ overwrittenLink runtime call.linkOwner call.linkDesiredId,
    SeenAs runtime.managedLinks call link

instance (runtime : LinkRuntime) (call : LinkCall) : Decidable (AllSeen runtime call) :=
  inferInstanceAs (Decidable (_ ∧ _))

/-- A creation that proceeds follows only links of its identity that it sees. -/
def CreatesSeen (runtime : LinkRuntime) : Action → Prop
  | .createLink identity endpoints factory =>
      ∀ call ∈ (parseLinkIdentity identity).toOption,
        CreateProceeds runtime call endpoints factory → AllSeen runtime call
  | _ => True

instance (runtime : LinkRuntime) : DecidablePred (CreatesSeen runtime)
  | .createLink identity endpoints factory =>
      inferInstanceAs (Decidable (∀ call ∈ (parseLinkIdentity identity).toOption,
        CreateProceeds runtime call endpoints factory → AllSeen runtime call))
  | .graphChanged _ _ => isTrue trivial
  | .removeLink _ _ => isTrue trivial
  | .activated _ _ => isTrue trivial
  | .appeared _ _ => isTrue trivial
  | .foreignAppeared _ => isTrue trivial
  | .infoChanged _ _ => isTrue trivial
  | .disappeared _ => isTrue trivial
  | .rehashed _ => isTrue trivial
  | .capture => isTrue trivial

variable {runtime next : LinkRuntime} {reported observed : List Effect} {action : Action}

theorem mem_links_of_overwritten {owner desiredId : CString} {link : WpLink}
    (overwritten : overwrittenLink runtime owner desiredId = some link) :
    link ∈ runtime.links := by
  simp only [overwrittenLink, Option.filter_eq_some_iff, Option.bind_eq_some_iff,
    linkOf] at overwritten
  obtain ⟨⟨spec, -, atProxy⟩, -⟩ := overwritten
  exact List.mem_of_getElem? atProxy

/-- Past the preflight, seeing every link of the identity means that there is none. -/
theorem allSeen_iff {call : LinkCall} {endpoints : Endpoints} {factory : Bool}
    (proceeds : CreateProceeds runtime call endpoints factory) :
    AllSeen runtime call ↔ liveCount runtime call.identity = 0 ∧
      overwrittenLink runtime call.linkOwner call.linkDesiredId = none := by
  have unseen := (preflight_passed proceeds.preflight).2
  rw [liveCount_eq_zero_iff]
  constructor
  · rintro ⟨ofIdentity, ofKey⟩
    refine ⟨?_, ?_⟩
    · intro link member live created
      exact (unseen link member).1 (ofIdentity link member live created)
    · rw [Option.eq_none_iff_forall_not_mem]
      intro link overwritten
      exact (unseen link (mem_links_of_overwritten overwritten)).1 (ofKey link overwritten)
  · rintro ⟨noLink, noEntry⟩
    refine ⟨?_, by simp [noEntry]⟩
    intro link member live created
    exact absurd created (noLink link member live)

/-- A creation that proceeds from a unique state keeps it unique exactly when it
saw every link of its identity. -/
theorem createLink_unique_iff {call : LinkCall}
    {endpoints : Endpoints} {factory : Bool} (unique : LinksUnique runtime reported)
    (proceeds : CreateProceeds runtime call endpoints factory) :
    LinksUnique (createLink runtime call endpoints)
      (reported ++ [.stored call.identity
        (lookupIdentity runtime.managedLinks call.linkOwner call.linkDesiredId)
        (overwrittenLink runtime call.linkOwner call.linkDesiredId), .answered .ready]) ↔
      AllSeen runtime call := by
  have counts (other : Identity) : liveCount (createLink runtime call endpoints) other =
      liveCount runtime other + if other = call.identity then 1 else 0 :=
    liveCount_created rfl other
  rw [allSeen_iff proceeds, LinksUnique, List.forall_mem_append]
  constructor
  · rintro ⟨atMostOne, -, kept⟩
    have ofIdentity := atMostOne call.identity
    rw [counts, if_pos rfl] at ofIdentity
    exact ⟨by omega, kept _ List.mem_cons_self⟩
  · rintro ⟨none, kept⟩
    refine ⟨?_, unique.2, by simp [KeepsLiveEntry, kept]⟩
    intro other
    rw [counts]
    by_cases same : other = call.identity
    · simp [same, none]
    · rw [if_neg same]
      exact unique.1 other

/-- The action is a creation that reaches `managed_link_store`. -/
def Creates (runtime : LinkRuntime) (action : Action) : Prop :=
  ∃ identity endpoints factory call, action = .createLink identity endpoints factory ∧
    parseLinkIdentity identity = .ok call ∧ CreateProceeds runtime call endpoints factory

theorem linksUnique_step_of_not_creates (unique : LinksUnique runtime reported)
    (taken : step runtime action = some (next, observed))
    (creates : ¬ Creates runtime action) : LinksUnique next (reported ++ observed) := by
  constructor
  · intro identity
    have atMostOne := unique.1 identity
    rcases step_links taken with unchanged |
      ⟨created, endpoints, factory, call, isCreate, parsed, proceeds, -⟩ |
      ⟨global, appeared⟩ | changes
    · rw [liveCount, unchanged]
      exact atMostOne
    · exact absurd ⟨created, endpoints, factory, call, isCreate, parsed, proceeds⟩ creates
    · rw [liveCount_foreign appeared]
      exact atMostOne
    · exact Nat.le_trans (liveCount_of_changesLink changes identity) atMostOne
  · refine List.forall_mem_append.mpr ⟨unique.2, ?_⟩
    intro effect member
    cases effect with
    | stored identity replaced overwritten =>
        obtain ⟨endpoints, factory, call, isCreate, parsed, proceeds, -⟩ :=
          stored_effect taken member
        exact absurd ⟨identity, endpoints, factory, call, isCreate, parsed, proceeds⟩ creates
    | _ => trivial

/-- A step keeps the links unique exactly when it creates past no unseen link. -/
theorem linksUnique_step_iff (unique : LinksUnique runtime reported)
    (taken : step runtime action = some (next, observed)) :
    LinksUnique next (reported ++ observed) ↔ CreatesSeen runtime action := by
  by_cases creates : Creates runtime action
  · obtain ⟨identity, endpoints, factory, call, rfl, parsed, proceeds⟩ := creates
    simp only [step, parsed, Option.some.injEq] at taken
    rw [executeCreateLink_of_proceeds proceeds, Prod.mk.injEq] at taken
    rw [← taken.1, ← taken.2, createLink_unique_iff unique proceeds]
    simp [CreatesSeen, parsed, proceeds, Except.toOption]
  · refine iff_of_true (linksUnique_step_of_not_creates unique taken creates) ?_
    cases action with
    | createLink identity endpoints factory =>
        intro call parsed proceeds
        cases outcome : parseLinkIdentity identity with
        | error error => simp [outcome, Except.toOption] at parsed
        | ok other =>
            have same : other = call := by
              simpa [outcome, Except.toOption] using parsed
            rw [same] at outcome
            exact absurd ⟨identity, endpoints, factory, call, rfl, outcome, proceeds⟩ creates
    | _ => trivial

theorem linksUnique_initially (runtime : LinkRuntime) (initial : machine.initial runtime) :
    LinksUnique runtime [] := by
  rw [show runtime = new from initial]
  exact ⟨fun identity => by simp [liveCount, new], by simp⟩

/-- Throughout a run there is at most one live link for each identity and no entry
of a live link is overwritten, exactly when every creation that passes the
preflight saw every live link of its identity and of its key. -/
theorem createUniqueness_iff {history : List (Transition LinkRuntime Action Effect)}
    {runtime : LinkRuntime} (run : Run machine history runtime) :
    Always LinksUnique history ↔
      ∀ transition ∈ history, CreatesSeen transition.before transition.action := by
  refine Run.always_iff (fun _ _ => True) CreatesSeen (fun _ => trivial) ?_ ?_ run
  · exact linksUnique_initially
  · intro runtime reported action next observed _ unique taken
    exact linksUnique_step_iff unique taken

/-- The second request comes after the first link is visible, and is answered from
it; after the link is removed and gone, the identity is created again. -/
def createSeen : List Action :=
  [.graphChanged [1, 2] [11, 12],
    .createLink ⟨text "a", text "b"⟩ ⟨1, 11, 2, 12⟩ true,
    .appeared 0 ⟨30, some ⟨⟨1, 11, 2, 12⟩, [], 4⟩, []⟩,
    .createLink ⟨text "a", text "b"⟩ ⟨1, 11, 2, 12⟩ true,
    .removeLink ⟨text "a", text "b"⟩ 30,
    .disappeared 0,
    .createLink ⟨text "a", text "b"⟩ ⟨1, 11, 2, 12⟩ true]

theorem createSeen_unique :
    ∃ history runtime, Run machine history runtime ∧
      liveCount runtime ⟨text "a", text "b"⟩ = 1 ∧ Always LinksUnique history := by
  have run := exec_run createSeen (.start rfl : Run machine [] new) rfl
  exact ⟨_, _, run, by decide, (createUniqueness_iff run).mpr (by decide)⟩

/-- Two requests of one identity, the second before the first link is visible. -/
def createTwice : List Action :=
  [.graphChanged [1, 2] [11, 12, 13],
    .createLink ⟨text "a", text "b"⟩ ⟨1, 11, 2, 12⟩ true,
    .createLink ⟨text "a", text "b"⟩ ⟨1, 13, 2, 12⟩ true]

theorem createTwice_not_unique :
    ∃ history runtime, Run machine history runtime ∧ ¬ Always LinksUnique history := by
  have run := exec_run createTwice (.start rfl : Run machine [] new) rfl
  refine ⟨_, _, run, ?_⟩
  intro always
  have atMostOne := (always.final run linksUnique_initially).1 ⟨text "a", text "b"⟩
  revert atMostOne
  decide

end Uniqueness

end WyrePlumber.Native.LinkUniqueness
