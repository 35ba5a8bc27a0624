import WyrePlumber.Native.LinkEffects

/-!
# Foreign links

A link this connection did not create should never be reported with an owner and
a desired id, and never be destroyed.  A capture reads the markers from the
link's own properties and from the ledger entry with its endpoints, and a removal
compares endpoints, so both hold of a foreign link only under a condition.
-/

set_option autoImplicit false

namespace WyrePlumber.Native.LinkAdoption

open LabelledMachine KeyedTable Python
open WyrePlumber.Native.ManagedLinks
open WyrePlumber.Native.LinkEffects

section Properties

def Readable (properties : WpProperties) : Prop :=
  ∀ property ∈ properties, property.1.isSome = true ∧ property.2.isSome = true

instance (properties : WpProperties) : Decidable (Readable properties) :=
  inferInstanceAs (Decidable
    (∀ property ∈ properties, property.1.isSome = true ∧ property.2.isSome = true))

def Names (properties : WpProperties) (key : PyString) : Prop :=
  some key ∈ properties.map Prod.fst

instance (properties : WpProperties) (key : PyString) : Decidable (Names properties key) :=
  inferInstanceAs (Decidable (some key ∈ properties.map Prod.fst))

theorem lookup_replace_isSome (result : PyProperties) (name value key : PyString) :
    ((result.replace name value).lookup key).isSome = true ↔
      key = name ∨ (result.lookup key).isSome = true := by
  by_cases same : key = name
  · simp [same]
  · simp [Table.lookup_replace_of_ne value same, same]

/-- A merge succeeds on readable properties and adds their names. -/
theorem mergeProperties_spec (result : PyProperties) (properties : WpProperties) :
    (¬ Readable properties ∧ mergeProperties result properties = none) ∨
      (Readable properties ∧ ∃ merged, mergeProperties result properties = some merged ∧
        ∀ key, (merged.lookup key).isSome = true ↔
          (result.lookup key).isSome = true ∨ Names properties key) := by
  induction properties generalizing result with
  | nil => exact Or.inr ⟨by simp [Readable], result, rfl, by simp [Names]⟩
  | cons property rest inductionHypothesis =>
      obtain ⟨name, value⟩ := property
      cases name with
      | none => exact Or.inl ⟨by simp [Readable], by simp [mergeProperties]⟩
      | some name =>
          cases value with
          | none => exact Or.inl ⟨by simp [Readable], by simp [mergeProperties]⟩
          | some value =>
              rcases inductionHypothesis (result.replace name value) with
                ⟨unreadable, failed⟩ | ⟨readable, merged, succeeded, names⟩
              · refine Or.inl ⟨?_, failed⟩
                intro readable
                exact unreadable (List.forall_mem_cons.mp readable).2
              · refine Or.inr ⟨List.forall_mem_cons.mpr ⟨by simp, readable⟩, merged,
                  succeeded, ?_⟩
                intro key
                rw [names key, lookup_replace_isSome]
                simp only [Names, List.map_cons, List.mem_cons, Option.some.injEq]
                grind

/-- The properties a link shows, its own and then its global ones. -/
def shownProperties (global : LinkGlobal) (info : LinkInfo) : WpProperties :=
  info.properties ++ global.globalProperties

/-- The link has this marker: from the ledger, or among the properties it shows. -/
def Marked (ledger : Ledger) (global : LinkGlobal) (info : LinkInfo)
    (marker : PyString) : Prop :=
  (lookupEndpoints ledger info.endpoints).isSome = true ∨
    Names (shownProperties global info) marker

theorem readable_append {properties later : WpProperties} :
    Readable (properties ++ later) ↔ Readable properties ∧ Readable later :=
  List.forall_mem_append

theorem names_append {properties later : WpProperties} {key : PyString} :
    Names (properties ++ later) key ↔ Names properties key ∨ Names later key := by
  simp only [Names, List.map_append, List.mem_append]

/-- A readable link is reported with a marker exactly when it is marked. -/
theorem linkProperties_spec (ledger : Ledger) (global : LinkGlobal) (info : LinkInfo) :
    (¬ Readable (shownProperties global info) ∧
      linkProperties ledger global info = none) ∨
    (Readable (shownProperties global info) ∧
      ∃ properties, linkProperties ledger global info = some properties ∧
        ((properties.lookup ownerProperty).isSome = true ↔
          Marked ledger global info ownerProperty) ∧
        ((properties.lookup desiredIdProperty).isSome = true ↔
          Marked ledger global info desiredIdProperty)) := by
  rw [shownProperties, readable_append, linkProperties, copyProperties]
  rcases mergeProperties_spec .empty info.properties with
    ⟨unreadable, failed⟩ | ⟨readable, copied, succeeded, ownNames⟩
  · exact Or.inl ⟨fun both => unreadable both.1, by simp [failed]⟩
  · rcases mergeProperties_spec copied global.globalProperties with
      ⟨unreadable, failed⟩ | ⟨globalReadable, merged, mergedAll, names⟩
    · exact Or.inl ⟨fun both => unreadable both.2, by simp [succeeded, failed]⟩
    · have shown (key : PyString) : (merged.lookup key).isSome = true ↔
          Names (shownProperties global info) key := by
        rw [names key, ownNames key, shownProperties, names_append]
        simp
      refine Or.inr ⟨⟨readable, globalReadable⟩, ?_⟩
      cases found : lookupEndpoints ledger info.endpoints with
      | none =>
          exact ⟨merged, by simp [succeeded, mergedAll], by simp [Marked, found, shown],
            by simp [Marked, found, shown]⟩
      | some managed =>
          refine ⟨(merged.replace ownerProperty managed.owner).replace desiredIdProperty
            managed.desiredId, by simp [succeeded, mergedAll], ?_, by simp [Marked, found]⟩
          rw [lookup_replace_isSome, lookup_replace_isSome]
          simp [Marked, found]

end Properties

section Captures

def LinkReadable (link : WpLink) : Prop :=
  ∀ global ∈ link.global?, ∀ info ∈ global.info, Readable (shownProperties global info)

instance (link : WpLink) : Decidable (LinkReadable link) :=
  inferInstanceAs (Decidable
    (∀ global ∈ link.global?, ∀ info ∈ global.info, Readable (shownProperties global info)))

/-- No ledger entry has the link's endpoints, and the link does not show both
markers. -/
def Unclaimed (ledger : Ledger) (link : WpLink) : Prop :=
  ∀ global ∈ link.global?, ∀ info ∈ global.info,
    lookupEndpoints ledger info.endpoints = none ∧
      ¬ (Names (shownProperties global info) ownerProperty ∧
        Names (shownProperties global info) desiredIdProperty)

instance (ledger : Ledger) (link : WpLink) : Decidable (Unclaimed ledger link) :=
  inferInstanceAs (Decidable (∀ global ∈ link.global?, ∀ info ∈ global.info,
    lookupEndpoints ledger info.endpoints = none ∧
      ¬ (Names (shownProperties global info) ownerProperty ∧
        Names (shownProperties global info) desiredIdProperty)))

/-- A foreign link is not reported with an owner and a desired id. -/
def ReportedUnowned (entry : WpLink × LinkValue) : Prop :=
  entry.1.creator = none → ¬ (entry.2.owner.isSome = true ∧ entry.2.desiredId.isSome = true)

instance (entry : WpLink × LinkValue) : Decidable (ReportedUnowned entry) :=
  inferInstanceAs (Decidable (entry.1.creator = none →
    ¬ (entry.2.owner.isSome = true ∧ entry.2.desiredId.isSome = true)))

/-- A link lacks one of the markers exactly when it is unclaimed. -/
theorem unclaimed_iff {ledger : Ledger} {link : WpLink} {global : LinkGlobal}
    {info : LinkInfo} (shown : link.global? = some global)
    (hasInfo : global.info = some info) :
    Unclaimed ledger link ↔
      ¬ (Marked ledger global info ownerProperty ∧
        Marked ledger global info desiredIdProperty) := by
  have alone : Unclaimed ledger link ↔ lookupEndpoints ledger info.endpoints = none ∧
      ¬ (Names (shownProperties global info) ownerProperty ∧
        Names (shownProperties global info) desiredIdProperty) := by
    simp [Unclaimed, shown, hasInfo]
  rw [alone, Marked, Marked]
  cases lookupEndpoints ledger info.endpoints with
  | none => simp
  | some spec => simp

theorem captureLinks_spec (ledger : Ledger) (links : List WpLink) :
    (¬ (∀ link ∈ links, LinkReadable link) ∧ captureLinks ledger links = none) ∨
    ((∀ link ∈ links, LinkReadable link) ∧
      ∃ reported, captureLinks ledger links = some reported ∧
        ((∀ entry ∈ reported, ReportedUnowned entry) ↔
          ∀ link ∈ links, link.creator = none → Unclaimed ledger link)) := by
  induction links with
  | nil => exact Or.inr ⟨by simp, [], rfl, by simp⟩
  | cons link rest inductionHypothesis =>
      rw [List.forall_mem_cons, List.forall_mem_cons, captureLinks]
      cases shown : link.global? with
      | none =>
          have readable : LinkReadable link := by simp [LinkReadable, shown]
          have unclaimed : Unclaimed ledger link := by simp [Unclaimed, shown]
          simpa [readable, unclaimed] using inductionHypothesis
      | some global =>
          cases hasInfo : global.info with
          | none =>
              have readable : LinkReadable link := by simp [LinkReadable, shown, hasInfo]
              have unclaimed : Unclaimed ledger link := by simp [Unclaimed, shown, hasInfo]
              simpa [hasInfo, readable, unclaimed] using inductionHypothesis
          | some info =>
              have readableIff : LinkReadable link ↔
                  Readable (shownProperties global info) := by
                simp [LinkReadable, shown, hasInfo]
              rw [readableIff]
              rcases linkProperties_spec ledger global info with
                ⟨unreadable, failed⟩ | ⟨readable, properties, copied, owner, desiredId⟩
              · refine Or.inl ⟨fun both => unreadable both.1, ?_⟩
                simp [hasInfo, appendLink, failed]
              · rcases inductionHypothesis with
                  ⟨unreadable, failed⟩ | ⟨restReadable, reported, captured, unowned⟩
                · refine Or.inl ⟨fun both => unreadable both.2, ?_⟩
                  simp [hasInfo, appendLink, copied, failed]
                · refine Or.inr ⟨⟨readable, restReadable⟩,
                    (link, linkValue ⟨global.boundId, properties, info.endpoints,
                      info.state⟩) :: reported,
                    by simp [hasInfo, appendLink, copied, captured], ?_⟩
                  rw [List.forall_mem_cons, unowned]
                  refine and_congr_left fun _ => imp_congr_right fun _ => ?_
                  rw [unclaimed_iff shown hasInfo, linkValue, owner, desiredId]

end Captures

section Adoption

/-- The effect reports no foreign link as owned and destroys none. -/
def NotAdopted : Effect → Prop
  | .destroyRequested _ link => link.creator ≠ none
  | .snapshot links => ∀ entry ∈ links, ReportedUnowned entry
  | _ => True

instance : DecidablePred NotAdopted
  | .destroyRequested _ link => inferInstanceAs (Decidable (link.creator ≠ none))
  | .snapshot links => inferInstanceAs (Decidable (∀ entry ∈ links, ReportedUnowned entry))
  | .raised _ => isTrue trivial
  | .answered _ => isTrue trivial
  | .stored _ _ _ => isTrue trivial
  | .forgot _ _ => isTrue trivial
  | .captureFailed => isTrue trivial

/-- The link the request reaches, if any, was created by this connection. -/
def LinkIsManaged (runtime : LinkRuntime) (linkId : Nat) (call : LinkCall) : Prop :=
  ∀ entry ∈ findLink runtime linkId, ownsLink runtime.managedLinks call entry.1 = true →
    entry.1.creator ≠ none

instance (runtime : LinkRuntime) (linkId : Nat) (call : LinkCall) :
    Decidable (LinkIsManaged runtime linkId call) :=
  inferInstanceAs (Decidable
    (∀ entry ∈ findLink runtime linkId, ownsLink runtime.managedLinks call entry.1 = true →
      entry.1.creator ≠ none))

/-- Every foreign link is unclaimed, unless the capture fails. -/
def ForeignUnclaimed (runtime : LinkRuntime) : Prop :=
  (∀ link ∈ runtime.links, LinkReadable link) →
    ∀ link ∈ runtime.links, link.creator = none → Unclaimed runtime.managedLinks link

instance (runtime : LinkRuntime) : Decidable (ForeignUnclaimed runtime) :=
  inferInstanceAs (Decidable ((∀ link ∈ runtime.links, LinkReadable link) →
    ∀ link ∈ runtime.links, link.creator = none → Unclaimed runtime.managedLinks link))

/-- The step removes only a link of this connection and captures only unclaimed
foreign links. -/
def LeavesForeign (runtime : LinkRuntime) : Action → Prop
  | .removeLink identity linkId =>
      ∀ call ∈ (parseLinkIdentity identity).toOption, LinkIsManaged runtime linkId call
  | .capture => ForeignUnclaimed runtime
  | _ => True

instance (runtime : LinkRuntime) : DecidablePred (LeavesForeign runtime)
  | .removeLink identity linkId =>
      inferInstanceAs (Decidable
        (∀ call ∈ (parseLinkIdentity identity).toOption, LinkIsManaged runtime linkId call))
  | .capture => inferInstanceAs (Decidable (ForeignUnclaimed runtime))
  | .graphChanged _ _ => isTrue trivial
  | .createLink _ _ _ => isTrue trivial
  | .activated _ _ => isTrue trivial
  | .appeared _ _ => isTrue trivial
  | .foreignAppeared _ => isTrue trivial
  | .infoChanged _ _ => isTrue trivial
  | .disappeared _ => isTrue trivial
  | .rehashed _ => isTrue trivial

variable {runtime next : LinkRuntime} {observed : List Effect}

theorem capture_notAdopted_iff (runtime : LinkRuntime) :
    (∀ effect ∈ captureRuntime runtime, NotAdopted effect) ↔ ForeignUnclaimed runtime := by
  unfold captureRuntime ForeignUnclaimed
  rcases captureLinks_spec runtime.managedLinks runtime.links with
    ⟨unreadable, failed⟩ | ⟨readable, reported, captured, unowned⟩
  · rw [failed]
    simp [NotAdopted, unreadable]
  · rw [captured, List.forall_mem_singleton, NotAdopted, unowned]
    exact ⟨fun unclaimed _ => unclaimed, fun unclaimed => unclaimed readable⟩

theorem removeLink_notAdopted_iff {identity : Identity} {linkId : Nat}
    (taken : step runtime (.removeLink identity linkId) = some (next, observed)) :
    (∀ effect ∈ observed, NotAdopted effect) ↔
      LeavesForeign runtime (.removeLink identity linkId) := by
  cases parsed : parseLinkIdentity identity with
  | error error =>
      simp only [step, parsed, Option.some.injEq, Prod.mk.injEq] at taken
      rw [← taken.2]
      simp [NotAdopted, LeavesForeign, parsed, Except.toOption]
  | ok call =>
      simp only [step, parsed, Option.some.injEq] at taken
      by_cases reached : ∃ link ref, RemoveReaches runtime call linkId link ref
      · obtain ⟨link, ref, reaches⟩ := reached
        rw [executeRemoveLink_of_reaches reaches, Prod.mk.injEq] at taken
        rw [← taken.2]
        simp [NotAdopted, LeavesForeign, LinkIsManaged, parsed, reaches.1, reaches.2,
          Except.toOption]
      · have managed : LinkIsManaged runtime linkId call := by
          intro entry found owns
          exact absurd ⟨entry.1, entry.2, found, owns⟩ reached
        obtain ⟨result, stopped⟩ := executeRemoveLink_of_stops
          fun link ref reaches => reached ⟨link, ref, reaches⟩
        rw [stopped, Prod.mk.injEq] at taken
        rw [← taken.2]
        simp [NotAdopted, LeavesForeign, parsed, managed, Except.toOption]

/-- A step adopts no foreign link exactly when it leaves them alone. -/
theorem step_notAdopted_iff {action : Action}
    (taken : step runtime action = some (next, observed)) :
    (∀ effect ∈ observed, NotAdopted effect) ↔ LeavesForeign runtime action := by
  cases action with
  | removeLink identity linkId => exact removeLink_notAdopted_iff taken
  | capture =>
      simp only [step, Option.some.injEq, Prod.mk.injEq] at taken
      rw [← taken.2]
      exact capture_notAdopted_iff runtime
  | createLink identity endpoints factory =>
      cases parsed : parseLinkIdentity identity with
      | error error =>
          simp only [step, parsed, Option.some.injEq, Prod.mk.injEq] at taken
          simp [← taken.2, NotAdopted, LeavesForeign]
      | ok call =>
          simp only [step, parsed, Option.some.injEq] at taken
          by_cases proceeds : CreateProceeds runtime call endpoints factory
          · rw [executeCreateLink_of_proceeds proceeds, Prod.mk.injEq] at taken
            simp [← taken.2, NotAdopted, LeavesForeign]
          · obtain ⟨result, stopped⟩ := executeCreateLink_of_stops proceeds
            rw [stopped, Prod.mk.injEq] at taken
            simp [← taken.2, NotAdopted, LeavesForeign]
  | disappeared ref =>
      obtain ⟨link, -, ⟨-, rfl⟩ | ⟨info, -, ⟨-, rfl⟩ | ⟨spec, -, rfl⟩⟩⟩ :=
        onLinkRemoved_effects taken
      · simp [LeavesForeign]
      · simp [LeavesForeign]
      · simp [NotAdopted, LeavesForeign]
  | graphChanged nodes ports =>
      simp only [step, Option.some.injEq, Prod.mk.injEq] at taken
      simp [← taken.2, LeavesForeign]
  | activated ref succeeded => simp [(silent_effects taken).2, LeavesForeign]
  | appeared ref global => simp [(silent_effects taken).2, LeavesForeign]
  | foreignAppeared global => simp [(silent_effects taken).2, LeavesForeign]
  | infoChanged ref info => simp [(silent_effects taken).2, LeavesForeign]
  | rehashed order => simp [(silent_effects taken).2, LeavesForeign]

/-- A run adopts no foreign link exactly when its removals reach none and its
captures see none that shows both markers or has the endpoints of an entry. -/
theorem noAdoption_iff {history : List (Transition LinkRuntime Action Effect)}
    {runtime : LinkRuntime} (run : Run machine history runtime) :
    (∀ effect ∈ log history, NotAdopted effect) ↔
      ∀ transition ∈ history, LeavesForeign transition.before transition.action :=
  run.log_iff LeavesForeign fun _ _ _ _ taken => step_notAdopted_iff taken

/-- A managed link and a foreign one that shows only an owner, captured together
before the managed one is removed. -/
def besideForeign : List Action :=
  [.graphChanged [1, 2] [11, 12, 13],
    .foreignAppeared ⟨20, some ⟨⟨1, 13, 2, 12⟩,
      [(some (text "open-cinema.owner"), some (text "a"))], 4⟩, []⟩,
    .createLink ⟨text "a", text "b"⟩ ⟨1, 11, 2, 12⟩ true,
    .appeared 1 ⟨30, some ⟨⟨1, 11, 2, 12⟩, [], 4⟩, []⟩,
    .capture,
    .removeLink ⟨text "a", text "b"⟩ 30]

theorem besideForeign_notAdopted :
    ∃ history runtime, Run machine history runtime ∧
      (∃ identity link, .destroyRequested identity link ∈ log history) ∧
      ∀ effect ∈ log history, NotAdopted effect := by
  have run := exec_run besideForeign (.start rfl : Run machine [] new) rfl
  exact ⟨_, _, run,
    ⟨⟨text "a", text "b"⟩,
      ⟨some ⟨text "a", text "b"⟩, some ⟨1, 11, 2, 12⟩, .pending,
        .visible ⟨30, some ⟨⟨1, 11, 2, 12⟩, [], 4⟩, []⟩, []⟩, by decide⟩,
    (noAdoption_iff run).mpr (by decide)⟩

/-- Another client's link carries both markers in its own properties. -/
def foreignMarkers : List Action :=
  [.foreignAppeared ⟨20, some ⟨⟨1, 11, 2, 12⟩,
      [(some (text "open-cinema.owner"), some (text "a")),
        (some (text "open-cinema.desired-id"), some (text "b"))], 4⟩, []⟩,
    .capture]

theorem foreignMarkers_adopted :
    ∃ history runtime, Run machine history runtime ∧
      ¬ ∀ effect ∈ log history, NotAdopted effect := by
  have run := exec_run foreignMarkers (.start rfl : Run machine [] new) rfl
  exact ⟨_, _, run, by decide⟩

end Adoption

end WyrePlumber.Native.LinkAdoption
