import WyrePlumber.Native.ManagedLinks

/-!
# What a step does to managed links

Each operation that can touch the ledger or a link, by the condition under which
it does.  The isolation, adoption and uniqueness results read steps through these
lemmas and never open the operations.
-/

set_option autoImplicit false

namespace WyrePlumber.Native.LinkEffects

open LabelledMachine KeyedTable Python
open WyrePlumber.Native.Connection (MutationDispatchResult)
open WyrePlumber.Native.ManagedLinks

theorem parseLinkIdentity_spec {identity : Identity} {call : LinkCall}
    (parsed : parseLinkIdentity identity = .ok call) :
    parseString (text "owner") identity.owner = .ok call.linkOwner ∧
      parseString (text "desired_id") identity.desiredId = .ok call.linkDesiredId ∧
      call.identity = identity := by
  unfold parseLinkIdentity at parsed
  split at parsed
  · cases parsed
  · next owner ownerParsed =>
      split at parsed
      · cases parsed
      · next desiredId desiredIdParsed =>
          rw [← Except.ok.inj parsed]
          exact ⟨ownerParsed, desiredIdParsed, rfl⟩

section Create

/-- `execute_create_link` reaches `managed_link_store`. -/
structure CreateProceeds (runtime : LinkRuntime) (call : LinkCall) (endpoints : Endpoints)
    (factory : Bool) : Prop where
  exist : endpointsExist runtime endpoints = true
  preflight : managedLinkPreflight runtime.managedLinks call endpoints runtime.links false =
    .ok false
  made : factory = true

instance (runtime : LinkRuntime) (call : LinkCall) (endpoints : Endpoints) (factory : Bool) :
    Decidable (CreateProceeds runtime call endpoints factory) :=
  decidable_of_iff
    (endpointsExist runtime endpoints = true ∧
      managedLinkPreflight runtime.managedLinks call endpoints runtime.links false =
        .ok false ∧ factory = true)
    ⟨fun ⟨exist, preflight, made⟩ => ⟨exist, preflight, made⟩,
      fun ⟨exist, preflight, made⟩ => ⟨exist, preflight, made⟩⟩

variable {runtime : LinkRuntime} {call : LinkCall} {endpoints : Endpoints} {factory : Bool}

theorem executeCreateLink_of_proceeds
    (proceeds : CreateProceeds runtime call endpoints factory) :
    executeCreateLink runtime call endpoints factory =
      (createLink runtime call endpoints,
        [.stored call.identity
          (lookupIdentity runtime.managedLinks call.linkOwner call.linkDesiredId)
          (overwrittenLink runtime call.linkOwner call.linkDesiredId),
         .answered .ready]) := by
  simp [executeCreateLink, proceeds.exist, proceeds.preflight, proceeds.made]

theorem executeCreateLink_of_stops
    (stops : ¬ CreateProceeds runtime call endpoints factory) :
    ∃ result, executeCreateLink runtime call endpoints factory =
      (runtime, [.answered result]) := by
  unfold executeCreateLink
  by_cases exist : endpointsExist runtime endpoints = true
  · rw [if_pos exist]
    cases preflight : managedLinkPreflight runtime.managedLinks call endpoints
        runtime.links false with
    | error result => exact ⟨result, rfl⟩
    | ok alreadyExists =>
        cases alreadyExists with
        | true => exact ⟨.ready, rfl⟩
        | false =>
            have unmade : factory = false := by
              by_contra made
              exact stops ⟨exist, preflight, by simpa using made⟩
            exact ⟨.nativeRejected, by simp [unmade]⟩
  · rw [if_neg exist]
    exact ⟨.targetNotFound, rfl⟩

/-- The link is visible with info, and the ledger finds its endpoints under the
owner and desired id of the call. -/
def SeenAs (ledger : Ledger) (call : LinkCall) (link : WpLink) : Prop :=
  ∃ info, link.info? = some info ∧ sameIdentity ledger call info.endpoints = true

instance (ledger : Ledger) (call : LinkCall) (link : WpLink) :
    Decidable (SeenAs ledger call link) :=
  decidable_of_iff
    ((link.info?.any fun info => sameIdentity ledger call info.endpoints) = true)
    (by cases shown : link.info? <;> simp [SeenAs, shown])

/-- A preflight that lets the call through saw no link of its identity and none
with its endpoints. -/
theorem preflight_passed {ledger : Ledger} {links : List WpLink} {foundExact : Bool}
    (passed : managedLinkPreflight ledger call endpoints links foundExact = .ok false) :
    foundExact = false ∧ ∀ link ∈ links,
      ¬ SeenAs ledger call link ∧
        ∀ info, link.info? = some info → info.endpoints ≠ endpoints := by
  induction links generalizing foundExact with
  | nil =>
      simp only [managedLinkPreflight, Except.ok.injEq] at passed
      exact ⟨passed, by simp⟩
  | cons link rest inductionHypothesis =>
      rw [managedLinkPreflight] at passed
      cases found : link.info? with
      | none =>
          rw [found] at passed
          obtain ⟨notFound, others⟩ := inductionHypothesis passed
          refine ⟨notFound, List.forall_mem_cons.mpr ⟨?_, others⟩⟩
          refine ⟨?_, by simp [found]⟩
          rintro ⟨info, hasInfo, -⟩
          simp [found] at hasInfo
      | some info =>
          simp only [found] at passed
          by_cases topology : info.endpoints = endpoints
          · subst topology
            cases same : sameIdentity ledger call info.endpoints with
            | true =>
                -- an exact match either conflicts or makes the answer `true`
                cases foundExact with
                | true => simp [same] at passed
                | false =>
                    have passedTrue : managedLinkPreflight ledger call info.endpoints
                        rest true = .ok false := by
                      simpa [same] using passed
                    exact absurd (inductionHypothesis passedTrue).1 (by simp)
            | false => simp [same] at passed
          · cases same : sameIdentity ledger call info.endpoints with
            | true => simp [topology, same] at passed
            | false =>
                have passedRest : managedLinkPreflight ledger call endpoints rest foundExact =
                    .ok false := by
                  simpa [topology, same] using passed
                obtain ⟨notFound, others⟩ := inductionHypothesis passedRest
                refine ⟨notFound, List.forall_mem_cons.mpr ⟨⟨?_, ?_⟩, others⟩⟩
                · rintro ⟨other, hasInfo, isSame⟩
                  rw [found, Option.some.injEq] at hasInfo
                  rw [← hasInfo, same] at isSame
                  exact absurd isSame (by simp)
                · intro other hasInfo
                  rw [found, Option.some.injEq] at hasInfo
                  rwa [← hasInfo]

end Create

section Remove

variable {runtime : LinkRuntime} {call : LinkCall} {linkId : Nat}

/-- `execute_remove_link` reaches `wp_global_proxy_request_destroy` on `link`. -/
def RemoveReaches (runtime : LinkRuntime) (call : LinkCall) (linkId : Nat)
    (link : WpLink) (ref : Nat) : Prop :=
  findLink runtime linkId = some (link, ref) ∧
    ownsLink runtime.managedLinks call link = true

theorem executeRemoveLink_of_reaches {link : WpLink} {ref : Nat}
    (reaches : RemoveReaches runtime call linkId link ref) :
    executeRemoveLink runtime call linkId =
      (requestDestroy runtime call ref,
        [.destroyRequested call.identity link, .answered .ready]) := by
  simp [executeRemoveLink, reaches.1, reaches.2]

theorem executeRemoveLink_of_stops
    (stops : ∀ link ref, ¬ RemoveReaches runtime call linkId link ref) :
    ∃ result, executeRemoveLink runtime call linkId = (runtime, [.answered result]) := by
  unfold executeRemoveLink
  cases found : findLink runtime linkId with
  | none => exact ⟨.ready, rfl⟩
  | some entry =>
      obtain ⟨link, ref⟩ := entry
      have disowned : ¬ ownsLink runtime.managedLinks call link = true :=
        fun owns => stops link ref ⟨found, owns⟩
      exact ⟨.ownershipConflict, if_neg disowned⟩

end Remove

section Disappear

variable {runtime next : LinkRuntime} {ref : Nat} {observed : List Effect}

/-- What `object-removed` forgets: the first entry with the link's endpoints. -/
theorem onLinkRemoved_effects (taken : onLinkRemoved runtime ref = some (next, observed)) :
    ∃ link, linkOf runtime ref = some link ∧
      ((link.info? = none ∧ observed = []) ∨
       (∃ info, link.info? = some info ∧
         ((lookupEndpoints runtime.managedLinks info.endpoints = none ∧ observed = []) ∨
          ∃ spec, lookupEndpoints runtime.managedLinks info.endpoints = some spec ∧
            observed = [.forgot link spec]))) := by
  unfold onLinkRemoved at taken
  cases found : linkOf runtime ref with
  | none => simp [found] at taken
  | some link =>
      cases shown : link.global? with
      | none => simp [found, shown] at taken
      | some global =>
          refine ⟨link, rfl, ?_⟩
          cases hasInfo : global.info with
          | none =>
              simp only [found, shown, hasInfo, Option.bind_eq_bind, Option.bind_some,
                Option.some.injEq, Prod.mk.injEq] at taken
              exact Or.inl ⟨by simp [WpLink.info?, shown, hasInfo], taken.2.symm⟩
          | some info =>
              refine Or.inr ⟨info, by simp [WpLink.info?, shown, hasInfo], ?_⟩
              cases forgotten : lookupEndpoints runtime.managedLinks info.endpoints with
              | none =>
                  simp only [found, shown, hasInfo, forgotten, Option.bind_eq_bind,
                    Option.bind_some, Option.some.injEq, Prod.mk.injEq] at taken
                  exact Or.inl ⟨rfl, taken.2.symm⟩
              | some spec =>
                  simp only [found, shown, hasInfo, forgotten, Option.bind_eq_bind,
                    Option.bind_some, Option.some.injEq, Prod.mk.injEq] at taken
                  exact Or.inr ⟨spec, rfl, taken.2.symm⟩

end Disappear

theorem silent_effects {outcome : Option LinkRuntime} {next : LinkRuntime}
    {observed : List Effect} (taken : silent outcome = some (next, observed)) :
    outcome = some next ∧ observed = [] := by
  rw [silent, Option.map_eq_some_iff] at taken
  obtain ⟨runtime, isNext, same⟩ := taken
  obtain ⟨rfl, rfl⟩ := Prod.mk.inj same
  exact ⟨isNext, rfl⟩

section Ledger

variable {runtime next : LinkRuntime} {action : Action} {observed : List Effect}

theorem onManagedLinkActivated_ledger {ref : Nat} {succeeded : Bool}
    (taken : onManagedLinkActivated runtime ref succeeded = some next) :
    next.managedLinks = runtime.managedLinks := by
  simp only [onManagedLinkActivated, Option.bind_eq_bind, Option.bind_eq_some_iff,
    Option.ite_none_right_eq_some, Option.some.injEq] at taken
  obtain ⟨link, -, -, rfl⟩ := taken
  rfl

theorem linkAppeared_ledger {ref : Nat} {global : LinkGlobal}
    (taken : linkAppeared runtime ref global = some next) :
    next.managedLinks = runtime.managedLinks := by
  simp only [linkAppeared, Option.bind_eq_bind, Option.bind_eq_some_iff,
    Option.ite_none_right_eq_some, Option.some.injEq] at taken
  obtain ⟨link, -, -, rfl⟩ := taken
  rfl

theorem foreignLinkAppeared_ledger {global : LinkGlobal}
    (taken : foreignLinkAppeared runtime global = some next) :
    next.managedLinks = runtime.managedLinks := by
  simp only [foreignLinkAppeared, Option.ite_none_right_eq_some, Option.some.injEq] at taken
  obtain ⟨-, rfl⟩ := taken
  rfl

theorem linkInfoChanged_ledger {ref : Nat} {info : LinkInfo}
    (taken : linkInfoChanged runtime ref info = some next) :
    next.managedLinks = runtime.managedLinks := by
  simp only [linkInfoChanged, Option.bind_eq_bind, Option.bind_eq_some_iff,
    Option.some.injEq] at taken
  obtain ⟨link, -, global, -, rfl⟩ := taken
  rfl

theorem onLinkRemoved_ledger {ref : Nat}
    (taken : onLinkRemoved runtime ref = some (next, observed)) :
    next.managedLinks = runtime.managedLinks ∨
      ∃ endpoints, next.managedLinks = forgetEndpoints runtime.managedLinks endpoints ∧
        ∀ spec, lookupEndpoints runtime.managedLinks endpoints = some spec →
          ∃ link, .forgot link spec ∈ observed := by
  simp only [onLinkRemoved, Option.bind_eq_bind, Option.bind_eq_some_iff] at taken
  obtain ⟨link, -, global, -, outcome⟩ := taken
  cases hasInfo : global.info with
  | none =>
      simp only [hasInfo, Option.some.injEq, Prod.mk.injEq] at outcome
      rw [← outcome.1]
      exact Or.inl rfl
  | some info =>
      simp only [hasInfo, Option.some.injEq, Prod.mk.injEq] at outcome
      rw [← outcome.1, ← outcome.2]
      refine Or.inr ⟨info.endpoints, rfl, ?_⟩
      intro spec found
      exact ⟨link, by simp [found]⟩

/-- The ledger is written by creations, forgotten from by removals, and rehashed;
what it loses is reported. -/
theorem step_ledger (taken : step runtime action = some (next, observed)) :
    next.managedLinks = runtime.managedLinks ∨
    (∃ identity call endpoints factory, action = .createLink identity endpoints factory ∧
      parseLinkIdentity identity = .ok call ∧
      next.managedLinks =
        managedLinkStore runtime.managedLinks call endpoints runtime.links.length ∧
      .stored call.identity
        (lookupIdentity runtime.managedLinks call.linkOwner call.linkDesiredId)
        (overwrittenLink runtime call.linkOwner call.linkDesiredId) ∈ observed) ∨
    (∃ ref endpoints, action = .disappeared ref ∧
      next.managedLinks = forgetEndpoints runtime.managedLinks endpoints ∧
      ∀ spec, lookupEndpoints runtime.managedLinks endpoints = some spec →
        ∃ link, .forgot link spec ∈ observed) ∨
    (∃ order, action = .rehashed order ∧
      runtime.managedLinks.reorder order = some next.managedLinks) := by
  cases action with
  | graphChanged nodes ports =>
      simp only [step, Option.some.injEq, Prod.mk.injEq] at taken
      rw [← taken.1]
      exact Or.inl rfl
  | createLink identity endpoints factory =>
      cases parsed : parseLinkIdentity identity with
      | error error =>
          simp only [step, parsed, Option.some.injEq, Prod.mk.injEq] at taken
          rw [← taken.1]
          exact Or.inl rfl
      | ok call =>
          simp only [step, parsed, Option.some.injEq] at taken
          by_cases proceeds : CreateProceeds runtime call endpoints factory
          · rw [executeCreateLink_of_proceeds proceeds, Prod.mk.injEq] at taken
            rw [← taken.1, ← taken.2]
            exact Or.inr (Or.inl ⟨identity, call, endpoints, factory, rfl, parsed, rfl,
              List.mem_cons_self⟩)
          · obtain ⟨result, stopped⟩ := executeCreateLink_of_stops proceeds
            rw [stopped, Prod.mk.injEq] at taken
            rw [← taken.1]
            exact Or.inl rfl
  | removeLink identity linkId =>
      cases parsed : parseLinkIdentity identity with
      | error error =>
          simp only [step, parsed, Option.some.injEq, Prod.mk.injEq] at taken
          rw [← taken.1]
          exact Or.inl rfl
      | ok call =>
          simp only [step, parsed, Option.some.injEq] at taken
          have unchanged : (executeRemoveLink runtime call linkId).1.managedLinks =
              runtime.managedLinks := by
            unfold executeRemoveLink
            split
            · rfl
            · split <;> rfl
          rw [taken] at unchanged
          exact Or.inl unchanged
  | activated ref succeeded =>
      exact Or.inl (onManagedLinkActivated_ledger (silent_effects taken).1)
  | appeared ref global => exact Or.inl (linkAppeared_ledger (silent_effects taken).1)
  | foreignAppeared global =>
      exact Or.inl (foreignLinkAppeared_ledger (silent_effects taken).1)
  | infoChanged ref info => exact Or.inl (linkInfoChanged_ledger (silent_effects taken).1)
  | disappeared ref =>
      rcases onLinkRemoved_ledger taken with unchanged | ⟨endpoints, forgotten, reported⟩
      · exact Or.inl unchanged
      · exact Or.inr (Or.inr (Or.inl ⟨ref, endpoints, rfl, forgotten, reported⟩))
  | rehashed order =>
      obtain ⟨ledger, reordered, isNext⟩ :=
        Option.map_eq_some_iff.mp (silent_effects taken).1
      have same : ledger = next.managedLinks :=
        congrArg LinkRuntime.managedLinks isNext
      rw [same] at reordered
      exact Or.inr (Or.inr (Or.inr ⟨order, rfl, reordered⟩))
  | capture =>
      simp only [step, Option.some.injEq, Prod.mk.injEq] at taken
      rw [← taken.1]
      exact Or.inl rfl

/-- A property of every ledger entry lasts when every creation stores one that has it. -/
theorem ledger_forAll_step {property : CString → WpManagedLinkSpec → Prop}
    (holds : runtime.managedLinks.ForAll property)
    (taken : step runtime action = some (next, observed))
    (stores : ∀ identity call endpoints factory,
      action = .createLink identity endpoints factory →
        parseLinkIdentity identity = .ok call →
          property (managedLinkKey call.linkOwner call.linkDesiredId)
            (managedLinkSpec call endpoints runtime.links.length)) :
    next.managedLinks.ForAll property := by
  rcases step_ledger taken with unchanged |
    ⟨identity, call, endpoints, factory, isCreate, parsed, stored, -⟩ |
    ⟨-, endpoints, -, forgotten, -⟩ | ⟨order, -, reordered⟩
  · rw [unchanged]
    exact holds
  · rw [stored]
    exact holds.replace (stores identity call endpoints factory isCreate parsed)
  · rw [forgotten]
    exact holds.removeFirst _
  · exact holds.reorder reordered

end Ledger

/-- Every entry that a step loses is reported: it was replaced or forgotten. -/
theorem lost_entry_effect {runtime next : LinkRuntime} {action : Action}
    {observed : List Effect} {entry : CString × WpManagedLinkSpec}
    (taken : step runtime action = some (next, observed))
    (member : entry ∈ runtime.managedLinks.entries)
    (lost : entry ∉ next.managedLinks.entries) :
    (∃ identity overwritten, .stored identity (some entry.2) overwritten ∈ observed) ∨
      ∃ link, .forgot link entry.2 ∈ observed := by
  rcases step_ledger taken with unchanged |
    ⟨identity, call, endpoints, factory, -, -, stored, reported⟩ |
    ⟨-, endpoints, -, forgotten, reported⟩ | ⟨order, -, reordered⟩
  · rw [unchanged] at lost
    exact absurd member lost
  · have sameKey : entry.1 = managedLinkKey call.linkOwner call.linkDesiredId := by
      by_contra other
      rw [stored, managedLinkStore, Table.mem_replace_iff] at lost
      exact lost (Or.inr ⟨member, other⟩)
    have replaced : lookupIdentity runtime.managedLinks call.linkOwner call.linkDesiredId =
        some entry.2 := by
      rw [lookupIdentity, Table.lookup_eq_some_iff, ← sameKey]
      exact member
    rw [replaced] at reported
    exact Or.inl ⟨_, _, reported⟩
  · rw [forgotten] at lost
    exact Or.inr (reported entry.2 (Table.find_of_removed member lost))
  · exact absurd ((Table.reorder_spec reordered entry).mpr member) lost

/-- Answers and captures: effects that reach no entry and no link. -/
def Effect.isPassive : Effect → Bool
  | .raised _ | .answered _ | .snapshot _ | .captureFailed => true
  | .stored .. | .destroyRequested .. | .forgot .. => false

section Observed

variable {runtime next : LinkRuntime} {action : Action} {observed : List Effect}

/-- What a step reports: passive effects, or what one of the three operations that
reach entries and links did. -/
theorem step_observed (taken : step runtime action = some (next, observed)) :
    (∀ effect ∈ observed, Effect.isPassive effect = true) ∨
    (∃ identity endpoints factory call, action = .createLink identity endpoints factory ∧
      parseLinkIdentity identity = .ok call ∧
      CreateProceeds runtime call endpoints factory ∧ observed =
        [.stored identity
          (lookupIdentity runtime.managedLinks call.linkOwner call.linkDesiredId)
          (overwrittenLink runtime call.linkOwner call.linkDesiredId), .answered .ready]) ∨
    (∃ identity linkId call link ref, action = .removeLink identity linkId ∧
      parseLinkIdentity identity = .ok call ∧ RemoveReaches runtime call linkId link ref ∧
      observed = [.destroyRequested identity link, .answered .ready]) ∨
    (∃ ref link info spec, action = .disappeared ref ∧ linkOf runtime ref = some link ∧
      link.info? = some info ∧
      lookupEndpoints runtime.managedLinks info.endpoints = some spec ∧
      observed = [.forgot link spec]) := by
  cases action with
  | createLink identity endpoints factory =>
      cases parsed : parseLinkIdentity identity with
      | error error =>
          simp only [step, parsed, Option.some.injEq, Prod.mk.injEq] at taken
          exact .inl (by simp [← taken.2, Effect.isPassive])
      | ok call =>
          simp only [step, parsed, Option.some.injEq] at taken
          by_cases proceeds : CreateProceeds runtime call endpoints factory
          · rw [executeCreateLink_of_proceeds proceeds, Prod.mk.injEq] at taken
            obtain ⟨-, -, sameIdentity⟩ := parseLinkIdentity_spec parsed
            rw [sameIdentity] at taken
            exact .inr (.inl ⟨identity, endpoints, factory, call, rfl, parsed, proceeds,
              taken.2.symm⟩)
          · obtain ⟨result, stopped⟩ := executeCreateLink_of_stops proceeds
            rw [stopped, Prod.mk.injEq] at taken
            exact .inl (by simp [← taken.2, Effect.isPassive])
  | removeLink identity linkId =>
      cases parsed : parseLinkIdentity identity with
      | error error =>
          simp only [step, parsed, Option.some.injEq, Prod.mk.injEq] at taken
          exact .inl (by simp [← taken.2, Effect.isPassive])
      | ok call =>
          simp only [step, parsed, Option.some.injEq] at taken
          by_cases reached : ∃ link ref, RemoveReaches runtime call linkId link ref
          · obtain ⟨link, ref, reaches⟩ := reached
            rw [executeRemoveLink_of_reaches reaches, Prod.mk.injEq] at taken
            obtain ⟨-, -, sameIdentity⟩ := parseLinkIdentity_spec parsed
            rw [sameIdentity] at taken
            exact .inr (.inr (.inl ⟨identity, linkId, call, link, ref, rfl, parsed, reaches,
              taken.2.symm⟩))
          · obtain ⟨result, stopped⟩ := executeRemoveLink_of_stops
              fun link ref reaches => reached ⟨link, ref, reaches⟩
            rw [stopped, Prod.mk.injEq] at taken
            exact .inl (by simp [← taken.2, Effect.isPassive])
  | disappeared ref =>
      obtain ⟨link, found, ⟨-, rfl⟩ | ⟨info, hasInfo, ⟨-, rfl⟩ | ⟨spec, forgotten, rfl⟩⟩⟩ :=
        onLinkRemoved_effects taken
      · exact .inl (by simp)
      · exact .inl (by simp)
      · exact .inr (.inr (.inr ⟨ref, link, info, spec, rfl, found, hasInfo, forgotten, rfl⟩))
  | graphChanged nodes ports =>
      simp only [step, Option.some.injEq, Prod.mk.injEq] at taken
      exact .inl (by simp [← taken.2])
  | capture =>
      simp only [step, Option.some.injEq, Prod.mk.injEq] at taken
      rw [← taken.2, captureRuntime]
      split
      · exact .inl (by simp [Effect.isPassive])
      · exact .inl (by simp [Effect.isPassive])
  | activated ref succeeded => exact .inl (by simp [(silent_effects taken).2])
  | appeared ref global => exact .inl (by simp [(silent_effects taken).2])
  | foreignAppeared global => exact .inl (by simp [(silent_effects taken).2])
  | infoChanged ref info => exact .inl (by simp [(silent_effects taken).2])
  | rehashed order => exact .inl (by simp [(silent_effects taken).2])

/-- Only a creation that proceeds stores an entry. -/
theorem stored_effect {identity : Identity} {replaced : Option WpManagedLinkSpec}
    {overwritten : Option WpLink} (taken : step runtime action = some (next, observed))
    (stored : .stored identity replaced overwritten ∈ observed) :
    ∃ endpoints factory call, action = .createLink identity endpoints factory ∧
      parseLinkIdentity identity = .ok call ∧
      CreateProceeds runtime call endpoints factory ∧ call.identity = identity ∧
      replaced = lookupIdentity runtime.managedLinks call.linkOwner call.linkDesiredId ∧
      overwritten = overwrittenLink runtime call.linkOwner call.linkDesiredId := by
  rcases step_observed taken with
    passive | ⟨requested, endpoints, factory, call, rfl, parsed, proceeds, rfl⟩ |
      ⟨_, _, _, _, _, -, -, -, rfl⟩ | ⟨_, _, _, _, -, -, -, -, rfl⟩
  · cases passive _ stored
  · simp only [List.mem_cons, Effect.stored.injEq, reduceCtorEq, List.not_mem_nil,
      or_false] at stored
    obtain ⟨rfl, isReplaced, isOverwritten⟩ := stored
    obtain ⟨-, -, ofRequest⟩ := parseLinkIdentity_spec parsed
    exact ⟨endpoints, factory, call, rfl, parsed, proceeds, ofRequest, isReplaced,
      isOverwritten⟩
  · simp at stored
  · simp at stored

/-- Only a removal that reaches a link asks for its destruction. -/
theorem destroyRequested_effect {identity : Identity} {link : WpLink}
    (taken : step runtime action = some (next, observed))
    (asked : .destroyRequested identity link ∈ observed) :
    ∃ linkId call ref, action = .removeLink identity linkId ∧
      parseLinkIdentity identity = .ok call ∧ RemoveReaches runtime call linkId link ref := by
  rcases step_observed taken with
    passive | ⟨_, _, _, _, -, -, -, rfl⟩ | ⟨_, linkId, call, _, ref, rfl, parsed, reaches, rfl⟩ |
      ⟨_, _, _, _, -, -, -, -, rfl⟩
  · cases passive _ asked
  · simp at asked
  · simp only [List.mem_cons, Effect.destroyRequested.injEq, reduceCtorEq, List.not_mem_nil,
      or_false] at asked
    obtain ⟨rfl, rfl⟩ := asked
    exact ⟨linkId, call, ref, rfl, parsed, reaches⟩
  · simp at asked

/-- Only a link that disappears has an entry forgotten, the first with its endpoints. -/
theorem forgot_effect {link : WpLink} {spec : WpManagedLinkSpec}
    (taken : step runtime action = some (next, observed))
    (forgot : .forgot link spec ∈ observed) :
    ∃ ref info, action = .disappeared ref ∧ linkOf runtime ref = some link ∧
      link.info? = some info ∧
      lookupEndpoints runtime.managedLinks info.endpoints = some spec := by
  rcases step_observed taken with
    passive | ⟨_, _, _, _, -, -, -, rfl⟩ | ⟨_, _, _, _, _, -, -, -, rfl⟩ |
      ⟨ref, _, info, _, rfl, found, hasInfo, forgotten, rfl⟩
  · cases passive _ forgot
  · simp at forgot
  · simp at forgot
  · simp only [List.mem_singleton, Effect.forgot.injEq] at forgot
    obtain ⟨rfl, rfl⟩ := forgot
    exact ⟨ref, info, rfl, found, hasInfo, forgotten⟩

end Observed

section Links

/-- The change makes no dead link live and changes no creator. -/
def Weakens (link : WpLink) (change : WpLink → WpLink) : Prop :=
  (change link).creator = link.creator ∧ ((change link).live = true → link.live = true)

variable {runtime next : LinkRuntime} {action : Action} {observed : List Effect}

/-- One link changes, and none becomes live. -/
def ChangesLink (runtime next : LinkRuntime) : Prop :=
  ∃ ref change, next.links = runtime.links.modify ref change ∧
    ∀ link, runtime.links[ref]? = some link → Weakens link change

theorem onManagedLinkActivated_links {ref : Nat} {succeeded : Bool}
    (taken : onManagedLinkActivated runtime ref succeeded = some next) :
    ChangesLink runtime next := by
  simp only [onManagedLinkActivated, Option.bind_eq_bind, Option.bind_eq_some_iff,
    Option.ite_none_right_eq_some, Option.some.injEq] at taken
  obtain ⟨link, found, ⟨pending, -⟩, rfl⟩ := taken
  refine ⟨ref, _, rfl, ?_⟩
  intro other atRef
  have same : link = other := Option.some.inj (found.symm.trans atRef)
  subst same
  refine ⟨rfl, ?_⟩
  simp [WpLink.live, pending]
  tauto

theorem linkAppeared_links {ref : Nat} {global : LinkGlobal}
    (taken : linkAppeared runtime ref global = some next) : ChangesLink runtime next := by
  simp only [linkAppeared, Option.bind_eq_bind, Option.bind_eq_some_iff,
    Option.ite_none_right_eq_some, Option.some.injEq] at taken
  obtain ⟨link, found, ⟨requested, notFailed, -⟩, rfl⟩ := taken
  refine ⟨ref, _, rfl, ?_⟩
  intro other atRef
  have same : link = other := Option.some.inj (found.symm.trans atRef)
  subst same
  exact ⟨rfl, fun _ => by simp [WpLink.live, requested, notFailed]⟩

theorem linkInfoChanged_links {ref : Nat} {info : LinkInfo}
    (taken : linkInfoChanged runtime ref info = some next) : ChangesLink runtime next := by
  simp only [linkInfoChanged, Option.bind_eq_bind, Option.bind_eq_some_iff,
    Option.some.injEq] at taken
  obtain ⟨link, found, global, shown, rfl⟩ := taken
  refine ⟨ref, _, rfl, ?_⟩
  intro other atRef
  have same : link = other := Option.some.inj (found.symm.trans atRef)
  subst same
  have visible : link.presence = .visible global := by
    cases presence : link.presence with
    | visible other => simpa [WpLink.global?, presence] using shown
    | requested => simp [WpLink.global?, presence] at shown
    | removed => simp [WpLink.global?, presence] at shown
  exact ⟨rfl, by simp [WpLink.live, visible]⟩

theorem onLinkRemoved_links {ref : Nat}
    (taken : onLinkRemoved runtime ref = some (next, observed)) :
    ChangesLink runtime next := by
  simp only [onLinkRemoved, Option.bind_eq_bind, Option.bind_eq_some_iff] at taken
  obtain ⟨link, -, global, -, outcome⟩ := taken
  have removed : next.links =
      runtime.links.modify ref fun target => { target with presence := .removed } := by
    cases hasInfo : global.info with
    | none =>
        simp only [hasInfo, Option.some.injEq, Prod.mk.injEq] at outcome
        rw [← outcome.1]
        rfl
    | some info =>
        simp only [hasInfo, Option.some.injEq, Prod.mk.injEq] at outcome
        rw [← outcome.1]
        rfl
  exact ⟨ref, _, removed, fun link _ => ⟨rfl, by simp [WpLink.live]⟩⟩

/-- Links come from creations and from other clients; no other step makes one live. -/
theorem step_links (taken : step runtime action = some (next, observed)) :
    next.links = runtime.links ∨
    (∃ identity endpoints factory call, action = .createLink identity endpoints factory ∧
      parseLinkIdentity identity = .ok call ∧
      CreateProceeds runtime call endpoints factory ∧
      next.links = runtime.links ++ [⟨some identity, some endpoints, .pending, .requested, []⟩]) ∨
    (∃ global, next.links =
      runtime.links ++ [⟨none, none, .finished true, .visible global, []⟩]) ∨
    ChangesLink runtime next := by
  cases action with
  | graphChanged nodes ports =>
      simp only [step, Option.some.injEq, Prod.mk.injEq] at taken
      rw [← taken.1]
      exact Or.inl rfl
  | createLink identity endpoints factory =>
      cases parsed : parseLinkIdentity identity with
      | error error =>
          simp only [step, parsed, Option.some.injEq, Prod.mk.injEq] at taken
          rw [← taken.1]
          exact Or.inl rfl
      | ok call =>
          simp only [step, parsed, Option.some.injEq] at taken
          by_cases proceeds : CreateProceeds runtime call endpoints factory
          · rw [executeCreateLink_of_proceeds proceeds, Prod.mk.injEq] at taken
            obtain ⟨-, -, sameIdentity⟩ := parseLinkIdentity_spec parsed
            rw [← taken.1, createLink, sameIdentity]
            exact Or.inr (Or.inl
              ⟨identity, endpoints, factory, call, rfl, parsed, proceeds, rfl⟩)
          · obtain ⟨result, stopped⟩ := executeCreateLink_of_stops proceeds
            rw [stopped, Prod.mk.injEq] at taken
            rw [← taken.1]
            exact Or.inl rfl
  | removeLink identity linkId =>
      cases parsed : parseLinkIdentity identity with
      | error error =>
          simp only [step, parsed, Option.some.injEq, Prod.mk.injEq] at taken
          rw [← taken.1]
          exact Or.inl rfl
      | ok call =>
          simp only [step, parsed, Option.some.injEq] at taken
          by_cases reached : ∃ link ref, RemoveReaches runtime call linkId link ref
          · obtain ⟨link, ref, reaches⟩ := reached
            rw [executeRemoveLink_of_reaches reaches, Prod.mk.injEq] at taken
            rw [← taken.1]
            exact Or.inr (Or.inr (Or.inr ⟨ref, _, rfl, fun _ _ => ⟨rfl, id⟩⟩))
          · obtain ⟨result, stopped⟩ := executeRemoveLink_of_stops
              fun link ref reaches => reached ⟨link, ref, reaches⟩
            rw [stopped, Prod.mk.injEq] at taken
            rw [← taken.1]
            exact Or.inl rfl
  | activated ref succeeded =>
      exact Or.inr (Or.inr (Or.inr (onManagedLinkActivated_links (silent_effects taken).1)))
  | appeared ref global =>
      exact Or.inr (Or.inr (Or.inr (linkAppeared_links (silent_effects taken).1)))
  | foreignAppeared global =>
      have appeared := (silent_effects taken).1
      simp only [foreignLinkAppeared, Option.ite_none_right_eq_some,
        Option.some.injEq] at appeared
      rw [← appeared.2]
      exact Or.inr (Or.inr (Or.inl ⟨global, rfl⟩))
  | infoChanged ref info =>
      exact Or.inr (Or.inr (Or.inr (linkInfoChanged_links (silent_effects taken).1)))
  | disappeared ref => exact Or.inr (Or.inr (Or.inr (onLinkRemoved_links taken)))
  | rehashed order =>
      obtain ⟨ledger, -, isNext⟩ := Option.map_eq_some_iff.mp (silent_effects taken).1
      rw [← isNext]
      exact Or.inl rfl
  | capture =>
      simp only [step, Option.some.injEq, Prod.mk.injEq] at taken
      rw [← taken.1]
      exact Or.inl rfl

end Links

section Origins

variable {runtime next : LinkRuntime} {action : Action} {observed : List Effect}

theorem mem_modify {α : Type} {change : α → α} {list : List α} {position : Nat} {item : α}
    (member : item ∈ list.modify position change) :
    item ∈ list ∨ ∃ before, list[position]? = some before ∧ item = change before := by
  induction list generalizing position with
  | nil =>
      rw [List.modify_nil] at member
      cases member
  | cons head rest inductionHypothesis =>
      cases position with
      | zero =>
          rw [List.modify_zero_cons] at member
          rcases List.mem_cons.mp member with isHead | inRest
          · exact .inr ⟨head, rfl, isHead⟩
          · exact .inl (List.mem_cons_of_mem _ inRest)
      | succ position =>
          rw [List.modify_succ_cons] at member
          rcases List.mem_cons.mp member with isHead | inRest
          · exact .inl (isHead ▸ List.mem_cons_self)
          · rcases inductionHypothesis inRest with kept | changed
            · exact .inl (List.mem_cons_of_mem _ kept)
            · exact .inr changed

/-- Where a link of the state after a step comes from. -/
inductive LinkOrigin (runtime : LinkRuntime) (action : Action) (after : WpLink) : Prop where
  | kept (member : after ∈ runtime.links)
  | created (identity : Identity) (endpoints : Endpoints) (factory : Bool) (call : LinkCall)
      (isCreate : action = .createLink identity endpoints factory)
      (parsed : parseLinkIdentity identity = .ok call)
      (proceeds : CreateProceeds runtime call endpoints factory)
      (isLink : after = ⟨some identity, some endpoints, .pending, .requested, []⟩)
  | foreign (global : LinkGlobal) (isLink : after = ⟨none, none, .finished true, .visible global, []⟩)
  | activated (link : WpLink) (activation : Activation) (member : link ∈ runtime.links)
      (isLink : after = { link with activation := activation })
  | appeared (ref : Nat) (global : LinkGlobal) (link : WpLink)
      (isAppearance : action = .appeared ref global) (found : linkOf runtime ref = some link)
      (hidden : link.presence = .requested)
      (isLink : after = { link with presence := .visible global })
  | infoChanged (ref : Nat) (info : LinkInfo) (global : LinkGlobal) (link : WpLink)
      (isChange : action = .infoChanged ref info) (found : linkOf runtime ref = some link)
      (shown : link.global? = some global)
      (isLink : after = { link with presence := .visible { global with info := some info } })
  | removed (link : WpLink) (member : link ∈ runtime.links)
      (isLink : after = { link with presence := .removed })
  | destroyRequested (identity : Identity) (linkId : Nat) (call : LinkCall) (link : WpLink)
      (ref : Nat) (isRemoval : action = .removeLink identity linkId)
      (parsed : parseLinkIdentity identity = .ok call)
      (reaches : RemoveReaches runtime call linkId link ref)
      (isLink : after = { link with destroyRequests := link.destroyRequests ++ [identity] })

theorem mem_of_linkOf {ref : Nat} {link : WpLink} (found : linkOf runtime ref = some link) :
    link ∈ runtime.links :=
  List.mem_of_getElem? found

theorem findLink_mem {linkId ref : Nat} {link : WpLink}
    (found : findLink runtime linkId = some (link, ref)) : linkOf runtime ref = some link :=
  List.mem_zipIdx_iff_getElem?.mp (List.mem_of_find?_eq_some found)

theorem link_origin (taken : step runtime action = some (next, observed)) {after : WpLink}
    (member : after ∈ next.links) : LinkOrigin runtime action after := by
  cases action with
  | graphChanged nodes ports =>
      simp only [step, Option.some.injEq, Prod.mk.injEq] at taken
      rw [← taken.1] at member
      exact .kept member
  | createLink identity endpoints factory =>
      cases parsed : parseLinkIdentity identity with
      | error error =>
          simp only [step, parsed, Option.some.injEq, Prod.mk.injEq] at taken
          rw [← taken.1] at member
          exact .kept member
      | ok call =>
          simp only [step, parsed, Option.some.injEq] at taken
          by_cases proceeds : CreateProceeds runtime call endpoints factory
          · rw [executeCreateLink_of_proceeds proceeds, Prod.mk.injEq] at taken
            obtain ⟨-, -, sameIdentity⟩ := parseLinkIdentity_spec parsed
            rw [← taken.1, createLink, sameIdentity] at member
            rcases List.mem_append.mp member with old | new
            · exact .kept old
            · exact .created identity endpoints factory call rfl parsed proceeds
                (List.mem_singleton.mp new)
          · obtain ⟨result, stopped⟩ := executeCreateLink_of_stops proceeds
            rw [stopped, Prod.mk.injEq] at taken
            rw [← taken.1] at member
            exact .kept member
  | removeLink identity linkId =>
      cases parsed : parseLinkIdentity identity with
      | error error =>
          simp only [step, parsed, Option.some.injEq, Prod.mk.injEq] at taken
          rw [← taken.1] at member
          exact .kept member
      | ok call =>
          simp only [step, parsed, Option.some.injEq] at taken
          by_cases reached : ∃ link ref, RemoveReaches runtime call linkId link ref
          · obtain ⟨link, ref, reaches⟩ := reached
            rw [executeRemoveLink_of_reaches reaches, Prod.mk.injEq] at taken
            obtain ⟨-, -, sameIdentity⟩ := parseLinkIdentity_spec parsed
            rw [← taken.1] at member
            rcases mem_modify member with old | ⟨before, atRef, changed⟩
            · exact .kept old
            · have same : link = before :=
                Option.some.inj ((findLink_mem reaches.1).symm.trans atRef)
              rw [← same, sameIdentity] at changed
              exact .destroyRequested identity linkId call link ref rfl parsed reaches changed
          · obtain ⟨result, stopped⟩ := executeRemoveLink_of_stops
              fun link ref reaches => reached ⟨link, ref, reaches⟩
            rw [stopped, Prod.mk.injEq] at taken
            rw [← taken.1] at member
            exact .kept member
  | activated ref succeeded =>
      have activated := (silent_effects taken).1
      simp only [onManagedLinkActivated, Option.bind_eq_bind, Option.bind_eq_some_iff,
        Option.ite_none_right_eq_some, Option.some.injEq] at activated
      obtain ⟨link, found, -, rfl⟩ := activated
      rcases mem_modify member with old | ⟨before, atRef, changed⟩
      · exact .kept old
      · exact .activated before _ (List.mem_of_getElem? atRef) changed
  | appeared ref global =>
      have appeared := (silent_effects taken).1
      simp only [linkAppeared, Option.bind_eq_bind, Option.bind_eq_some_iff,
        Option.ite_none_right_eq_some, Option.some.injEq] at appeared
      obtain ⟨link, found, ⟨hidden, -⟩, rfl⟩ := appeared
      rcases mem_modify member with old | ⟨before, atRef, changed⟩
      · exact .kept old
      · have same : link = before := Option.some.inj (found.symm.trans atRef)
        rw [← same] at changed
        exact .appeared ref global link rfl found hidden changed
  | foreignAppeared global =>
      have appeared := (silent_effects taken).1
      simp only [foreignLinkAppeared, Option.ite_none_right_eq_some,
        Option.some.injEq] at appeared
      rw [← appeared.2] at member
      rcases List.mem_append.mp member with old | new
      · exact .kept old
      · exact .foreign global (List.mem_singleton.mp new)
  | infoChanged ref info =>
      have changed := (silent_effects taken).1
      simp only [linkInfoChanged, Option.bind_eq_bind, Option.bind_eq_some_iff,
        Option.some.injEq] at changed
      obtain ⟨link, found, global, shown, rfl⟩ := changed
      rcases mem_modify member with old | ⟨before, atRef, updated⟩
      · exact .kept old
      · have same : link = before := Option.some.inj (found.symm.trans atRef)
        rw [← same] at updated
        exact .infoChanged ref info global link rfl found shown updated
  | disappeared ref =>
      simp only [step, onLinkRemoved, Option.bind_eq_bind, Option.bind_eq_some_iff] at taken
      obtain ⟨link, -, global, -, outcome⟩ := taken
      have links : next.links =
          runtime.links.modify ref fun target => { target with presence := .removed } := by
        cases hasInfo : global.info with
        | none =>
            simp only [hasInfo, Option.some.injEq, Prod.mk.injEq] at outcome
            rw [← outcome.1]
            rfl
        | some info =>
            simp only [hasInfo, Option.some.injEq, Prod.mk.injEq] at outcome
            rw [← outcome.1]
            rfl
      rw [links] at member
      rcases mem_modify member with old | ⟨before, atRef, changed⟩
      · exact .kept old
      · exact .removed before (List.mem_of_getElem? atRef) changed
  | rehashed order =>
      obtain ⟨ledger, -, isNext⟩ := Option.map_eq_some_iff.mp (silent_effects taken).1
      rw [← isNext] at member
      exact .kept member
  | capture =>
      simp only [step, Option.some.injEq, Prod.mk.injEq] at taken
      rw [← taken.1] at member
      exact .kept member

/-- An entry of the ledger after a step was there or is the one a creation stores. -/
theorem entry_origin (taken : step runtime action = some (next, observed))
    {entry : CString × WpManagedLinkSpec} (member : entry ∈ next.managedLinks.entries) :
    entry ∈ runtime.managedLinks.entries ∨
      ∃ identity call endpoints factory, action = .createLink identity endpoints factory ∧
        parseLinkIdentity identity = .ok call ∧
        CreateProceeds runtime call endpoints factory ∧
        entry = (managedLinkKey call.linkOwner call.linkDesiredId,
          managedLinkSpec call endpoints runtime.links.length) := by
  rcases step_ledger taken with unchanged |
    ⟨identity, call, endpoints, factory, isCreate, parsed, stored, reported⟩ |
    ⟨-, endpoints, -, forgotten, -⟩ | ⟨order, -, reordered⟩
  · rw [unchanged] at member
    exact .inl member
  · rw [stored, managedLinkStore, Table.mem_replace_iff] at member
    rcases member with isNew | ⟨old, -⟩
    · obtain ⟨endpoints', factory', call', isAction, parsed', proceeds, -⟩ :=
        stored_effect taken reported
      obtain ⟨-, -, sameIdentity⟩ := parseLinkIdentity_spec parsed
      rw [isCreate, sameIdentity] at isAction
      obtain ⟨-, rfl, rfl⟩ := Action.createLink.inj isAction
      rw [sameIdentity, parsed] at parsed'
      cases parsed'
      exact .inr ⟨identity, call, endpoints, factory, isCreate, parsed, proceeds, isNew⟩
    · exact .inl old
  · rw [forgotten] at member
    exact .inl (Table.mem_of_mem_removeFirst member)
  · exact .inl ((Table.reorder_spec reordered entry).mp member)

end Origins

end WyrePlumber.Native.LinkEffects
