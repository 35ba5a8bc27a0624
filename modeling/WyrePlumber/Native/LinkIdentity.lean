import Mathlib.Data.List.TakeWhile
import WyrePlumber.Native.LinkEffects

/-!
# Isolation between managed identities

An operation naming one identity should leave the ledger entry and the native
link of every other identity alone.  The ledger key joins two strings that may
hold its separator, C reads a Python string up to its first NUL, and links and
entries are matched by endpoints, so isolation needs a condition on each step.
-/

set_option autoImplicit false

namespace WyrePlumber.Native.LinkIdentity

open LabelledMachine KeyedTable Python
open WyrePlumber.Native.ManagedLinks
open WyrePlumber.Native.LinkEffects

section Keys

/-- Neither part is cut by C, and the owner does not hold the separator. -/
structure Separable (identity : Identity) : Prop where
  ownerWhole : 0 ∉ identity.owner
  desiredIdWhole : 0 ∉ identity.desiredId
  separated : 0x1f ∉ identity.owner

theorem parseString_whole {name value : PyString} {cText : CString}
    (whole : 0 ∉ value) (parsed : parseString name value = .ok cText) : cText = value := by
  have untouched : value.takeWhile (fun codePoint => codePoint ≠ 0) = value := by
    rw [List.takeWhile_eq_self_iff]
    intro codePoint member
    have nonzero : codePoint ≠ 0 := by
      rintro rfl
      exact whole member
    simpa using nonzero
  unfold parseString at parsed
  simp only [untouched] at parsed
  split at parsed
  · cases parsed
  · split at parsed
    · cases parsed
    · exact (Except.ok.inj parsed).symm

theorem parseLinkIdentity_whole {identity : Identity} {call : LinkCall}
    (separable : Separable identity) (parsed : parseLinkIdentity identity = .ok call) :
    call.linkOwner = identity.owner ∧ call.linkDesiredId = identity.desiredId := by
  obtain ⟨owner, desiredId, -⟩ := parseLinkIdentity_spec parsed
  exact ⟨parseString_whole separable.ownerWhole owner,
    parseString_whole separable.desiredIdWhole desiredId⟩

/-- The key determines both parts when the owners do not hold the separator. -/
theorem managedLinkKey_injective {owner owner' desiredId desiredId' : CString}
    (separated : 0x1f ∉ owner) (separated' : 0x1f ∉ owner')
    (sameKey : managedLinkKey owner desiredId = managedLinkKey owner' desiredId') :
    owner = owner' ∧ desiredId = desiredId' := by
  induction owner generalizing owner' with
  | nil =>
      cases owner' with
      | nil => exact ⟨rfl, (List.cons.inj sameKey).2⟩
      | cons head rest =>
          have isSeparator : 0x1f = head := (List.cons.inj sameKey).1
          exact absurd (isSeparator ▸ List.mem_cons_self) separated'
  | cons head rest inductionHypothesis =>
      cases owner' with
      | nil =>
          have isSeparator : head = 0x1f := (List.cons.inj sameKey).1
          exact absurd (isSeparator ▸ List.mem_cons_self) separated
      | cons head' rest' =>
          obtain ⟨sameHead, sameRest⟩ := List.cons.inj sameKey
          obtain ⟨sameOwner, sameDesiredId⟩ := inductionHypothesis
            (fun member => separated (List.mem_cons_of_mem _ member))
            (fun member => separated' (List.mem_cons_of_mem _ member)) sameRest
          exact ⟨by rw [sameHead, sameOwner], sameDesiredId⟩

end Keys

section Ledger

/-- An entry is stored under its own key and holds the strings parsed from the
identity that stored it. -/
structure Coherent (key : CString) (spec : WpManagedLinkSpec) : Prop where
  keyed : key = managedLinkKey spec.owner spec.desiredId
  parsed : parseLinkIdentity spec.identity = .ok ⟨spec.owner, spec.desiredId, spec.identity⟩

theorem coherent_managedLinkSpec {identity : Identity} {call : LinkCall}
    (parsed : parseLinkIdentity identity = .ok call) (endpoints : Endpoints) (proxy : Nat) :
    Coherent (managedLinkKey call.linkOwner call.linkDesiredId)
      (managedLinkSpec call endpoints proxy) := by
  obtain ⟨-, -, sameIdentity⟩ := parseLinkIdentity_spec parsed
  exact ⟨rfl, by rw [managedLinkSpec, sameIdentity, parsed, ← sameIdentity]⟩

theorem coherent_of_run {history : List (Transition LinkRuntime Action Effect)}
    {runtime : LinkRuntime} (run : Run machine history runtime) :
    runtime.managedLinks.ForAll Coherent := by
  refine run.invariant (fun runtime _ => runtime.managedLinks.ForAll Coherent) ?_ ?_
  · rintro runtime rfl
    exact Table.forAll_empty
  · intro runtime _ action next observed coherent taken
    refine ledger_forAll_step coherent taken ?_
    intro identity call endpoints factory _ parsed
    exact coherent_managedLinkSpec parsed endpoints _

end Ledger

section Isolation

/-- What the operation did reached no other identity: not the entry it stored
over, not the link it destroyed, and not the entry forgotten when a link it
destroyed disappeared. -/
def IdentityIsolated : Effect → Prop
  | .stored identity replaced _ => ∀ spec ∈ replaced, spec.identity = identity
  | .destroyRequested identity link => ∀ creator ∈ link.creator, creator = identity
  | .forgot link spec => ∀ requester ∈ link.destroyRequests, spec.identity = requester
  | _ => True

instance : DecidablePred IdentityIsolated
  | .stored identity replaced _ =>
      inferInstanceAs (Decidable (∀ spec ∈ replaced, spec.identity = identity))
  | .destroyRequested identity link =>
      inferInstanceAs (Decidable (∀ creator ∈ link.creator, creator = identity))
  | .forgot link spec =>
      inferInstanceAs (Decidable (∀ requester ∈ link.destroyRequests, spec.identity = requester))
  | .raised _ => isTrue trivial
  | .answered _ => isTrue trivial
  | .snapshot _ => isTrue trivial
  | .captureFailed => isTrue trivial

/-- The key that C joins from the parts of an identity it accepts. -/
def keyOf (identity : Identity) : Option CString :=
  (parseLinkIdentity identity).toOption.map fun call =>
    managedLinkKey call.linkOwner call.linkDesiredId

/-- The identity shares its key with no other identity that has an entry. -/
def KeyApart (ledger : Ledger) (identity : Identity) : Prop :=
  ∀ entry ∈ ledger.entries, keyOf entry.2.identity = keyOf identity →
    entry.2.identity = identity

instance (ledger : Ledger) (identity : Identity) : Decidable (KeyApart ledger identity) :=
  inferInstanceAs (Decidable (∀ entry ∈ ledger.entries,
    keyOf entry.2.identity = keyOf identity → entry.2.identity = identity))

/-- No other identity has an entry with the endpoints, nor a link made for them that
has not disappeared. -/
def EndpointsApart (runtime : LinkRuntime) (identity : Identity) (endpoints : Endpoints) :
    Prop :=
  (∀ entry ∈ runtime.managedLinks.entries, entry.2.endpoints = endpoints →
    entry.2.identity = identity) ∧
  ∀ link ∈ runtime.links, link.presence ≠ .removed → link.requested = some endpoints →
    link.creator = some identity

instance (runtime : LinkRuntime) (identity : Identity) (endpoints : Endpoints) :
    Decidable (EndpointsApart runtime identity endpoints) :=
  inferInstanceAs (Decidable (_ ∧ _))

/-- The endpoints that `wp_link_get_linked_object_ids` leaves of a link without info. -/
def noEndpoints : Endpoints := ⟨0, 0, 0, 0⟩

/-- The requests keep keys and endpoints of identities apart, and PipeWire makes of a
requested link one with the requested endpoints, which links never change. -/
def Apart (runtime : LinkRuntime) : Action → Prop
  | .createLink identity endpoints factory =>
      ∀ call ∈ (parseLinkIdentity identity).toOption,
        CreateProceeds runtime call endpoints factory →
          KeyApart runtime.managedLinks identity ∧
            EndpointsApart runtime identity endpoints ∧ endpoints ≠ noEndpoints
  | .removeLink identity linkId =>
      (findLink runtime linkId).isSome = true → KeyApart runtime.managedLinks identity
  | .appeared ref global =>
      ∀ link ∈ linkOf runtime ref, ∀ info ∈ global.info, ∀ wanted ∈ link.requested,
        info.endpoints = wanted
  | .infoChanged ref info =>
      ∀ link ∈ linkOf runtime ref, (∀ wanted ∈ link.requested, info.endpoints = wanted) ∧
        ∀ shown ∈ link.info?, info.endpoints = shown.endpoints
  | _ => True

instance (runtime : LinkRuntime) : DecidablePred (Apart runtime)
  | .createLink identity endpoints factory =>
      inferInstanceAs (Decidable (∀ call ∈ (parseLinkIdentity identity).toOption,
        CreateProceeds runtime call endpoints factory →
          KeyApart runtime.managedLinks identity ∧
            EndpointsApart runtime identity endpoints ∧ endpoints ≠ noEndpoints))
  | .removeLink identity linkId =>
      inferInstanceAs (Decidable
        ((findLink runtime linkId).isSome = true → KeyApart runtime.managedLinks identity))
  | .appeared ref global =>
      inferInstanceAs (Decidable (∀ link ∈ linkOf runtime ref, ∀ info ∈ global.info,
        ∀ wanted ∈ link.requested, info.endpoints = wanted))
  | .infoChanged ref info =>
      inferInstanceAs (Decidable (∀ link ∈ linkOf runtime ref,
        (∀ wanted ∈ link.requested, info.endpoints = wanted) ∧
          ∀ shown ∈ link.info?, info.endpoints = shown.endpoints))
  | .graphChanged _ _ => isTrue trivial
  | .activated _ _ => isTrue trivial
  | .foreignAppeared _ => isTrue trivial
  | .disappeared _ => isTrue trivial
  | .rehashed _ => isTrue trivial
  | .capture => isTrue trivial

/-- What a link has to do with the entries of the ledger, until it disappears. -/
structure LinkApart (ledger : Ledger) (link : WpLink) : Prop where
  shown : ∀ info ∈ link.info?, ∀ wanted ∈ link.requested, info.endpoints = wanted
  wanted : link.creator.isSome = true → link.requested.isSome = true
  entries : ∀ creator ∈ link.creator, ∀ entry ∈ ledger.entries,
    link.requested = some entry.2.endpoints → entry.2.identity = creator
  requests : ∀ requester ∈ link.destroyRequests, ∃ info, link.info? = some info ∧
    ∀ entry ∈ ledger.entries, entry.2.endpoints = info.endpoints → entry.2.identity = requester

/-- Entries lie under their own keys, and behind the endpoints of a link that is
there lie only entries of its identity. -/
structure Separated (runtime : LinkRuntime) : Prop where
  coherent : runtime.managedLinks.ForAll Coherent
  endpoints : ∀ entry ∈ runtime.managedLinks.entries, entry.2.endpoints ≠ noEndpoints
  unshared : ∀ entry ∈ runtime.managedLinks.entries, ∀ other ∈ runtime.managedLinks.entries,
    entry.2.endpoints = other.2.endpoints → entry.2.identity = other.2.identity
  links : ∀ link ∈ runtime.links, link.presence ≠ .removed → LinkApart runtime.managedLinks link

variable {runtime next : LinkRuntime} {action : Action} {observed : List Effect}

/-- The entry under the key of an identity that is apart is its own. -/
theorem own_of_lookup {identity : Identity} {call : LinkCall} {spec : WpManagedLinkSpec}
    (coherent : runtime.managedLinks.ForAll Coherent)
    (apart : KeyApart runtime.managedLinks identity)
    (parsed : parseLinkIdentity identity = .ok call)
    (found : lookupIdentity runtime.managedLinks call.linkOwner call.linkDesiredId = some spec) :
    spec.identity = identity := by
  have entry : Coherent (managedLinkKey call.linkOwner call.linkDesiredId) spec :=
    coherent.of_lookup found
  refine apart _ (Table.lookup_eq_some_iff.mp found) ?_
  have stored : keyOf spec.identity =
      some (managedLinkKey call.linkOwner call.linkDesiredId) := by
    rw [keyOf, entry.parsed, entry.keyed]
    rfl
  rw [stored, keyOf, parsed]
  rfl

/-- The info of a link, or the zeros that stand for it. -/
theorem endpoints_cases (link : WpLink) :
    (∃ info, link.info? = some info ∧ link.endpoints = info.endpoints) ∨
      link.endpoints = noEndpoints := by
  unfold WpLink.info? WpLink.endpoints linkedObjectIds
  cases shown : link.global? with
  | none => exact .inr rfl
  | some global =>
      cases hasInfo : global.info with
      | none => exact .inr (by simp only [hasInfo]; rfl)
      | some info => exact .inl ⟨info, hasInfo, by simp only [hasInfo]⟩

theorem presence_of_global {link : WpLink} {global : LinkGlobal}
    (shown : link.global? = some global) : link.presence ≠ .removed := by
  intro removed
  simp [WpLink.global?, removed] at shown

theorem reached_own (separated : Separated runtime) {identity : Identity} {call : LinkCall}
    {linkId ref : Nat} {link : WpLink} (apart : KeyApart runtime.managedLinks identity)
    (parsed : parseLinkIdentity identity = .ok call)
    (reaches : RemoveReaches runtime call linkId link ref) :
    ∃ info spec, link.info? = some info ∧ spec ∈ runtime.managedLinks.entries ∧
      spec.2.endpoints = info.endpoints ∧ spec.2.identity = identity := by
  obtain ⟨found, owns⟩ := reaches
  unfold ownsLink at owns
  cases stored : lookupIdentity runtime.managedLinks call.linkOwner call.linkDesiredId with
  | none => simp [stored] at owns
  | some spec =>
      have sameEndpoints : spec.endpoints = link.endpoints := by
        simpa [stored, managedLinkEndpointsEqual] using owns
      have inLedger := Table.lookup_eq_some_iff.mp stored
      have own := own_of_lookup separated.coherent apart parsed stored
      rcases endpoints_cases link with ⟨info, hasInfo, isInfo⟩ | zeros
      · exact ⟨info, (_, spec), hasInfo, inLedger, sameEndpoints.trans isInfo, own⟩
      · exact absurd (sameEndpoints.trans zeros) (separated.endpoints _ inLedger)

theorem reached_creator (separated : Separated runtime) {identity : Identity} {call : LinkCall}
    {linkId ref : Nat} {link : WpLink} (apart : KeyApart runtime.managedLinks identity)
    (parsed : parseLinkIdentity identity = .ok call)
    (reaches : RemoveReaches runtime call linkId link ref) :
    ∀ creator ∈ link.creator, creator = identity := by
  intro creator isCreator
  obtain ⟨info, entry, hasInfo, inLedger, sameEndpoints, own⟩ :=
    reached_own separated apart parsed reaches
  have atRef := findLink_mem reaches.1
  have present : link.presence ≠ .removed := by
    intro removed
    simp [WpLink.info?, WpLink.global?, removed] at hasInfo
  have linkApart := separated.links link (mem_of_linkOf atRef) present
  have isSome : link.creator.isSome = true := by rw [isCreator]; rfl
  obtain ⟨wanted, isWanted⟩ := Option.isSome_iff_exists.mp (linkApart.wanted isSome)
  have shown : info.endpoints = wanted := linkApart.shown info hasInfo wanted isWanted
  have same : link.requested = some entry.2.endpoints := by
    rw [isWanted, sameEndpoints, shown]
  rw [← own]
  exact (linkApart.entries creator isCreator entry inLedger same).symm

/-- In a separated state a step that keeps identities apart reaches no other one. -/
theorem isolated_of_separated (separated : Separated runtime) (apart : Apart runtime action)
    (taken : step runtime action = some (next, observed)) :
    ∀ effect ∈ observed, IdentityIsolated effect := by
  intro effect member
  cases effect with
  | stored identity replaced overwritten =>
      obtain ⟨endpoints, factory, call, rfl, parsed, proceeds, -, rfl, -⟩ :=
        stored_effect taken member
      have isCall : call ∈ (parseLinkIdentity identity).toOption := by rw [parsed]; rfl
      intro spec found
      exact own_of_lookup separated.coherent (apart call isCall proceeds).1 parsed found
  | destroyRequested identity link =>
      obtain ⟨linkId, call, ref, rfl, parsed, reaches⟩ := destroyRequested_effect taken member
      have found : (findLink runtime linkId).isSome = true := by rw [reaches.1]; rfl
      exact reached_creator separated (apart found) parsed reaches
  | forgot link spec =>
      obtain ⟨ref, info, rfl, found, hasInfo, forgotten⟩ := forgot_effect taken member
      intro requester asked
      have present : link.presence ≠ .removed := by
        intro removed
        simp [WpLink.info?, WpLink.global?, removed] at hasInfo
      have linkApart := separated.links link (mem_of_linkOf found) present
      obtain ⟨shown, isShown, others⟩ := linkApart.requests requester asked
      rw [hasInfo] at isShown
      cases isShown
      obtain ⟨same, key, inLedger⟩ := Table.find_spec forgotten
      exact others (key, spec) inLedger (by simpa [managedLinkEndpointsEqual] using same)
  | raised | answered | snapshot | captureFailed => trivial

/-- What a creation that proceeds stores, and what its condition says of it. -/
structure Stores (runtime : LinkRuntime) (identity : Identity) (endpoints : Endpoints)
    (entry : CString × WpManagedLinkSpec) : Prop where
  ofIdentity : entry.2.identity = identity
  ofEndpoints : entry.2.endpoints = endpoints
  named : endpoints ≠ noEndpoints
  apart : EndpointsApart runtime identity endpoints
  hidden : ∀ link ∈ runtime.links, ∀ info, link.info? = some info → info.endpoints ≠ endpoints

theorem entry_apart (apart : Apart runtime action)
    (taken : step runtime action = some (next, observed)) {entry : CString × WpManagedLinkSpec}
    (member : entry ∈ next.managedLinks.entries) : entry ∈ runtime.managedLinks.entries ∨
      ∃ identity endpoints factory, action = .createLink identity endpoints factory ∧
        Stores runtime identity endpoints entry := by
  rcases entry_origin taken member with
    old | ⟨identity, call, endpoints, factory, rfl, parsed, proceeds, rfl⟩
  · exact .inl old
  · have isCall : call ∈ (parseLinkIdentity identity).toOption := by rw [parsed]; rfl
    obtain ⟨-, -, sameIdentity⟩ := parseLinkIdentity_spec parsed
    obtain ⟨-, endpointsApart, named⟩ := apart call isCall proceeds
    obtain ⟨-, unseen⟩ := preflight_passed proceeds.preflight
    exact .inr ⟨identity, endpoints, factory, rfl, sameIdentity, rfl, named, endpointsApart,
      fun link isLink => (unseen link isLink).2⟩

theorem LinkApart.step {link : WpLink} (linkApart : LinkApart runtime.managedLinks link)
    (member : link ∈ runtime.links) (present : link.presence ≠ .removed)
    (apart : Apart runtime action) (taken : step runtime action = some (next, observed)) :
    LinkApart next.managedLinks link where
  shown := linkApart.shown
  wanted := linkApart.wanted
  entries creator isCreator entry inLedger requested := by
    rcases entry_apart apart taken inLedger with old | ⟨identity, endpoints, _, -, stores⟩
    · exact linkApart.entries creator isCreator entry old requested
    · rw [stores.ofEndpoints] at requested
      have same := stores.apart.2 link member present requested
      rw [isCreator] at same
      exact stores.ofIdentity.trans (Option.some.inj same).symm
  requests requester asked := by
    obtain ⟨info, hasInfo, others⟩ := linkApart.requests requester asked
    refine ⟨info, hasInfo, ?_⟩
    intro entry inLedger sameEndpoints
    rcases entry_apart apart taken inLedger with old | ⟨identity, endpoints, _, -, stores⟩
    · exact others entry old sameEndpoints
    · have unseen := stores.hidden link member info hasInfo
      exact absurd (sameEndpoints.symm.trans stores.ofEndpoints) unseen

theorem linkApart_step (separated : Separated runtime) (apart : Apart runtime action)
    (taken : step runtime action = some (next, observed)) {after : WpLink}
    (member : after ∈ next.links) (present : after.presence ≠ .removed) :
    LinkApart next.managedLinks after := by
  cases link_origin taken member with
  | kept old => exact (separated.links after old present).step old present apart taken
  | created identity endpoints factory call isCreate parsed proceeds isLink =>
      subst isLink
      refine ⟨by simp [WpLink.info?, WpLink.global?], fun _ => rfl, ?_, by simp⟩
      rintro creator ⟨⟩ entry inLedger requested
      rcases entry_apart apart taken inLedger with old | ⟨_, _, _, isCreate', stores⟩
      · subst isCreate
        have isCall : call ∈ (parseLinkIdentity identity).toOption := by rw [parsed]; rfl
        obtain ⟨-, endpointsApart, -⟩ := apart call isCall proceeds
        exact endpointsApart.1 entry old (Option.some.inj requested).symm
      · rw [isCreate] at isCreate'
        cases isCreate'
        exact stores.ofIdentity
  | foreign global isLink =>
      subst isLink
      exact ⟨by simp, by simp, by simp, by simp⟩
  | activated link activation old isLink =>
      subst isLink
      have before := (separated.links link old present).step old present apart taken
      exact ⟨before.shown, before.wanted, before.entries, before.requests⟩
  | appeared ref global link isAppearance found hidden isLink =>
      subst isAppearance
      subst isLink
      have old := mem_of_linkOf found
      have before := (separated.links link old (by rw [hidden]; simp)).step old
        (by rw [hidden]; simp) apart taken
      refine ⟨apart link found, before.wanted, before.entries, ?_⟩
      -- a link that was not shown has no requests
      intro requester asked
      obtain ⟨info, hasInfo, -⟩ := before.requests requester asked
      simp [WpLink.info?, WpLink.global?, hidden] at hasInfo
  | infoChanged ref info global link isChange found shown isLink =>
      subst isChange
      subst isLink
      have old := mem_of_linkOf found
      have visible := presence_of_global shown
      have before := (separated.links link old visible).step old visible apart taken
      obtain ⟨ofRequest, ofInfo⟩ := apart link found
      refine ⟨?_, before.wanted, before.entries, ?_⟩
      · rintro _ ⟨⟩ wanted isWanted
        exact ofRequest wanted isWanted
      · intro requester asked
        obtain ⟨earlier, hasInfo, others⟩ := before.requests requester asked
        refine ⟨info, rfl, ?_⟩
        rw [ofInfo earlier hasInfo]
        exact others
  | removed link old isLink =>
      subst isLink
      exact absurd rfl present
  | destroyRequested identity linkId call link ref isRemoval parsed reaches isLink =>
      subst isRemoval
      subst isLink
      have old := mem_of_linkOf (findLink_mem reaches.1)
      have before := (separated.links link old present).step old present apart taken
      refine ⟨before.shown, before.wanted, before.entries, ?_⟩
      intro requester asked
      rcases List.mem_append.mp asked with earlier | own
      · exact before.requests requester earlier
      · rw [List.mem_singleton.mp own]
        have found : (findLink runtime linkId).isSome = true := by rw [reaches.1]; rfl
        obtain ⟨info, entry, hasInfo, inLedger, sameEndpoints, isOwn⟩ :=
          reached_own separated (apart found) parsed reaches
        refine ⟨info, hasInfo, ?_⟩
        intro other inNext otherEndpoints
        rcases entry_apart apart taken inNext with kept | ⟨_, _, _, isCreate, -⟩
        · rw [← isOwn]
          exact separated.unshared other kept entry inLedger
            (otherEndpoints.trans sameEndpoints.symm)
        · cases isCreate

theorem Separated.step (separated : Separated runtime) (apart : Apart runtime action)
    (taken : step runtime action = some (next, observed)) : Separated next where
  coherent := by
    refine ledger_forAll_step separated.coherent taken ?_
    intro identity call endpoints factory _ parsed
    exact coherent_managedLinkSpec parsed endpoints _
  endpoints entry inLedger := by
    rcases entry_apart apart taken inLedger with old | ⟨_, _, _, -, stores⟩
    · exact separated.endpoints entry old
    · rw [stores.ofEndpoints]
      exact stores.named
  unshared entry inLedger other otherInLedger sameEndpoints := by
    rcases entry_apart apart taken inLedger with old | ⟨_, _, _, isCreate, stores⟩
    · rcases entry_apart apart taken otherInLedger with otherOld | ⟨_, _, _, -, otherStores⟩
      · exact separated.unshared entry old other otherOld sameEndpoints
      · rw [otherStores.ofIdentity]
        exact otherStores.apart.1 entry old (sameEndpoints.trans otherStores.ofEndpoints)
    · rcases entry_apart apart taken otherInLedger with otherOld | ⟨_, _, _, isSame, otherStores⟩
      · rw [stores.ofIdentity]
        exact (stores.apart.1 other otherOld (sameEndpoints.symm.trans stores.ofEndpoints)).symm
      · rw [isCreate] at isSame
        cases isSame
        rw [stores.ofIdentity, otherStores.ofIdentity]
  links link member present := linkApart_step separated apart taken member present

theorem separated_new : Separated new where
  coherent := Table.forAll_empty
  endpoints := by simp [new]
  unshared := by simp [new]
  links := by simp [new]

/-- In a run that keeps keys and endpoints of different identities apart, no
operation reaches the entry or the link of another identity. -/
theorem identityIsolation_of_run {history : List (Transition LinkRuntime Action Effect)}
    {runtime : LinkRuntime} (run : Run machine history runtime)
    (apart : ∀ transition ∈ history, Apart transition.before transition.action) :
    ∀ effect ∈ log history, IdentityIsolated effect := by
  have throughout := run.invariant_of_allowed
    (fun runtime reported => Separated runtime ∧ ∀ effect ∈ reported, IdentityIsolated effect)
    Apart ?_ ?_ apart
  · exact throughout.2
  · rintro runtime rfl
    exact ⟨separated_new, by simp⟩
  · rintro runtime reported action next observed ⟨separated, earlier⟩ allowed taken
    refine ⟨separated.step allowed taken, ?_⟩
    exact List.forall_mem_append.mpr
      ⟨earlier, isolated_of_separated separated allowed taken⟩

/-- Read on the ledger: an isolated creation keeps every entry of another identity. -/
theorem createLink_keeps_other_entries {identity : Identity} {endpoints : Endpoints}
    {factory : Bool} {entry : CString × WpManagedLinkSpec}
    (taken : step runtime (.createLink identity endpoints factory) = some (next, observed))
    (isolated : ∀ effect ∈ observed, IdentityIsolated effect)
    (member : entry ∈ runtime.managedLinks.entries) (other : entry.2.identity ≠ identity) :
    entry ∈ next.managedLinks.entries := by
  rcases step_ledger taken with unchanged |
    ⟨requested, call, _, _, isCreate, parsed, stored, reported⟩ |
    ⟨ref, forgotten, isRemoval, -⟩ | ⟨order, isRehash, -⟩
  · rw [unchanged]
    exact member
  · obtain ⟨rfl, rfl, rfl⟩ := Action.createLink.inj isCreate
    obtain ⟨-, -, sameIdentity⟩ := parseLinkIdentity_spec parsed
    rw [stored, managedLinkStore, Table.mem_replace_iff]
    refine Or.inr ⟨member, ?_⟩
    intro sameKey
    have found : lookupIdentity runtime.managedLinks call.linkOwner call.linkDesiredId =
        some entry.2 := by
      rw [lookupIdentity, Table.lookup_eq_some_iff, ← sameKey]
      exact member
    have own : entry.2.identity = call.identity := isolated _ reported entry.2 found
    exact other (own.trans sameIdentity)
  · cases isRemoval
  · cases isRehash

end Isolation

section Runs

/-- Two identities with links and entries side by side, each removed in turn. -/
def sideBySide : List Action :=
  [.graphChanged [1, 2] [11, 12, 13, 14],
    .createLink ⟨text "a", text "b"⟩ ⟨1, 11, 2, 12⟩ true,
    .createLink ⟨text "a", text "c"⟩ ⟨1, 13, 2, 14⟩ true,
    .appeared 1 ⟨31, some ⟨⟨1, 13, 2, 14⟩, [], 4⟩, []⟩,
    .appeared 0 ⟨30, some ⟨⟨1, 11, 2, 12⟩, [], 4⟩, []⟩,
    .activated 0 true,
    .removeLink ⟨text "a", text "b"⟩ 30,
    .disappeared 0,
    .removeLink ⟨text "a", text "c"⟩ 31]

def destroyers (reported : List Effect) : List Identity :=
  reported.filterMap fun effect =>
    match effect with
    | .destroyRequested identity _ => some identity
    | _ => none

theorem sideBySide_isolated :
    ∃ history runtime, Run machine history runtime ∧
      destroyers (log history) = [⟨text "a", text "b"⟩, ⟨text "a", text "c"⟩] ∧
      runtime.managedLinks.entries.map (fun entry => entry.2.identity) =
        [⟨text "a", text "c"⟩] ∧
      ∀ effect ∈ log history, IdentityIsolated effect := by
  have run := exec_run sideBySide (.start rfl : Run machine [] new) rfl
  exact ⟨_, _, run, by decide, by decide, identityIsolation_of_run run (by decide)⟩

/-- `("a", "b\x1fc")` and `("a\x1fb", "c")` have one key. -/
def sharedKey : List Action :=
  [.graphChanged [1, 2] [11, 12, 13],
    .createLink ⟨text "a", text "b\x1fc"⟩ ⟨1, 11, 2, 12⟩ true,
    .createLink ⟨text "a\x1fb", text "c"⟩ ⟨1, 13, 2, 12⟩ true]

theorem sharedKey_not_isolated :
    ∃ history runtime, Run machine history runtime ∧
      ¬ ∀ effect ∈ log history, IdentityIsolated effect := by
  have run := exec_run sharedKey (.start rfl : Run machine [] new) rfl
  exact ⟨_, _, run, by decide⟩

end Runs

section Separable

/-- A create that replaces an entry replaces one of its own identity. -/
def StoreIsolated : Effect → Prop
  | .stored identity replaced _ => ∀ spec ∈ replaced, spec.identity = identity
  | _ => True

/-- A creation, if the action is one, names a separable identity. -/
def CreatesSeparable : Action → Prop
  | .createLink identity _ _ => Separable identity
  | _ => True

def SeparablyStored (key : CString) (spec : WpManagedLinkSpec) : Prop :=
  Coherent key spec ∧ Separable spec.identity

variable {runtime next : LinkRuntime} {action : Action} {observed : List Effect}

theorem separablyStored_step (stored : runtime.managedLinks.ForAll SeparablyStored)
    (creates : CreatesSeparable action)
    (taken : step runtime action = some (next, observed)) :
    next.managedLinks.ForAll SeparablyStored := by
  refine ledger_forAll_step stored taken ?_
  rintro identity call endpoints factory rfl parsed
  obtain ⟨-, -, sameIdentity⟩ := parseLinkIdentity_spec parsed
  refine ⟨coherent_managedLinkSpec parsed endpoints _, ?_⟩
  rw [managedLinkSpec, sameIdentity]
  exact creates

/-- Among separable identities keys are not shared. -/
theorem keyApart_of_separable (stored : runtime.managedLinks.ForAll SeparablyStored)
    {identity : Identity} (separable : Separable identity) :
    KeyApart runtime.managedLinks identity := by
  intro entry inLedger sameKey
  obtain ⟨coherent, entrySeparable⟩ := stored entry inLedger
  rw [keyOf, coherent.parsed, keyOf] at sameKey
  cases parsed : parseLinkIdentity identity with
  | error error =>
      rw [parsed] at sameKey
      cases sameKey
  | ok call =>
      rw [parsed] at sameKey
      have keys : managedLinkKey entry.2.owner entry.2.desiredId =
          managedLinkKey call.linkOwner call.linkDesiredId := Option.some.inj sameKey
      obtain ⟨owner, desiredId⟩ := parseLinkIdentity_whole separable parsed
      obtain ⟨entryOwner, entryDesiredId⟩ :=
        parseLinkIdentity_whole entrySeparable coherent.parsed
      dsimp only at entryOwner entryDesiredId
      rw [owner, desiredId, entryOwner, entryDesiredId] at keys
      obtain ⟨sameOwner, sameDesiredId⟩ :=
        managedLinkKey_injective entrySeparable.separated separable.separated keys
      calc entry.2.identity = ⟨entry.2.identity.owner, entry.2.identity.desiredId⟩ := rfl
        _ = ⟨identity.owner, identity.desiredId⟩ := by rw [sameOwner, sameDesiredId]

theorem storeIsolated_step (stored : runtime.managedLinks.ForAll SeparablyStored)
    (creates : CreatesSeparable action)
    (taken : step runtime action = some (next, observed)) :
    ∀ effect ∈ observed, StoreIsolated effect := by
  intro effect member
  cases effect with
  | stored identity replaced overwritten =>
      obtain ⟨endpoints, factory, call, rfl, parsed, -, -, rfl, -⟩ := stored_effect taken member
      intro spec found
      have coherent : runtime.managedLinks.ForAll Coherent :=
        fun entry inLedger => (stored entry inLedger).1
      exact own_of_lookup coherent (keyApart_of_separable stored creates) parsed found
  | _ => trivial

/-- When every creation names a separable identity, no creation replaces the entry
of another identity. -/
theorem storesIsolated_of_separable
    {history : List (Transition LinkRuntime Action Effect)} {runtime : LinkRuntime}
    (run : Run machine history runtime)
    (separable : ∀ transition ∈ history, CreatesSeparable transition.action) :
    ∀ effect ∈ log history, StoreIsolated effect := by
  have throughout := run.invariant_of_allowed
    (fun runtime reported => runtime.managedLinks.ForAll SeparablyStored ∧
      ∀ effect ∈ reported, StoreIsolated effect)
    (fun _ action => CreatesSeparable action) ?_ ?_ separable
  · exact throughout.2
  · rintro runtime rfl
    exact ⟨Table.forAll_empty, by simp⟩
  · rintro runtime reported action next observed ⟨stored, earlier⟩ creates taken
    refine ⟨separablyStored_step stored creates taken, ?_⟩
    exact List.forall_mem_append.mpr ⟨earlier, storeIsolated_step stored creates taken⟩

end Separable

end WyrePlumber.Native.LinkIdentity
