import WyrePlumber.Library.KeyedTable
import WyrePlumber.Library.Machine
import WyrePlumber.Library.Python
import WyrePlumber.Native.Connection

/-!
# Managed links

The ledger `conn->managed_links` of one connection generation and the links the
object manager shows, as a labelled machine.  The labels are the mutations the
dispatcher executes, the asynchronous outcomes of link activation, what the
object manager adds and removes, and captures.  They carry what the environment
chooses: whether the factory makes a link, what a link's info says, and the
order in which the hash table is walked.

A link is created by this connection or is foreign.  The creator, and who asked
for a link's destruction, are kept beside the link and beside its ledger entry;
no operation of the source reads them.
-/

set_option autoImplicit false

namespace WyrePlumber.Native.ManagedLinks

open LabelledMachine KeyedTable Python
open WyrePlumber.Native.Connection (MutationDispatchResult)

/-- A NUL-terminated UTF-8 string by the code points it encodes. -/
abbrev CString := List Nat

inductive PyError where
  | unicodeEncodeError
  | valueError (message : PyString)
  deriving DecidableEq, Repr

/-- `PyUnicode_AsUTF8` fails on a lone surrogate; `g_strdup` stops at the first NUL. -/
def parseString (name value : PyString) : Except PyError CString :=
  if value.any isSurrogate then .error .unicodeEncodeError
  else
    let cText := value.takeWhile (fun codePoint => codePoint ≠ 0)
    if cText.isEmpty then .error (.valueError (name ++ text " must not be empty"))
    else .ok cText

def managedLinkKey (owner desiredId : CString) : CString := owner ++ 0x1f :: desiredId

structure Identity where
  owner : PyString
  desiredId : PyString
  deriving DecidableEq, Repr

structure Endpoints where
  outputNode : Nat
  outputPort : Nat
  inputNode : Nat
  inputPort : Nat
  deriving DecidableEq, Repr

/-- What `parse_link_identity` leaves in the call, and the identity it parsed. -/
structure LinkCall where
  linkOwner : CString
  linkDesiredId : CString
  identity : Identity
  deriving DecidableEq, Repr

def parseLinkIdentity (identity : Identity) : Except PyError LinkCall :=
  match parseString (text "owner") identity.owner with
  | .error error => .error error
  | .ok owner =>
      match parseString (text "desired_id") identity.desiredId with
      | .error error => .error error
      | .ok desiredId => .ok ⟨owner, desiredId, identity⟩

/-- A ledger entry.  `proxy` is the position in `links` of the link it retains. -/
structure WpManagedLinkSpec where
  owner : CString
  desiredId : CString
  proxy : Nat
  endpoints : Endpoints
  identity : Identity
  deriving DecidableEq, Repr

abbrev Ledger := Table CString WpManagedLinkSpec

/-- PipeWire properties in iteration order; `none` is text that is not UTF-8. -/
abbrev WpProperties := List (Option PyString × Option PyString)

structure LinkInfo where
  endpoints : Endpoints
  properties : WpProperties
  state : Int
  deriving DecidableEq, Repr

/-- A link as the object manager shows it; `info` is absent until the INFO
feature is active. -/
structure LinkGlobal where
  boundId : Nat
  info : Option LinkInfo
  globalProperties : WpProperties
  deriving DecidableEq, Repr

inductive Presence where
  | requested
  | visible (global : LinkGlobal)
  | removed
  deriving DecidableEq, Repr

inductive Activation where
  | pending
  | finished (succeeded : Bool)
  deriving DecidableEq, Repr

/-- A native link.  `creator` is the identity whose `execute_create_link` made it and
`requested` the endpoints it was made for, both absent for a foreign link. -/
structure WpLink where
  creator : Option Identity
  requested : Option Endpoints
  activation : Activation
  presence : Presence
  destroyRequests : List Identity
  deriving DecidableEq, Repr

/-- The parts of one connection generation that managed links live in.  A link
keeps its position in `links`, which stands for its address. -/
structure LinkRuntime where
  nodes : List Nat
  ports : List Nat
  links : List WpLink
  managedLinks : Ledger
  deriving DecidableEq

/-- `managed_links_reset` and a fresh object manager. -/
def new : LinkRuntime := ⟨[], [], [], .empty⟩

/-- A link exists natively from its creation until its activation fails or it
disappears. -/
def WpLink.live (link : WpLink) : Bool :=
  link.presence ≠ .removed && link.activation ≠ .finished false

def WpLink.global? (link : WpLink) : Option LinkGlobal :=
  match link.presence with
  | .visible global => some global
  | _ => none

def WpLink.info? (link : WpLink) : Option LinkInfo :=
  link.global?.bind LinkGlobal.info

/-- `wp_link_get_linked_object_ids` writes nothing when there is no info. -/
def linkedObjectIds (global : LinkGlobal) : Endpoints :=
  match global.info with
  | some info => info.endpoints
  | none => ⟨0, 0, 0, 0⟩

section Ledger

def lookupIdentity (ledger : Ledger) (owner desiredId : CString) :
    Option WpManagedLinkSpec :=
  ledger.lookup (managedLinkKey owner desiredId)

def managedLinkEndpointsEqual (endpoints : Endpoints) (spec : WpManagedLinkSpec) : Bool :=
  spec.endpoints = endpoints

def lookupEndpoints (ledger : Ledger) (endpoints : Endpoints) : Option WpManagedLinkSpec :=
  ledger.find (managedLinkEndpointsEqual endpoints)

def forgetEndpoints (ledger : Ledger) (endpoints : Endpoints) : Ledger :=
  ledger.removeFirst (managedLinkEndpointsEqual endpoints)

def managedLinkSpec (call : LinkCall) (endpoints : Endpoints) (proxy : Nat) :
    WpManagedLinkSpec where
  owner := call.linkOwner
  desiredId := call.linkDesiredId
  proxy := proxy
  endpoints := endpoints
  identity := call.identity

def managedLinkStore (ledger : Ledger) (call : LinkCall) (endpoints : Endpoints)
    (proxy : Nat) : Ledger :=
  ledger.replace (managedLinkKey call.linkOwner call.linkDesiredId)
    (managedLinkSpec call endpoints proxy)

end Ledger

section Capture

/-- A properties payload; setting a key again replaces its value. -/
abbrev PyProperties := Table PyString PyString

/-- `PyUnicode_FromString` refuses text that is not UTF-8. -/
def mergeProperties (result : PyProperties) : WpProperties → Option PyProperties
  | [] => some result
  | (some key, some value) :: rest => mergeProperties (result.replace key value) rest
  | _ :: _ => none

def copyProperties (properties : WpProperties) : Option PyProperties :=
  mergeProperties .empty properties

def ownerProperty : PyString := text "open-cinema.owner"

def desiredIdProperty : PyString := text "open-cinema.desired-id"

structure LinkRecord where
  id : Nat
  properties : PyProperties
  endpoints : Endpoints
  state : Int
  deriving DecidableEq

/-- The properties of `append_link`: the link's own, then the global ones over
them, then the ledger's markers over both. -/
def linkProperties (ledger : Ledger) (global : LinkGlobal) (info : LinkInfo) :
    Option PyProperties := do
  let copied ← copyProperties info.properties
  let merged ← mergeProperties copied global.globalProperties
  match lookupEndpoints ledger info.endpoints with
  | some managed =>
      some ((merged.replace ownerProperty managed.owner).replace
        desiredIdProperty managed.desiredId)
  | none => some merged

def linkState (raw : Int) : String :=
  if raw = -2 then "error"
  else if raw = -1 then "unlinked"
  else if raw = 0 then "init"
  else if raw = 1 then "negotiating"
  else if raw = 2 then "allocating"
  else if raw = 3 then "paused"
  else if raw = 4 then "active"
  else "unknown:" ++ toString raw

structure LinkValue where
  id : Nat
  endpoints : Endpoints
  state : String
  owner : Option PyString
  desiredId : Option PyString
  properties : PyProperties
  deriving DecidableEq

def appendLink (ledger : Ledger) (global : LinkGlobal) (info : LinkInfo) :
    Option LinkRecord :=
  (linkProperties ledger global info).map fun properties =>
    ⟨global.boundId, properties, info.endpoints, info.state⟩

def linkValue (record : LinkRecord) : LinkValue where
  id := record.id
  endpoints := record.endpoints
  state := linkState record.state
  owner := record.properties.lookup ownerProperty
  desiredId := record.properties.lookup desiredIdProperty
  properties := record.properties

/-- The links of a snapshot, each with the native link it was read from.  One
text that is not UTF-8 fails the whole capture. -/
def captureLinks (ledger : Ledger) : List WpLink → Option (List (WpLink × LinkValue))
  | [] => some []
  | link :: rest =>
      match link.global? with
      | none => captureLinks ledger rest
      | some global =>
          match global.info with
          | none => captureLinks ledger rest
          | some info => do
              let record ← appendLink ledger global info
              let later ← captureLinks ledger rest
              some ((link, linkValue record) :: later)

end Capture

/-- What a step does that callers, or other parties, can observe. -/
inductive Effect where
  | raised (error : PyError)
  | answered (result : MutationDispatchResult)
  | stored (identity : Identity) (replaced : Option WpManagedLinkSpec)
      (overwritten : Option WpLink)
  | destroyRequested (identity : Identity) (link : WpLink)
  | forgot (link : WpLink) (spec : WpManagedLinkSpec)
  | snapshot (links : List (WpLink × LinkValue))
  | captureFailed
  deriving DecidableEq

section Execute

/-- `same_identity` of the preflight, for a link with these endpoints. -/
def sameIdentity (ledger : Ledger) (call : LinkCall) (endpoints : Endpoints) : Bool :=
  match lookupEndpoints ledger endpoints with
  | some spec => spec.owner = call.linkOwner && spec.desiredId = call.linkDesiredId
  | none => false

/-- Walks the links with info; answers whether exactly the requested link was found. -/
def managedLinkPreflight (ledger : Ledger) (call : LinkCall) (endpoints : Endpoints) :
    List WpLink → Bool → Except MutationDispatchResult Bool
  | [], foundExact => .ok foundExact
  | link :: rest, foundExact =>
      match link.info? with
      | none => managedLinkPreflight ledger call endpoints rest foundExact
      | some info =>
          let sameTopology := decide (info.endpoints = endpoints)
          let same := sameIdentity ledger call info.endpoints
          if sameTopology && same then
            if foundExact then .error .ownershipConflict
            else managedLinkPreflight ledger call endpoints rest true
          else if sameTopology || same then .error .ownershipConflict
          else managedLinkPreflight ledger call endpoints rest foundExact

def endpointsExist (runtime : LinkRuntime) (endpoints : Endpoints) : Bool :=
  endpoints.outputNode ∈ runtime.nodes && endpoints.outputPort ∈ runtime.ports &&
    endpoints.inputNode ∈ runtime.nodes && endpoints.inputPort ∈ runtime.ports

def linkOf (runtime : LinkRuntime) (ref : Nat) : Option WpLink := runtime.links[ref]?

/-- The live link whose entry a store under the key replaces. -/
def overwrittenLink (runtime : LinkRuntime) (owner desiredId : CString) : Option WpLink :=
  ((lookupIdentity runtime.managedLinks owner desiredId).bind fun spec =>
    linkOf runtime spec.proxy).filter WpLink.live

/-- `managed_link_store` and `wp_object_activate` on a link the factory made. -/
def createLink (runtime : LinkRuntime) (call : LinkCall) (endpoints : Endpoints) :
    LinkRuntime :=
  let ref := runtime.links.length
  { runtime with
    links := runtime.links ++ [⟨some call.identity, some endpoints, .pending, .requested, []⟩]
    managedLinks := managedLinkStore runtime.managedLinks call endpoints ref }

/-- `factory` is whether `wp_link_new_from_factory` returns a link. -/
def executeCreateLink (runtime : LinkRuntime) (call : LinkCall) (endpoints : Endpoints)
    (factory : Bool) : LinkRuntime × List Effect :=
  if endpointsExist runtime endpoints then
    match managedLinkPreflight runtime.managedLinks call endpoints runtime.links false with
    | .error result => (runtime, [.answered result])
    | .ok true => (runtime, [.answered .ready])
    | .ok false =>
        if factory then
          (createLink runtime call endpoints,
            [.stored call.identity
              (lookupIdentity runtime.managedLinks call.linkOwner call.linkDesiredId)
              (overwrittenLink runtime call.linkOwner call.linkDesiredId),
             .answered .ready])
        else (runtime, [.answered .nativeRejected])
  else (runtime, [.answered .targetNotFound])

def WpLink.hasBoundId (linkId : Nat) (link : WpLink) : Bool :=
  match link.global? with
  | some global => global.boundId = linkId
  | none => false

/-- `find_pipewire_object` for a link, with the link's position. -/
def findLink (runtime : LinkRuntime) (linkId : Nat) : Option (WpLink × Nat) :=
  runtime.links.zipIdx.find? fun entry => entry.1.hasBoundId linkId

def updateLink (runtime : LinkRuntime) (ref : Nat) (change : WpLink → WpLink) :
    LinkRuntime :=
  { runtime with links := runtime.links.modify ref change }

def WpLink.endpoints (link : WpLink) : Endpoints :=
  match link.global? with
  | some global => linkedObjectIds global
  | none => ⟨0, 0, 0, 0⟩

/-- The check before `wp_global_proxy_request_destroy`. -/
def ownsLink (ledger : Ledger) (call : LinkCall) (link : WpLink) : Bool :=
  match lookupIdentity ledger call.linkOwner call.linkDesiredId with
  | some spec => managedLinkEndpointsEqual link.endpoints spec
  | none => false

def requestDestroy (runtime : LinkRuntime) (call : LinkCall) (ref : Nat) : LinkRuntime :=
  updateLink runtime ref fun target =>
    { target with destroyRequests := target.destroyRequests ++ [call.identity] }

def executeRemoveLink (runtime : LinkRuntime) (call : LinkCall) (linkId : Nat) :
    LinkRuntime × List Effect :=
  match findLink runtime linkId with
  | none => (runtime, [.answered .ready])
  | some (link, ref) =>
      if ownsLink runtime.managedLinks call link then
        (requestDestroy runtime call ref,
          [.destroyRequested call.identity link, .answered .ready])
      else (runtime, [.answered .ownershipConflict])

end Execute

section Environment

/-- No visible link has the bound id already. -/
def boundIdFree (runtime : LinkRuntime) (boundId : Nat) : Bool :=
  (findLink runtime boundId).isNone

/-- `on_managed_link_activated` only logs a failure.  A link that is visible did
not fail to be created. -/
def onManagedLinkActivated (runtime : LinkRuntime) (ref : Nat) (succeeded : Bool) :
    Option LinkRuntime := do
  let link ← linkOf runtime ref
  if link.activation = .pending ∧ (succeeded ∨ link.global?.isNone) then
    some (updateLink runtime ref fun target =>
      { target with activation := .finished succeeded })
  else none

def linkAppeared (runtime : LinkRuntime) (ref : Nat) (global : LinkGlobal) :
    Option LinkRuntime := do
  let link ← linkOf runtime ref
  if link.presence = .requested ∧ link.activation ≠ .finished false ∧
      boundIdFree runtime global.boundId then
    some (updateLink runtime ref fun target => { target with presence := .visible global })
  else none

def foreignLinkAppeared (runtime : LinkRuntime) (global : LinkGlobal) :
    Option LinkRuntime :=
  if boundIdFree runtime global.boundId then
    some { runtime with
      links := runtime.links ++ [⟨none, none, .finished true, .visible global, []⟩] }
  else none

def linkInfoChanged (runtime : LinkRuntime) (ref : Nat) (info : LinkInfo) :
    Option LinkRuntime := do
  let link ← linkOf runtime ref
  let global ← link.global?
  some (updateLink runtime ref fun target =>
    { target with presence := .visible { global with info := some info } })

/-- `runtime_events_on_object_removed` for a link. -/
def onLinkRemoved (runtime : LinkRuntime) (ref : Nat) :
    Option (LinkRuntime × List Effect) := do
  let link ← linkOf runtime ref
  let global ← link.global?
  let gone := updateLink runtime ref fun target => { target with presence := .removed }
  match global.info with
  | none => some (gone, [])
  | some info =>
      some ({ gone with managedLinks := forgetEndpoints runtime.managedLinks info.endpoints },
        match lookupEndpoints runtime.managedLinks info.endpoints with
        | some spec => [.forgot link spec]
        | none => [])

end Environment

inductive Action where
  | graphChanged (nodes ports : List Nat)
  | createLink (identity : Identity) (endpoints : Endpoints) (factory : Bool)
  | removeLink (identity : Identity) (linkId : Nat)
  | activated (ref : Nat) (succeeded : Bool)
  | appeared (ref : Nat) (global : LinkGlobal)
  | foreignAppeared (global : LinkGlobal)
  | infoChanged (ref : Nat) (info : LinkInfo)
  | disappeared (ref : Nat)
  | rehashed (order : List (CString × WpManagedLinkSpec))
  | capture
  deriving DecidableEq, Repr

def silent (next : Option LinkRuntime) : Option (LinkRuntime × List Effect) :=
  next.map fun runtime => (runtime, [])

def captureRuntime (runtime : LinkRuntime) : List Effect :=
  match captureLinks runtime.managedLinks runtime.links with
  | some links => [.snapshot links]
  | none => [.captureFailed]

def step (runtime : LinkRuntime) : Action → Option (LinkRuntime × List Effect)
  | .graphChanged nodes ports => some ({ runtime with nodes := nodes, ports := ports }, [])
  | .createLink identity endpoints factory =>
      match parseLinkIdentity identity with
      | .error error => some (runtime, [.raised error])
      | .ok call => some (executeCreateLink runtime call endpoints factory)
  | .removeLink identity linkId =>
      match parseLinkIdentity identity with
      | .error error => some (runtime, [.raised error])
      | .ok call => some (executeRemoveLink runtime call linkId)
  | .activated ref succeeded => silent (onManagedLinkActivated runtime ref succeeded)
  | .appeared ref global => silent (linkAppeared runtime ref global)
  | .foreignAppeared global => silent (foreignLinkAppeared runtime global)
  | .infoChanged ref info => silent (linkInfoChanged runtime ref info)
  | .disappeared ref => onLinkRemoved runtime ref
  | .rehashed order =>
      silent ((runtime.managedLinks.reorder order).map fun ledger =>
        { runtime with managedLinks := ledger })
  | .capture => some (runtime, captureRuntime runtime)

def machine : Machine LinkRuntime Action Effect where
  initial := fun runtime => runtime = new
  step := step

end WyrePlumber.Native.ManagedLinks
