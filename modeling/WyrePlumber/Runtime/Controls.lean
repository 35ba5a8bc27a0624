import WyrePlumber.Runtime.Execution
import WyrePlumber.Spa.Build

/-!
# The control helpers

What the helpers of `controls.py` do around `_execute_confirmed_mutation`: the
checks of their arguments, the request with its default predicates, and, for
those that look at the runtime first, the checks of the preflight snapshot.
An error of a helper before its first capture is an error of the call; what is
raised later ends its execution.
-/

set_option autoImplicit false
set_option linter.constructorNameAsVariable false

namespace WyrePlumber.Runtime

open Python Calendar

section Requests

/-- What a helper raises before its first capture: an error of the contract, or one of
the builder of pods. -/
inductive CallError where
  | python (error : PyError)
  | pod (error : Spa.SpaError)

def fromPython {Value : Type} (result : Except PyError Value) : Except CallError Value :=
  result.mapError .python

/-- The keyword arguments that every helper hands on, with the identity that
`uuid4` makes up when none is given. -/
structure CallArguments where
  expectedGeneration : PyValue
  expectedSequence : PyValue
  timeout : PyValue
  requestId : PyValue
  uuid : PyString

def timeoutValue (timeout : PyValue) : Except PyError Binary64 :=
  match toFloat? timeout with
  | none => .error (.typeError (plain "timeout must be a number"))
  | some converted => do
      let seconds ← converted
      if seconds.isFinite && !seconds.lt Binary64.zero then .ok seconds
      else .error (.valueError (plain "timeout must be finite and non-negative"))

/-- The microseconds of `timedelta(seconds=...)` for a number that is not negative:
the whole seconds exactly, the product of the fraction with a million rounded as a
double and then to an integer. -/
def timedeltaMicroseconds (seconds : Binary64) : Nat :=
  let size := seconds.units.natAbs
  let product := Binary64.ofUnits? (size % 2 ^ 1074 * 1000000 : Nat)
  let leftover := (product.map fun number => number.units.natAbs).getD 0
  size / 2 ^ 1074 * 1000000 + Binary64.divideHalfEven leftover (2 ^ 1074)

def deadlineAfter (requested : DateTime) (seconds : Binary64) : Except PyError DateTime :=
  match addMicroseconds requested (timedeltaMicroseconds seconds) with
  | some deadline => .ok deadline
  | none => .error (.overflowError (plain "date value out of range"))

def requestIdentity (call : CallArguments) : PyValue :=
  match call.requestId with
  | .none | .str [] => .str call.uuid
  | given => given

/-- `MutationRequest.create` at a reading of the clock. -/
def createRequest (now : DateTime) (call : CallArguments) (operation : MutationOperation)
    (target : PyValue) (payload : List (PyString × PyValue)) (predicates : List PyValue) :
    Except PyError PyValue := do
  let seconds ← timeoutValue call.timeout
  let requested ← parseTimestamp (.datetime now)
  let deadline ← deadlineAfter requested seconds
  construct .mutationRequest
    [(.requestId, requestIdentity call), (.expectedGeneration, call.expectedGeneration),
      (.expectedSequence, call.expectedSequence), (.operation, .member operation),
      (.target, target), (.requestedAt, .datetime requested), (.deadlineAt, .datetime deadline),
      (.payload, .dict payload), (.confirmationPredicates, .tuple predicates)]

def mutationTarget (kind : RuntimeObjectKind) (objectId : PyValue)
    (selector : List (PyString × PyValue)) : Except PyError PyValue :=
  construct .mutationTarget
    [(.objectKind, .member kind), (.objectId, objectId), (.selector, .dict selector)]

def equalsPredicate (target : PyValue) (path : List PyValue) (expected : PyValue) :
    Except PyError PyValue :=
  construct .confirmationPredicate
    [(.target, target), (.operator, .member ConfirmationOperator.equals), (.path, .tuple path),
      (.expected, expected)]

def pipewireIdentifier (name : String) (value : PyValue) : Except PyError Int := do
  let result ← identifier (text name) value
  if 0xFFFFFFFF < result then
    .error (.valueError (about (text name) " exceeds the PipeWire ID range"))
  else .ok result

def float32 (value : Binary64) : Except PyError Binary64 :=
  match value.toSingle? with
  | some single => .ok single
  | none => .error (.overflowError (plain "float too large to pack with f format"))

end Requests

section Preflight

/-- The first capture of a helper that looks at the runtime itself. -/
def withPreflight (inputs : Inputs) (next : PyValue → Option Execution) : Option Execution :=
  match inputs.captures 0 with
  | .raised exception => some ⟨[], [], [], .raised .capture exception⟩
  | .runtimeError message => some ⟨[], [], [], .raised .capture (.runtimeError message)⟩
  | .snapshot snapshot => next snapshot

def preflightIsStale (request snapshot : PyValue) : Bool :=
  !(snapshot.get .generation).eq (request.get .expectedGeneration) ||
    staleSequenceOf request snapshot

def selectionFailure (code : MutationFailureCode) (message : Option PyString)
    (details : List (PyString × PyValue)) : Failure :=
  ⟨.rejected, .precondition, code, message, false, details⟩

/-- A helper ends without dispatch after its preflight. -/
def endsWith (snapshot : PyValue) (result : Result) : Option Execution :=
  some ⟨[snapshot], [], [], result⟩

def raises (snapshot : PyValue) (error : PyError) : Option Execution :=
  endsWith snapshot (.raised .observation (.python error))

/-- The common path after a preflight of the helper; the clock was read once. -/
def executeAfter (inputs : Inputs) (fuel : Nat) (request snapshot : PyValue) : Option Execution :=
  execute inputs fuel request (some snapshot) 1 1

end Preflight

section Shown

def hexDigits : Nat → Nat → PyString
  | 0, _ => []
  | width + 1, number => hexDigits width (number / 16) ++ [hexDigit (number % 16)]

/-- A code point inside the `repr` of a string between the given quotes. -/
def reprEscape (isPrintable : Nat → Bool) (quote codePoint : Nat) : PyString :=
  if codePoint = quote ∨ codePoint = 92 then [92, codePoint]
  else if codePoint = 9 then text "\\t"
  else if codePoint = 10 then text "\\n"
  else if codePoint = 13 then text "\\r"
  else if 32 ≤ codePoint ∧ codePoint < 127 then [codePoint]
  else if 127 < codePoint ∧ isPrintable codePoint then [codePoint]
  else if codePoint ≤ 0xFF then text "\\x" ++ hexDigits 2 codePoint
  else if codePoint ≤ 0xFFFF then text "\\u" ++ hexDigits 4 codePoint
  else text "\\U" ++ hexDigits 8 codePoint

/-- `repr` of a string; `isPrintable` is the property of `str.isprintable`. -/
def reprString (isPrintable : Nat → Bool) (string : PyString) : PyString :=
  let quote := if string.contains 39 && !string.contains 34 then 34 else 39
  [quote] ++ string.flatMap (reprEscape isPrintable quote) ++ [quote]

example : reprString (fun _ => true) (text "it's\t\u00e9") = text "\"it's\\té\"" := by decide

end Shown

section Selection

/-- How a selection helper reads the runtime: the noun of its messages, the
index it looks the entry up in, whether an entry is another one, and the active
profiles that exclude an entry. -/
structure SelectionRule where
  noun : String
  entries : FieldName
  identityChanged : PyValue → Except PyError Bool
  excluding : PyValue → PyValue → Option (List Int)

def SelectionRule.entry (rule : SelectionRule) (snapshot selected : PyValue) : Option PyValue :=
  byKey (snapshot.get rule.entries).items [.deviceId, .index]
    [selected.get .deviceId, selected.get .index]

def deviceAbsent (selected : PyValue) : Failure :=
  selectionFailure .targetNotFound
    ((Contents.shown (selected.get .deviceId)).map fun id =>
      text "device " ++ id ++ text " is not present in the current runtime") []

def notEnumerated (noun : String) (selected : PyValue) : Failure :=
  selectionFailure .targetNotFound
    (describes (noun ++ " ") (selected.get .index)
      " is not enumerated for device " (selected.get .deviceId)) []

def anotherEntry (noun : String) (selected current : PyValue) : Failure :=
  selectionFailure .targetIdentityChanged
    (some (text "the " ++ text noun ++ text " index now identifies a different " ++ text noun))
    [(text "expected_name", selected.get .name), (text "observed_name", current.get .name)]

def shownName (isPrintable : Nat → Bool) (selected : PyValue) : PyString :=
  reprString isPrintable (Contents.string (selected.get .name))

def entryUnavailable (isPrintable : Nat → Bool) (noun : String) (selected : PyValue) : Failure :=
  selectionFailure .targetUnavailable
    (some (text noun ++ text " " ++ shownName isPrintable selected ++
      text " is currently unavailable")) []

/-- The details are written as the failure freezes them. -/
def entryExcluded (isPrintable : Nat → Bool) (noun : String) (selected : PyValue)
    (activeProfiles : List Int) : Failure :=
  selectionFailure .targetUnavailable
    (some (text noun ++ text " " ++ shownName isPrintable selected ++
      text " is not valid for the active device profile"))
    [(text "active_profile_ids",
      .tuple ((activeProfiles.mergeSort fun left right => decide (left ≤ right)).map .int))]

/-- `select_device_profile` and `select_device_route` from the enumerated entry on. -/
def selectEntry (inputs : Inputs) (isPrintable : Nat → Bool) (fuel : Nat) (rule : SelectionRule)
    (selected request snapshot current : PyValue) : Option Execution :=
  let rejected (failure : Failure) : Option Execution :=
    endsWith snapshot (failureOutcome request failure [] (inputs.clock 1))
  match rule.identityChanged current with
  | .error error => raises snapshot error
  | .ok true => rejected (anotherEntry rule.noun selected current)
  | .ok false =>
      match confirmationsFromSnapshot inputs snapshot (predicates request) with
      | .error error => raises snapshot error
      | .ok confirmations =>
          if confirmations.length = (predicates request).length then
            executeAfter inputs fuel request snapshot
          else if (current.get .available).isMember Availability.no then
            rejected (entryUnavailable isPrintable rule.noun selected)
          else
            match rule.excluding snapshot current with
            | some activeProfiles =>
                rejected (entryExcluded isPrintable rule.noun selected activeProfiles)
            | none => executeAfter inputs fuel request snapshot

/-- The two helpers from the preflight snapshot on. -/
def selectGuarded (inputs : Inputs) (isPrintable : Nat → Bool) (fuel : Nat) (rule : SelectionRule)
    (selected request snapshot : PyValue) : Option Execution :=
  let rejected (failure : Failure) : Option Execution :=
    endsWith snapshot (failureOutcome request failure [] (inputs.clock 1))
  if preflightIsStale request snapshot then executeAfter inputs fuel request snapshot
  else if (byId (snapshot.get .devices).items (selected.get .deviceId)).isNone then
    rejected (deviceAbsent selected)
  else
    match rule.entry snapshot selected with
    | none => rejected (notEnumerated rule.noun selected)
    | some current => selectEntry inputs isPrintable fuel rule selected request snapshot current

/-- The bytes of a parameter value before they are measured. -/
def rawPod (display : Spa.SpaValue → PyString) (fuel : Nat) (value : Spa.SpaValue) :
    Except CallError Bytes :=
  match value.mapping?.bind (Spa.getField · "data"), value with
  | some (.bytes data), _ => .ok data
  | some _, _ => .error (.python (.typeError (plain "raw SPA pod data must be bytes-like")))
  | none, .bytes data => .ok data
  | none, value => (Spa.buildSpaPod display fuel value none).mapError .pod

/-- `_parameter_pod_bytes` without a pod type. -/
def parameterPodBytes (display : Spa.SpaValue → PyString) (fuel : Nat) (value : Spa.SpaValue) :
    Except CallError Bytes := do
  let raw ← rawPod display fuel value
  if raw.length < 8 then
    .error (.python (.valueError (plain "raw SPA pod is smaller than its header")))
  else if raw.length < 8 + Bytes.toNat (Bytes.slice raw 0 4) then
    .error (.python (.valueError (plain "raw SPA pod data is shorter than its declared size")))
  else .ok raw

/-- What a selection helper makes of its arguments: the value of the parameter and the
predicates that confirm it. -/
structure ParameterSelection where
  value : Spa.SpaValue
  predicates : List PyValue

/-- The nesting of a parameter value: a route, its properties, the volumes, a volume. -/
def podDepth : Nat := 4

def parameterSelectionRequest (display : Spa.SpaValue → PyString) (now : DateTime)
    (call : CallArguments) (operation : MutationOperation) (parameterId : String)
    (deviceId : PyValue) (selection : ParameterSelection) : Except CallError PyValue := do
  let pod ← parameterPodBytes display podDepth selection.value
  let target ← fromPython (mutationTarget .device deviceId
    [(text "parameter_id", .str (text parameterId))])
  fromPython (createRequest now call operation target
    [(text "flags", .int 0), (text "pod_base64", .str (base64 pod))] selection.predicates)

def typedObject (objectClass : Spa.ObjectClass) (fields : List (Spa.SpaKey × Spa.SpaValue)) :
    Spa.SpaValue :=
  (Spa.SpaPodObject.init (Spa.SpaPodObject.ownHeader objectClass []) fields).value

/-- The predicates of a selection: the entry is active and has the name. -/
def selectionPredicates (confirmationTarget selected : PyValue) : Except PyError (List PyValue) := do
  let active ← equalsPredicate confirmationTarget [.str (text "active")] (.bool true)
  let named ← equalsPredicate confirmationTarget [.str (text "name")] (selected.get .name)
  .ok [active, named]

def profileArguments (profile : PyValue) : Except PyError ParameterSelection := do
  requireType (profile.isA .profile) (plain "profile must be a detached ProfileValue")
  let _ ← pipewireIdentifier "profile.device_id" (profile.get .deviceId)
  let index ← pipewireIdentifier "profile.index" (profile.get .index)
  let confirmationTarget ← mutationTarget .device (profile.get .deviceId)
    [(text "profile_index", profile.get .index)]
  let predicates ← selectionPredicates confirmationTarget profile
  .ok ⟨typedObject Spa.spaParamProfile [(.name (text "index"), .int index)], predicates⟩

def profileRequest (display : Spa.SpaValue → PyString) (now : DateTime) (call : CallArguments)
    (profile : PyValue) : Except CallError PyValue := do
  let selection ← fromPython (profileArguments profile)
  parameterSelectionRequest display now call .selectProfile "Profile" (profile.get .deviceId)
    selection

def profileRule (profile : PyValue) : SelectionRule where
  noun := "profile"
  entries := .profiles
  identityChanged current := .ok (!(current.get .name).eq (profile.get .name))
  excluding _ _ := none

def selectDeviceProfile (inputs : Inputs) (isPrintable : Nat → Bool)
    (display : Spa.SpaValue → PyString) (fuel : Nat) (call : CallArguments) (profile : PyValue) :
    Except CallError (Option Execution) :=
  (profileRequest display (inputs.clock 0) call profile).map fun request =>
    withPreflight inputs (selectGuarded inputs isPrintable fuel (profileRule profile) profile request)

/-- The audio arguments of a helper; none where an argument is not given. -/
structure AudioArguments where
  volume : Option PyValue
  mute : Option PyValue
  channelVolumes : Option PyValue

def nonNegativeNumber (name : String) (value : PyValue) : Except PyError Binary64 :=
  match toFloat? value with
  | none => .error (.typeError (about (text name) " must be a number"))
  | some converted => do
      let result ← converted
      if result.isFinite && !result.lt Binary64.zero then .ok result
      else .error (.valueError (about (text name) " must be finite and non-negative"))

/-- `properties` and `expected`: what is written and what is to be observed. -/
structure AudioProperties where
  properties : List (Spa.SpaKey × Spa.SpaValue)
  expected : List (PyString × PyValue)

def volumeProperty : Option PyValue → Except PyError AudioProperties
  | none => .ok ⟨[], []⟩
  | some value => do
      let number ← nonNegativeNumber "volume" value
      let single ← float32 number
      .ok ⟨[(.name (text "volume"), .float number)], [(text "volume", .float single)]⟩

def muteProperty : Option PyValue → Except PyError AudioProperties
  | none => .ok ⟨[], []⟩
  | some value => do
      let flag ← boolean (text "mute") value
      .ok ⟨[(.name (text "mute"), .bool flag)], [(text "mute", .bool flag)]⟩

def channelVolumesProperty : Option PyValue → Except PyError AudioProperties
  | none => .ok ⟨[], []⟩
  | some value =>
      match value.sequence? with
      | none => .error (.typeError (plain "channel_volumes must be a sequence"))
      | some items => do
          let numbers ← items.mapM (nonNegativeNumber "channel_volumes item")
          if numbers.isEmpty then
            .error (.valueError (plain "channel_volumes must not be empty"))
          else do
            let singles ← numbers.mapM float32
            .ok ⟨[(.name (text "channelVolumes"), .list (numbers.map .float))],
              [(text "channel_volumes", .tuple (singles.map .float))]⟩

def audioProperties (audio : AudioArguments) : Except PyError AudioProperties := do
  let volume ← volumeProperty audio.volume
  let mute ← muteProperty audio.mute
  let channelVolumes ← channelVolumesProperty audio.channelVolumes
  .ok ⟨volume.properties ++ mute.properties ++ channelVolumes.properties,
    volume.expected ++ mute.expected ++ channelVolumes.expected⟩

def notExposed (route : PyValue) : PyError :=
  match Contents.shown (route.get .index) with
  | none => digitLimit
  | some index => .valueError
      [.text (text "route " ++ index ++ text " does not expose its SPA device identity")]

def routeSpaDevice (route : PyValue) : Except PyError Int :=
  match ((route.get .properties).mapping?.bind (List.lookup (text "spa_device_index"))).getD .none with
  | .none => .error (notExposed route)
  | value => pipewireIdentifier "route SPA device identity" value

/-- `spa_pod.SpaParamRoute(**pod_fields)`, with properties only where some are written. -/
def routeParameter (index device : Int) (save : Bool)
    (properties : List (Spa.SpaKey × Spa.SpaValue)) : Spa.SpaValue :=
  typedObject Spa.spaParamRoute ([(.name (text "index"), .int index),
      (.name (text "device"), .int device), (.name (text "save"), .bool save)] ++
    if properties.isEmpty then []
    else [(.name (text "props"), typedObject Spa.spaProps properties)])

/-- The SPA device of the detached route, with the parameter value and the predicates. -/
def routeArguments (route save : PyValue) (audio : AudioArguments) :
    Except PyError (Int × ParameterSelection) := do
  requireType (route.isA .route) (plain "route must be a detached RouteValue")
  let _ ← pipewireIdentifier "route.device_id" (route.get .deviceId)
  let index ← pipewireIdentifier "route.index" (route.get .index)
  let saved ← boolean (text "save") save
  let written ← audioProperties audio
  let spaDevice ← routeSpaDevice route
  let confirmationTarget ← mutationTarget .device (route.get .deviceId)
    [(text "route_index", route.get .index)]
  let selection ← selectionPredicates confirmationTarget route
  let observed ← written.expected.mapM fun item =>
    equalsPredicate confirmationTarget [.str item.1] item.2
  .ok (spaDevice,
    ⟨routeParameter index spaDevice saved written.properties, selection ++ observed⟩)

def routeRequest (display : Spa.SpaValue → PyString) (now : DateTime) (call : CallArguments)
    (route save : PyValue) (audio : AudioArguments) : Except CallError (Int × PyValue) := do
  let made ← fromPython (routeArguments route save audio)
  let request ← parameterSelectionRequest display now call .selectRoute "Route"
    (route.get .deviceId) made.2
  .ok (made.1, request)

/-- The indexes of the active profiles of a device, each once. -/
def activeProfileIds (snapshot deviceId : PyValue) : List Int :=
  ((snapshot.get .profiles).items.filterMap fun profile =>
    if (profile.get .deviceId).eq deviceId && (profile.get .active).eq (.bool true) then
      (profile.get .index).integral?
    else none).dedup

/-- The active profiles when both sets are known and disjoint. -/
def excludingProfiles (route snapshot current : PyValue) : Option (List Int) :=
  let active := activeProfileIds snapshot (route.get .deviceId)
  let possible := (current.get .profileIds).items
  if !possible.isEmpty && !active.isEmpty &&
      active.all fun index => !possible.any (PyValue.intEq index) then some active
  else none

def routeRule (route : PyValue) (spaDevice : Int) : SelectionRule where
  noun := "route"
  entries := .routes
  identityChanged current :=
    if !(current.get .name).eq (route.get .name) ||
        !(current.get .direction).eq (route.get .direction) then .ok true
    else (routeSpaDevice current).map fun observed => !decide (observed = spaDevice)
  excluding := excludingProfiles route

def selectDeviceRoute (inputs : Inputs) (isPrintable : Nat → Bool)
    (display : Spa.SpaValue → PyString) (fuel : Nat) (call : CallArguments) (route save : PyValue)
    (audio : AudioArguments) : Except CallError (Option Execution) :=
  (routeRequest display (inputs.clock 0) call route save audio).map fun prepared =>
    withPreflight inputs
      (selectGuarded inputs isPrintable fuel (routeRule route prepared.1) route prepared.2)

end Selection

end WyrePlumber.Runtime
