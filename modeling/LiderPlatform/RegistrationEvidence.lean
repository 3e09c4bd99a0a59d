import LiderPlatform.PyJsonCut
import LiderPlatform.PyFiles
import LiderPlatform.PySorted
/-!
# RegistrationEvidence — the evidence validator (`platform_runtime/registration_evidence.py`)

`validateRegistrationEvidence` reads the artifacts of a run from a directory with arbitrary files and reports every field
that is missing, of a wrong type or not equal to its counterpart in another file.  Where Python would raise (a list looked
up in a set, `.get` of a value that is no dictionary, an event log that is not UTF-8) the model raises too.  The text
of a list of texts is `str(list)`, a parameter: no result depends on it.
-/
namespace Lider

open Py

/-! ## The contract (`registration-evidence.yaml`) -/

structure EvidenceContract where
  requiredArtifacts : List String
  runManifestRequiredFields : List String
  registrationVerdictRequiredFields : List String
  failureSummaryRequiredFields : List String
  registrationEventRequiredFields : List String
  eventPhases : List String
  registrationStates : List String

def evidenceContract : EvidenceContract where
  requiredArtifacts :=
    ["run-manifest.json", "registration-verdict.json", "registration-events.jsonl", "failure-summary.json"]
  runManifestRequiredFields :=
    ["schemaVersion", "runId", "runtimeProfile", "expectedAgents", "startedAt", "timeoutSeconds", "backoff"]
  registrationVerdictRequiredFields :=
    ["schemaVersion", "runId", "status", "runtimeProfile", "expectedAgents", "checks", "taxonomy", "surfaces", "perAgent",
      "capturedAt"]
  failureSummaryRequiredFields := ["schemaVersion", "runId", "status", "capturedAt", "failedChecks", "taxonomy"]
  registrationEventRequiredFields := ["runId", "attempt", "phase", "status", "failedChecks", "taxonomy", "capturedAt"]
  eventPhases := ["settle", "timeout", "steady-state"]
  registrationStates :=
    ["ldap_entry_ready", "xmpp_identity_ready", "register_sent", "register_accepted", "c_agent_ready", "domain_ready"]

/-! ## Python's tests -/

/-- `isinstance(v, int)`, with the number; a `bool` is an `int`. -/
def asInt : Json → Option Int
  | .int i => some i
  | .bool b => some (if b then 1 else 0)
  | _ => none

def isBool : Json → Bool
  | .bool _ => true
  | _ => false

/-- `v in names` for a set of texts: a list or a dictionary has no hash. -/
def inTexts (v : Json) (names : List String) : Except PyExc Bool :=
  match v with
  | .arr _ => .error .typeError
  | .obj _ => .error .typeError
  | v => .ok (names.any (fun name => v.pyEq (.str name)))

/-- `v.get(key)`. -/
def getAttr (v : Json) (key : String) : Except PyExc Json :=
  match v with
  | .obj d => .ok (Dict.get d key)
  | _ => .error .attributeError

def errorIf (wrong : Bool) (message : String) : List String := if wrong then [message] else []

section
variable (nt : NumText) (reprList : List String → String) (contract : EvidenceContract) (fs : Files)

/-! ## Reading -/

/-- `_load_json`; the label is the file's name. -/
def loadJson (name : String) : Option Dict × List String :=
  match fs name with
  | none => (none, [])
  | some b =>
    match loadsFile nt b with
    | .error e => (none, [name ++ ": invalid json (" ++ e.text ++ ")"])
    | .ok (.obj payload) => (some payload, [])
    | .ok _ => (none, [name ++ ": expected object payload"])

def eventLabel (index : Nat) : String := "registration-events.jsonl:" ++ toString index

/-- The events of the lines from the `index`-th on, and what is wrong with the other lines. -/
def parseEvents (index : Nat) : List Text → List Dict × List String
  | [] => ([], [])
  | line :: lines =>
    let rest := parseEvents (index + 1) lines
    match loads nt line with
    | .error e => (rest.1, (eventLabel index ++ ": invalid json (" ++ e.text ++ ")") :: rest.2)
    | .ok (.obj payload) => (payload :: rest.1, rest.2)
    | .ok _ => (rest.1, (eventLabel index ++ ": expected object payload") :: rest.2)

def loadEvents : Except PyExc (List Dict × List String) :=
  match fs "registration-events.jsonl" with
  | none => .ok ([], [])
  | some b => do
    let text ← readText b
    let lines := splitlines text
    if lines.isEmpty then return ([], ["registration-events.jsonl: no events captured"])
    else return parseEvents nt 1 lines

def requireFields (payload : Option Dict) (required : List String) (label : String) : List String :=
  match payload with
  | none => []
  | some d => (required.filter (fun name => !d.has name)).map (fun name => label ++ ": missing field " ++ name)

/-! ## The manifest's backoff -/

def backoffErrors (manifest : Dict) : List String :=
  match manifest.get "backoff" with
  | .obj backoff =>
    let minSeconds := asInt (Dict.get backoff "minSeconds")
    let maxSeconds := asInt (Dict.get backoff "maxSeconds")
    errorIf (match minSeconds with | some i => decide (i < 0) | none => true)
        "run-manifest.json: backoff.minSeconds must be a non-negative integer" ++
      errorIf (match maxSeconds with | some i => decide (i < 0) | none => true)
        "run-manifest.json: backoff.maxSeconds must be a non-negative integer" ++
      errorIf (match minSeconds, maxSeconds with | some i, some j => decide (j < i) | _, _ => false)
        "run-manifest.json: backoff.minSeconds cannot exceed backoff.maxSeconds"
  | _ => ["run-manifest.json: backoff must be an object"]

/-! ## The verdict -/

/-- The checks of one agent's states against the contract's. -/
def stateErrors (states : List String) (label : String) (stateMap : Dict) (highestState : Json) :
    Except PyExc (List String) := do
  let missing := states.filter (fun name => !stateMap.has name)
  let unexpected := sortedUnique (stateMap.keys.filter (fun name => name ∉ states))
  let flags := stateMap.flatMap (fun p => errorIf (!isBool p.2) (label ++ ": state " ++ p.1 ++ " must be boolean"))
  let known ← if highestState.pyEq (.str "missing") then .ok true else inTexts highestState states
  let named ← inTexts highestState states
  return errorIf (!missing.isEmpty) (label ++ ": missing states " ++ reprList missing) ++
    errorIf (!unexpected.val.isEmpty) (label ++ ": unexpected states " ++ reprList unexpected.val) ++ flags ++
    errorIf (!known) (label ++ ": highestState must be one of " ++ reprList states ++ " or 'missing'") ++
    match highestState with
    | .str state =>
      errorIf (named && (match stateMap.get state with | .bool true => false | _ => true))
        (label ++ ": highestState " ++ state ++ " is not marked true")
    | _ => []

/-- One pass of the loop of `_validate_per_agent_states`. -/
def agentErrors (states : List String) (label : String) : Json → Except PyExc (List String)
  | .obj entry => do
    let identity := errorIf (!Dict.has entry "agentId") (label ++ ": missing field agentId")
    match Dict.get entry "states" with
    | .obj stateMap =>
      let errors ← stateErrors reprList states label stateMap (Dict.get entry "highestState")
      return identity ++ errors
    | _ => return identity ++ [label ++ ": states must be an object"]
  | _ => .ok [label ++ ": expected object payload"]

/-- `_validate_per_agent_states`, from the `index`-th entry on. -/
def perAgentErrors (states : List String) (index : Nat) : List Json → Except PyExc (List String)
  | [] => .ok []
  | entry :: entries => do
    let errors ← agentErrors reprList states ("registration-verdict.json: perAgent[" ++ toString index ++ "]") entry
    let rest ← perAgentErrors states (index + 1) entries
    return errors ++ rest

def checksErrors (verdict : Dict) : List String :=
  match verdict.get "checks" with
  | .obj checks =>
    checks.flatMap (fun p => errorIf (!isBool p.2) ("registration-verdict.json: check " ++ p.1 ++ " must be boolean"))
  | _ => ["registration-verdict.json: checks must be an object"]

/-- What is wrong when a field is not an array. -/
def arrayErrors (payload : Dict) (label field : String) : List String :=
  match payload.get field with
  | .arr _ => []
  | _ => [label ++ ": " ++ field ++ " must be an array"]

def surfacesErrors (verdict : Dict) : List String :=
  match verdict.get "surfaces" with
  | .obj _ => []
  | _ => ["registration-verdict.json: surfaces must be an object"]

/-- `verdict.get("status") == "pass"`. -/
def saysPass (verdict : Dict) : Bool := (verdict.get "status").pyEq (.str "pass")

/-- The agents of a passing verdict are counted, if it says how many to expect. -/
def countErrors (verdict : Dict) (perAgent : List Json) : List String :=
  match asInt (verdict.get "expectedAgents") with
  | some expected =>
    errorIf (saysPass verdict && decide (0 < expected) && decide ((perAgent.length : Int) ≠ expected))
      "registration-verdict.json: perAgent count does not match expectedAgents for pass verdict"
  | none => []

def passErrors (verdict : Dict) : List String :=
  if saysPass verdict then
    (match verdict.get "checks" with
      | .obj checks =>
        errorIf (!checks.all (fun p => p.2.truthy)) "registration-verdict.json: pass verdict contains failed checks"
      | _ => []) ++
    (match verdict.get "failedChecks" with
      | .arr failed => errorIf (!failed.isEmpty) "registration-verdict.json: pass verdict must not contain failedChecks"
      | _ => []) ++
    (match verdict.get "taxonomy" with
      | .arr taxonomy =>
        errorIf (!taxonomy.isEmpty) "registration-verdict.json: pass verdict must not contain taxonomy entries"
      | _ => [])
  else []

def verdictErrors (verdict : Dict) : Except PyExc (List String) := do
  let known ← inTexts (verdict.get "status") ["pass", "fail"]
  let agents ← match verdict.get "perAgent" with
    | .arr perAgent => do
      let errors ← perAgentErrors reprList contract.registrationStates 1 perAgent
      pure (errors ++ countErrors verdict perAgent)
    | _ => .ok ["registration-verdict.json: perAgent must be an array"]
  return errorIf (!known) "registration-verdict.json: status must be pass or fail" ++ checksErrors verdict ++
    arrayErrors verdict "registration-verdict.json" "failedChecks" ++
    arrayErrors verdict "registration-verdict.json" "taxonomy" ++ surfacesErrors verdict ++ agents ++ passErrors verdict

def verdictBlock (verdict : Option Dict) : Except PyExc (List String) :=
  match verdict with
  | some v => verdictErrors reprList contract v
  | none => .ok []

/-! ## Across files -/

/-- What is wrong when a field differs between two dictionaries. -/
def differs (d d' : Dict) (field field' message : String) : List String :=
  errorIf (!(d.get field).pyEq (d'.get field')) message

/-- The verdict against the manifest. -/
def manifestVerdictErrors (manifest verdict : Dict) : List String :=
  differs verdict manifest "expectedAgents" "expectedAgents"
    "registration-verdict.json: expectedAgents does not match run-manifest.json" ++
  differs verdict manifest "runtimeProfile" "runtimeProfile"
    "registration-verdict.json: runtimeProfile does not match run-manifest.json" ++
  (if (manifest.get "lastStatus").isNone then []
   else differs manifest verdict "lastStatus" "status"
    "run-manifest.json: lastStatus does not match registration-verdict.json") ++
  (if (manifest.get "lastVerdictAt").isNone then []
   else differs manifest verdict "lastVerdictAt" "capturedAt"
    "run-manifest.json: lastVerdictAt does not match registration-verdict.json")

/-- The run's id: the manifest's, or else the verdict's. -/
def bundleRunId (manifest verdict : Option Dict) : Json :=
  let own := match manifest with | some m => m.get "runId" | none => .null
  match verdict with
  | some v => if own.isNone then v.get "runId" else own
  | none => own

def runIdErrors (manifest verdict : Option Dict) : List String :=
  match manifest, verdict with
  | some m, some v =>
    (if (m.get "runId").isNone then []
     else differs v m "runId" "runId" "registration-verdict.json: runId does not match run-manifest.json") ++
    manifestVerdictErrors m v
  | _, _ => []

def summaryErrors (summary verdict : Option Dict) : List String :=
  match summary, verdict with
  | some f, some v =>
    differs f v "runId" "runId" "failure-summary.json: runId does not match registration-verdict.json" ++
    differs f v "status" "status" "failure-summary.json: status does not match registration-verdict.json" ++
    differs f v "failedChecks" "failedChecks"
      "failure-summary.json: failedChecks does not match registration-verdict.json" ++
    differs f v "taxonomy" "taxonomy" "failure-summary.json: taxonomy does not match registration-verdict.json"
  | _, _ => []

/-! ## The events -/

def eventErrors (runId : Json) (index : Nat) (event : Dict) : Except PyExc (List String) := do
  let label := eventLabel index
  let phase ← inTexts (event.get "phase") contract.eventPhases
  let status ← inTexts (event.get "status") ["pass", "fail"]
  return requireFields (some event) contract.registrationEventRequiredFields label ++
    errorIf (!runId.isNone && !(event.get "runId").pyEq runId) (label ++ ": runId does not match bundle runId") ++
    errorIf (!phase) (label ++ ": phase must be one of " ++ reprList (sortedUnique contract.eventPhases).val) ++
    errorIf (!status) (label ++ ": status must be pass or fail") ++
    errorIf (match asInt (event.get "attempt") with | some i => decide (i ≤ 0) | none => true)
      (label ++ ": attempt must be a positive integer") ++
    arrayErrors event label "failedChecks" ++ arrayErrors event label "taxonomy"

def eventsErrors (runId : Json) (index : Nat) : List Dict → Except PyExc (List String)
  | [] => .ok []
  | event :: events => do
    let errors ← eventErrors reprList contract runId index event
    let rest ← eventsErrors runId (index + 1) events
    return errors ++ rest

/-- The manifest's counter and the verdict's status against the last event. -/
def lastEventErrors (manifest verdict : Option Dict) (events : List Dict) : List String :=
  match events.getLast? with
  | none => []
  | some event =>
    (match manifest with
      | some m =>
        if (m.get "attemptCount").isNone || (event.get "attempt").isNone then []
        else differs m event "attemptCount" "attempt" "run-manifest.json: attemptCount does not match last event attempt"
      | none => []) ++
    (match verdict with
      | some v =>
        if (event.get "status").isNone then []
        else differs v event "status" "status" "registration-verdict.json: status does not match last event status"
      | none => [])

/-! ## The runtime reports -/

/-- `v.get(key) or {}`. -/
def subObject (v : Json) (key : String) : Except PyExc Json := do
  let value ← getAttr v key
  return value.orElse (.obj [])

/-- `v.get(key) or v.get(key') or []`. -/
def stepsOf (v : Json) (key key' : String) : Except PyExc Json := do
  let steps ← getAttr v key
  let steps' ← getAttr v key'
  return steps.orElse (steps'.orElse (.arr []))

/-- What `_runtime_support_snapshot` keeps of one report. -/
def supportOf (payload : Dict) : Except PyExc Json := do
  let support := (payload.get "support").orElse (.obj [])
  let mutation ← subObject support "mutationSupport"
  let scenarios ← subObject support "scenarios"
  let session ← subObject support "sessionSupport"
  let supportedSteps ← stepsOf mutation "supportedDeclaredSteps" "supportedDeclaredMutationSteps"
  let unsupportedSteps ← stepsOf mutation "unsupportedDeclaredSteps" "unsupportedDeclaredMutationSteps"
  let supportedSession ← stepsOf session "supportedDeclaredSteps" "supportedDeclaredSessionSteps"
  let unsupportedSession ← stepsOf session "unsupportedDeclaredSteps" "unsupportedDeclaredSessionSteps"
  let topology ← getAttr ((payload.get "topology").orElse (.obj [])) "name"
  let active ← match scenarios with
    | .obj d => .ok (if Dict.has d "activeScenarios" then Dict.get d "activeScenarios" else .arr [])
    | _ => .error .attributeError
  return .obj [("status", payload.get "status"), ("profile", payload.get "profile"), ("topologyProfile", topology),
    ("activeScenarios", active), ("supportedDeclaredMutationSteps", supportedSteps),
    ("unsupportedDeclaredMutationSteps", unsupportedSteps), ("supportedDeclaredSessionSteps", supportedSession),
    ("unsupportedDeclaredSessionSteps", unsupportedSession)]

def reportNames : List String := ["runtime-core-report.json", "runtime-operational-report.json"]

/-- `_runtime_support_snapshot`, with what is wrong with the reports. -/
def runtimeSupportSnapshot : List String → Except PyExc (Dict × List String)
  | [] => .ok ([], [])
  | name :: names => do
    let loaded := loadJson nt fs name
    let kept ← match loaded.1 with
      | none => .ok []
      | some payload => do
        let support ← supportOf payload
        pure [(name, support)]
    let rest ← runtimeSupportSnapshot names
    return (kept ++ rest.1, loaded.2 ++ rest.2)

/-! ## The report -/

structure EvidenceReport where
  valid : Bool
  runId : Json
  requiredArtifacts : Nat
  eventCount : Nat
  status : Json
  runtimeSupport : Json
  errors : List String

def missingArtifacts : List String :=
  (contract.requiredArtifacts.filter (fun path => (fs path).isNone)).map (fun path => "missing evidence artifact: " ++ path)

def validateRegistrationEvidence : Except PyExc EvidenceReport := do
  let manifest := loadJson nt fs "run-manifest.json"
  let verdict := loadJson nt fs "registration-verdict.json"
  let summary := loadJson nt fs "failure-summary.json"
  let events ← loadEvents nt fs
  let aboutVerdict ← verdictBlock reprList contract verdict.1
  let runId := bundleRunId manifest.1 verdict.1
  let aboutEvents ← eventsErrors reprList contract runId 1 events.1
  let support ← runtimeSupportSnapshot nt fs reportNames
  let errors := missingArtifacts contract fs ++ manifest.2 ++ verdict.2 ++ summary.2 ++ events.2 ++
    requireFields manifest.1 contract.runManifestRequiredFields "run-manifest.json" ++
    requireFields verdict.1 contract.registrationVerdictRequiredFields "registration-verdict.json" ++
    requireFields summary.1 contract.failureSummaryRequiredFields "failure-summary.json" ++
    (match manifest.1 with | some m => backoffErrors m | none => []) ++ aboutVerdict ++
    runIdErrors manifest.1 verdict.1 ++ summaryErrors summary.1 verdict.1 ++ aboutEvents ++
    lastEventErrors manifest.1 verdict.1 events.1 ++ support.2
  return {
    valid := errors.isEmpty
    runId := runId
    requiredArtifacts := contract.requiredArtifacts.length
    eventCount := events.1.length
    status :=
      match verdict.1 with
      | some v => if v.isEmpty then .null else v.get "status"
      | none => .null
    runtimeSupport := if support.1.isEmpty then .null else .obj support.1
    errors := errors }

end
end Lider
