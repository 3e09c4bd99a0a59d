import LiderPlatform.PyBlocks
import LiderPlatform.PyText
import LiderPlatform.RuntimeReadiness
/-!
# PolicyChecks — policy checks that clean up after themselves (`readiness/policy_roundtrip.py`, `readiness/__init__.py`)

Two checks create a computer group, a script profile and a policy through the Lider API, execute the policy and delete
what they made.  Any call may raise.  The frame of a check holds its variables and the API calls made so far; what a
call returns is a field of `LiderApi`, so one value of it is one outcome of every call.
-/
namespace Lider

open Py

/-! ## The API -/

structure HttpResponse where
  statusCode : Int
  text : String

/-- An exception a call raises: an instance of `requests.HTTPError` with its response, if any, or another one. -/
inductive CallError where
  | httpError (typeName message : String) (response : Option HttpResponse)
  | other (typeName message : String)

/-- `type(exc).__name__`. -/
def CallError.typeName : CallError → String
  | .httpError typeName _ _ => typeName
  | .other typeName _ => typeName

/-- `str(exc)`. -/
def CallError.message : CallError → String
  | .httpError _ message _ => message
  | .other _ message => message

def CallError.response : CallError → Option HttpResponse
  | .httpError _ _ response => response
  | .other .. => none

inductive Endpoint where
  | getComputerTree
  | getComputerGroupTree
  | createComputerGroup
  | createScriptProfile
  | createPolicy
  | executePolicy
  | getCommandHistory
  | deletePolicy
  | deleteProfile
  | deleteComputerGroup
deriving DecidableEq

def Endpoint.isDelete : Endpoint → Bool
  | .deletePolicy | .deleteProfile | .deleteComputerGroup => true
  | _ => false

/-- The adapter method of a delete. -/
def Endpoint.method : Endpoint → String
  | .getComputerTree => "get_computer_tree"
  | .getComputerGroupTree => "get_computer_group_tree"
  | .createComputerGroup => "create_computer_group"
  | .createScriptProfile => "create_script_profile"
  | .createPolicy => "create_policy"
  | .executePolicy => "execute_policy"
  | .getCommandHistory => "get_command_history"
  | .deletePolicy => "delete_policy"
  | .deleteProfile => "delete_profile"
  | .deleteComputerGroup => "delete_computer_group"

/-- One call with its arguments. -/
structure ApiCall where
  endpoint : Endpoint
  kwargs : Dict

/-- What a create call returns: a dictionary with a positive integer id. -/
abbrev CreatedRecord := {d : Dict // ∃ id : Nat, 0 < id ∧ d.get "id" = .int id}

/-- What creating a group returns: a dictionary with a distinguished name. -/
abbrev CreatedGroup := {d : Dict // ∃ dn, dn ≠ "" ∧ d.get "distinguishedName" = .str dn}

/-- The outcome of every call of the authenticated adapter. -/
structure LiderApi where
  computerTree : Except CallError Json
  computerGroupTree : Except CallError Json
  createComputerGroup : Except CallError CreatedGroup
  createScriptProfile : Except CallError CreatedRecord
  createPolicy : Except CallError CreatedRecord
  executePolicy : Except CallError HttpResponse
  commandHistory : Except CallError Json
  delete : Endpoint → Except CallError Unit

/-- The variables of a check, and the calls it has made. -/
structure CheckFrame where
  calls : List ApiCall
  stage : String
  group : Option Dict
  profile : Option Dict
  policy : Option Dict

def CheckFrame.initial : CheckFrame := ⟨[], "get_computer_tree", none, none, none⟩

abbrev CheckBlock := Block CheckFrame CallError

/-- Makes a call. -/
def call {α : Type} (endpoint : Endpoint) (kwargs : Dict) (outcome : Except CallError α) : CheckBlock α := fun fr =>
  (outcome, { fr with calls := fr.calls ++ [⟨endpoint, kwargs⟩] })

def setStage (stage : String) : CheckBlock Unit := Block.assign (fun fr => { fr with stage := stage })

/-! ## Searching a tree -/

def noAttributeGet : CallError := .other "AttributeError" "object has no attribute 'get'"
def notIterable : CallError := .other "TypeError" "object is not iterable"
def unhashable : CallError := .other "TypeError" "unhashable type"

section Search
variable (isMatch : Dict → Except CallError Bool)

mutual
/-- `for node in nodes or []`: the first node that matches, each before its children. -/
def searchNodes : Json → Except CallError (Option Dict)
  | .arr nodes => searchList nodes
  | .obj kvs => if kvs.isEmpty then .ok none else .error noAttributeGet
  | .str s => if s = "" then .ok none else .error noAttributeGet
  | v => if v.truthy then .error notIterable else .ok none
def searchList : List Json → Except CallError (Option Dict)
  | [] => .ok none
  | .obj node :: nodes =>
    match isMatch node with
    | .error e => .error e
    | .ok true => .ok (some node)
    | .ok false =>
      match (if (Dict.get node "childEntries").truthy then searchMember "childEntries" node
        else searchMember "children" node) with
      | .error e => .error e
      | .ok none => searchList nodes
      | .ok (some child) => if child.isEmpty then searchList nodes else .ok (some child)
  | _ :: _ => .error noAttributeGet
/-- The search below the value of a key. -/
def searchMember (key : String) : List (String × Json) → Except CallError (Option Dict)
  | [] => .ok none
  | (k, v) :: kvs => if k = key then searchNodes v else searchMember key kvs
end

end Search

def findFirstAgent (tree : Json) : Except CallError (Option Dict) :=
  searchNodes (fun node => match node.get "type" with
    | .str type => .ok (decide (type ∈ ["AHENK", "WINDOWS_AHENK"]))
    | .arr _ | .obj _ => .error unhashable
    | _ => .ok false) tree

section
variable (repr : Json → String)

def findGroupEntry (groupName : String) (tree : Json) : Except CallError (Option Dict) :=
  searchNodes (fun node =>
    .ok (decide (pyStr repr (((node.get "cn").orElse (node.get "name")).orElse (.str "")) = groupName))) tree

/-! ## Creating and executing -/

/-- What the two checks create, with the random token of the run in the names. -/
structure CheckSpec where
  checkId : String
  category : String
  description : String
  groupName : String
  profileLabel : String
  profileDescription : String
  scriptContents : String
  policyLabel : String
  policyDescription : String

/-- `d[key]`. -/
def item (d : Dict) (key : String) : Except CallError Json :=
  match d.lookup key with
  | some v => .ok v
  | none => .error (.other "KeyError" ("'" ++ key ++ "'"))

def firstChars (n : Nat) (text : String) : String := String.ofList (text.toList.take n)

variable (api : LiderApi) (selectedOuDn : String)

def createComputerGroupWithReconciliation (groupName : String) (checkedEntries : Json) :
    CheckBlock (Dict × Option Dict) :=
  Block.tryExcept
    (do
      let group ← call .createComputerGroup [("group_name", .str groupName), ("checked_entries", checkedEntries),
        ("selected_ou_dn", .str selectedOuDn)] api.createComputerGroup
      return (group.val, none))
    (fun exc => match exc.response with
      | none => Block.raise exc
      | some response =>
        if response.statusCode ≠ 417 then Block.raise exc
        else do
          let groupTree ← call .getComputerGroupTree [] api.computerGroupTree
          let reconciledGroup ← Block.ofExcept (findGroupEntry repr groupName groupTree)
          match reconciledGroup with
          | none => Block.raise exc
          | some group => return (group, some
              [("mode", .str "group_tree_reconciliation"), ("httpStatus", .int response.statusCode),
                ("groupName", .str groupName), ("responseText", .str (firstChars 500 response.text))]))

/-- What a check has when the policy is executed. -/
structure Executed where
  entry : Dict
  group : Dict
  profile : Dict
  policy : Dict
  reconciliation : Option Dict
  statusCode : Int

/-- The statements of both checks up to `execute_policy`; nothing when the tree shows no agent. -/
def acquireAndExecute (spec : CheckSpec) : CheckBlock (Option Executed) := do
  let tree ← call .getComputerTree [] api.computerTree
  let entry ← Block.ofExcept (findFirstAgent tree)
  match entry with
  | none => return none
  | some entry =>
    setStage "create_computer_group"
    let created ← createComputerGroupWithReconciliation repr api selectedOuDn spec.groupName (.arr [.obj entry])
    Block.assign (fun fr => { fr with group := some created.1 })
    setStage "create_script_profile"
    let profile ← call .createScriptProfile [("label", .str spec.profileLabel),
      ("description", .str spec.profileDescription), ("script_contents", .str spec.scriptContents)]
      api.createScriptProfile
    Block.assign (fun fr => { fr with profile := some profile.val })
    setStage "create_policy"
    let policy ← call .createPolicy [("label", .str spec.policyLabel), ("description", .str spec.policyDescription),
      ("profiles", .arr [.obj profile.val]), ("active", .bool false)] api.createPolicy
    Block.assign (fun fr => { fr with policy := some policy.val })
    setStage "execute_policy"
    let policyId ← Block.ofExcept (item policy.val "id")
    let dn ← Block.ofExcept (item created.1 "distinguishedName")
    let response ← call .executePolicy [("policy_id", policyId), ("dn", dn), ("dn_type", .str "GROUP")]
      api.executePolicy
    return some ⟨entry, created.1, profile.val, policy.val, created.2, response.statusCode⟩

/-! ## Cleaning up -/

structure Operation where
  resource : String
  identifier : Json
  endpoint : Endpoint
  kwargs : Dict

def Operation.toJson (o : Operation) (error : Option String) : Json :=
  .obj ([("resource", .str o.resource), ("identifier", o.identifier), ("method", .str o.endpoint.method)] ++
    (error.map (fun e => ("error", .str e))).toList)

structure CleanupReport where
  status : String
  attempted : List Operation
  failed : List Operation

def CleanupReport.toJson (r : CleanupReport) : Json :=
  .obj [("status", .str r.status), ("attempted", .arr (r.attempted.map (·.toJson none))),
    ("failed", .arr (r.failed.map (·.toJson (some "cleanup_failed"))))]

/-- `int(v)` of an integer; of another value a parameter. -/
def intOf (otherInt : Json → Except CallError Int) : Json → Except CallError Int
  | .int i => .ok i
  | v => otherInt v

variable (otherInt : Json → Except CallError Int)

/-- The operation for a record with an id, under either of its keys. -/
def recordOperation (resource idKey argument : String) (endpoint : Endpoint) (record : Option Dict) :
    Except CallError (List Operation) :=
  let fields := record.getD []
  let id := (fields.get "id").orElse (fields.get idKey)
  if id.isNone then .ok []
  else do
    let number ← intOf otherInt id
    return [⟨resource, .str (pyStr repr id), endpoint, [(argument, .int number)]⟩]

def cleanupOperations (policy profile : Option Dict) (groupDn : Json) (deleteGroup : Endpoint) :
    Except CallError (List Operation) := do
  let policies ← recordOperation repr otherInt "policy" "policyId" "policy_id" .deletePolicy policy
  let profiles ← recordOperation repr otherInt "profile" "profileId" "profile_id" .deleteProfile profile
  let groups := if groupDn.truthy then [⟨"group", groupDn, deleteGroup, [("dn", groupDn)]⟩] else []
  return policies ++ profiles ++ groups

/-- The loop over the operations: the failures, in order. -/
def runOperations : List Operation → CheckBlock (List Operation)
  | [] => return []
  | o :: operations => do
    let failed ← Block.tryExcept (do let _ ← call o.endpoint o.kwargs (api.delete o.endpoint); return [])
      (fun _ => return [o])
    let rest ← runOperations operations
    return failed ++ rest

def cleanupRoundtripArtifacts (policy profile : Option Dict) (groupDn : Json) (deleteGroup : Endpoint) :
    CheckBlock CleanupReport := do
  let operations ← Block.ofExcept (cleanupOperations repr otherInt policy profile groupDn deleteGroup)
  let failures ← runOperations api operations
  let status :=
    if operations.isEmpty then "not_required" else if failures.isEmpty then "completed" else "partial_failure"
  return ⟨status, operations, failures⟩

/-- The cleanup of the `except` clauses, on the variables as they are. -/
def cleanupFrame : CheckBlock CleanupReport := do
  let fr ← Block.frame
  cleanupRoundtripArtifacts repr api otherInt fr.policy fr.profile
    (fr.group.elim .null (fun group => group.get "distinguishedName")) .deleteComputerGroup

/-! ## Diagnosing a failure -/

/-- What a docker log helper returns. -/
structure ServiceLog where
  available : Bool
  text : String
  error : Option String

def lastItems (n : Nat) (lines : List Text) : Json :=
  .strs ((lines.drop (lines.length - n)).map (fun line => String.ofList line))

def ServiceLog.nonBlankLines (log : ServiceLog) : List Text :=
  (splitlines log.text.toList).filter (fun line => strip line ≠ [])

/-- The availability of a log, and its error when it is not there. -/
def ServiceLog.report (log : ServiceLog) (availableKey errorKey : String) : Dict :=
  (availableKey, .bool log.available) ::
    (if log.available then [] else ((log.error.filter (· ≠ "")).map (fun e => (errorKey, Json.str e))).toList)

variable (lower : String → String) (logTail logSearch : ServiceLog)

def isWriteDenied (line : Text) : Bool :=
  let lowered := (lower (String.ofList line)).toList
  decide ("computergroupscontroller.createnewagentgroup".toList <:+: lowered) ||
    decide ("no write access to parent".toList <:+: lowered)

def policyRoundtripFailureDetails (exc : CallError) (stage : String) : Dict :=
  let details : Dict := [("stage", .str stage), ("error", .str exc.message)]
  match exc with
  | .other .. => details
  | .httpError _ _ response =>
    let lines := logTail.nonBlankLines
    let searchedLines := logSearch.nonBlankLines
    -- The tail of the log counts only when the search window has no such line.
    let found := if searchedLines.any (isWriteDenied lower) then searchedLines else lines
    let matchedLines := (found.filter (isWriteDenied lower)).map strip
    details ++
      [("httpStatus", (response.map (fun r => Json.int r.statusCode)).getD .null),
        ("responseText", .str ((response.map (fun r => firstChars 500 r.text)).getD ""))] ++
      logTail.report "liderapiLogTailAvailable" "liderapiLogError" ++
      logSearch.report "liderapiLogSearchAvailable" "liderapiLogSearchError" ++
      (if matchedLines.isEmpty then [("liderapiLogTail", lastItems 20 lines)]
      else [("diagnosis", .obj [("classification", .str "ldap_parent_write_denied"),
        ("likelyCause", .str ("Lider API computer-group creation appears to run with an authenticated bind " ++
          "that cannot write to the parent OU, which matches the authenticated-user " ++
          "LDAP bind mode failure seen in ComputerGroupsController.createNewAgentGroup.")),
        ("evidenceLines", lastItems 6 matchedLines)])])

/-! ## The two checks -/

def roundtripSpec (token : String) : CheckSpec where
  checkId := "policy_roundtrip"
  category := "operational"
  description := "Policy roundtrip can create group/profile/policy and execute it"
  groupName := s!"rt-group-{token}"
  profileLabel := s!"rt-profile-{token}"
  profileDescription := "Runtime readiness policy roundtrip"
  scriptContents := "#!/bin/bash\nprintf 'runtime-policy-roundtrip\\n'"
  policyLabel := s!"rt-policy-{token}"
  policyDescription := "Runtime readiness policy"

def effectProbeSpec (token : String) : CheckSpec where
  checkId := "policy_effect_probe"
  category := "scenario"
  description := "Policy execution produces an observable command history entry"
  groupName := s!"effect-probe-{token}"
  profileLabel := s!"effect-profile-{token}"
  profileDescription := "Sprint 4 verify_effect probe"
  scriptContents := s!"#!/bin/bash\necho effect-probe-{token}"
  policyLabel := s!"effect-policy-{token}"
  policyDescription := "Sprint 4 effect verification"

def CheckSpec.check (spec : CheckSpec) (passed : Bool) (actual expected details : Json) : Dict :=
  buildCheck spec.checkId spec.category spec.description passed actual expected details

variable (token : String)

/-- `run_policy_roundtrip_check`, with its adapter authenticated. -/
def runPolicyRoundtripCheck : CheckBlock Dict :=
  let spec := roundtripSpec token
  Block.tryExcept
    (do
      let executed ← acquireAndExecute repr api selectedOuDn spec
      match executed with
      | none =>
        return buildCheck spec.checkId spec.category "Policy roundtrip can target at least one agent group" false
          .null .null (.str "No computer tree root entry available")
      | some x =>
        let groupDn := x.group.get "distinguishedName"
        let cleanup ← cleanupRoundtripArtifacts repr api otherInt (some x.policy) (some x.profile) groupDn
          .deleteComputerGroup
        let details := [("groupDn", groupDn), ("profileLabel", x.profile.get "label"),
          ("policyLabel", x.policy.get "label"), ("cleanup", cleanup.toJson)] ++
          (x.reconciliation.map (fun r => ("groupCreateReconciliation", Json.obj r))).toList
        return spec.check (x.statusCode = 200 && cleanup.status = "completed") (.int x.statusCode) (.int 200)
          (.obj details))
    (fun exc => do
      let fr ← Block.frame
      let cleanup ← cleanupFrame repr api otherInt
      let failureDetails := policyRoundtripFailureDetails lower logTail logSearch exc fr.stage ++
        (if cleanup.status = "not_required" then [] else [("cleanup", cleanup.toJson)])
      return spec.check false (.str exc.typeName) (.str "successful operational roundtrip") (.obj failureDetails))

/-- The number of dictionaries in a history. -/
def recentCommandCount : Json → Except CallError Nat
  | .arr history => .ok (history.countP (fun cmd => match cmd with | .obj _ => true | _ => false))
  | .obj _ | .str _ => .ok 0
  | v => if v.truthy then .error notIterable else .ok 0

/-- What the command history of the agent shows after an execution; a failure is evidence as well. -/
def historyEvidence (executionOk : Bool) (agentDn : Json) : CheckBlock Dict :=
  if executionOk && agentDn.truthy then
    Block.tryExcept
      (do
        let history ← call .getCommandHistory [("dn", agentDn)] api.commandHistory
        let count ← Block.ofExcept (recentCommandCount history)
        return [("commandHistoryCount", .int count), ("commandHistoryAvailable", .bool (decide (0 < count)))])
      (fun exc => return [("commandHistoryError", .str exc.message), ("commandHistoryAvailable", .bool false)])
  else return []

/-- `_run_policy_effect_probe_check`, with its adapter authenticated.  It keeps no stage; nothing here reads it. -/
def runPolicyEffectProbeCheck : CheckBlock Dict :=
  let spec := effectProbeSpec token
  Block.tryExcept
    (do
      let executed ← acquireAndExecute repr api selectedOuDn spec
      match executed with
      | none => return spec.check false .null .null (.obj [("error", .str "no agent found in computer tree")])
      | some x =>
        let executionOk := decide (x.statusCode = 200)
        let agentDn := match x.entry.lookup "distinguishedName" with | some v => v | none => .str ""
        let history ← historyEvidence api executionOk agentDn
        let cleanup ← cleanupRoundtripArtifacts repr api otherInt (some x.policy) (some x.profile)
          (x.group.get "distinguishedName") .deleteComputerGroup
        let effectEvidence := Json.obj ([("executionHttpStatus", .int x.statusCode)] ++ history ++
          [("cleanup", cleanup.toJson)])
        return spec.check executionOk effectEvidence (.obj [("executionHttpStatus", .int 200)]) effectEvidence)
    (fun exc => do
      let cleanup ← cleanupFrame repr api otherInt
      return spec.check false (.str exc.typeName) (.str "successful policy effect verification")
        (.obj [("error", .str exc.message), ("cleanup", cleanup.toJson)]))

end

end Lider
