import LiderPlatform.PolicyChecks
/-!
# PolicyWorkflow — a policy round trip on a user group (`tests/e2e/support/policy_workflow.py`)

A round trip creates a user group, or works with one that exists, then a script profile and a policy, executes the
policy and cleans up in its `finally` block.  Any call may raise: what it returns is a field of `Adapter` or of
`Callbacks`, so one value of them is one outcome of every call.  The frame holds the variables that the `finally` block
reads and the API calls made so far.
-/
namespace Lider.PolicyWorkflow

open Py

/-! ## The API -/

inductive Endpoint where
  | createDirectoryUser
  | addDirectoryUserToExistingGroup
  | createUserGroup
  | createScriptProfile
  | createPolicy
  | executePolicy
  | deletePolicy
  | deleteProfile
  | deleteUserGroup
deriving DecidableEq

def Endpoint.isDelete : Endpoint → Bool
  | .deletePolicy | .deleteProfile | .deleteUserGroup => true
  | _ => false

def Endpoint.method : Endpoint → String
  | .createDirectoryUser => "create_directory_user"
  | .addDirectoryUserToExistingGroup => "add_directory_user_to_existing_group"
  | .createUserGroup => "create_user_group"
  | .createScriptProfile => "create_script_profile"
  | .createPolicy => "create_policy"
  | .executePolicy => "execute_policy"
  | .deletePolicy => "delete_policy"
  | .deleteProfile => "delete_profile"
  | .deleteUserGroup => "delete_user_group"

structure ApiCall where
  endpoint : Endpoint
  kwargs : Dict

/-- The id of a record, under either of its keys. -/
def recordId (idKey : String) (record : Dict) : Json := (record.get "id").orElse (record.get idKey)

/-- What a create call returns: a dictionary with a positive integer id. -/
abbrev CreatedRecord (idKey : String) := {d : Dict // ∃ id : Int, 0 < id ∧ recordId idKey d = .int id}

/-- The adapter methods behind one capability: the descriptor method, with `probe` and without, and the older one; an
adapter may lack either. -/
structure CapabilityMethods where
  descriptor : Option (Except CallError Json × Except CallError Json)
  legacy : Option (Except CallError Json)

/-- The outcome of every call; the capabilities may change from one description to the next. -/
structure Adapter where
  directoryUserCreate : Nat → CapabilityMethods
  userGroupMembershipUpdate : Nat → CapabilityMethods
  createDirectoryUser : Except CallError Dict
  addDirectoryUserToExistingGroup : Except CallError Json
  createUserGroup : Except CallError Dict
  createScriptProfile : Except CallError (CreatedRecord "profileId")
  createPolicy : Except CallError (CreatedRecord "policyId")
  executePolicy : Except CallError HttpResponse
  delete : Endpoint → Except CallError Unit

structure Callbacks where
  loadScenarioPack : Except CallError Dict
  buildDirectoryUserEntry : String → Except CallError Json
  getDirectoryUserBaseDn : Except CallError String
  getUserGroupBaseDn : Except CallError String
  getExistingUserGroupDn : Except CallError String

/-- The variables that the `finally` block reads, the result, and the calls made; `described` counts the descriptions
of the capabilities. -/
structure Frame where
  calls : List ApiCall
  described : Nat
  groupDn : Json
  deleteGroup : Bool
  profile : Option Dict
  policy : Option Dict
  result : Option Dict
  cleanup : Option Dict

abbrev WorkflowBlock := Block Frame CallError

def call {α : Type} (endpoint : Endpoint) (kwargs : Dict) (outcome : Except CallError α) : WorkflowBlock α := fun fr =>
  (outcome, { fr with calls := fr.calls ++ [⟨endpoint, kwargs⟩] })

/-! ## Lifecycle capabilities -/

structure CapabilityRule where
  capability : String
  descriptorMethodName : String
  legacyMethodName : String
  missingReason : String
  invalidReason : String
  legacyEnabledReason : String
  legacyDisabledReason : String

def typeName : Json → String
  | .null => "NoneType"
  | .bool _ => "bool"
  | .int _ => "int"
  | .float _ => "float"
  | .str _ => "str"
  | .arr _ => "list"
  | .obj _ => "dict"

def isBool : Json → Bool
  | .bool _ => true
  | _ => false

def legacyLifecycleCapability (rule : CapabilityRule) (legacy : Option (Except CallError Json)) :
    Except CallError (Option Dict) :=
  match legacy with
  | none => .ok none
  | some outcome => do
    let answer ← outcome
    let enabled := isBool answer && answer.truthy
    return some [("capability", .str rule.capability), ("enabled", .bool enabled), ("status", .str "legacy-bool"),
      ("reason", .str (if enabled then rule.legacyEnabledReason else rule.legacyDisabledReason)),
      ("source", .str rule.legacyMethodName)]

def normalizeLifecycleDescriptor (capability : String) (descriptor : Dict) (source : String) : Dict :=
  let normalized := (descriptor.setdefault "capability" (.str capability)).setdefault "source" (.str source)
  if isBool (normalized.get "runtimeVerified") then
    let normalized := normalized.setdefault "configured" (.bool (normalized.get "endpoint").truthy)
    normalized.set "enabled" (.bool (normalized.get "runtimeVerified").truthy)
  else match normalized.get "status" with
    | .str "configured" =>
      (((normalized.set "configured" (.bool true)).set "runtimeVerified" (.bool false)).set "enabled"
        (.bool false)).setdefault "mode" (.str "configured-not-verified")
    | .str "disabled" =>
      ((normalized.setdefault "configured" (.bool false)).set "runtimeVerified" (.bool false)).set "enabled"
        (.bool false)
    | _ => normalized

def resolveLifecycleCapability (rule : CapabilityRule) (methods : CapabilityMethods) : Except CallError Dict := do
  let rawDescriptor ← match methods.descriptor with
    | none => pure none
    | some (.error exc, plain) => if exc.typeName = "TypeError" then some <$> plain else .error exc
    | some (.ok descriptor, _) => pure (some descriptor)
  -- a method that is missing and one that returns None are not told apart
  let rawDescriptor := rawDescriptor.filter (fun v => match v with
    | .null => false
    | _ => true)
  match rawDescriptor with
  | some (.obj descriptor) =>
    if isBool (Dict.get descriptor "enabled") then
      return normalizeLifecycleDescriptor rule.capability descriptor rule.descriptorMethodName
    else fallback rawDescriptor
  | _ => fallback rawDescriptor
where
  fallback (rawDescriptor : Option Json) : Except CallError Dict := do
    match ← legacyLifecycleCapability rule methods.legacy with
    | some legacyDescriptor =>
      if rawDescriptor.isSome then
        return (legacyDescriptor.set "fallbackFrom" (.str rule.descriptorMethodName)).set "fallbackReason"
          (.str rule.invalidReason)
      else return legacyDescriptor
    | none =>
      match rawDescriptor with
      | some raw =>
        return [("capability", .str rule.capability), ("enabled", .bool false), ("status", .str "invalid"),
          ("reason", .str rule.invalidReason), ("source", .str rule.descriptorMethodName),
          ("rawType", .str (typeName raw))]
      | none =>
        return [("capability", .str rule.capability), ("enabled", .bool false), ("status", .str "unknown"),
          ("reason", .str rule.missingReason)]

def createUserRule : CapabilityRule where
  capability := "create_user_via_ui"
  descriptorMethodName := "directory_user_create_capability"
  legacyMethodName := "supports_directory_user_create"
  missingReason :=
    "Adapter does not expose directory_user_create_capability() or supports_directory_user_create()."
  invalidReason := "Adapter returned an invalid directory_user_create_capability() descriptor."
  legacyEnabledReason := "Adapter reports create_user_via_ui support via supports_directory_user_create()."
  legacyDisabledReason := "Adapter reports create_user_via_ui is disabled via supports_directory_user_create()."

def assignUserRule : CapabilityRule where
  capability := "assign_user_to_group_via_ui"
  descriptorMethodName := "user_group_membership_update_capability"
  legacyMethodName := "supports_user_group_membership_update"
  missingReason := "Adapter does not expose user_group_membership_update_capability() " ++
    "or supports_user_group_membership_update()."
  invalidReason := "Adapter returned an invalid user_group_membership_update_capability() descriptor."
  legacyEnabledReason := "Adapter reports assign_user_to_group_via_ui support via " ++
    "supports_user_group_membership_update()."
  legacyDisabledReason := "Adapter reports assign_user_to_group_via_ui is disabled via " ++
    "supports_user_group_membership_update()."

section
variable (api : Adapter)

/-- `describe_lifecycle_capabilities()`: the descriptors of the two capabilities. -/
def describeLifecycleCapabilities : WorkflowBlock (Dict × Dict) := do
  let fr ← Block.frame
  Block.assign (fun fr => { fr with described := fr.described + 1 })
  let createUser ← Block.ofExcept (resolveLifecycleCapability createUserRule (api.directoryUserCreate fr.described))
  let assignUser ← Block.ofExcept
    (resolveLifecycleCapability assignUserRule (api.userGroupMembershipUpdate fr.described))
  return (createUser, assignUser)

def getSupportedMutationSteps : WorkflowBlock (List String) := do
  let supported :=
    ["create_group_via_ui", "assign_user_to_group_via_ui", "create_policy_via_ui", "assign_policy_to_group_via_ui"]
  let capabilities ← describeLifecycleCapabilities api
  let enabled ← Block.ofExcept (item capabilities.1 "enabled")
  match enabled with
  | .bool true => return supported ++ ["create_user_via_ui"]
  | _ => return supported

/-! ## Scenario mutation support -/

structure MutationSupport where
  name : Json
  mutationSteps : List String
  supportedSteps : List String
  unsupportedSteps : List String

/-- `[step for step in steps if step.endswith("_via_ui")]`. -/
def mutationStepsOf : Json → Except CallError (List String)
  | .arr steps => do
    let names ← steps.mapM (fun step => match step with
      | .str name => .ok name
      | _ => .error (.other "AttributeError" "object has no attribute 'endswith'"))
    return names.filter (fun name => decide ("_via_ui".toList <:+ name.toList))
  | .str _ => .ok []
  | .obj steps => .ok ((Dict.keys steps).filter (fun name => decide ("_via_ui".toList <:+ name.toList)))
  | _ => .error notIterable

/-- `[step for step in steps if step in self.get_supported_mutation_steps()]`, or `not in`. -/
def selectSteps (wanted : Bool) : List String → WorkflowBlock (List String)
  | [] => return []
  | step :: steps => do
    let supported ← getSupportedMutationSteps api
    let rest ← selectSteps wanted steps
    return if decide (step ∈ supported) = wanted then step :: rest else rest

def describeScenarioMutationSupport (callbacks : Callbacks) : WorkflowBlock MutationSupport := do
  let scenario ← Block.ofExcept callbacks.loadScenarioPack
  let steps ← Block.ofExcept (item scenario "steps")
  let mutationSteps ← Block.ofExcept (mutationStepsOf steps)
  let supportedSteps ← selectSteps api true mutationSteps
  let unsupportedSteps ← selectSteps api false mutationSteps
  let name ← Block.ofExcept (item scenario "name")
  return ⟨name, mutationSteps, supportedSteps, unsupportedSteps⟩

end

/-! ## Cleanup -/

structure Operation where
  resource : String
  identifier : Json
  endpoint : Endpoint
  kwargs : Dict

def Operation.toDict (o : Operation) : Dict :=
  [("resource", .str o.resource), ("identifier", o.identifier), ("method", .str o.endpoint.method)]

section
variable (repr : Json → String) (otherInt : Json → Except CallError Int) (api : Adapter)

def recordOperation (resource idKey argument : String) (endpoint : Endpoint) (record : Option Dict) :
    Except CallError (List Operation) :=
  let id := recordId idKey (record.getD [])
  if id.isNone then .ok []
  else do
    let number ← intOf otherInt id
    return [⟨resource, .str (pyStr repr id), endpoint, [(argument, .int number)]⟩]

def cleanupOperations (policy profile : Option Dict) (groupDn : Json) (deleteGroup : Bool) :
    Except CallError (List Operation) := do
  let policies ← recordOperation repr otherInt "policy" "policyId" "policy_id" .deletePolicy policy
  let profiles ← recordOperation repr otherInt "profile" "profileId" "profile_id" .deleteProfile profile
  let groups := if deleteGroup && groupDn.truthy then [⟨"group", groupDn, .deleteUserGroup, [("dn", groupDn)]⟩] else []
  return policies ++ profiles ++ groups

/-- The loop over the operations: the failures, in order. -/
def runOperations : List Operation → WorkflowBlock (List Dict)
  | [] => return []
  | o :: operations => do
    let failed ← Block.tryExcept (do let _ ← call o.endpoint o.kwargs (api.delete o.endpoint); return [])
      (fun exc => return [o.toDict ++ [("error", .str exc.message)]])
    let rest ← runOperations operations
    return failed ++ rest

def cleanupRoundtripArtifacts (policy profile : Option Dict) (groupDn : Json) (deleteGroup : Bool) :
    WorkflowBlock Dict := do
  let operations ← Block.ofExcept (cleanupOperations repr otherInt policy profile groupDn deleteGroup)
  let failures ← runOperations api operations
  let status :=
    if operations.isEmpty then "not_required" else if failures.isEmpty then "completed" else "partial_failure"
  return [("status", .str status), ("attempted", .arr (operations.map (fun o => .obj o.toDict))),
    ("failed", .arr (failures.map .obj))]

/-! ## The round trip -/

structure Request where
  scenarioName : String
  groupName : String
  userUid : String
  createUserUid : Option String
  existingGroupDn : Option String
  selectedOuDn : Option String
  scriptContents : String

/-- The name of a group that was created: as the response has it, or as it was asked for. -/
def createdGroupDn (groupName selectedOuDn : String) (group : Dict) : Json :=
  (group.get "distinguishedName").orElse ((group.get "dn").orElse (.str s!"cn={groupName},{selectedOuDn}"))

structure GroupStage where
  groupResult : Json
  existingGroupDn : Json
  executionMode : String
  fallbackReason : Option String

/-- The name that the policy is executed on. -/
def GroupStage.groupDn (stage : GroupStage) (groupName selectedOuDn : String) : Except CallError Json :=
  match stage.groupResult with
  | .obj group => .ok ((Dict.get group "distinguishedName").orElse ((Dict.get group "dn").orElse
      (stage.existingGroupDn.orElse (.str s!"cn={groupName},{selectedOuDn}"))))
  | _ => .error noAttributeGet

variable (title : String → String) (callbacks : Callbacks) (r : Request)

/-- `bool(capability.get("configured", capability.get("enabled")))`. -/
def isConfigured (capability : Dict) : Bool :=
  ((capability.lookup "configured").getD (capability.get "enabled")).truthy

/-- The user of the round trip, created when it is asked for. -/
def createUser : WorkflowBlock (String × Option Dict) :=
  match r.createUserUid with
  | none => return (r.userUid, none)
  | some uid => do
    let capabilities ← describeLifecycleCapabilities api
    if !isConfigured capabilities.1 then
      Block.raise (.other "ValueError"
        s!"scenario {repr (.str r.scenarioName)} does not currently configure create_user_via_ui")
    else do
      let selectedOuDn ← Block.ofExcept callbacks.getDirectoryUserBaseDn
      let commonName := title (String.ofList (uid.toList.map (fun c => if c = '-' then ' ' else c)))
      let created ← call .createDirectoryUser [("uid", .str uid), ("common_name", .str commonName),
        ("surname", .str "Scenario"), ("selected_ou_dn", .str selectedOuDn)] api.createDirectoryUser
      return (uid, some created)

/-- The group: the one given, one that is created, or an existing one when the creation is refused. -/
def obtainGroup (selectedOuDn activeUserUid : String) (checkedEntries : Json) : WorkflowBlock GroupStage :=
  match r.existingGroupDn with
  | some existingGroupDn => do
    let groupResult ← call .addDirectoryUserToExistingGroup [("group_dn", .str existingGroupDn),
      ("user_uid", .str activeUserUid)] api.addDirectoryUserToExistingGroup
    return ⟨groupResult, .str existingGroupDn, "existing_group_membership_update", none⟩
  | none =>
    Block.tryExcept
      (do
        let group ← call .createUserGroup [("group_name", .str r.groupName), ("checked_entries", checkedEntries),
          ("selected_ou_dn", .str selectedOuDn)] api.createUserGroup
        Block.assign (fun fr =>
          { fr with groupDn := createdGroupDn r.groupName selectedOuDn group, deleteGroup := true })
        return ⟨.obj group, .null, "group_create", none⟩)
      (fun exc => match exc with
        | .other .. => Block.raise exc
        | .httpError _ _ response =>
          match response.map HttpResponse.statusCode with
          | none => Block.raise exc
          | some statusCode =>
            if r.createUserUid.isSome ∨ statusCode ∉ [406, 417] then Block.raise exc
            else do
              let existingGroupDn ← Block.ofExcept callbacks.getExistingUserGroupDn
              Block.assign (fun fr => { fr with groupDn := .str existingGroupDn })
              return ⟨.obj [("distinguishedName", .str existingGroupDn), ("fallback", .str "existing_user_group")],
                .str existingGroupDn, "existing_group_fallback",
                some s!"create_user_group returned HTTP {statusCode}"⟩)

def requiredSteps : List String := ["create_policy_via_ui", "assign_policy_to_group_via_ui"]

def appliedSteps (executionMode : String) (createdUser : Bool) : List String :=
  requiredSteps ++
    (if executionMode = "group_create" then ["create_group_via_ui", "assign_user_to_group_via_ui"]
    else if executionMode = "existing_group_membership_update" then ["assign_user_to_group_via_ui"] else []) ++
    (if createdUser then ["create_user_via_ui"] else [])

def roundtripResult (stage : GroupStage) (activeUserUid : String) (createdUser : Option Dict) (groupDn : Json)
    (profile policy : Dict) (statusCode : Int) : Dict :=
  [("scenario", .str r.scenarioName),
    ("appliedSteps", .strs (sortedUnique (appliedSteps stage.executionMode createdUser.isSome)).val),
    ("createdUser", createdUser.elim .null .obj), ("activeUserUid", .str activeUserUid),
    ("groupName", .str r.groupName), ("groupDn", groupDn), ("groupResult", stage.groupResult),
    ("profile", .obj profile), ("policy", .obj policy), ("policyExecutionStatusCode", .int statusCode),
    ("executionMode", .str stage.executionMode), ("fallbackReason", stage.fallbackReason.elim .null .str)]

def roundtripBody (selectedOuDn activeUserUid : String) (createdUser : Option Dict) (checkedEntries : Json) :
    WorkflowBlock Unit := do
  let stage ← obtainGroup api callbacks r selectedOuDn activeUserUid checkedEntries
  let profile ← call .createScriptProfile [("label", .str s!"{r.groupName}-script-profile"),
    ("description", .str s!"Scenario {r.scenarioName} script profile"), ("script_contents", .str r.scriptContents)]
    api.createScriptProfile
  Block.assign (fun fr => { fr with profile := some profile.val })
  let policy ← call .createPolicy [("label", .str s!"{r.groupName}-policy"),
    ("description", .str s!"Scenario {r.scenarioName} policy"), ("profiles", .arr [.obj profile.val]),
    ("active", .bool false)] api.createPolicy
  Block.assign (fun fr => { fr with policy := some policy.val })
  let policyId ← Block.ofExcept (intOf otherInt (recordId "policyId" policy.val))
  let groupDn ← Block.ofExcept (stage.groupDn r.groupName selectedOuDn)
  Block.assign (fun fr => { fr with groupDn := groupDn })
  let response ← call .executePolicy [("policy_id", .int policyId), ("dn", groupDn)] api.executePolicy
  let result := roundtripResult r stage activeUserUid createdUser groupDn profile.val policy.val response.statusCode
  Block.assign (fun fr => { fr with result := some result })

def cleanupFrame : WorkflowBlock Unit := do
  let fr ← Block.frame
  let cleanup ← cleanupRoundtripArtifacts repr otherInt api fr.policy fr.profile fr.groupDn fr.deleteGroup
  Block.assign (fun fr => { fr with cleanup := some cleanup })

/-- The organizational unit of the group: the one given, if there is one. -/
def selectedOu : WorkflowBlock String :=
  match r.selectedOuDn.filter (· ≠ "") with
  | some selectedOuDn => return selectedOuDn
  | none => Block.ofExcept callbacks.getUserGroupBaseDn

def executeUserGroupPolicyRoundtrip : WorkflowBlock Dict := do
  let support ← describeScenarioMutationSupport api callbacks
  if !decide (requiredSteps ⊆ support.supportedSteps) then
    Block.raise (.other "ValueError" (s!"scenario {repr (.str r.scenarioName)} does not expose the required " ++
      s!"supported mutation steps: {repr (.strs (sortedUnique requiredSteps).val)}"))
  else do
    let selectedOuDn ← selectedOu callbacks r
    Block.assign (fun fr => { fr with groupDn := r.existingGroupDn.elim .null .str })
    let user ← createUser repr api title callbacks r
    let entry ← Block.ofExcept (callbacks.buildDirectoryUserEntry user.1)
    Block.tryFinally (roundtripBody otherInt api callbacks r selectedOuDn user.1 user.2 (.arr [entry]))
      (cleanupFrame repr otherInt api)
    let fr ← Block.frame
    match fr.result with
    | some result => return result.set "cleanup" (fr.cleanup.elim .null .obj)
    | none => Block.raise (.other "RuntimeError" "roundtrip execution did not produce a result")

end

def Frame.initial : Frame := ⟨[], 0, .null, false, none, none, none, none⟩

end Lider.PolicyWorkflow
