import LiderPlatform.AgentDetection
import LiderPlatform.PolicyChecks
import LiderPlatform.PyInts
import LiderPlatform.PyValues
import LiderPlatform.Transcripts
/-!
# LegacyScenarios — the legacy scenario engine (`orchestrator/main.py`)

A scenario is a YAML document: steps, each an action with parameters, and assertions.  The engine executes every step,
also after one that failed; what an action raises makes its step fail.  The group, the profile and the policy made last
stay with the runner from one scenario to the next.  The platform is a `Transcripts.Server`, whose answers may depend on
all the requests before.
-/
namespace Lider.LegacyScenarios

open Py Py.Block Transcripts

/-! ## The platform -/

inductive Request where
  | healthCheck
  | isAuthenticated
  | ldapAgentCount
  | registeredCount
  | cAgentCount
  | agentList
  | dashboardInfo
  | computerTree
  | agentExists (agentId : String)
  | isUserRegistered (agentId : String)
  | connectedCount
  | sendTask (entry : Dict) (commandId parameterMap : Json)
  | createComputerGroup (groupName : String) (entry : Dict) (selectedOuDn : Json)
  | createScriptProfile (label : String) (description scriptContents : Json) (scriptType : Int) (scriptParams : Json)
  | createPolicy (label : String) (description profile : Json) (active : Bool)
  | executePolicy (policyId dn : Json)

/-- What a runner is given, and the built-in arithmetic that is not modelled: `a / b`, `rate >= min_pct`, `{rate:.0%}`. -/
structure Setting where
  ahenkCount : Int
  env : String → Option String
  repr : Json → String
  ints : IntText
  divide : Int → Int → PyFloat
  atLeast : PyFloat → Json → Except PyExc Bool
  percent : PyFloat → String
  /-- The answers, an exception by its text; that to `computerTree` is in `tree`. -/
  server : Server Request String Json
  tree : List Request → Except String (List TreeNode)

/-- `self.state`, with the requests made so far. -/
structure Runner where
  lastGroup : Option Json
  lastProfile : Option Json
  lastPolicy : Option Json
  requests : List Request

def Runner.initial : Runner := ⟨none, none, none, []⟩

/-- A block that may raise; an exception is its text. -/
abbrev RunnerBlock := Block Runner String

/-! ## Values -/

def raised {α : Type} (r : Except PyExc α) : RunnerBlock α := ofExcept (r.mapError PyExc.text)

def intErrorText (e : IntError) : String :=
  match e with
  | .valueError => "ValueError"
  | .typeError => "TypeError"
  | .overflowError => "OverflowError"

/-- `text.replace(target, by)`, for a target that is not empty; `skip` is what is left of a match. -/
def replaceFrom (target replacement : Text) : Nat → Text → Text
  | _, [] => []
  | skip + 1, _ :: cs => replaceFrom target replacement skip cs
  | 0, c :: cs =>
    if target.isPrefixOf (c :: cs) then replacement ++ replaceFrom target replacement (target.length - 1) cs
    else c :: replaceFrom target replacement 0 cs

/-- `f"{n:03d}"`. -/
def padded (n : Int) : Text :=
  if n < 0 then '-' :: List.leftpad 2 '0' (Nat.toDigits 10 n.natAbs) else List.leftpad 3 '0' (Nat.toDigits 10 n.natAbs)

section
variable (m : Setting)

/-- A request, with its answer. -/
def ask (r : Request) : RunnerBlock Json := fun st =>
  (m.server st.requests r, { st with requests := st.requests ++ [r] })

def getComputerTree : RunnerBlock (List TreeNode) := fun st =>
  (m.tree st.requests, { st with requests := st.requests ++ [.computerTree] })

/-- `_resolve_var`. -/
def resolveVar (value : Json) : String :=
  let s := (pyStr m.repr value).toList
  let s := replaceFrom "${AHENK_COUNT}".toList (intText m.ahenkCount) 0 s
  String.ofList (replaceFrom "${LAST_AGENT_ID}".toList ("ahenk-".toList ++ padded m.ahenkCount) 0 s)

def pyInt (v : Json) : RunnerBlock Int := ofExcept ((intOfJson m.ints v).mapError intErrorText)

/-- `int(self._resolve_var(params["expected"]))`. -/
def expectedOf (params : Json) : RunnerBlock Int := do
  pyInt m (.str (resolveVar m (← raised (getItem params "expected"))))

/-! ## Results -/

def succeeded (result : Dict) : Bool := (result.get "success").truthy

def failure (detail : String) : Dict := [("success", .bool false), ("detail", .str detail)]

def failureOf (e : String) : Dict := [("success", .bool false), ("detail", .str e), ("error", .str e)]

/-- The result of a step that compares two counts. -/
def compared (unit : String) (actual : Json) (expected : Int) : Dict :=
  [("success", .bool (actual.pyEq (.int expected))),
    ("detail", .str s!"{pyStr m.repr actual}/{String.ofList (intText expected)} {unit}"), ("actual", actual),
    ("expected", .int expected)]

/-! ## Agents -/

/-- The test of `_find_agent_entry`. -/
def isAgentEntry (agentId : Json) (node : Dict) : Except CallError Bool := do
  if ← agentTest node then
    return agentId.isNone || (node.get "uid").pyEq agentId || (node.get "cn").pyEq agentId
  return false

/-- `_find_agent_entry`. -/
def findAgentEntry (nodes : List TreeNode) (agentId : Json) : Except CallError (Option Dict) :=
  searchNodes (isAgentEntry agentId) (.arr (nodesToJson nodes))

/-- `_select_agent_entry`. -/
def selectAgentEntry (agentId : Json) : RunnerBlock Dict := do
  match ← ofExcept ((findAgentEntry (← getComputerTree m) agentId).mapError CallError.message) with
  | some (p :: entry) => return p :: entry
  | _ => raise ("Ajan bulunamadı: " ++ pyStr m.repr (agentId.orElse (.str "first-online")))

/-! ## Actions -/

def checkApiHealth : RunnerBlock Dict := do
  let ok ← ask m .healthCheck
  return [("success", ok), ("detail", .str (if ok.truthy then "API sağlıklı" else "API erişilemez"))]

def checkJwtAuth : RunnerBlock Dict := do
  let ok ← ask m .isAuthenticated
  return [("success", ok), ("detail", .str (if ok.truthy then "JWT auth aktif" else "Auth yok"))]

def checkLdapAgentCount (params : Json) : RunnerBlock Dict := do
  let expected ← expectedOf m params
  return compared m "ajan" (← ask m .ldapAgentCount) expected

/-- One of the registered users is the server's own. -/
def checkXmppAgentCount (params : Json) : RunnerBlock Dict := do
  let expected ← expectedOf m params
  match ← ask m .registeredCount with
  | .int total => return compared m "ajan" (.int (if 0 < total then total - 1 else 0)) expected
  | _ => raise "TypeError"

def checkCAgentCount (params : Json) : RunnerBlock Dict := do
  let expected ← expectedOf m params
  return compared m "c_agent" (← ask m .cAgentCount) expected

def checkDomainAgentCount (params : Json) : RunnerBlock Dict := do
  let expected ← expectedOf m params
  let actual ← raised (lenOf (← ask m .agentList))
  return compared m "domain ajan" (.int actual) expected

def checkDashboardTotal (params : Json) : RunnerBlock Dict := do
  let expected ← expectedOf m params
  let dashboard := (← ask m .dashboardInfo).orElse (.obj [])
  let actual ← pyInt m ((← raised (getOr dashboard "totalComputerNumber" .null)).orElse (.int 0))
  return compared m "dashboard total" (.int actual) expected

def checkComputerTreeCount (params : Json) : RunnerBlock Dict := do
  let expected ← expectedOf m params
  let nodes ← getComputerTree m
  return compared m "tree ajan" (.int (flattenTreeAgentIds m.repr nodes).val.length) expected

/-- One half of `check_agent_exists`: `True` unless it is asked for. -/
def existsIn (params : Json) (flag : String) (r : Request) : RunnerBlock Json := do
  if (← raised (getOr params flag .null)).truthy then ask m r else return .bool true

def checkAgentExists (params : Json) : RunnerBlock Dict := do
  let agentId := resolveVar m (← raised (getItem params "agent_id"))
  let ldapOk ← existsIn m params "check_ldap" (.agentExists agentId)
  let xmppOk ← existsIn m params "check_xmpp" (.isUserRegistered agentId)
  return [("success", if ldapOk.truthy then xmppOk else ldapOk),
    ("detail", .str s!"LDAP={pyStr m.repr ldapOk} XMPP={pyStr m.repr xmppOk}"), ("ldap", ldapOk), ("xmpp", xmppOk)]

/-- `0.90`. -/
def defaultPct : PyFloat := .finite ⟨0x3FECCCCCCCCCCCCD#64, by decide⟩

def checkConnectionRate (params : Json) : RunnerBlock Dict := do
  let minPct ← raised (getOr params "min_pct" (.float defaultPct))
  match ← ask m .connectedCount with
  | .int connected =>
    let rate := m.divide connected (max m.ahenkCount 1)
    let ok ← raised (m.atLeast rate minPct)
    return [("success", .bool ok), ("detail", .str s!"{m.percent rate} ({connected}/{m.ahenkCount})"), ("rate", .float rate)]
  | _ => raise "TypeError"

def sendTask (params : Json) : RunnerBlock Dict := do
  let commandId ← raised (getItem params "command_id")
  let parameterMap ← raised (getOr params "parameter_map" (.obj []))
  let entry ← selectAgentEntry m (← raised (getOr params "agent_id" .null))
  let statusCode ← ask m (.sendTask entry commandId parameterMap)
  return [("success", .bool (statusCode.pyEq (.int 200))),
    ("detail", .str s!"{pyStr m.repr commandId} -> HTTP {pyStr m.repr statusCode}"), ("status_code", statusCode)]

def agentGroupsOu : String :=
  (m.env "LDAP_AGENT_GROUPS_OU").getD
    ("ou=AgentGroups," ++ (m.env "LDAP_BASE_DN").getD "dc=liderahenk,dc=org")

def createComputerGroup (params : Json) : RunnerBlock Dict := do
  let groupName := resolveVar m (← raised (getItem params "group_name"))
  let entry ← selectAgentEntry m (← raised (getOr params "agent_id" .null))
  let selectedOuDn ← raised (getOr params "selected_ou_dn" (.str (agentGroupsOu m)))
  let group ← ask m (.createComputerGroup groupName entry selectedOuDn)
  assign (fun st => { st with lastGroup := some group })
  return [("success", .bool true), ("detail", ← raised (getOr group "distinguishedName" (.str groupName))), ("group", group)]

def createScriptProfile (params : Json) : RunnerBlock Dict := do
  let label := resolveVar m (← raised (getItem params "label"))
  let description ← raised (getOr params "description" (.str ""))
  let scriptContents ← raised (getOr params "script_contents" (.str "#!/bin/bash\nprintf 'ok\\n'"))
  let scriptType ← pyInt m (← raised (getOr params "script_type" (.int 0)))
  let scriptParams ← raised (getOr params "script_params" (.str ""))
  let profile ← ask m (.createScriptProfile label description scriptContents scriptType scriptParams)
  assign (fun st => { st with lastProfile := some profile })
  return [("success", .bool true), ("detail", ← raised (getOr profile "label" (.str "profile"))), ("profile", profile)]

def createPolicy (params : Json) : RunnerBlock Dict := do
  let profile := (← frame).lastProfile.getD .null
  if !profile.truthy then return failure "Önce create_script_profile çalışmalı"
  let label := resolveVar m (← raised (getItem params "label"))
  let description ← raised (getOr params "description" (.str ""))
  let active := (← raised (getOr params "active" (.bool false))).truthy
  let policy ← ask m (.createPolicy label description profile active)
  assign (fun st => { st with lastPolicy := some policy })
  return [("success", .bool true), ("detail", ← raised (getOr policy "label" (.str "policy"))), ("policy", policy)]

def executePolicy : RunnerBlock Dict := do
  let policy := (← frame).lastPolicy.getD .null
  let group := (← frame).lastGroup.getD .null
  if !policy.truthy || !group.truthy then return failure "Önce create_policy ve create_computer_group çalışmalı"
  let policyId ← raised (getItem policy "id")
  let dn ← raised (getItem group "distinguishedName")
  let statusCode ← ask m (.executePolicy policyId dn)
  return [("success", .bool (statusCode.pyEq (.int 200))), ("detail", .str s!"policy -> HTTP {pyStr m.repr statusCode}")]

/-- `time.sleep(min(timeout, 5))`. -/
def sleep (timeout : Json) : Except PyExc Unit :=
  match timeout with
  | .int i => if i < 0 then .error (.runtimeError "sleep length must be non-negative") else .ok ()
  | .bool _ => .ok ()
  | .float (.finite x) => if x.toRat < 0 then .error (.runtimeError "sleep length must be non-negative") else .ok ()
  | .float (.inf negative) =>
    if negative then .error (.runtimeError "sleep length must be non-negative") else .ok ()
  | .float .nan => .error (.runtimeError "Invalid value NaN (not a number)")
  | _ => .error .typeError

def waitForResults (params : Json) : RunnerBlock Dict := do
  let timeout ← raised (getOr params "timeout_seconds" (.int 10))
  raised (sleep timeout)
  return [("success", .bool true), ("detail", .str s!"{pyStr m.repr timeout}sn beklendi")]

def prometheusSnapshot : RunnerBlock Dict := return [("success", .bool true), ("detail", .str "metrik snapshot tamamlandı")]

/-- The body of `_execute_step`. -/
def perform (action params : Json) : RunnerBlock Dict :=
  match action with
  | .str "check_api_health" => checkApiHealth m
  | .str "check_jwt_auth" => checkJwtAuth m
  | .str "check_ldap_agent_count" => checkLdapAgentCount m params
  | .str "check_xmpp_agent_count" => checkXmppAgentCount m params
  | .str "check_c_agent_count" => checkCAgentCount m params
  | .str "check_domain_agent_count" => checkDomainAgentCount m params
  | .str "check_dashboard_total" => checkDashboardTotal m params
  | .str "check_computer_tree_count" => checkComputerTreeCount m params
  | .str "check_agent_exists" => checkAgentExists m params
  | .str "check_connection_rate" => checkConnectionRate m params
  | .str "send_task" => sendTask m params
  | .str "create_computer_group" => createComputerGroup m params
  | .str "create_script_profile" => createScriptProfile m params
  | .str "create_policy" => createPolicy m params
  | .str "execute_policy" => executePolicy m
  | .str "wait_for_results" => waitForResults m params
  | .str "prometheus_snapshot" => prometheusSnapshot
  | action => return failure s!"Bilinmeyen action: {pyStr m.repr action}"

/-- `_execute_step`: the action is looked up outside the handler. -/
def executeStep (step : Json) : RunnerBlock Dict := do
  let action ← raised (getItem step "action")
  let params ← raised (getOr step "params" (.obj []))
  tryExcept (perform m action params) (fun e => return failureOf e)

/-! ## Scenarios -/

structure Results where
  scenario : Json
  steps : List Dict
  passed : Bool
  assertions : List Dict

/-- The loop over the steps; the name of a step is needed once it is executed. -/
def runSteps : List Json → Results → RunnerBlock Results
  | [], results => return results
  | step :: steps, results => do
    let result ← executeStep m step
    let _ ← raised (getItem step "name")
    runSteps steps
      { results with steps := results.steps ++ [result], passed := results.passed && succeeded result }

def assertionResult (type : Json) (passed : Bool) : Dict := [("type", type), ("passed", .bool passed)]

/-- The loop of `_check_assertions`: only `all_steps_passed` can make a scenario fail. -/
def checkAssertions : List Json → Results → RunnerBlock Results
  | [], results => return results
  | assertion :: assertions, results => do
    let type ← raised (getItem assertion "type")
    if type.pyEq (.str "all_steps_passed") then
      let ok := results.steps.all succeeded
      checkAssertions assertions
        { results with assertions := results.assertions ++ [assertionResult type ok], passed := results.passed && ok }
    else
      let ok := if type.pyEq (.str "no_errors") then !results.steps.any (fun s => (s.get "error").truthy) else true
      checkAssertions assertions { results with assertions := results.assertions ++ [assertionResult type ok] }

/-- `run`, on the document that the file holds. -/
def run (scenario : Json) : RunnerBlock Results := do
  let name ← raised (getItem scenario "name")
  let _ ← raised (getOr scenario "description" (.str ""))
  let setup ← raised (getOr scenario "setup" (.obj []))
  let _ ← raised (getOr setup "wait_for_agents" .null)
  let steps ← raised (iterate (← raised (getOr scenario "steps" (.arr []))))
  let results ← runSteps m steps ⟨name, [], true, []⟩
  let assertions ← raised (iterate (← raised (getOr scenario "assertions" (.arr []))))
  checkAssertions assertions results

/-- Scenarios run one after another by one runner, whether or not they raise. -/
def runAll (scenarios : List Json) (st : Runner) : Runner := scenarios.foldl (fun st s => (run m s st).2) st

end

end Lider.LegacyScenarios
