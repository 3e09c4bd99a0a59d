import LiderPlatform.PyBlocks
import LiderPlatform.PyValues
import LiderPlatform.Worklist
import Mathlib.Algebra.Order.Group.Unbundled.Int
import Mathlib.Logic.Function.Basic
/-!
# PlatformExporter — rounds of probes and their metrics (`services/platform-exporter/exporter.py`)

A round logs in, asks three services of the API, the messaging server and the directory, and compares the three counts
of agents.  A probe that cannot reach its service has failed, and the round goes on; any other exception ends the round.
Every probe records its result, also one that raises.
-/
namespace Lider.PlatformExporter

open Py Py.Block

/-! ## Metrics -/

inductive Probe where
  | jwtLogin
  | dashboardInfo
  | agentList
  | computerTree
  | xmppRegisteredUsers
  | ldapAgentCount
deriving DecidableEq

inductive Source where
  | liderapi
  | ldap
  | xmpp
deriving DecidableEq

/-- The metrics of the registry; `none` is a gauge never set, and a histogram is the values it observed. -/
structure Metrics where
  results : Probe → Bool → Nat
  success : Probe → Option Bool
  lastDuration : Probe → Option ℚ
  httpStatus : Probe → Option Int
  durations : Probe → List ℚ
  lastSuccess : Probe → Option ℚ
  agentCount : Source → Option Int
  delta : Source × Source → Option Int
  totalComputers : Option PyFloat
  treeNodes : Option Int
  platformUp : Option Bool

def Metrics.initial : Metrics where
  results := fun _ _ => 0
  success := fun _ => none
  lastDuration := fun _ => none
  httpStatus := fun _ => none
  durations := fun _ => []
  lastSuccess := fun _ => none
  agentCount := fun _ => none
  delta := fun _ => none
  totalComputers := none
  treeNodes := none
  platformUp := none

/-! ## Replies -/

/-- What a probe may raise, with its text: a `RequestException`, or another exception. -/
inductive ProbeError where
  | request (text : String)
  | other (text : String)

def ProbeError.isRequest : ProbeError → Bool
  | .request _ => true
  | .other _ => false

def ProbeError.text : ProbeError → String
  | .request text => text
  | .other text => text

/-- A response, with what `_safe_json` makes of it: `none` when its body is no document. -/
structure Response where
  status : Int
  json : Option Json

abbrev Reply := Except ProbeError Response

/-- What is found over a connection to the directory: the answer of `search`, `len(conn.entries)`, and what leaving the
`with` block raises, if it raises. -/
structure LdapSearch where
  success : Bool
  entries : Except String Int
  leaving : Option String

/-- What the services answer in one round; a connection to the directory, or its search, may fail. -/
structure Round where
  login : Reply
  dashboard : Reply
  agents : Reply
  tree : Reply
  users : Reply
  ldap : Except String LdapSearch

inductive FloatError where
  | typeError
  | valueError
  | overflowError

/-- The readings of the clock, and `float(v)`. -/
structure Setting where
  now : Nat → ℚ
  float : Json → Except FloatError PyFloat

/-! ## Blocks -/

/-- The exporter during a round, with the variables of the probe that runs. -/
structure Frame where
  metrics : Metrics
  /-- How often the clock has been read. -/
  readings : Nat
  /-- `"Authorization" in session.headers`. -/
  authorized : Bool
  response : Option Response
  success : Bool
  count : Int

abbrev ProbeBlock := Block Frame ProbeError

def raised {α : Type} (r : Except PyExc α) : ProbeBlock α := ofExcept (r.mapError (fun e => .other e.text))

def setMetrics (f : Metrics → Metrics) : ProbeBlock Unit := Block.assign (fun fr => { fr with metrics := f fr.metrics })

def setSuccess (success : Bool) : ProbeBlock Unit := Block.assign (fun fr => { fr with success := success })

def setCount (count : Int) : ProbeBlock Unit := Block.assign (fun fr => { fr with count := count })

def isList : Json → Bool
  | .arr _ => true
  | _ => false

def isDict : Json → Bool
  | .obj _ => true
  | _ => false

/-- A tree as `_count_tree_nodes` walks it: what is no dictionary, or has no list under `childEntries`, has no children. -/
def nodeTree : Worklist.Forest Json where
  kids := fun node =>
    match node with
    | .obj d => match d.lookup "childEntries" with
      | some (.arr children) => children
      | _ => []
    | _ => []
  grounded := by
    refine ⟨sizeOf, fun node => ?_⟩
    have hlist : ∀ xs : List Json, (xs.map sizeOf).sum < sizeOf xs := by
      intro xs
      induction xs with
      | nil => simp
      | cons x xs ih => simp only [List.map_cons, List.sum_cons, List.cons.sizeOf_spec]; omega
    have hlookup : ∀ (d : Dict) (v : Json), d.lookup "childEntries" = some v → sizeOf v < sizeOf d := by
      intro d v h
      induction d with
      | nil => exact nomatch h
      | cons item d ih =>
        obtain ⟨key, w⟩ := item
        rw [List.lookup_cons] at h
        simp only [List.cons.sizeOf_spec, Prod.mk.sizeOf_spec]
        split at h
        · obtain rfl := Option.some.inj h
          omega
        · have := ih h
          omega
    split
    · rename_i d
      split
      · rename_i children hchildren
        have hd := hlookup d _ hchildren
        have hc := hlist children
        simp only [Json.arr.sizeOf_spec, Json.obj.sizeOf_spec] at hd ⊢
        omega
      · simp
    · simp only [List.map_nil, List.sum_nil]
      cases node <;> simp

/-- `_count_tree_nodes`; the last of the nodes is the top of its stack. -/
def countTreeNodes : Json → Int
  | .arr nodes => ((nodeTree.run Worklist.stack (fun total _ => total + 1) 0 nodes.reverse : Nat) : Int)
  | _ => 0

section
variable (m : Setting)

def time : ProbeBlock ℚ := fun fr => (.ok (m.now fr.readings), { fr with readings := fr.readings + 1 })

/-- `.labels(…, result=result).inc()`. -/
def counted (results : Bool → Nat) (success : Bool) : Bool → Nat := Function.update results success (results success + 1)

/-- `_record_probe`. -/
def recordProbe (probe : Probe) (success : Bool) (duration : ℚ) (httpStatus : Option Int) : ProbeBlock Unit := do
  setMetrics (fun x => { x with results := Function.update x.results probe (counted (x.results probe) success) })
  setMetrics (fun x => { x with success := Function.update x.success probe (some success) })
  setMetrics (fun x => { x with lastDuration := Function.update x.lastDuration probe (some duration) })
  match httpStatus with
  | some status => setMetrics (fun x => { x with httpStatus := Function.update x.httpStatus probe (some status) })
  | none => pure ()
  setMetrics (fun x => { x with durations := Function.update x.durations probe (x.durations probe ++ [duration]) })
  if success then
    let now ← time m
    setMetrics (fun x => { x with lastSuccess := Function.update x.lastSuccess probe (some now) })

/-- What is recorded when a probe ends: its success, and the status it saw. -/
structure Ending where
  success : Frame → Bool
  httpStatus : Frame → Option Int

/-- A probe: its body, whose exceptions it handles if `handles` says so, and the record at the end. -/
def probing (probe : Probe) (handles : ProbeError → Bool) (ending : Ending) (body : ProbeBlock (Bool × Int)) :
    ProbeBlock (Bool × Int) := do
  let started ← time m
  Block.assign (fun fr => { fr with response := none, success := false, count := 0 })
  tryFinally
    (tryExcept body (fun e => do
      if handles e then return (false, (← frame).count) else raise e))
    (do
      let fr ← frame
      let finished ← time m
      recordProbe m probe (ending.success fr) (finished - started) (ending.httpStatus fr))

def sawResponse (success : Frame → Bool) : Ending := ⟨success, fun fr => fr.response.map Response.status⟩

/-- `response = …`. -/
def post (reply : Reply) : ProbeBlock Response := do
  let response ← ofExcept reply
  Block.assign (fun fr => { fr with response := some response })
  return response

/-- `_safe_json(response) or default`. -/
def Response.payload (response : Response) (default : Json) : Json := (response.json.getD .null).orElse default

/-- `_probe_login`. -/
def probeLogin (reply : Reply) : ProbeBlock (Bool × Int) :=
  probing m .jwtLogin ProbeError.isRequest
    (sawResponse (fun fr => fr.response.any (fun response => response.status = 200) && fr.authorized)) do
      let response ← post reply
      let token ← raised (getOr (response.payload (.obj [])) "token" .null)
      let success := decide (response.status = 200) && token.truthy
      if success then Block.assign (fun fr => { fr with authorized := true })
      return (success, 0)

/-- `0.0`. -/
def zero : PyFloat := .finite ⟨0#64, by decide⟩

/-- The total of the dashboard, under the first of its keys with a value. -/
def totalOf (payload : Dict) : Json :=
  (payload.get "totalComputers").orElse ((payload.get "computerCount").orElse ((payload.get "totalAgent").orElse (.int 0)))

/-- `_probe_dashboard_info`. -/
def probeDashboardInfo (reply : Reply) : ProbeBlock (Bool × Int) :=
  probing m .dashboardInfo ProbeError.isRequest (sawResponse Frame.success) do
    let response ← post reply
    let payload := response.payload (.obj [])
    let success := decide (response.status = 200) && isDict payload
    setSuccess success
    match success, payload with
    | true, .obj payload =>
      match m.float (totalOf payload) with
      | .ok total => setMetrics (fun x => { x with totalComputers := some total })
      | .error .overflowError => raise (.other "int too large to convert to float")
      | .error _ => setMetrics (fun x => { x with totalComputers := some zero })
    | _, _ => pure ()
    return (success, 0)

/-- What the probes of the counted agents end with. -/
def publish (source : Source) : ProbeBlock (Bool × Int) := do
  let fr ← frame
  setMetrics (fun x => { x with agentCount := Function.update x.agentCount source (some fr.count) })
  return (fr.success, fr.count)

/-- The number of agents in a reply: of those under `content` or, if these are no list, under `agents`. -/
def agentsOf (payload : Json) : Except PyExc (Option Int) := do
  match ← getOr payload "content" .null with
  | .arr content => return some content.length
  | _ =>
    match ← getOr payload "agents" .null with
    | .obj agents => return some (← lenOf ((agents.lookup "content").getD (.arr [])))
    | _ => return none

/-- `_probe_agent_list`. -/
def probeAgentList (reply : Reply) : ProbeBlock (Bool × Int) :=
  probing m .agentList ProbeError.isRequest (sawResponse Frame.success) do
    let response ← post reply
    match ← raised (agentsOf (response.payload (.obj []))) with
    | some count =>
      setCount count
      setSuccess (decide (response.status = 200))
    | none => pure ()
    publish .liderapi

/-- The nodes of a tree: the reply itself or, if it is no list, what it has under `entries`. -/
def nodesOf (payload : Json) : Except PyExc Json :=
  if isList payload then .ok payload else getOr (payload.orElse (.obj [])) "entries" (.arr [])

/-- `_probe_computer_tree`. -/
def probeComputerTree (reply : Reply) : ProbeBlock (Bool × Int) :=
  probing m .computerTree ProbeError.isRequest (sawResponse Frame.success) do
    let response ← post reply
    let nodes ← raised (nodesOf (response.json.getD .null))
    let success := decide (response.status = 200) && isList nodes
    setSuccess success
    let nodeCount := countTreeNodes nodes
    setCount nodeCount
    setMetrics (fun x => { x with treeNodes := some nodeCount })
    return (success, nodeCount)

/-- `str(user).startswith("ahenk")`: no value but a text is shown as a text that starts so. -/
def isAhenk : Json → Bool
  | .str user => "ahenk".toList.isPrefixOf user.toList
  | _ => false

def countUsers : Json → Int
  | .arr users => (users.countP isAhenk : Nat)
  | _ => 0

/-- `_probe_ejabberd_registered_users`. -/
def probeEjabberdRegisteredUsers (reply : Reply) : ProbeBlock (Bool × Int) :=
  probing m .xmppRegisteredUsers ProbeError.isRequest (sawResponse Frame.success) do
    let response ← post reply
    let payload := response.payload (.arr [])
    setSuccess (decide (response.status = 200) && isList payload)
    setCount (countUsers payload)
    publish .xmpp

/-- `_probe_ldap_agent_count`: every exception is handled, also one that is raised after the search. -/
def probeLdapAgentCount (reply : Except String LdapSearch) : ProbeBlock (Bool × Int) :=
  probing m .ldapAgentCount (fun _ => true)
    ⟨Frame.success, fun fr => if fr.success then some 200 else none⟩ do
      let search ← ofExcept (reply.mapError .other)
      setSuccess search.success
      setCount (← ofExcept (search.entries.mapError .other))
      match search.leaving with
      | some e => raise (.other e)
      | none => pure ()
      publish .ldap

/-- `_update_deltas`. -/
def updateDeltas (agentCounts : Source → Int) : ProbeBlock Unit := do
  setDelta .liderapi .ldap
  setDelta .liderapi .xmpp
  setDelta .ldap .xmpp
where
  setDelta (left right : Source) : ProbeBlock Unit :=
    let delta := |agentCounts left - agentCounts right|
    setMetrics (fun x => { x with delta := Function.update x.delta (left, right) (some delta) })

/-- The `try` block of `probe_forever`, with `overall_success`. -/
def probes (r : Round) : ProbeBlock Bool := do
  let login ← probeLogin m r.login
  let dashboard ← probeDashboardInfo m r.dashboard
  let agents ← probeAgentList m r.agents
  let tree ← probeComputerTree m r.tree
  let users ← probeEjabberdRegisteredUsers m r.users
  let ldap ← probeLdapAgentCount m r.ldap
  updateDeltas (fun source => match source with
    | .liderapi => agents.2
    | .ldap => ldap.2
    | .xmpp => users.2)
  let overallSuccess := login.1 && dashboard.1 && agents.1 && tree.1 && users.1 && ldap.1
  setMetrics (fun x => { x with platformUp := some overallSuccess })
  return overallSuccess

/-! ## The exporter -/

/-- `STATE`. -/
structure Health where
  healthy : Bool
  lastRun : ℚ
  lastError : String

structure Exporter where
  metrics : Metrics
  health : Health
  readings : Nat

def Exporter.initial : Exporter := ⟨.initial, ⟨false, 0, ""⟩, 0⟩

/-- One pass of the loop of `probe_forever`, with a session of its own. -/
def Exporter.round (s : Exporter) (r : Round) : Exporter :=
  match probes m r ⟨s.metrics, s.readings, false, none, false, 0⟩ with
  | (.ok overallSuccess, fr) => ⟨fr.metrics, ⟨overallSuccess, m.now fr.readings, ""⟩, fr.readings + 1⟩
  | (.error e, fr) =>
    ⟨{ fr.metrics with platformUp := some false }, ⟨false, m.now fr.readings, e.text⟩, fr.readings + 1⟩

def run (rounds : List Round) : Exporter := rounds.foldl (Exporter.round m) .initial

end

/-- The status of `/health`. -/
def Exporter.healthStatus (s : Exporter) : Int := if s.health.healthy then 200 else 503

end Lider.PlatformExporter
