import LiderPlatform.Registration
import LiderPlatform.AgentIdentity
import LiderPlatform.PyJsonCut
import LiderPlatform.PyFiles
/-!
# RegistrationArtifacts — the documents a registration run leaves

The run manifest, the verdict, its failure summary, the snapshot beside the verdict, and one line of the event log for
each verdict.  Each is a structure and the dictionary it is written as; `*_wf` says the dictionary can be read back.
-/
namespace Lider

open Py

/-! ## Structures -/

/-- The three fields `write_artifacts` sets in the manifest. -/
structure LastVerdict where
  lastVerdictAt : String
  lastStatus : Status
  attemptCount : Nat
deriving DecidableEq

/-- `build_run_manifest`, and the last verdict once there is one. -/
structure RunManifest where
  runId : String
  runtimeProfile : String
  expectedAgents : Int
  startedAt : String
  timeoutSeconds : Int
  minSeconds : Int
  maxSeconds : Int
  last : Option LastVerdict

/-- The verdict of `collect_verdict`. -/
structure Verdict where
  runId : String
  status : Status
  runtimeProfile : String
  expectedAgents : Int
  checks : List (Check × Bool)
  failedChecks : List Check
  taxonomy : List TaxonomyEntry
  surfaces : Surfaces
  perAgent : List AgentState
  capturedAt : String
  snapshot : Snapshot

/-- `build_failure_summary`. -/
structure FailureSummary where
  runId : String
  status : Status
  capturedAt : String
  failedChecks : List Check
  taxonomy : List TaxonomyEntry

def buildFailureSummary (m : RunManifest) (v : Verdict) : FailureSummary :=
  ⟨m.runId, v.status, v.capturedAt, v.failedChecks, v.taxonomy⟩

inductive Phase where
  | settle
  | timeout
  | steadyState
deriving DecidableEq, Repr

def Phase.text : Phase → String
  | .settle => "settle"
  | .timeout => "timeout"
  | .steadyState => "steady-state"

/-- One entry of `registration-events.jsonl`. -/
structure Event where
  runId : String
  attempt : Nat
  phase : Phase
  status : Status
  failedChecks : List Check
  taxonomy : List TaxonomyEntry
  capturedAt : String

/-! ## Dictionaries -/

def optText : Option String → Json
  | none => .null
  | some s => .str s

def Snapshot.toDict (s : Snapshot) : Dict :=
  [("runtimeProfile", .str s.runtimeProfile), ("expectedAgents", .int s.expectedAgents),
    ("capturedAt", .str s.capturedAt), ("ldapAgentIds", idsToJson s.ldapAgentIds),
    ("xmppRegisteredAgentIds", idsToJson s.xmppRegisteredAgentIds),
    ("xmppConnectedAgentIds", idsToJson s.xmppConnectedAgentIds), ("cAgentIds", idsToJson s.cAgentIds),
    ("domainAgentIds", idsToJson s.domainAgentIds), ("computerTreeAgentIds", idsToJson s.computerTreeAgentIds),
    ("dashboard", .obj [("totalComputerNumber", s.dashboard.totalComputerNumber.val),
      ("totalOnlineComputerNumber", s.dashboard.totalOnlineComputerNumber.val)]),
    ("runtimeConfigFingerprint", optText s.runtimeConfigFingerprint)]

def checksToDict (checks : List (Check × Bool)) : Dict := checks.map (fun c => (c.1.name, .bool c.2))

def failedChecksToJson (failed : List Check) : Json := .strs (failed.map Check.name)

def TaxonomyEntry.toJson (e : TaxonomyEntry) : Json :=
  .obj [("code", .str e.code.code), ("severity", .str e.severity), ("details", .strs e.details)]

def taxonomyToJson (taxonomy : List TaxonomyEntry) : Json := .arr (taxonomy.map TaxonomyEntry.toJson)

def Surfaces.toDict (s : Surfaces) : Dict :=
  [("ldapAgentCount", .int s.ldapAgentCount), ("xmppRegisteredCount", .int s.xmppRegisteredCount),
    ("xmppConnectedCount", .int s.xmppConnectedCount), ("cAgentCount", .int s.cAgentCount),
    ("domainAgentCount", .int s.domainAgentCount), ("computerTreeAgentCount", .int s.computerTreeAgentCount),
    ("dashboardTotalComputerNumber", s.dashboardTotalComputerNumber.val),
    ("dashboardTotalOnlineComputerNumber", s.dashboardTotalOnlineComputerNumber.val)]

def AgentState.statesDict (e : AgentState) : Dict := e.states.map (fun f => (f.1.name, .bool f.2))

def AgentState.highestText (e : AgentState) : String :=
  match e.highestState with
  | some state => state.name
  | none => "missing"

def AgentState.toDict (e : AgentState) : Dict :=
  [("agentId", .str e.agentId), ("states", .obj e.statesDict), ("highestState", .str e.highestText),
    ("observability", .obj [("register_sent", .str "inferred_from_xmpp_connected"),
      ("register_accepted", .str "inferred_from_domain_inventory")])]

def Verdict.toDict (v : Verdict) : Dict :=
  [("schemaVersion", .int 1), ("runId", .str v.runId), ("status", .str v.status.text),
    ("runtimeProfile", .str v.runtimeProfile), ("expectedAgents", .int v.expectedAgents),
    ("checks", .obj (checksToDict v.checks)), ("failedChecks", failedChecksToJson v.failedChecks),
    ("taxonomy", taxonomyToJson v.taxonomy), ("surfaces", .obj v.surfaces.toDict),
    ("perAgent", .arr (v.perAgent.map (fun e => .obj e.toDict))), ("capturedAt", .str v.capturedAt),
    ("snapshot", .obj v.snapshot.toDict)]

def LastVerdict.toDict (l : LastVerdict) : Dict :=
  [("lastVerdictAt", .str l.lastVerdictAt), ("lastStatus", .str l.lastStatus.text),
    ("attemptCount", .int l.attemptCount)]

def RunManifest.toDict (m : RunManifest) : Dict :=
  [("schemaVersion", .int 1), ("runId", .str m.runId), ("runtimeProfile", .str m.runtimeProfile),
    ("expectedAgents", .int m.expectedAgents), ("startedAt", .str m.startedAt),
    ("timeoutSeconds", .int m.timeoutSeconds),
    ("backoff", .obj [("minSeconds", .int m.minSeconds), ("maxSeconds", .int m.maxSeconds)])] ++
    match m.last with
    | none => []
    | some l => l.toDict

def FailureSummary.toDict (f : FailureSummary) : Dict :=
  [("schemaVersion", .int 1), ("runId", .str f.runId), ("status", .str f.status.text),
    ("capturedAt", .str f.capturedAt), ("failedChecks", failedChecksToJson f.failedChecks),
    ("taxonomy", taxonomyToJson f.taxonomy)]

def Event.toDict (e : Event) : Dict :=
  [("runId", .str e.runId), ("attempt", .int e.attempt), ("phase", .str e.phase.text),
    ("status", .str e.status.text), ("failedChecks", failedChecksToJson e.failedChecks),
    ("taxonomy", taxonomyToJson e.taxonomy), ("capturedAt", .str e.capturedAt)]

/-- The document `append_event` writes. -/
def Event.text (nt : NumText) (e : Event) : Text := jsonText nt .compact 0 (Json.obj e.toDict).sortKeys

/-- What `append_event` writes. -/
def Event.line (nt : NumText) (e : Event) : Text := e.text nt ++ ['\n']

/-! ## Every dictionary can be read back -/

theorem optText_wf (t : Option String) : (optText t).WF := by cases t <;> trivial

theorem taxonomyToJson_wf (taxonomy : List TaxonomyEntry) : (taxonomyToJson taxonomy).WF := by
  rw [taxonomyToJson, Json.WF, Json.wfList_iff]
  intro v hv
  obtain ⟨e, -, rfl⟩ := List.mem_map.1 hv
  simp [TaxonomyEntry.toJson, Json.WF, Json.WFMembers, Dict.keys, Json.wf_strs]

theorem flags_wf {α : Type} (name : α → String) (flags : List (α × Bool)) (h : (flags.map (fun f => name f.1)).Nodup) :
    (Json.obj (flags.map (fun f => (name f.1, .bool f.2)))).WF := by
  rw [Json.WF, Json.wfMembers_iff]
  refine ⟨by rwa [Dict.keys, List.map_map], fun p hp => ?_⟩
  obtain ⟨f, -, rfl⟩ := List.mem_map.1 hp
  trivial

theorem Snapshot.toDict_wf (s : Snapshot) : (Json.obj s.toDict).WF := by
  simp [Snapshot.toDict, Json.WF, Json.WFMembers, Dict.keys, idsToJson, Json.wf_strs, optText_wf,
    s.dashboard.totalComputerNumber.property, s.dashboard.totalOnlineComputerNumber.property]

theorem Surfaces.toDict_wf (s : Surfaces) : (Json.obj s.toDict).WF := by
  simp [Surfaces.toDict, Json.WF, Json.WFMembers, Dict.keys, s.dashboardTotalComputerNumber.property,
    s.dashboardTotalOnlineComputerNumber.property]

theorem RunManifest.toDict_wf (m : RunManifest) : (Json.obj m.toDict).WF := by
  cases h : m.last <;> simp [RunManifest.toDict, LastVerdict.toDict, h, Json.WF, Json.WFMembers, Dict.keys]

theorem FailureSummary.toDict_wf (f : FailureSummary) : (Json.obj f.toDict).WF := by
  simp [FailureSummary.toDict, Json.WF, Json.WFMembers, Dict.keys, failedChecksToJson, Json.wf_strs, taxonomyToJson_wf]

theorem Event.toDict_wf (e : Event) : (Json.obj e.toDict).WF := by
  simp [Event.toDict, Json.WF, Json.WFMembers, Dict.keys, failedChecksToJson, Json.wf_strs, taxonomyToJson_wf]

/-- An agent's flags are those of the states, in their order. -/
def AgentState.HasStates (e : AgentState) : Prop := e.states.map Prod.fst = RegState.all

theorem AgentState.toDict_wf (e : AgentState) (h : e.HasStates) : (Json.obj e.toDict).WF := by
  have hnames : (e.states.map (fun f => f.1.name)).Nodup := by
    have hmap : e.states.map (fun f => f.1.name) = (e.states.map Prod.fst).map RegState.name := by rw [List.map_map]; rfl
    rw [hmap, h]
    decide
  have hstates := flags_wf RegState.name e.states hnames
  rw [Json.WF] at hstates
  simpa [AgentState.toDict, AgentState.statesDict, Json.WF, Json.WFMembers, Dict.keys] using hstates

theorem Snapshot.agentState_hasStates (s : Snapshot) (agentId : String) : (s.agentState agentId).HasStates := by
  simp [AgentState.HasStates, Snapshot.agentState, Function.comp_def]

end Lider
