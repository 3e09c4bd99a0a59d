import LiderPlatform.RegistrationArtifacts
/-!
# Orchestrator — the registration orchestrator's loops (`registration-orchestrator/orchestrator.py`)

The orchestrator settles: it collects a verdict, writes it down and sleeps, longer every time, until a verdict passes or
the deadline is over, when it writes one more.  Then it keeps collecting at a steady interval.  A step of the model is one
verdict written, that is one pass through the body of one of the two loops, or the timeout branch; `Control` says where
the program stands between two verdicts.  What it reads of the world is a sequence of collections and one of clock
readings, both arbitrary.
-/
namespace Lider

open Py

/-! ## The world -/

/-- What `__init__` reads and makes up. -/
structure OrchestratorConfig where
  runId : String
  startedAt : String
  runtimeProfile : String
  expectedAgents : Int
  timeoutSeconds : Int
  minBackoffSeconds : Int
  maxBackoffSeconds : Int
  runId_oneLine : OneLine runId
  startedAt_oneLine : OneLine startedAt

/-- The collector's snapshots: it fills in the profile and the number of agents it shares with the orchestrator, and a
time stamp of `utc_now`. -/
abbrev Collected (cfg : OrchestratorConfig) :=
  {s : Snapshot // s.runtimeProfile = cfg.runtimeProfile ∧ s.expectedAgents = cfg.expectedAgents ∧ OneLine s.capturedAt}

/-- What the `i`-th call of `collect_snapshot` returns or raises, and the `i`-th reading of the clock. -/
structure World (cfg : OrchestratorConfig) where
  collect : Nat → Except String (Collected cfg)
  monotonic : Nat → ℚ

/-- `self.run_manifest`, with what `write_artifacts` set last. -/
def OrchestratorConfig.runManifest (cfg : OrchestratorConfig) (last : Option LastVerdict) : RunManifest where
  runId := cfg.runId
  runtimeProfile := cfg.runtimeProfile
  expectedAgents := cfg.expectedAgents
  startedAt := cfg.startedAt
  timeoutSeconds := cfg.timeoutSeconds
  minSeconds := cfg.minBackoffSeconds
  maxSeconds := cfg.maxBackoffSeconds
  last := last

/-! ## Verdicts -/

def noIds : AgentIds := ⟨[], List.Pairwise.nil⟩

def emptySnapshot (cfg : OrchestratorConfig) : Collected cfg :=
  ⟨{ runtimeProfile := cfg.runtimeProfile
     expectedAgents := cfg.expectedAgents
     capturedAt := cfg.startedAt
     ldapAgentIds := noIds
     xmppRegisteredAgentIds := noIds
     xmppConnectedAgentIds := noIds
     cAgentIds := noIds
     domainAgentIds := noIds
     computerTreeAgentIds := noIds
     dashboard := ⟨⟨.null, trivial⟩, ⟨.null, trivial⟩⟩
     runtimeConfigFingerprint := none }, rfl, rfl, cfg.startedAt_oneLine⟩

def verdictOf (cfg : OrchestratorConfig) (snapshot : Snapshot) (timedOut : Bool) (errors : List String) : Verdict :=
  let evaluation := evaluateSnapshot snapshot timedOut errors
  { runId := cfg.runId
    status := evaluation.status
    runtimeProfile := cfg.runtimeProfile
    expectedAgents := cfg.expectedAgents
    checks := evaluation.checks
    failedChecks := evaluation.failedChecks
    taxonomy := evaluation.taxonomy
    surfaces := evaluation.surfaces
    perAgent := evaluation.perAgent
    capturedAt := evaluation.capturedAt
    snapshot := snapshot }

section
variable {cfg : OrchestratorConfig}

/-- The snapshot a collection gives, and what it raised. -/
def collected : Except String (Collected cfg) → Collected cfg × List String
  | .ok snapshot => (snapshot, [])
  | .error text => (emptySnapshot cfg, [text])

/-- `collect_verdict`, with the `i`-th collection; the verdict holds its snapshot. -/
def collectVerdict (w : World cfg) (i : Nat) (timedOut : Bool) : Verdict :=
  let result := collected (w.collect i)
  verdictOf cfg result.1.val timedOut result.2

/-! ## The artifacts -/

/-- The arguments of one call of `write_artifacts`; the snapshot is the verdict's. -/
structure Call where
  verdict : Verdict
  attempt : Nat
  phase : Phase

def Call.lastVerdict (c : Call) : LastVerdict := ⟨c.verdict.capturedAt, c.verdict.status, c.attempt⟩

/-- The event `write_artifacts` appends. -/
def Call.event (c : Call) (m : RunManifest) : Event where
  runId := m.runId
  attempt := c.attempt
  phase := c.phase
  status := c.verdict.status
  failedChecks := c.verdict.failedChecks
  taxonomy := c.verdict.taxonomy
  capturedAt := c.verdict.capturedAt

/-- The five writes of `write_artifacts`, in order. -/
def artifactWrites (nt : NumText) (cfg : OrchestratorConfig) (c : Call) : List Write :=
  let manifest := cfg.runManifest (some c.lastVerdict)
  [.replace "run-manifest.json" (jsonFile nt (.obj manifest.toDict)),
    .replace "registration-verdict.json" (jsonFile nt (.obj c.verdict.toDict)),
    .replace "failure-summary.json" (jsonFile nt (.obj (buildFailureSummary manifest c.verdict).toDict)),
    .replace "registration-snapshot.json"
      (jsonFile nt (.obj [("snapshot", .obj c.verdict.snapshot.toDict), ("verdict", .obj c.verdict.toDict)])),
    .append "registration-events.jsonl" (encode ((c.event manifest).line nt))]

/-! ## The machine -/

/-- Where the program stands: in the settle loop with the attempts made and the next sleep, past the deadline before the
timeout verdict, or in the steady loop. -/
inductive Control where
  | settling (attempt : Nat) (backoffSeconds : Int)
  | timingOut (attempt : Nat)
  | steady (attempt : Nat)
deriving DecidableEq

/-- The orchestrator and its directory; `log` and `sleeps` record the events appended and the settle loop's sleeps. -/
structure OrchestratorState where
  last : Option LastVerdict
  files : Files
  control : Control
  collections : Nat
  readings : Nat
  log : List Event
  sleeps : List ℚ

/-- `__init__` on a directory with arbitrary files, and the clock's reading for the deadline. -/
def initial (nt : NumText) (cfg : OrchestratorConfig) (fs : Files) : OrchestratorState where
  last := none
  files := (fs.write "registration-events.jsonl" (encode [])).write "run-manifest.json"
    (jsonFile nt (.obj (cfg.runManifest none).toDict))
  control := .settling 0 cfg.minBackoffSeconds
  collections := 0
  readings := 1
  log := []
  sleeps := []

def deadline (w : World cfg) : ℚ := w.monotonic 0 + cfg.timeoutSeconds

/-- The next call of `write_artifacts`. -/
def OrchestratorState.call (w : World cfg) (s : OrchestratorState) : Call :=
  match s.control with
  | .settling attempt _ => ⟨collectVerdict w s.collections false, attempt + 1, .settle⟩
  | .timingOut attempt => ⟨collectVerdict w s.collections true, attempt, .timeout⟩
  | .steady attempt => ⟨collectVerdict w s.collections false, attempt + 1, .steadyState⟩

def OrchestratorState.writeArtifacts (nt : NumText) (cfg : OrchestratorConfig) (s : OrchestratorState) (c : Call) :
    OrchestratorState :=
  { s with
    last := some c.lastVerdict
    files := applyAll (artifactWrites nt cfg c) s.files
    collections := s.collections + 1
    log := s.log ++ [c.event (cfg.runManifest (some c.lastVerdict))] }

/-- `run_forever` once `settle_registration` has returned: it reads the counter from the manifest. -/
def OrchestratorState.settled (s : OrchestratorState) : OrchestratorState :=
  { s with control := .steady ((s.last.map LastVerdict.attemptCount).getD 0) }

/-- What follows the call `c` of `write_artifacts`. -/
def OrchestratorState.proceed (w : World cfg) (s : OrchestratorState) (c : Call) : OrchestratorState :=
  match s.control with
  | .settling _ backoffSeconds =>
    if c.verdict.status = .pass then s.settled
    else
      let remaining := deadline w - w.monotonic s.readings
      if remaining ≤ 0 then { s with readings := s.readings + 1, control := .timingOut c.attempt }
      else
        { s with
          readings := s.readings + 1
          sleeps := s.sleeps ++ [min (backoffSeconds : ℚ) (max remaining 0)]
          control := .settling c.attempt (min (backoffSeconds * 2) cfg.maxBackoffSeconds) }
  | .timingOut _ => s.settled
  | .steady _ => { s with control := .steady c.attempt }

/-- One verdict: collected, written down, and acted on. -/
def OrchestratorState.step (nt : NumText) (w : World cfg) (s : OrchestratorState) : OrchestratorState :=
  (s.writeArtifacts nt cfg (s.call w)).proceed w (s.call w)

/-- The run after `n` verdicts, started in a directory with the files `fs`; a run in which `json.dumps` refuses a document
ends there (`WritesUpTo`). -/
def run (nt : NumText) (w : World cfg) (fs : Files) : Nat → OrchestratorState
  | 0 => initial nt cfg fs
  | n + 1 => (run nt w fs n).step nt w

/-- The documents of a call, in the order `write_artifacts` hands them to `json.dumps`. -/
def Call.documents (cfg : OrchestratorConfig) (c : Call) : List Json :=
  let manifest := cfg.runManifest (some c.lastVerdict)
  [.obj manifest.toDict, .obj c.verdict.toDict, .obj (buildFailureSummary manifest c.verdict).toDict,
    .obj [("snapshot", .obj c.verdict.snapshot.toDict), ("verdict", .obj c.verdict.toDict)],
    .obj (c.event manifest).toDict]

/-- The run makes the first `k` writes of the call after `n` verdicts: `json.dumps` has refused no document up to
there. -/
structure WritesUpTo (nt : NumText) (w : World cfg) (fs : Files) (n k : Nat) : Prop where
  manifest : (Json.obj (cfg.runManifest none).toDict).fits nt.maxStrDigits = true
  before : ∀ m < n, ∀ v ∈ ((run nt w fs m).call w).documents cfg, v.fits nt.maxStrDigits = true
  call : ∀ v ∈ (((run nt w fs n).call w).documents cfg).take k, v.fits nt.maxStrDigits = true

end
end Lider
