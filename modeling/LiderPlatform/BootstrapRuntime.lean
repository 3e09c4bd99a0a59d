import LiderPlatform.HostPorts
import LiderPlatform.RuntimeReadiness
import LiderPlatform.TopologyProfile
/-!
# BootstrapRuntime — the runtime is started in phases (`bootstrap_runtime.py`)

`bootstrap_runtime` looks for host ports that are taken, then runs the compose commands of each phase and polls the
containers until they are as the phase's `wait_for` says or its deadline is over.  A step of the model is one command or
one pass of the polling loop; the trace records them.  `bootstrapRuntime_law` says what any trace is like, whatever
docker and the clock answer.
-/

namespace Guarded

/-! ## Guarded traces -/

variable {α : Type} (permitted : List α → α → Prop)

/-- Every event of the trace was permitted by the events before it. -/
def Trace (trace : List α) : Prop := ∀ before e after, trace = before ++ e :: after → permitted before e

theorem trace_nil : Trace permitted [] := fun before e after h => by cases before <;> cases h

theorem trace_append_singleton {trace : List α} {e : α} (h : Trace permitted trace) (he : permitted trace e) :
    Trace permitted (trace ++ [e]) := by
  intro before x after heq
  rcases List.eq_nil_or_concat after with rfl | ⟨rest, last, rfl⟩
  · obtain ⟨rfl, hlast⟩ := List.append_inj' heq rfl
    obtain rfl := List.singleton_inj.1 hlast
    exact he
  · rw [List.concat_eq_append, ← List.cons_append, ← List.append_assoc] at heq
    obtain ⟨hinit, -⟩ := List.append_inj' heq rfl
    exact h before x rest hinit

end Guarded

namespace Lider

open Py

/-! ## The commands -/

/-- A phase of `bootstrap_phases`. -/
structure RuntimePhase extends BootstrapPhase where
  services : List String
  timeoutSeconds : Option Int
  scaleAhenk : Bool
  noDeps : Bool
  recreateBeforeUp : List String

inductive ComposeCommand where
  | build (services : List String)
  | rm (services : List String)
  | up (noDeps : Bool) (scaleAgents : Option Int) (services : List String)
deriving DecidableEq

/-- The words of a command. -/
def ComposeCommand.args (base : List String) : ComposeCommand → List String
  | .build services => base ++ ["build"] ++ services
  | .rm services => base ++ ["rm", "-sf"] ++ services
  | .up noDeps scaleAgents services =>
    let scale := match scaleAgents with
      | some n => if "ahenk" ∈ services then ["--scale", "ahenk=" ++ String.ofList (intText n)] else []
      | none => []
    base ++ ["up", "-d", "--no-build"] ++ (if noDeps then ["--no-deps"] else []) ++ scale ++ services

/-- How `sock.bind` ends. -/
inductive BindResult where
  | bound
  | osError
  | raised

/-- What a run is given: its arguments, the files, the display of values, and the answers it gets.  The answers are by
the number of questions of their kind before. -/
structure BootInput where
  profile : String
  expectedAgents : Int
  projectName : String
  build : Bool
  composeStack : List ComposeFile
  phases : List RuntimePhase
  pollIntervalSeconds : Option Int
  phaseTimeoutSeconds : Option Int
  topologyContract : TopologyContract
  topologyFiles : ProfileFiles
  osEnviron : Environment
  repr : Json → String
  lower : String → String
  ints : IntText
  returncode : Nat → List String → Int
  ps : Nat → Except PyExc (List Dict)
  bind : Nat → Bool → String → Int → BindResult
  time : Nat → ℚ

/-- What stops a run before its first phase. -/
inductive BootError where
  | topology (e : TopologyError)
  | int (e : IntError)
  | ps (e : PyExc)
  | bind

namespace BootInput

variable (b : BootInput)

def composeBaseCmd : List String :=
  ["docker", "compose"] ++ b.composeStack.flatMap (fun file => ["-f", file.path]) ++ ["-p", b.projectName]

/-- The commands of `_compose_up`, in order. -/
def composeUp (phase : RuntimePhase) : List ComposeCommand :=
  (if b.build then [.build phase.services] else []) ++
    (if phase.recreateBeforeUp = [] then [] else [.rm phase.recreateBeforeUp]) ++
    [.up phase.noDeps (if phase.scaleAhenk then some b.expectedAgents else none) phase.services]

def timeout (phase : RuntimePhase) : Int := phase.timeoutSeconds.getD (b.phaseTimeoutSeconds.getD 300)

def pollInterval : Int := b.pollIntervalSeconds.getD 5

/-! ## The host ports -/

/-- The published ports of a container that are not `None`. -/
def publishedPorts (container : Dict) : List Json :=
  match (container.get "Publishers").orElse (.arr []) with
  | .arr publishers => publishers.filterMap (fun publisher => match publisher with
    | .obj d => if (Dict.get d "PublishedPort").isNone then none else some (Dict.get d "PublishedPort")
    | _ => none)
  | _ => []

def projectOwnedHostPorts : Except BootError (List Int) :=
  match b.ps 0 with
  | .error (.runtimeError _) => .ok []
  | .error e => .error (.ps e)
  | .ok containers => ((containers.flatMap publishedPorts).mapM (intOfJson b.ints)).mapError .int

/-- `_host_port_available`, asked for the `k`-th time. -/
def hostPortAvailable (k : Nat) (host : String) (port : Int) : Except BootError Bool :=
  let bindHost := if host = "0.0.0.0" ∨ host = "::" then "" else host
  match b.bind k (decide (':' ∈ bindHost.toList)) bindHost port with
  | .bound => .ok true
  | .osError => .ok false
  | .raised => .error .bind

/-- The loop over the declared bindings; `k` ports have been tried. -/
def conflictsAmong (ownedPorts : List Int) (k : Nat) : List DeclaredBinding → Except BootError (List DeclaredBinding)
  | [] => .ok []
  | binding :: bindings =>
    if binding.port ∈ ownedPorts then conflictsAmong ownedPorts k bindings
    else do
      let available ← b.hostPortAvailable k binding.host binding.port
      let rest ← conflictsAmong ownedPorts (k + 1) bindings
      return if available then rest else binding :: rest

def hostPortConflicts : Except BootError (List DeclaredBinding) := do
  let ownedPorts ← b.projectOwnedHostPorts
  let bindings ← (declaredHostPortBindings b.repr b.ints b.composeStack).mapError .int
  b.conflictsAmong ownedPorts 0 bindings

/-- What happens before the first phase: the environment is made, then the ports are looked at. -/
def preflight : Except BootError (List DeclaredBinding) := do
  let _ ← (runtimeEnv b.ints b.topologyContract b.topologyFiles b.profile b.expectedAgents b.projectName
    b.osEnviron).mapError .topology
  b.hostPortConflicts

/-- The containers are as the phase's `wait_for` says. -/
def satisfied (phase : RuntimePhase) (containers : List Dict) : Bool :=
  (phaseSatisfied (groupByService b.repr b.lower containers) phase.waitFor b.expectedAgents).1

end BootInput

/-! ## The run -/

inductive BootEvent where
  | command (phase : Nat) (cmd : ComposeCommand) (returncode : Int)
  /-- The deadline of a phase is set, at that reading of the clock. -/
  | waiting (phase : Nat) (started : ℚ)
  | observed (phase : Nat) (begun : ℚ) (result : Except PyExc (List Dict))
  | expired (phase : Nat) (reading : ℚ)
  | status (returncode : Int)

/-- Where the program is.  It has exited with 1 also when an exception left it. -/
inductive BootControl where
  | preflight
  | commands (index : Nat) (phase : RuntimePhase) (pending : List ComposeCommand)
  | polling (index : Nat) (phase : RuntimePhase) (deadline : ℚ)
  | status
  | exited (code : Int)

structure BootState where
  control : BootControl
  trace : List BootEvent
  commands : Nat
  observations : Nat
  readings : Nat

namespace BootInput

variable (b : BootInput)

def initial : BootState where
  control := .preflight
  trace := []
  commands := 0
  observations := 0
  readings := 0

/-- The start of a phase, or what follows the last one. -/
def enter (index : Nat) : BootControl :=
  match b.phases[index]? with
  | some phase => .commands index phase (b.composeUp phase)
  | none => .status

/-- The rest of a pass of the polling loop after `_compose_ps`; `time.sleep` refuses a negative interval. -/
def afterObservation (index : Nat) (phase : RuntimePhase) (deadline : ℚ) : Except PyExc (List Dict) → BootControl
  | .error _ => .exited 1
  | .ok containers =>
    if b.satisfied phase containers then b.enter (index + 1)
    else if b.pollInterval < 0 then .exited 1
    else .polling index phase deadline

/-- One step of `bootstrap_runtime`. -/
def step (s : BootState) : BootState :=
  match s.control with
  | .preflight => match b.preflight with
    | .ok [] => { s with control := b.enter 0, observations := 1 }
    | _ => { s with control := .exited 1 }
  | .commands index phase [] =>
    let started := b.time s.readings
    { s with
      control := .polling index phase (started + b.timeout phase)
      trace := s.trace ++ [.waiting index started]
      readings := s.readings + 1 }
  | .commands index phase (cmd :: pending) =>
    let returncode := b.returncode s.commands (cmd.args b.composeBaseCmd)
    { s with
      control := if returncode = 0 then .commands index phase pending else .exited returncode
      trace := s.trace ++ [.command index cmd returncode]
      commands := s.commands + 1 }
  | .polling index phase deadline =>
    let reading := b.time s.readings
    if reading < deadline then
      let result := b.ps s.observations
      { s with
        control := b.afterObservation index phase deadline result
        trace := s.trace ++ [.observed index reading result]
        observations := s.observations + 1
        readings := s.readings + 1 }
    else
      { s with
        control := .exited 1
        trace := s.trace ++ [.expired index reading]
        readings := s.readings + 1 }
  | .status =>
    let returncode := b.returncode s.commands (b.composeBaseCmd ++ ["ps"])
    { s with
      control := .exited returncode
      trace := s.trace ++ [.status returncode]
      commands := s.commands + 1 }
  | .exited _ => s

/-- `bootstrap_runtime` after `n` steps. -/
def run : Nat → BootState
  | 0 => initial
  | n + 1 => b.step (run n)

end BootInput

/-! ## What a trace is like -/

/-- A command or an observation failed, or the deadline was over. -/
def BootEvent.Failed : BootEvent → Prop
  | .command _ _ returncode => returncode ≠ 0
  | .waiting .. => False
  | .observed _ _ (.ok _) => False
  | .observed _ _ (.error _) => True
  | .expired .. => True
  | .status returncode => returncode ≠ 0

namespace BootInput

variable (b : BootInput)

/-- One observation that began before the deadline of the phase found all that it waits for. -/
def Ready (trace : List BootEvent) (index : Nat) : Prop :=
  ∃ (phase : RuntimePhase) (started begun : ℚ) (containers : List Dict), b.phases[index]? = some phase ∧
    .waiting index started ∈ trace ∧ .observed index begun (.ok containers) ∈ trace ∧
    begun < started + b.timeout phase ∧ b.satisfied phase containers = true

/-- What may follow a trace: nothing after a failure, a command of a phase when all before it are ready, and one
deadline a phase. -/
def Permitted (before : List BootEvent) (e : BootEvent) : Prop :=
  (∀ x ∈ before, ¬ x.Failed) ∧ match e with
    | .command index cmd _ => (∃ phase, b.phases[index]? = some phase ∧ cmd ∈ b.composeUp phase) ∧
        ∀ i < index, b.Ready before i
    | .waiting index _ => ∀ started, .waiting index started ∉ before
    | _ => True

/-- The phases before `index` are ready, nothing has failed, and only phases before `bound` have a deadline. -/
structure Stands (trace : List BootEvent) (index bound : Nat) : Prop where
  ready : ∀ i < index, b.Ready trace i
  unfailed : ∀ e ∈ trace, ¬ e.Failed
  waits : ∀ i started, .waiting i started ∈ trace → i < bound

/-- All phases are ready, and nothing has failed. -/
def Finished (trace : List BootEvent) : Prop :=
  (∀ i < b.phases.length, b.Ready trace i) ∧ ∀ e ∈ trace, ¬ e.Failed

/-- What the place of the program says about its trace. -/
def AtControl (trace : List BootEvent) : BootControl → Prop
  | .preflight => trace = []
  | .commands index phase pending => b.phases[index]? = some phase ∧ (∀ cmd ∈ pending, cmd ∈ b.composeUp phase) ∧
      b.Stands trace index index
  | .polling index phase deadline => b.phases[index]? = some phase ∧
      (∃ started : ℚ, .waiting index started ∈ trace ∧ deadline = started + b.timeout phase) ∧
      b.Stands trace index (index + 1)
  | .status => b.Finished trace
  | .exited code => code = 0 → b.Finished trace

/-- **The invariant.** -/
structure Holds (s : BootState) : Prop where
  guarded : Guarded.Trace b.Permitted s.trace
  control : b.AtControl s.trace s.control

variable {b}

theorem Ready.append {trace : List BootEvent} {index : Nat} (h : b.Ready trace index) (more : List BootEvent) :
    b.Ready (trace ++ more) index := by
  obtain ⟨phase, started, begun, containers, hphase, hwaiting, hobserved, hrest⟩ := h
  exact ⟨phase, started, begun, containers, hphase, List.mem_append_left _ hwaiting, List.mem_append_left _ hobserved,
    hrest⟩

theorem unfailed_append {trace : List BootEvent} {e : BootEvent} (h : ∀ x ∈ trace, ¬ x.Failed) (he : ¬ e.Failed) :
    ∀ x ∈ trace ++ [e], ¬ x.Failed := by
  intro x hx
  rcases List.mem_append.1 hx with hx | hx
  · exact h x hx
  · exact List.mem_singleton.1 hx ▸ he

theorem Stands.append {trace : List BootEvent} {index bound bound' : Nat} (h : b.Stands trace index bound) {e : BootEvent}
    (he : ¬ e.Failed) (hle : bound ≤ bound') (hwaits : ∀ i started, e = .waiting i started → i < bound') :
    b.Stands (trace ++ [e]) index bound' where
  ready i hi := (h.ready i hi).append [e]
  unfailed := unfailed_append h.unfailed he
  waits i started hmem := by
    rcases List.mem_append.1 hmem with hmem | hmem
    · exact Nat.lt_of_lt_of_le (h.waits i started hmem) hle
    · exact hwaits i started (List.mem_singleton.1 hmem).symm

theorem atControl_enter {trace : List BootEvent} {index : Nat} (h : b.Stands trace index index) :
    b.AtControl trace (b.enter index) := by
  unfold enter
  split
  · rename_i phase hphase
    exact ⟨hphase, fun _ hcmd => hcmd, h⟩
  · rename_i hnone
    have hlen := List.getElem?_eq_none_iff.1 hnone
    exact ⟨fun i hi => h.ready i (by omega), h.unfailed⟩

/-! ### One step -/

theorem holds_preflight {s : BootState} (h : b.Holds s) (hcontrol : s.control = .preflight) : b.Holds (b.step s) := by
  have htrace : s.trace = [] := by simpa [AtControl, hcontrol] using h.control
  have hstands : b.Stands s.trace 0 0 := by
    rw [htrace]
    exact ⟨fun i hi => absurd hi (Nat.not_lt_zero i), fun _ he => (nomatch he), fun _ _ he => nomatch he⟩
  unfold step
  simp only [hcontrol]
  split
  · exact ⟨h.guarded, atControl_enter hstands⟩
  · exact ⟨h.guarded, fun hzero => absurd hzero (by decide)⟩

theorem holds_commands {s : BootState} (h : b.Holds s) {index : Nat} {phase : RuntimePhase} {pending : List ComposeCommand}
    (hcontrol : s.control = .commands index phase pending) : b.Holds (b.step s) := by
  have hat := h.control
  rw [hcontrol] at hat
  obtain ⟨hphase, hpending, hstands⟩ := hat
  cases pending with
  | nil =>
    unfold step
    simp only [hcontrol]
    have hfresh : ∀ started, .waiting index started ∉ s.trace :=
      fun started hmem => absurd (hstands.waits index started hmem) (Nat.lt_irrefl index)
    refine ⟨Guarded.trace_append_singleton _ h.guarded ⟨hstands.unfailed, hfresh⟩, hphase, ⟨_, ?_, rfl⟩, ?_⟩
    · exact List.mem_append_right _ List.mem_cons_self
    · refine hstands.append (fun hfailed => hfailed) (Nat.le_succ index) (fun i started heq => ?_)
      cases heq
      exact Nat.lt_succ_self _
  | cons cmd pending =>
    unfold step
    simp only [hcontrol]
    have hcmd : ∃ phase, b.phases[index]? = some phase ∧ cmd ∈ b.composeUp phase :=
      ⟨phase, hphase, hpending cmd List.mem_cons_self⟩
    refine ⟨Guarded.trace_append_singleton _ h.guarded ⟨hstands.unfailed, hcmd, hstands.ready⟩, ?_⟩
    by_cases hzero : b.returncode s.commands (cmd.args b.composeBaseCmd) = 0
    · rw [if_pos hzero]
      refine ⟨hphase, fun other hother => hpending other (List.mem_cons_of_mem _ hother), ?_⟩
      exact hstands.append (fun hfailed => hfailed hzero) (Nat.le_refl index) (fun _ _ heq => nomatch heq)
    · rw [if_neg hzero]
      exact fun h0 => absurd h0 hzero

theorem ready_observed {trace : List BootEvent} {index : Nat} {phase : RuntimePhase} {started reading : ℚ}
    {containers : List Dict} (hphase : b.phases[index]? = some phase) (hwaiting : .waiting index started ∈ trace)
    (hearly : reading < started + b.timeout phase) (hsatisfied : b.satisfied phase containers = true) :
    b.Ready (trace ++ [.observed index reading (.ok containers)]) index :=
  ⟨phase, started, reading, containers, hphase, List.mem_append_left _ hwaiting,
    List.mem_append_right _ List.mem_cons_self, hearly, hsatisfied⟩

theorem holds_polling {s : BootState} (h : b.Holds s) {index : Nat} {phase : RuntimePhase} {deadline : ℚ}
    (hcontrol : s.control = .polling index phase deadline) : b.Holds (b.step s) := by
  have hat := h.control
  rw [hcontrol] at hat
  obtain ⟨hphase, ⟨started, hwaiting, hdeadline⟩, hstands⟩ := hat
  unfold step
  simp only [hcontrol]
  split
  · rename_i hearly
    refine ⟨Guarded.trace_append_singleton _ h.guarded ⟨hstands.unfailed, trivial⟩, ?_⟩
    cases hresult : b.ps s.observations with
    | error e => exact fun hzero => absurd hzero (by decide)
    | ok containers =>
      have hstands' := hstands.append (e := .observed index (b.time s.readings) (.ok containers)) (fun hfailed => hfailed)
        (Nat.le_refl _) (fun _ _ heq => nomatch heq)
      unfold afterObservation
      simp only
      split
      · rename_i hsatisfied
        refine atControl_enter ⟨fun i hi => ?_, hstands'.unfailed, hstands'.waits⟩
        rcases Nat.lt_or_ge i index with hlt | hge
        · exact hstands'.ready i hlt
        · obtain rfl : i = index := by omega
          exact ready_observed hphase hwaiting (hdeadline ▸ hearly) hsatisfied
      · split
        · exact fun hzero => absurd hzero (by decide)
        · exact ⟨hphase, ⟨started, List.mem_append_left _ hwaiting, hdeadline⟩, hstands'⟩
  · refine ⟨Guarded.trace_append_singleton _ h.guarded ⟨hstands.unfailed, trivial⟩, ?_⟩
    exact fun hzero => absurd hzero (by decide)

theorem holds_status {s : BootState} (h : b.Holds s) (hcontrol : s.control = .status) : b.Holds (b.step s) := by
  have hat := h.control
  rw [hcontrol] at hat
  obtain ⟨hready, hunfailed⟩ := hat
  unfold step
  simp only [hcontrol]
  refine ⟨Guarded.trace_append_singleton _ h.guarded ⟨hunfailed, trivial⟩, fun hzero => ⟨fun i hi => ?_, ?_⟩⟩
  · exact (hready i hi).append _
  · exact unfailed_append hunfailed (fun hfailed => hfailed hzero)

theorem Holds.step {s : BootState} (h : b.Holds s) : b.Holds (b.step s) := by
  cases hcontrol : s.control with
  | preflight => exact holds_preflight h hcontrol
  | commands index phase pending => exact holds_commands h hcontrol
  | polling index phase deadline => exact holds_polling h hcontrol
  | status => exact holds_status h hcontrol
  | exited code =>
    rw [BootInput.step, hcontrol]
    exact h

theorem run_holds (b : BootInput) : ∀ n, b.Holds (b.run n)
  | 0 => ⟨Guarded.trace_nil _, rfl⟩
  | n + 1 => (run_holds b n).step

/-! ### How a run ends -/

theorem Holds.exits {s : BootState} (h : b.Holds s) {e : BootEvent} (he : e ∈ s.trace) (hfailed : e.Failed) :
    ∃ code, code ≠ 0 ∧ s.control = .exited code := by
  have hat := h.control
  cases hcontrol : s.control with
  | preflight =>
    rw [hcontrol] at hat
    rw [show s.trace = [] from hat] at he
    cases he
  | commands index phase pending =>
    rw [hcontrol] at hat
    exact absurd hfailed (hat.2.2.unfailed e he)
  | polling index phase deadline =>
    rw [hcontrol] at hat
    exact absurd hfailed (hat.2.2.unfailed e he)
  | status =>
    rw [hcontrol] at hat
    exact absurd hfailed (hat.2 e he)
  | exited code =>
    rw [hcontrol] at hat
    exact ⟨code, fun hzero => (hat hzero).2 e he hfailed, rfl⟩

/-- A command of a phase comes after all earlier phases were ready. -/
theorem Holds.ready_of_command {s : BootState} (h : b.Holds s) {index : Nat} {cmd : ComposeCommand} {returncode : Int}
    (hmem : .command index cmd returncode ∈ s.trace) : ∀ i < index, b.Ready s.trace i := by
  obtain ⟨before, after, hsplit⟩ := List.append_of_mem hmem
  intro i hi
  rw [hsplit]
  exact ((h.guarded before _ after hsplit).2.2 i hi).append _

theorem run_of_conflicts {c : DeclaredBinding} {cs : List DeclaredBinding} (h : b.hostPortConflicts = .ok (c :: cs)) :
    ∀ n, (b.run (n + 1)).control = .exited 1 ∧ (b.run (n + 1)).trace = []
  | 0 => by
    have hpreflight : b.preflight ≠ .ok [] := by
      unfold preflight
      rw [h]
      cases runtimeEnv b.ints b.topologyContract b.topologyFiles b.profile b.expectedAgents b.projectName b.osEnviron
      · exact fun heq => nomatch heq
      · exact fun heq => nomatch heq
    unfold run run step initial
    dsimp only
    split
    · rename_i hnone
      exact absurd hnone hpreflight
    · exact ⟨rfl, rfl⟩
  | n + 1 => by
    obtain ⟨hcontrol, htrace⟩ := run_of_conflicts h n
    rw [run, step, hcontrol]
    exact ⟨hcontrol, htrace⟩

/-- **A phase that is polled when its deadline passes** was ready before, or the run exits with an error.  The induction
is on the readings of the clock up to the one that is late. -/
theorem polling_ends (hclock : Monotone b.time) {index : Nat} {phase : RuntimePhase} {deadline : ℚ} {m : Nat}
    (hlate : deadline ≤ b.time m) : ∀ (left n : Nat), (b.run n).control = .polling index phase deadline →
    m ≤ (b.run n).readings + left →
    ∃ k, b.Ready (b.run k).trace index ∨ ∃ code, code ≠ 0 ∧ (b.run k).control = .exited code := by
  intro left
  induction left with
  | zero =>
    intro n hcontrol hm
    refine ⟨n + 1, .inr ⟨1, by decide, ?_⟩⟩
    have hpassed : ¬ b.time (b.run n).readings < deadline := not_lt.2 (hlate.trans (hclock hm))
    rw [run, step, hcontrol]
    simp only [if_neg hpassed]
  | succ left ih =>
    intro n hcontrol hm
    have hat := (run_holds b n).control
    rw [hcontrol] at hat
    obtain ⟨hphase, ⟨started, hwaiting, hdeadline⟩, -⟩ := hat
    have hstep : b.run (n + 1) = b.step (b.run n) := rfl
    rw [step, hcontrol] at hstep
    by_cases hearly : b.time (b.run n).readings < deadline
    · simp only [if_pos hearly] at hstep
      cases hresult : b.ps (b.run n).observations with
      | error e => exact ⟨n + 1, .inr ⟨1, by decide, by rw [hstep, hresult]; rfl⟩⟩
      | ok containers =>
        rw [hresult] at hstep
        by_cases hsatisfied : b.satisfied phase containers = true
        · refine ⟨n + 1, .inl ?_⟩
          rw [hstep]
          exact ready_observed hphase hwaiting (hdeadline ▸ hearly) hsatisfied
        · by_cases hinterval : b.pollInterval < 0
          · refine ⟨n + 1, .inr ⟨1, by decide, ?_⟩⟩
            rw [hstep, afterObservation, if_neg hsatisfied, if_pos hinterval]
          · refine ih (n + 1) ?_ ?_
            · rw [hstep, afterObservation, if_neg hsatisfied, if_neg hinterval]
            · rw [hstep]
              simp only
              omega
    · refine ⟨n + 1, .inr ⟨1, by decide, ?_⟩⟩
      simp only [if_neg hearly] at hstep
      rw [hstep]

end BootInput

/-! ## The law -/

/-- What holds of the runs on an input. -/
structure BootLaw (b : BootInput) : Prop where
  /-- Nothing follows a failure, and a command of a phase follows observations that found each earlier phase ready. -/
  ordered : ∀ n, Guarded.Trace b.Permitted (b.run n).trace
  failed : ∀ n, ∀ e ∈ (b.run n).trace, e.Failed → ∃ code, code ≠ 0 ∧ (b.run n).control = .exited code
  succeeded : ∀ n, (b.run n).control = .exited 0 → b.Finished (b.run n).trace
  /-- A host port that is taken stops the run before its first command. -/
  conflicts : ∀ c cs, b.hostPortConflicts = .ok (c :: cs) → ∀ n,
    (b.run (n + 1)).control = .exited 1 ∧ (b.run (n + 1)).trace = []
  /-- When the deadline of a phase that is never ready passes, the run exits with an error, and no later phase starts. -/
  expired : ∀ n index phase deadline, (b.run n).control = .polling index phase deadline → ∀ m, deadline ≤ b.time m →
    (∀ k, ¬ b.Ready (b.run k).trace index) → (∃ k code, code ≠ 0 ∧ (b.run k).control = .exited code) ∧
      ∀ k later cmd returncode, .command later cmd returncode ∈ (b.run k).trace → later ≤ index

/-- The second of two phases is never ready. -/
def sampleBoot : BootInput where
  profile := "dev-fast"
  expectedAgents := 1
  projectName := "liderahenk-test"
  build := false
  composeStack := [⟨"compose/compose.core.yml", none⟩]
  phases := [⟨⟨"core", [("ldap", .text "healthy")]⟩, ["ldap"], some 240, false, false, []⟩,
    ⟨⟨"lider-core", [("lider-core", .text "healthy")]⟩, ["lider-core"], some 240, false, true, []⟩]
  pollIntervalSeconds := some 5
  phaseTimeoutSeconds := none
  topologyContract := topologyContract
  topologyFiles := sampleDirectory.toProfileFiles
  osEnviron := fun _ => none
  repr := fun _ => ""
  lower := fun s => s
  ints := asciiIntText
  returncode := fun _ _ => 0
  ps := fun _ => .ok [sampleContainer "ldap" "running" "Up 1 minute (healthy)" "healthy"]
  bind := fun _ _ _ _ => .bound
  time := fun n => n

/-- **The phases of a run are in order, and a failure or a deadline ends it.** -/
theorem bootstrapRuntime_law (b : BootInput) (hclock : Monotone b.time) : BootLaw b where
  ordered n := (b.run_holds n).guarded
  failed n _ he hfailed := (b.run_holds n).exits he hfailed
  succeeded n hcontrol := by
    have hat := (b.run_holds n).control
    rw [hcontrol] at hat
    exact hat rfl
  conflicts _ _ h n := BootInput.run_of_conflicts h n
  expired n index phase deadline hcontrol m hlate hnever := by
    obtain ⟨k, hready | hexit⟩ := BootInput.polling_ends hclock hlate m n hcontrol (Nat.le_add_left m _)
    · exact absurd hready (hnever k)
    · refine ⟨⟨k, hexit⟩, fun k' later cmd returncode hmem => ?_⟩
      by_contra hlater
      exact hnever k' ((b.run_holds k').ready_of_command hmem index (by omega))

theorem bootstrapRuntime_law_sample : BootLaw sampleBoot :=
  bootstrapRuntime_law sampleBoot (fun _ _ h => Nat.cast_le.2 h)

end Lider
