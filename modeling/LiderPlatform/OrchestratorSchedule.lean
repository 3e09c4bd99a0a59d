import LiderPlatform.Orchestrator
import Mathlib.Tactic.Linarith
import Mathlib.Tactic.Ring
/-!
# OrchestratorSchedule — attempts, sleeps and the event log

`Schedule` says what holds between two verdicts: the log is the settle events, then the timeout event if there is one,
then the steady ones; attempts count up from 1 with no gap, the timeout event repeating the last; the manifest carries
the last event's counter and status; and every sleep is the capped doubling backoff or what is left of the deadline.
`Schedule.step` is the invariant's step lemma; `settles_iff` says when the settle loop ends at all.
-/
namespace Lider

open Py

section
variable {cfg : OrchestratorConfig}

/-! ## The schedule -/

def phaseEvents (s : OrchestratorState) (p : Phase) : List Event := s.log.filter (fun e => e.phase = p)

def backoffAt (cfg : OrchestratorConfig) (k : Nat) : Int := min cfg.maxBackoffSeconds (cfg.minBackoffSeconds * 2 ^ k)

/-- The `k`-th sleep of the settle loop: the clock is read before it, after its `k + 1`-st attempt. -/
def sleepAt (w : World cfg) (k : Nat) : ℚ := min (backoffAt cfg k : ℚ) (deadline w - w.monotonic (k + 1))

def NonePassed (s : OrchestratorState) : Prop := ∀ e ∈ phaseEvents s .settle, e.status ≠ .pass

/-- The settle loop is not over: nothing but failed settle events. -/
def StillSettling (s : OrchestratorState) : Prop :=
  NonePassed s ∧ phaseEvents s .timeout = [] ∧ phaseEvents s .steadyState = []

/-- How the settle loop ended: with its first pass, or with one timeout event of the last attempt's number. -/
def SettleEnded (s : OrchestratorState) : Prop :=
  (∃ failed passed, phaseEvents s .settle = failed ++ [passed] ∧ passed.status = .pass ∧
      (∀ e ∈ failed, e.status ≠ .pass) ∧ phaseEvents s .timeout = []) ∨
    (NonePassed s ∧ ∃ event, phaseEvents s .timeout = [event] ∧ event.attempt = (phaseEvents s .settle).length)

/-- What the program's place says about the events so far. -/
def ControlAt (w : World cfg) (s : OrchestratorState) : Control → Prop
  | .settling attempt backoffSeconds =>
    attempt = (phaseEvents s .settle).length ∧ backoffSeconds = backoffAt cfg attempt ∧ s.readings = attempt + 1 ∧
      s.sleeps.length = attempt ∧ StillSettling s
  | .timingOut attempt =>
    attempt = (phaseEvents s .settle).length ∧ s.sleeps.length + 1 = attempt ∧ deadline w ≤ w.monotonic attempt ∧
      StillSettling s
  | .steady attempt =>
    attempt = (phaseEvents s .settle).length + (phaseEvents s .steadyState).length ∧
      s.sleeps.length + 1 = (phaseEvents s .settle).length ∧ SettleEnded s

/-- **The invariant between two verdicts.** -/
structure Schedule (nt : NumText) (w : World cfg) (s : OrchestratorState) : Prop where
  order : s.log = phaseEvents s .settle ++ phaseEvents s .timeout ++ phaseEvents s .steadyState
  settleAttempts : (phaseEvents s .settle).map Event.attempt = List.range' 1 (phaseEvents s .settle).length
  steadyAttempts : (phaseEvents s .steadyState).map Event.attempt =
    List.range' ((phaseEvents s .settle).length + 1) (phaseEvents s .steadyState).length
  control : ControlAt w s s.control
  sleeps : ∀ k d, s.sleeps[k]? = some d → d = sleepAt w k
  last : s.last = s.log.getLast?.map (fun e => ⟨e.capturedAt, e.status, e.attempt⟩)
  manifestFile : s.files "run-manifest.json" = some (jsonFile nt (.obj (cfg.runManifest s.last).toDict))
  eventsFile : s.files "registration-events.jsonl" = some (encode (s.log.flatMap (Event.line nt)))

/-! ## One verdict -/

/-- Doubling a capped backoff is doubling it and capping it. -/
theorem backoffAt_succ (h0 : 0 ≤ cfg.minBackoffSeconds) (h1 : cfg.minBackoffSeconds ≤ cfg.maxBackoffSeconds) (k : Nat) :
    min (backoffAt cfg k * 2) cfg.maxBackoffSeconds = backoffAt cfg (k + 1) := by
  have hpow : cfg.minBackoffSeconds * 2 ^ (k + 1) = 2 * (cfg.minBackoffSeconds * 2 ^ k) := by ring
  have hnonneg : 0 ≤ cfg.minBackoffSeconds * 2 ^ k := Int.mul_nonneg h0 (Int.pow_nonneg (by decide))
  unfold backoffAt
  rw [hpow]
  omega

theorem writeArtifacts_events (nt : NumText) (s : OrchestratorState) (c : Call) (p : Phase) :
    phaseEvents (s.writeArtifacts nt cfg c) p =
      phaseEvents s p ++ if c.phase = p then [c.event (cfg.runManifest (some c.lastVerdict))] else [] := by
  simp only [phaseEvents, OrchestratorState.writeArtifacts, List.filter_append]
  congr 1
  by_cases h : c.phase = p <;> simp [Call.event, h]

/-! ### What `proceed` leaves alone -/

theorem proceed_frame (w : World cfg) (s : OrchestratorState) (c : Call) :
    (s.proceed w c).log = s.log ∧ (s.proceed w c).files = s.files ∧ (s.proceed w c).last = s.last := by
  unfold OrchestratorState.proceed OrchestratorState.settled
  split
  · split
    · exact ⟨rfl, rfl, rfl⟩
    · simp only
      split <;> exact ⟨rfl, rfl, rfl⟩
  · exact ⟨rfl, rfl, rfl⟩
  · exact ⟨rfl, rfl, rfl⟩

@[simp] theorem proceed_log (w : World cfg) (s : OrchestratorState) (c : Call) : (s.proceed w c).log = s.log :=
  (proceed_frame w s c).1

@[simp] theorem proceed_files (w : World cfg) (s : OrchestratorState) (c : Call) : (s.proceed w c).files = s.files :=
  (proceed_frame w s c).2.1

@[simp] theorem proceed_last (w : World cfg) (s : OrchestratorState) (c : Call) : (s.proceed w c).last = s.last :=
  (proceed_frame w s c).2.2

theorem proceed_events (w : World cfg) (s : OrchestratorState) (c : Call) (p : Phase) :
    phaseEvents (s.proceed w c) p = phaseEvents s p := by rw [phaseEvents, proceed_log, phaseEvents]

theorem step_events (nt : NumText) (w : World cfg) (s : OrchestratorState) (p : Phase) :
    phaseEvents (s.step nt w) p = phaseEvents s p ++
      if (s.call w).phase = p then [(s.call w).event (cfg.runManifest (some (s.call w).lastVerdict))] else [] := by
  rw [OrchestratorState.step, proceed_events, writeArtifacts_events]

theorem artifactWrites_files (nt : NumText) (c : Call) (fs : Files) :
    applyAll (artifactWrites nt cfg c) fs "run-manifest.json" =
        some (jsonFile nt (.obj (cfg.runManifest (some c.lastVerdict)).toDict)) ∧
      applyAll (artifactWrites nt cfg c) fs "registration-events.jsonl" =
        some ((fs "registration-events.jsonl").getD .empty ++
          encode ((c.event (cfg.runManifest (some c.lastVerdict))).line nt)) := by
  simp [artifactWrites, Write.apply, Write.put, Write.bytes, Files.write, Function.update]

/-! ### The step lemma -/

theorem Schedule.step_files {nt : NumText} {w : World cfg} {s : OrchestratorState} (h : Schedule nt w s) :
    (s.step nt w).last = (s.step nt w).log.getLast?.map (fun e => ⟨e.capturedAt, e.status, e.attempt⟩) ∧
      (s.step nt w).files "run-manifest.json" =
        some (jsonFile nt (.obj (cfg.runManifest (s.step nt w).last).toDict)) ∧
      (s.step nt w).files "registration-events.jsonl" =
        some (encode ((s.step nt w).log.flatMap (Event.line nt))) := by
  obtain ⟨hmanifest, hevents⟩ := artifactWrites_files nt (s.call w) s.files
  simp only [OrchestratorState.step, proceed_last, proceed_log, proceed_files, OrchestratorState.writeArtifacts]
  refine ⟨by simp [Call.event, Call.lastVerdict], hmanifest, ?_⟩
  rw [hevents, h.eventsFile, Option.getD_some, List.flatMap_append, encode_append]
  simp

theorem step_log (nt : NumText) (w : World cfg) (s : OrchestratorState) : (s.step nt w).log =
    s.log ++ [(s.call w).event (cfg.runManifest (some (s.call w).lastVerdict))] := by
  rw [OrchestratorState.step, proceed_log, OrchestratorState.writeArtifacts]

theorem attempts_append (events : List Event) (first : Nat) (e : Event)
    (h : events.map Event.attempt = List.range' first events.length) (he : e.attempt = first + events.length) :
    (events ++ [e]).map Event.attempt = List.range' first (events ++ [e]).length := by
  rw [List.map_append, h, List.length_append, List.length_singleton, List.range'_concat, List.map_singleton, he]
  simp

theorem sleeps_append (w : World cfg) (sleeps : List ℚ) (d : ℚ) (h : ∀ k d', sleeps[k]? = some d' → d' = sleepAt w k)
    (hd : d = sleepAt w sleeps.length) : ∀ k d', (sleeps ++ [d])[k]? = some d' → d' = sleepAt w k := by
  intro k d' hk
  rcases Nat.lt_or_ge k sleeps.length with hlt | hge
  · exact h k d' (by rwa [List.getElem?_append_left hlt] at hk)
  · rw [List.getElem?_append_right hge, List.getElem?_singleton] at hk
    split at hk
    · rename_i hzero
      obtain rfl : k = sleeps.length := by omega
      rw [← Option.some.inj hk, hd]
    · cases hk

/-- **A pass through the settle loop**: it returns, goes over to the timeout, or sleeps. -/
theorem settling_cases (nt : NumText) (w : World cfg) (s : OrchestratorState) (attempt : Nat) (backoffSeconds : Int)
    (hc : s.control = .settling attempt backoffSeconds) :
    ((collectVerdict w s.collections false).status = .pass ∧ (s.step nt w).control = .steady (attempt + 1) ∧
        (s.step nt w).sleeps = s.sleeps) ∨
      ((collectVerdict w s.collections false).status ≠ .pass ∧ deadline w ≤ w.monotonic s.readings ∧
        (s.step nt w).control = .timingOut (attempt + 1) ∧ (s.step nt w).sleeps = s.sleeps) ∨
      ((collectVerdict w s.collections false).status ≠ .pass ∧ w.monotonic s.readings < deadline w ∧
        (s.step nt w).control = .settling (attempt + 1) (min (backoffSeconds * 2) cfg.maxBackoffSeconds) ∧
        (s.step nt w).readings = s.readings + 1 ∧
        (s.step nt w).sleeps = s.sleeps ++ [min (backoffSeconds : ℚ) (deadline w - w.monotonic s.readings)]) := by
  have hcall : s.call w = ⟨collectVerdict w s.collections false, attempt + 1, .settle⟩ := by
    rw [OrchestratorState.call, hc]
  rw [OrchestratorState.step, hcall, OrchestratorState.proceed]
  simp only [OrchestratorState.writeArtifacts, hc]
  split
  · rename_i hpass
    exact Or.inl ⟨hpass, rfl, rfl⟩
  · rename_i hfail
    split
    · rename_i hremaining
      exact Or.inr (Or.inl ⟨hfail, by linarith, rfl, rfl⟩)
    · rename_i hremaining
      refine Or.inr (Or.inr ⟨hfail, by linarith, rfl, rfl, ?_⟩)
      rw [max_eq_left (by linarith)]

/-- The timeout verdict, which the steady loop follows with the counter the manifest holds. -/
theorem timingOut_step (nt : NumText) (w : World cfg) (s : OrchestratorState) (attempt : Nat)
    (hc : s.control = .timingOut attempt) :
    (s.step nt w).control = .steady attempt ∧ (s.step nt w).sleeps = s.sleeps := by
  have hcall : s.call w = ⟨collectVerdict w s.collections true, attempt, .timeout⟩ := by rw [OrchestratorState.call, hc]
  rw [OrchestratorState.step, hcall, OrchestratorState.proceed]
  simp only [OrchestratorState.writeArtifacts, hc]
  exact ⟨rfl, rfl⟩

theorem steady_step (nt : NumText) (w : World cfg) (s : OrchestratorState) (attempt : Nat)
    (hc : s.control = .steady attempt) :
    (s.step nt w).control = .steady (attempt + 1) ∧ (s.step nt w).sleeps = s.sleeps := by
  have hcall : s.call w = ⟨collectVerdict w s.collections false, attempt + 1, .steadyState⟩ := by
    rw [OrchestratorState.call, hc]
  rw [OrchestratorState.step, hcall, OrchestratorState.proceed]
  simp only [OrchestratorState.writeArtifacts, hc, and_self]

theorem Schedule.step_settling {nt : NumText} {w : World cfg} {s : OrchestratorState} (h0 : 0 ≤ cfg.minBackoffSeconds)
    (h1 : cfg.minBackoffSeconds ≤ cfg.maxBackoffSeconds) (h : Schedule nt w s) (attempt : Nat) (backoffSeconds : Int)
    (hc : s.control = .settling attempt backoffSeconds) : Schedule nt w (s.step nt w) := by
  obtain ⟨hlast, hmanifest, heventsFile⟩ := h.step_files
  have hcontrol := h.control
  rw [hc] at hcontrol
  obtain ⟨hattempt, hbackoff, hreadings, hsleeps, hnone, htimeout, hsteady⟩ := hcontrol
  have hcall : s.call w = ⟨collectVerdict w s.collections false, attempt + 1, .settle⟩ := by
    rw [OrchestratorState.call, hc]
  have hlog := step_log nt w s
  have hevents := step_events nt w s
  rw [hcall] at hlog hevents
  generalize he : Call.event ⟨collectVerdict w s.collections false, attempt + 1, .settle⟩ _ = e at hlog hevents
  have heattempt : e.attempt = attempt + 1 := by rw [← he]; rfl
  have hestatus : e.status = (collectVerdict w s.collections false).status := by rw [← he]; rfl
  have hsettle' : phaseEvents (s.step nt w) .settle = phaseEvents s .settle ++ [e] := hevents .settle
  have htimeout' : phaseEvents (s.step nt w) .timeout = [] := by rw [hevents .timeout, htimeout]; rfl
  have hsteady' : phaseEvents (s.step nt w) .steadyState = [] := by rw [hevents .steadyState, hsteady]; rfl
  have hlength : (phaseEvents (s.step nt w) .settle).length = attempt + 1 := by
    rw [hsettle', List.length_append, ← hattempt]
    rfl
  have hnone' : e.status ≠ .pass → NonePassed (s.step nt w) := fun hfail e' he' => by
    rw [hsettle', List.mem_append, List.mem_singleton] at he'
    rcases he' with he' | rfl
    · exact hnone e' he'
    · exact hfail
  refine ⟨?_, ?_, ?_, ?_, ?_, hlast, hmanifest, heventsFile⟩
  · rw [hlog, hsettle', htimeout', hsteady', h.order, htimeout, hsteady]
    simp
  · rw [hsettle']
    exact attempts_append _ 1 e h.settleAttempts (by rw [heattempt, hattempt]; omega)
  · rw [hsteady']; rfl
  · rcases settling_cases nt w s attempt backoffSeconds hc with
      ⟨hpass, hctl, hsl⟩ | ⟨hfail, hdeadline, hctl, hsl⟩ | ⟨hfail, -, hctl, hread, hsl⟩
    · rw [hctl]
      refine ⟨?_, ?_, Or.inl ⟨phaseEvents s .settle, e, hsettle', hestatus.trans hpass, hnone, htimeout'⟩⟩
      · rw [hlength, hsteady']; rfl
      · rw [hsl, hsleeps, hlength]
    · rw [hctl]
      refine ⟨hlength.symm, by rw [hsl, hsleeps], by rwa [← hreadings], hnone' (by rwa [hestatus]), htimeout', hsteady'⟩
    · rw [hctl]
      refine ⟨hlength.symm, ?_, by rw [hread, hreadings], ?_, hnone' (by rwa [hestatus]), htimeout', hsteady'⟩
      · rw [hbackoff, backoffAt_succ h0 h1]
      · rw [hsl, List.length_append, hsleeps]; rfl
  · rcases settling_cases nt w s attempt backoffSeconds hc with
      ⟨-, -, hsl⟩ | ⟨-, -, -, hsl⟩ | ⟨-, -, -, -, hsl⟩ <;> rw [hsl]
    · exact h.sleeps
    · exact h.sleeps
    · refine sleeps_append w s.sleeps _ h.sleeps ?_
      rw [hbackoff, hreadings, hsleeps]
      rfl

theorem Schedule.step_timingOut {nt : NumText} {w : World cfg} {s : OrchestratorState} (h : Schedule nt w s)
    (attempt : Nat) (hc : s.control = .timingOut attempt) : Schedule nt w (s.step nt w) := by
  obtain ⟨hlast, hmanifest, heventsFile⟩ := h.step_files
  have hcontrol := h.control
  rw [hc] at hcontrol
  obtain ⟨hattempt, hsleeps, hdeadline, hnone, htimeout, hsteady⟩ := hcontrol
  have hcall : s.call w = ⟨collectVerdict w s.collections true, attempt, .timeout⟩ := by rw [OrchestratorState.call, hc]
  have hlog := step_log nt w s
  have hevents := step_events nt w s
  rw [hcall] at hlog hevents
  generalize he : Call.event ⟨collectVerdict w s.collections true, attempt, .timeout⟩ _ = e at hlog hevents
  have heattempt : e.attempt = attempt := by rw [← he]; rfl
  have hsettle' : phaseEvents (s.step nt w) .settle = phaseEvents s .settle := by
    rw [hevents .settle, if_neg (by simp), List.append_nil]
  have htimeout' : phaseEvents (s.step nt w) .timeout = [e] := by rw [hevents .timeout, htimeout]; rfl
  have hsteady' : phaseEvents (s.step nt w) .steadyState = [] := by rw [hevents .steadyState, hsteady]; rfl
  have hstep := timingOut_step nt w s attempt hc
  refine ⟨?_, ?_, ?_, ?_, ?_, hlast, hmanifest, heventsFile⟩
  · rw [hlog, hsettle', htimeout', hsteady', h.order, htimeout, hsteady]
    simp
  · rw [hsettle']
    exact h.settleAttempts
  · rw [hsteady']; rfl
  · rw [hstep.1]
    refine ⟨by rw [hsettle', hsteady', hattempt]; rfl, by rw [hstep.2, hsettle', ← hattempt, hsleeps],
      Or.inr ⟨?_, e, htimeout', ?_⟩⟩
    · rw [NonePassed, hsettle']
      exact hnone
    · rw [heattempt, hsettle', hattempt]
  · rw [hstep.2]
    exact h.sleeps

theorem Schedule.step_steady {nt : NumText} {w : World cfg} {s : OrchestratorState} (h : Schedule nt w s)
    (attempt : Nat) (hc : s.control = .steady attempt) : Schedule nt w (s.step nt w) := by
  obtain ⟨hlast, hmanifest, heventsFile⟩ := h.step_files
  have hcontrol := h.control
  rw [hc] at hcontrol
  obtain ⟨hattempt, hsleeps, hended⟩ := hcontrol
  have hcall : s.call w = ⟨collectVerdict w s.collections false, attempt + 1, .steadyState⟩ := by
    rw [OrchestratorState.call, hc]
  have hlog := step_log nt w s
  have hevents := step_events nt w s
  rw [hcall] at hlog hevents
  generalize he : Call.event ⟨collectVerdict w s.collections false, attempt + 1, .steadyState⟩ _ = e at hlog hevents
  have heattempt : e.attempt = attempt + 1 := by rw [← he]; rfl
  have hsettle' : phaseEvents (s.step nt w) .settle = phaseEvents s .settle := by
    rw [hevents .settle, if_neg (by simp), List.append_nil]
  have htimeout' : phaseEvents (s.step nt w) .timeout = phaseEvents s .timeout := by
    rw [hevents .timeout, if_neg (by simp), List.append_nil]
  have hsteady' : phaseEvents (s.step nt w) .steadyState = phaseEvents s .steadyState ++ [e] := hevents .steadyState
  have hstep := steady_step nt w s attempt hc
  refine ⟨?_, ?_, ?_, ?_, ?_, hlast, hmanifest, heventsFile⟩
  · rw [hlog, hsettle', htimeout', hsteady', ← List.append_assoc, ← h.order]
  · rw [hsettle']
    exact h.settleAttempts
  · rw [hsettle', hsteady']
    exact attempts_append _ _ e h.steadyAttempts (by rw [heattempt, hattempt]; omega)
  · rw [hstep.1]
    refine ⟨by rw [hsettle', hsteady', hattempt, List.length_append]; rfl, by rw [hstep.2, hsettle', hsleeps], ?_⟩
    rw [SettleEnded, NonePassed, hsettle', htimeout']
    exact hended
  · rw [hstep.2]
    exact h.sleeps

/-! ## Whole runs -/

theorem Schedule.step {nt : NumText} {w : World cfg} {s : OrchestratorState} (h0 : 0 ≤ cfg.minBackoffSeconds)
    (h1 : cfg.minBackoffSeconds ≤ cfg.maxBackoffSeconds) (h : Schedule nt w s) : Schedule nt w (s.step nt w) := by
  cases hc : s.control with
  | settling attempt backoffSeconds => exact h.step_settling h0 h1 attempt backoffSeconds hc
  | timingOut attempt => exact h.step_timingOut attempt hc
  | steady attempt => exact h.step_steady attempt hc

theorem schedule_initial (nt : NumText) (w : World cfg) (fs : Files)
    (h1 : cfg.minBackoffSeconds ≤ cfg.maxBackoffSeconds) : Schedule nt w (initial nt cfg fs) := by
  refine ⟨rfl, rfl, rfl, ?_, fun k d hk => (nomatch hk), rfl, ?_, ?_⟩
  · refine ⟨rfl, ?_, rfl, rfl, fun e he => (nomatch he), rfl, rfl⟩
    rw [backoffAt, pow_zero, mul_one, min_eq_right h1]
  · exact Files.write_same (fs.write "registration-events.jsonl" (encode [])) "run-manifest.json" _
  · have hother : "registration-events.jsonl" ≠ "run-manifest.json" := by decide
    have hkept := Files.write_other (fs.write "registration-events.jsonl" (encode []))
      (jsonFile nt (.obj (cfg.runManifest none).toDict)) hother
    exact hkept.trans (Files.write_same fs "registration-events.jsonl" (encode []))

theorem run_schedule (nt : NumText) (w : World cfg) (fs : Files) (h0 : 0 ≤ cfg.minBackoffSeconds)
    (h1 : cfg.minBackoffSeconds ≤ cfg.maxBackoffSeconds) : ∀ (n : Nat), Schedule nt w (run nt w fs n)
  | 0 => schedule_initial nt w fs h1
  | n + 1 => (run_schedule nt w fs h0 h1 n).step h0 h1

/-! ## When the settle loop ends -/

/-- Attempt `i + 1` is the settle loop's last: it passes, or the clock read after it is at the deadline. -/
def Stops (w : World cfg) (i : Nat) : Prop :=
  (collectVerdict w i false).status = .pass ∨ deadline w ≤ w.monotonic (i + 1)

theorem step_collections (nt : NumText) (w : World cfg) (s : OrchestratorState) :
    (s.step nt w).collections = s.collections + 1 := by
  unfold OrchestratorState.step OrchestratorState.proceed OrchestratorState.settled
  split
  · split
    · rfl
    · simp only
      split <;> rfl
  · rfl
  · rfl

/-- As long as no attempt is the last, every verdict is one more attempt. -/
theorem run_settling (nt : NumText) (w : World cfg) (fs : Files) : ∀ (n : Nat), (∀ i < n, ¬ Stops w i) →
    ∃ backoffSeconds, (run nt w fs n).control = .settling n backoffSeconds ∧ (run nt w fs n).collections = n ∧
      (run nt w fs n).readings = n + 1
  | 0, _ => ⟨cfg.minBackoffSeconds, rfl, rfl, rfl⟩
  | n + 1, h => by
    obtain ⟨backoffSeconds, hcontrol, hcollections, hreadings⟩ := run_settling nt w fs n (fun i hi => h i (by omega))
    have hn := h n (Nat.lt_succ_self n)
    rw [Stops, not_or] at hn
    have hcases := settling_cases nt w (run nt w fs n) n backoffSeconds hcontrol
    rw [hcollections, hreadings] at hcases
    rcases hcases with ⟨hpass, -⟩ | ⟨-, hdeadline, -⟩ | ⟨-, -, hctl, hread, -⟩
    · exact absurd hpass hn.1
    · exact absurd hdeadline hn.2
    · exact ⟨_, hctl, by rw [run, step_collections, hcollections], hread⟩

/-- **The settle loop ends exactly when some attempt passes or is read to be at the deadline.** -/
theorem settles_iff (nt : NumText) (w : World cfg) (fs : Files) :
    (∃ n attempt, (run nt w fs n).control = .steady attempt) ↔ ∃ i, Stops w i := by
  constructor
  · rintro ⟨n, attempt, hsteady⟩
    by_contra hno
    obtain ⟨backoffSeconds, hcontrol, -⟩ := run_settling nt w fs n (fun i _ hi => hno ⟨i, hi⟩)
    rw [hsteady] at hcontrol
    cases hcontrol
  · intro hstops
    classical
    have hlast := Nat.find_spec hstops
    obtain ⟨backoffSeconds, hcontrol, hcollections, hreadings⟩ :=
      run_settling nt w fs (Nat.find hstops) (fun i hi => Nat.find_min hstops hi)
    have hcases := settling_cases nt w (run nt w fs (Nat.find hstops)) _ backoffSeconds hcontrol
    rw [hcollections, hreadings] at hcases
    rcases hcases with ⟨-, hctl, -⟩ | ⟨-, -, hctl, -⟩ | ⟨hfail, hearly, -⟩
    · exact ⟨Nat.find hstops + 1, _, hctl⟩
    · exact ⟨Nat.find hstops + 2, _, (timingOut_step nt w _ _ hctl).1⟩
    · rcases hlast with hpass | hdeadline
      · exact absurd hpass hfail
      · exact absurd hdeadline (not_le.2 hearly)

/-- **Attempts, sleeps, log and manifest keep to the schedule** in every run, and the settle loop ends exactly when an
attempt passes or the deadline is reached. -/
theorem orchestrator_schedule (nt : NumText) (w : World cfg) (fs : Files) (h0 : 0 ≤ cfg.minBackoffSeconds)
    (h1 : cfg.minBackoffSeconds ≤ cfg.maxBackoffSeconds) :
    (∀ n, Schedule nt w (run nt w fs n)) ∧
      ((∃ n attempt, (run nt w fs n).control = .steady attempt) ↔
        ∃ i, (collectVerdict w i false).status = .pass ∨ deadline w ≤ w.monotonic (i + 1)) :=
  ⟨run_schedule nt w fs h0 h1, settles_iff nt w fs⟩

end

/-- One agent, and the default backoff. -/
def sampleConfig (timeoutSeconds : Int) : OrchestratorConfig where
  runId := "0b1e8f2c-6a34-4f0d-9d53-3c1c8f6f2a11"
  startedAt := "2026-01-01T00:00:00+00:00"
  runtimeProfile := "dev-fast"
  expectedAgents := 1
  timeoutSeconds := timeoutSeconds
  minBackoffSeconds := 2
  maxBackoffSeconds := 15
  runId_oneLine := by decide
  startedAt_oneLine := by decide

/-- Its snapshot, with the agent on every surface. -/
def sampleCollected (timeoutSeconds : Int) : Collected (sampleConfig timeoutSeconds) :=
  ⟨{ runtimeProfile := "dev-fast"
     expectedAgents := 1
     capturedAt := "2026-01-01T00:00:05+00:00"
     ldapAgentIds := sortedUnique ["ahenk-001"]
     xmppRegisteredAgentIds := sortedUnique ["ahenk-001"]
     xmppConnectedAgentIds := sortedUnique ["ahenk-001"]
     cAgentIds := sortedUnique ["ahenk-001"]
     domainAgentIds := sortedUnique ["ahenk-001"]
     computerTreeAgentIds := sortedUnique ["ahenk-001"]
     dashboard := ⟨⟨.int 1, trivial⟩, ⟨.int 1, trivial⟩⟩
     runtimeConfigFingerprint := none }, rfl, rfl, by decide⟩

/-- The first collection is refused, the others find the agent; the clock counts its readings. -/
def sampleWorld : World (sampleConfig 180) where
  collect i := if i = 0 then .error "Connection refused" else .ok (sampleCollected 180)
  monotonic i := i

/-- The sample's run keeps to the schedule and settles at its second attempt. -/
theorem sampleWorld_schedule : (∀ n, Schedule .bits sampleWorld (run .bits sampleWorld (fun _ => none) n)) ∧
    ∃ n attempt, (run .bits sampleWorld (fun _ => none) n).control = .steady attempt := by
  have h := orchestrator_schedule .bits sampleWorld (fun _ => none) (by decide) (by decide)
  have hagrees : (sampleCollected 180).val.Agrees := ⟨rfl, rfl, rfl, rfl, by decide, by decide, by decide, by decide⟩
  have hpass : (collectVerdict sampleWorld 1 false).status = .pass :=
    (status_pass_iff (sampleCollected 180).val false []).2 ⟨rfl, (agrees_iff _).1 hagrees⟩
  exact ⟨h.1, h.2.2 ⟨1, Or.inl hpass⟩⟩

end Lider
