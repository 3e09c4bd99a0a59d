import LiderPlatform.EvidenceAgreement
import LiderPlatform.OrchestratorSchedule
/-!
# EvidenceRuns — completed and torn writes of the orchestrator, as the validator sees them

The artifacts after `n` verdicts are a bundle (`bundleAt`), and a call of `write_artifacts` that stops after `k` of its
five writes leaves that bundle with the call's first parts (`Bundle.write`).  `consistent_parts_iff` reads off a bundle
with all its parts what the validator compares; the completed calls and the torn ones are its instances.
-/
namespace Lider

open Py

section
variable {cfg : OrchestratorConfig}

/-! ## The artifacts of a call -/

def Call.manifest (cfg : OrchestratorConfig) (c : Call) : RunManifest := cfg.runManifest (some c.lastVerdict)

/-- The bundle a completed call leaves, when the log held the events of the calls before. -/
def Call.bundle (cfg : OrchestratorConfig) (c : Call) (log : List Event) : Bundle where
  last := some c.lastVerdict
  verdict := some c.verdict
  summary := some (buildFailureSummary (c.manifest cfg) c.verdict)
  events := log ++ [c.event (c.manifest cfg)]

/-- The bundle after the first `k` writes of a call; the fourth writes the snapshot, which the validator does not read. -/
def Bundle.write (cfg : OrchestratorConfig) (b : Bundle) (c : Call) (k : Nat) : Bundle where
  last := if 1 ≤ k then some c.lastVerdict else b.last
  verdict := if 2 ≤ k then some c.verdict else b.verdict
  summary := if 3 ≤ k then some (buildFailureSummary (c.manifest cfg) c.verdict) else b.summary
  events := if 5 ≤ k then b.events ++ [c.event (c.manifest cfg)] else b.events

/-- **A stop after `k` writes leaves the bundle of these writes.** -/
theorem holds_write {nt : NumText} {fs : Files} {b : Bundle} (h : Holds nt cfg fs b) (c : Call) (k : Nat) (hk : k ≤ 5) :
    Holds nt cfg (applyAll ((artifactWrites nt cfg c).take k) fs) (b.write cfg c k) := by
  obtain ⟨hmanifest, hverdict, hsummary, hevents, hreports⟩ := h
  obtain ⟨hcore, hoperational⟩ := reports_absent_iff.1 hreports
  obtain rfl | rfl | rfl | rfl | rfl | rfl : k = 0 ∨ k = 1 ∨ k = 2 ∨ k = 3 ∨ k = 4 ∨ k = 5 := by omega
  all_goals
    constructor <;>
      simp [artifactWrites, Bundle.write, Call.manifest, Write.apply, Write.put, Write.bytes, Files.write, Function.update,
        reportNames, encode_append, hmanifest, hverdict, hsummary, hevents, hcore, hoperational]

/-- **A completed call leaves its bundle**, whatever the artifacts were before it. -/
theorem holds_bundle {nt : NumText} {fs : Files} {log : List Event} (c : Call)
    (hevents : fs "registration-events.jsonl" = some (encode (log.flatMap (Event.line nt))))
    (hreports : ∀ name ∈ reportNames, fs name = none) :
    Holds nt cfg (applyAll (artifactWrites nt cfg c) fs) (c.bundle cfg log) := by
  obtain ⟨hcore, hoperational⟩ := reports_absent_iff.1 hreports
  constructor <;>
    simp [artifactWrites, Call.bundle, Call.manifest, Write.apply, Write.put, Write.bytes, Files.write, Function.update,
      reportNames, encode_append, hevents, hcore, hoperational]

/-! ## Along a run -/

theorem step_files (nt : NumText) (w : World cfg) (s : OrchestratorState) :
    (s.step nt w).files = applyAll (artifactWrites nt cfg (s.call w)) s.files := by
  rw [OrchestratorState.step, proceed_files, OrchestratorState.writeArtifacts]

theorem run_files (nt : NumText) (w : World cfg) {fs : Files} (hreports : ∀ name ∈ reportNames, fs name = none) :
    ∀ (n : Nat), (run nt w fs n).files "registration-events.jsonl" =
        some (encode ((run nt w fs n).log.flatMap (Event.line nt))) ∧
      ∀ name ∈ reportNames, (run nt w fs n).files name = none
  | 0 => by
    obtain ⟨hcore, hoperational⟩ := reports_absent_iff.1 hreports
    simp [run, initial, Files.write, Function.update, reportNames, hcore, hoperational]
  | n + 1 => by
    obtain ⟨hevents, habsent⟩ := run_files nt w hreports n
    have hholds : Holds nt cfg _ _ := holds_bundle ((run nt w fs n).call w) hevents habsent
    rw [run, step_files, step_log]
    exact ⟨hholds.events, hholds.reports⟩

/-- The artifacts of the run after `n` verdicts, in a directory that had none. -/
def bundleAt (nt : NumText) (w : World cfg) (fs : Files) : Nat → Bundle
  | 0 => ⟨none, none, none, []⟩
  | n + 1 => ((run nt w fs n).call w).bundle cfg (run nt w fs n).log

def NoArtifacts (fs : Files) : Prop :=
  fs "registration-verdict.json" = none ∧ fs "failure-summary.json" = none ∧ ∀ name ∈ reportNames, fs name = none

theorem holds_run (nt : NumText) (w : World cfg) {fs : Files} (h : NoArtifacts fs) :
    ∀ (n : Nat), Holds nt cfg (run nt w fs n).files (bundleAt nt w fs n)
  | 0 => by
    obtain ⟨hverdict, hsummary, hreports⟩ := h
    obtain ⟨hcore, hoperational⟩ := reports_absent_iff.1 hreports
    constructor <;>
      simp [run, initial, bundleAt, Files.write, Function.update, reportNames, hverdict, hsummary, hcore, hoperational]
  | n + 1 => by
    obtain ⟨hevents, habsent⟩ := run_files nt w h.2.2 n
    rw [run, step_files]
    exact holds_bundle _ hevents habsent

theorem bundleAt_events (nt : NumText) (w : World cfg) (fs : Files) : ∀ (n : Nat),
    (bundleAt nt w fs n).events = (run nt w fs n).log
  | 0 => rfl
  | n + 1 => by
    rw [run, step_log]
    rfl

/-! ## What was written fits -/

/-- The event of a call fits where the document it appends does. -/
theorem run_log_fits {nt : NumText} {w : World cfg} {fs : Files} : ∀ (n : Nat),
    (∀ m < n, ∀ v ∈ ((run nt w fs m).call w).documents cfg, v.fits nt.maxStrDigits = true) →
      ∀ e ∈ (run nt w fs n).log, e.Fits nt
  | 0, _, e, he => (nomatch he)
  | n + 1, h, e, he => by
    rw [run, step_log, List.mem_append, List.mem_singleton] at he
    rcases he with he | rfl
    · exact run_log_fits n (fun m hm => h m (Nat.lt_succ_of_lt hm)) e he
    · exact h n (Nat.lt_succ_self n) _ (by simp [Call.documents])

theorem fits_bundle {nt : NumText} {c : Call} {log : List Event} (hlog : ∀ e ∈ log, e.Fits nt)
    (h : ∀ v ∈ c.documents cfg, v.fits nt.maxStrDigits = true) : (c.bundle cfg log).Fits nt cfg := by
  simp only [Call.documents, List.forall_mem_cons] at h
  obtain ⟨hmanifest, hverdict, hsummary, -, hevent, -⟩ := h
  refine ⟨hmanifest, fun v hv => ?_, fun f hf => ?_, fun e he => ?_⟩
  · rw [← Option.some.inj hv]; exact hverdict
  · rw [← Option.some.inj hf]; exact hsummary
  · rcases List.mem_append.1 he with he | he
    · exact hlog e he
    · rw [List.mem_singleton.1 he]; exact hevent

theorem WritesUpTo.fits_bundleAt {nt : NumText} {w : World cfg} {fs : Files} {n k : Nat}
    (h : WritesUpTo nt w fs n k) : (bundleAt nt w fs n).Fits nt cfg := by
  cases n with
  | zero => exact ⟨h.manifest, fun v hv => (nomatch hv), fun f hf => (nomatch hf), fun e he => (nomatch he)⟩
  | succ n =>
    exact fits_bundle (run_log_fits n (fun m hm => h.before m (Nat.lt_succ_of_lt hm))) (h.before n (Nat.lt_succ_self n))

/-- **A stop after `k` writes leaves only documents that were serialized.** -/
theorem fits_write {nt : NumText} {b : Bundle} (h : b.Fits nt cfg) {c : Call} {k : Nat} (hk : k ≤ 4)
    (hc : ∀ v ∈ (c.documents cfg).take k, v.fits nt.maxStrDigits = true) : (b.write cfg c k).Fits nt cfg := by
  have hevents : (b.write cfg c k).events = b.events := if_neg (by omega)
  refine ⟨?_, fun v hv => ?_, fun f hf => ?_, by rw [hevents]; exact h.events⟩
  · simp only [Bundle.write]
    split
    · exact hc _ (List.mem_take_iff_getElem.2 ⟨0, by simp [Call.documents]; omega, rfl⟩)
    · exact h.manifest
  · simp only [Bundle.write] at hv
    split at hv
    · rw [← Option.some.inj hv]
      exact hc _ (List.mem_take_iff_getElem.2 ⟨1, by simp [Call.documents]; omega, rfl⟩)
    · exact h.verdict v hv
  · simp only [Bundle.write] at hf
    split at hf
    · rw [← Option.some.inj hf]
      exact hc _ (List.mem_take_iff_getElem.2 ⟨2, by simp [Call.documents]; omega, rfl⟩)
    · exact h.summary f hf

/-! ## The calls -/

def raised : Except String (Collected cfg) → Option String
  | .ok _ => none
  | .error text => some text

theorem collected_errors (result : Except String (Collected cfg)) : (collected result).2 = (raised result).toList := by
  cases result <;> rfl

theorem call_verdict (w : World cfg) (s : OrchestratorState) :
    (s.call w).verdict = collectVerdict w s.collections (decide ((s.call w).phase = .timeout)) := by
  rw [OrchestratorState.call]
  split <;> rfl

theorem call_produced (w : World cfg) (s : OrchestratorState) : Produced cfg (s.call w).verdict :=
  ⟨w.collect s.collections, _, call_verdict w s⟩

theorem failedClass_oneLine (timedOut : Bool) (failed : List Check) :
    ∀ t ∈ classify [] timedOut failed, OneLine t.severity ∧ ∀ d ∈ t.details, OneLine d := by
  have hnames : ∀ d ∈ failed.map Check.name, OneLine d := fun d hd => by
    obtain ⟨c, -, rfl⟩ := List.mem_map.1 hd
    exact c.name_oneLine
  have herror : OneLine "error" := by decide
  intro t ht
  simp only [classify, List.isEmpty_nil, if_true, List.nil_append] at ht
  split at ht
  · exact (nomatch ht)
  · split at ht <;> rw [List.mem_singleton.1 ht] <;> exact ⟨herror, hnames⟩

/-- **The event of a call is written as the log expects**: the exception first, all else in one line. -/
theorem call_logged (w : World cfg) (s : OrchestratorState) :
    ((s.call w).event ((s.call w).manifest cfg)).Logged (raised (w.collect s.collections)) := by
  have hverdict := call_verdict w s
  refine ⟨cfg.runId_oneLine, ?_, classify [] (decide ((s.call w).phase = .timeout))
    (collected (w.collect s.collections)).1.val.failedChecks, ?_, failedClass_oneLine _ _⟩
  · have htime : ((s.call w).event ((s.call w).manifest cfg)).capturedAt =
        (collected (w.collect s.collections)).1.val.capturedAt := by rw [Call.event, hverdict]; rfl
    rw [htime]
    exact (collected (w.collect s.collections)).1.property.2.2
  · have htaxonomy : ((s.call w).event ((s.call w).manifest cfg)).taxonomy =
        classify (collected (w.collect s.collections)).2 (decide ((s.call w).phase = .timeout))
          (collected (w.collect s.collections)).1.val.failedChecks := by
      rw [Call.event, hverdict]
      rfl
    rw [htaxonomy, collected_errors]
    cases raised (w.collect s.collections) <;> rfl

/-! ## Attempts -/

def Control.attempt : Control → Nat
  | .settling attempt _ => attempt
  | .timingOut attempt => attempt
  | .steady attempt => attempt

/-- Between two verdicts the counter is the last call's. -/
theorem step_attempt (nt : NumText) (w : World cfg) (s : OrchestratorState) :
    (s.step nt w).control.attempt = (s.call w).attempt := by
  unfold OrchestratorState.step OrchestratorState.proceed OrchestratorState.settled
  split
  · split
    · rfl
    · simp only
      split <;> rfl
  · rfl
  · rfl

theorem lastEvent_attempt (nt : NumText) (w : World cfg) (fs : Files) : ∀ (n : Nat) (e : Event),
    (run nt w fs n).log.getLast? = some e → e.attempt = (run nt w fs n).control.attempt
  | 0, e, h => (nomatch h)
  | n + 1, e, h => by
    rw [run, step_log, List.getLast?_concat] at h
    rw [run, step_attempt, ← Option.some.inj h, Call.event]

/-- **The timeout verdict follows a settle attempt that failed**, and has its number. -/
theorem timingOut_follows (nt : NumText) (w : World cfg) (fs : Files) : ∀ (n attempt : Nat),
    (run nt w fs n).control = .timingOut attempt → ∃ m, n = m + 1 ∧
      ((run nt w fs m).call w).phase = .settle ∧ ((run nt w fs m).call w).attempt = attempt ∧ 0 < attempt ∧
      ((run nt w fs m).call w).verdict.status ≠ .pass
  | 0, _, h => (nomatch h)
  | m + 1, attempt, h => by
    refine ⟨m, rfl, ?_⟩
    have hattempt := step_attempt nt w (run nt w fs m)
    rw [← run, h, Control.attempt] at hattempt
    rw [run] at h
    cases hc : (run nt w fs m).control with
    | settling attempt' backoffSeconds =>
      have hcall : (run nt w fs m).call w =
          ⟨collectVerdict w (run nt w fs m).collections false, attempt' + 1, .settle⟩ := by rw [OrchestratorState.call, hc]
      rcases settling_cases nt w _ attempt' backoffSeconds hc with ⟨-, hctl, -⟩ | ⟨hfail, -, -, -⟩ | ⟨-, -, hctl, -⟩
      · rw [h] at hctl; cases hctl
      · rw [hcall] at hattempt ⊢
        exact ⟨rfl, hattempt.symm, by rw [hattempt]; exact Nat.succ_pos attempt', hfail⟩
      · rw [h] at hctl; cases hctl
    | timingOut attempt' => rw [(timingOut_step nt w _ attempt' hc).1] at h; cases h
    | steady attempt' => rw [(steady_step nt w _ attempt' hc).1] at h; cases h

theorem call_attempt_pos (nt : NumText) (w : World cfg) (fs : Files) (n : Nat) :
    0 < ((run nt w fs n).call w).attempt := by
  rw [OrchestratorState.call]
  split
  · exact Nat.succ_pos _
  · rename_i attempt hc
    obtain ⟨-, -, -, -, hpos, -⟩ := timingOut_follows nt w fs n attempt hc
    exact hpos
  · exact Nat.succ_pos _

/-! ## The bundles are the orchestrator's -/

theorem run_log (nt : NumText) (w : World cfg) (fs : Files) : ∀ (n : Nat), ∀ e ∈ (run nt w fs n).log,
    (∃ error, e.Logged error) ∧ e.runId = cfg.runId ∧ 0 < e.attempt
  | 0, e, he => (nomatch he)
  | n + 1, e, he => by
    rw [run, step_log, List.mem_append, List.mem_singleton] at he
    rcases he with he | rfl
    · exact run_log nt w fs n e he
    · exact ⟨⟨_, call_logged w _⟩, rfl, call_attempt_pos nt w fs n⟩

theorem made_run (nt : NumText) (w : World cfg) (fs : Files) (n : Nat) : (bundleAt nt w fs n).Made cfg := by
  refine ⟨fun v hv => ?_, fun f hf => ?_, fun e he => ?_, fun e he => ?_⟩
  · cases n with
    | zero => cases hv
    | succ n => rw [← Option.some.inj hv]; exact call_produced w _
  · cases n with
    | zero => cases hf
    | succ n => rw [← Option.some.inj hf]; rfl
  · rw [bundleAt_events] at he
    exact (run_log nt w fs n e he).1
  · rw [bundleAt_events] at he
    exact (run_log nt w fs n e he).2

theorem made_write {b : Bundle} (h : b.Made cfg) {c : Call} (hc : Produced cfg c.verdict) (k : Nat) (hk : k ≤ 4) :
    (b.write cfg c k).Made cfg := by
  have hevents : (b.write cfg c k).events = b.events := if_neg (by omega)
  refine ⟨fun v hv => ?_, fun f hf => ?_, by rw [hevents]; exact h.logged, by rw [hevents]; exact h.event⟩
  · simp only [Bundle.write] at hv
    split at hv
    · rw [← Option.some.inj hv]; exact hc
    · exact h.verdict v hv
  · simp only [Bundle.write] at hf
    split at hf
    · rw [← Option.some.inj hf]; rfl
    · exact h.summary f hf

/-! ## Bundles with all their parts -/

/-- What the validator compares in a bundle that lacks nothing. -/
theorem consistent_parts_iff (cfg : OrchestratorConfig) (l : LastVerdict) (v : Verdict) (f : FailureSummary)
    (log : List Event) (e : Event) :
    (⟨some l, some v, some f, log ++ [e]⟩ : Bundle).Consistent cfg ↔
      (0 ≤ cfg.minBackoffSeconds ∧ cfg.minBackoffSeconds ≤ cfg.maxBackoffSeconds ∧ ∀ e' ∈ log ++ [e], e'.Plain) ∧
        CountRight v ∧ l = ⟨v.capturedAt, v.status, e.attempt⟩ ∧
        (f.status = v.status ∧ f.failedChecks = v.failedChecks ∧ f.taxonomy = v.taxonomy) ∧ v.status = e.status := by
  constructor
  · rintro ⟨hmin, hmax, hplain, v', f', e', hv, hf, he, hcount, hlast, hstatus, hfailed, htaxonomy, hevent⟩
    rw [List.getLast?_concat] at he
    cases hv
    cases hf
    cases he
    obtain ⟨h1, h2, h3⟩ := hlast l rfl
    refine ⟨⟨hmin, hmax, hplain⟩, hcount, ?_, ⟨hstatus, hfailed, htaxonomy⟩, hevent⟩
    rw [← h1, ← h2, ← h3]
  · rintro ⟨⟨hmin, hmax, hplain⟩, hcount, rfl, ⟨hstatus, hfailed, htaxonomy⟩, hevent⟩
    refine ⟨hmin, hmax, hplain, v, f, e, rfl, rfl, List.getLast?_concat, hcount, fun l hl => ?_, hstatus, hfailed,
      htaxonomy, hevent⟩
    cases hl
    exact ⟨rfl, rfl, rfl⟩

/-! ## Completed calls -/

theorem countRight_of_connected (s : Snapshot) (timedOut : Bool) (errors : List String)
    (hprofile : s.expectedAgents = cfg.expectedAgents)
    (hconnected : ∀ a ∈ s.xmppConnectedAgentIds.val, a ∈ s.xmppRegisteredAgentIds.val) :
    CountRight (verdictOf cfg s timedOut errors) := by
  intro hpass _
  have hagrees : s.Agrees := (agrees_iff s).2 ((status_pass_iff s timedOut errors).1 hpass).2
  have hconn : s.xmppConnectedAgentIds = s.ldapAgentIds := by
    refine Ascending.eq_of_subset _ _ (fun a ha => ?_) ?_
    · rw [← hagrees.registered]
      exact hconnected a ha
    · have hcount := hagrees.count
      have hconnectedCount := hagrees.connectedCount
      omega
  exact (perAgent_of_agrees s hagrees hconn).1.trans hprofile

def ConnectedRegistered (w : World cfg) : Prop :=
  ∀ i s, w.collect i = .ok s → ∀ a ∈ s.val.xmppConnectedAgentIds.val, a ∈ s.val.xmppRegisteredAgentIds.val

/-- The exceptions' texts hold no boundary that JSON writes raw. -/
def TextsOneLine (w : World cfg) : Prop := ∀ i text, w.collect i = .error text → OneLine text

theorem call_countRight {w : World cfg} (h : ConnectedRegistered w) (s : OrchestratorState) :
    CountRight (s.call w).verdict := by
  rw [call_verdict, collectVerdict]
  refine countRight_of_connected _ _ _ (collected (w.collect s.collections)).1.property.2.1 ?_
  cases hc : w.collect s.collections with
  | ok snapshot => exact h _ snapshot hc
  | error text => exact fun a ha => (nomatch ha)

theorem run_plain (nt : NumText) {w : World cfg} (fs : Files) (h : TextsOneLine w) : ∀ (n : Nat),
    ∀ e ∈ (run nt w fs n).log, e.Plain
  | 0, e, he => (nomatch he)
  | n + 1, e, he => by
    rw [run, step_log, List.mem_append, List.mem_singleton] at he
    rcases he with he | rfl
    · exact run_plain nt fs h n e he
    · refine (call_logged w _).plain_iff.2 (fun text htext => ?_)
      cases hc : w.collect (run nt w fs n).collections with
      | ok snapshot => rw [hc] at htext; cases htext
      | error text' =>
        rw [hc] at htext
        cases htext
        exact h _ _ hc

/-- **After every completed call the validator finds nothing wrong**, whatever an earlier run left: the producer and the
validator agree. -/
theorem completed_evidence_valid (nt : NumText) (reprList : List String → String) (w : World cfg) (fs : Files)
    (h0 : 0 ≤ cfg.minBackoffSeconds) (h1 : cfg.minBackoffSeconds ≤ cfg.maxBackoffSeconds)
    (hconnected : ConnectedRegistered w) (htexts : TextsOneLine w)
    (hreports : ∀ name ∈ reportNames, fs name = none) (n : Nat) (hwritten : WritesUpTo nt w fs n 5) :
    ∃ report, validateRegistrationEvidence nt reprList evidenceContract (run nt w fs (n + 1)).files = .ok report ∧
      report.errors = [] := by
  obtain ⟨hevents, habsent⟩ := run_files nt w hreports n
  have hholds : Holds nt cfg (run nt w fs (n + 1)).files (bundleAt nt w fs (n + 1)) := by
    rw [run, step_files]
    exact holds_bundle _ hevents habsent
  have hfits : (bundleAt nt w fs (n + 1)).Fits nt cfg :=
    fits_bundle (run_log_fits n hwritten.before) (by simpa [Call.documents] using hwritten.call)
  obtain ⟨report, hreport, herrors⟩ := validate_bundle reprList (made_run nt w fs (n + 1)) hfits hholds
  refine ⟨report, hreport, herrors.2 ?_⟩
  have hplain := run_plain nt fs htexts (n + 1)
  rw [← bundleAt_events] at hplain
  exact (consistent_parts_iff _ _ _ _ _ _).2
    ⟨⟨h0, h1, hplain⟩, call_countRight hconnected _, rfl, ⟨rfl, rfl, rfl⟩, rfl⟩

/-! ## Torn calls -/

theorem not_pass_iff (status : Status) : status ≠ .pass ↔ status = .fail := by cases status <;> simp

/-- A verdict that fails has failed checks: the empty snapshot of an exception fails the dashboard's. -/
theorem failedChecks_of_fail {v : Verdict} (hv : Produced cfg v) (h : v.status ≠ .pass) : v.failedChecks ≠ [] := by
  obtain ⟨result, timedOut, rfl⟩ := hv
  cases result with
  | ok snapshot => exact fun hnil => h ((status_pass_iff _ _ _).2 ⟨rfl, (failedChecks_nil_iff _).1 hnil⟩)
  | error text =>
    intro hnil
    have hall := (failedChecks_nil_iff (emptySnapshot cfg).val).1 hnil
    have hnull : (emptySnapshot cfg).val.passes .dashboardTotalMatchesExpected = false := rfl
    exact Bool.noConfusion (hnull.symm.trans (hall .dashboardTotalMatchesExpected))

theorem classify_last (errors : List String) (timedOut : Bool) (failed : List Check) (h : failed ≠ []) :
    (classify errors timedOut failed).getLast?.map TaxonomyEntry.code =
      some (if timedOut then .registrationTimeout else .registrationProjectionMismatch) := by
  cases failed with
  | nil => exact absurd rfl h
  | cons c failed => cases timedOut <;> simp [classify, TaxonomyEntry.of]

/-- The classes of a failed verdict tell a timeout from any other failure. -/
theorem call_taxonomy (w : World cfg) (s : OrchestratorState) (h : (s.call w).verdict.status ≠ .pass) :
    (s.call w).verdict.taxonomy.getLast?.map TaxonomyEntry.code =
      some (if (s.call w).phase = .timeout then .registrationTimeout else .registrationProjectionMismatch) := by
  have hfailed := failedChecks_of_fail (call_produced w s) h
  rw [call_verdict] at hfailed ⊢
  have hclass := classify_last (collected (w.collect s.collections)).2 (decide ((s.call w).phase = .timeout)) _ hfailed
  simp only [decide_eq_true_eq] at hclass
  exact hclass

theorem step_last (nt : NumText) (w : World cfg) (s : OrchestratorState) :
    (s.step nt w).last = some (s.call w).lastVerdict := by
  rw [OrchestratorState.step, proceed_last, OrchestratorState.writeArtifacts]

/-- The torn calls the validator does not see: a failed timeout verdict of which only the event, or the snapshot and the
event, is missing, or of which only the manifest was written, with the time of the attempt before it. -/
structure OrchestratorState.TearUnseen (w : World cfg) (s : OrchestratorState) (k : Nat) : Prop where
  timeout : (s.call w).phase = .timeout
  failed : (s.call w).verdict.status ≠ .pass
  cut : k = 1 ∧ s.last.map LastVerdict.lastVerdictAt = some (s.call w).verdict.capturedAt ∨ k = 3 ∨ k = 4
  backoff : 0 ≤ cfg.minBackoffSeconds ∧ cfg.minBackoffSeconds ≤ cfg.maxBackoffSeconds
  plain : ∀ e ∈ s.log, e.Plain

/-- A torn settle or steady call leaves a manifest that is one attempt ahead of the log. -/
theorem torn_attempt {nt : NumText} {w : World cfg} {fs : Files} {n k : Nat} (hk : 1 ≤ k) (hk' : k ≤ 4)
    (h : ((bundleAt nt w fs n).write cfg ((run nt w fs n).call w) k).Consistent cfg) :
    ((run nt w fs n).call w).phase = .timeout := by
  obtain ⟨-, -, -, v, f, e, -, -, hevent, -, hlast, -⟩ := h
  have hevents : ((bundleAt nt w fs n).write cfg ((run nt w fs n).call w) k).events = (run nt w fs n).log := by
    rw [← bundleAt_events]
    exact if_neg (by omega)
  rw [hevents] at hevent
  have hattempt := lastEvent_attempt nt w fs n e hevent
  have hcounter := (hlast ((run nt w fs n).call w).lastVerdict (if_pos hk)).2.2
  rw [Call.lastVerdict, hattempt] at hcounter
  cases hc : (run nt w fs n).control with
  | timingOut attempt => rw [OrchestratorState.call, hc]
  | settling attempt backoffSeconds =>
    simp only [OrchestratorState.call, hc, Control.attempt] at hcounter
    omega
  | steady attempt =>
    simp only [OrchestratorState.call, hc, Control.attempt] at hcounter
    omega

theorem timingOut_of_phase {w : World cfg} {s : OrchestratorState} (h : (s.call w).phase = .timeout) :
    ∃ attempt, s.control = .timingOut attempt ∧ (s.call w).attempt = attempt := by
  cases hc : s.control with
  | timingOut attempt => exact ⟨attempt, rfl, by rw [OrchestratorState.call, hc]⟩
  | settling attempt backoffSeconds => rw [OrchestratorState.call, hc] at h; cases h
  | steady attempt => rw [OrchestratorState.call, hc] at h; cases h

/-- The call `c` torn after the call `p` that failed with the same number: cut after the manifest only the times tell
them apart, cut after the verdict the failure summary is still `p`'s, and after that only the events could. -/
theorem torn_after_iff (p c : Call) (log : List Event) (k : Nat) (hk : 1 ≤ k) (hk' : k ≤ 4)
    (hattempt : c.attempt = p.attempt) (hp : p.verdict.status ≠ .pass)
    (htaxonomy : c.verdict.status ≠ .pass → c.verdict.taxonomy ≠ p.verdict.taxonomy) :
    ((p.bundle cfg log).write cfg c k).Consistent cfg ↔
      (0 ≤ cfg.minBackoffSeconds ∧ cfg.minBackoffSeconds ≤ cfg.maxBackoffSeconds ∧
        ∀ e ∈ log ++ [p.event (p.manifest cfg)], e.Plain) ∧ c.verdict.status ≠ .pass ∧
        (k = 1 ∧ p.verdict.capturedAt = c.verdict.capturedAt ∨ k = 3 ∨ k = 4) := by
  have hfail := (not_pass_iff _).1 hp
  have hcount : ∀ v : Verdict, v.status = .fail → CountRight v := fun v hv hpass => by rw [hv] at hpass; cases hpass
  have hsame : c.lastVerdict = ⟨p.verdict.capturedAt, p.verdict.status, p.attempt⟩ ↔
      p.verdict.capturedAt = c.verdict.capturedAt ∧ c.verdict.status = .fail := by
    simp only [Call.lastVerdict, LastVerdict.mk.injEq, hattempt, hfail, and_true, eq_comm (a := c.verdict.capturedAt)]
  have hown : c.lastVerdict = ⟨c.verdict.capturedAt, c.verdict.status, p.attempt⟩ := by rw [Call.lastVerdict, hattempt]
  have hevent : (p.event (p.manifest cfg)).status = .fail := hfail
  have hparts := fun l v f => consistent_parts_iff cfg l v f log (p.event (p.manifest cfg))
  rw [not_pass_iff]
  obtain rfl | rfl | hcut : k = 1 ∨ k = 2 ∨ k = 3 ∨ k = 4 := by omega
  · have hbundle : (p.bundle cfg log).write cfg c 1 = ⟨some c.lastVerdict, some p.verdict,
        some (buildFailureSummary (p.manifest cfg) p.verdict), log ++ [p.event (p.manifest cfg)]⟩ := rfl
    rw [hbundle, hparts]
    constructor
    · rintro ⟨hvalid, -, hlast, -⟩
      obtain ⟨htime, hstatus⟩ := hsame.1 hlast
      exact ⟨hvalid, hstatus, Or.inl ⟨rfl, htime⟩⟩
    · rintro ⟨hvalid, hstatus, ⟨-, htime⟩ | hk | hk⟩
      · exact ⟨hvalid, hcount _ hfail, hsame.2 ⟨htime, hstatus⟩, ⟨rfl, rfl, rfl⟩, rfl⟩
      · cases hk
      · cases hk
  · have hbundle : (p.bundle cfg log).write cfg c 2 = ⟨some c.lastVerdict, some c.verdict,
        some (buildFailureSummary (p.manifest cfg) p.verdict), log ++ [p.event (p.manifest cfg)]⟩ := rfl
    rw [hbundle, hparts]
    constructor
    · rintro ⟨-, -, -, ⟨hstatus, -, hsummary⟩, -⟩
      have hc : c.verdict.status ≠ .pass := by rw [← hstatus]; exact hp
      exact absurd hsummary.symm (htaxonomy hc)
    · rintro ⟨-, -, ⟨hk, -⟩ | hk | hk⟩ <;> cases hk
  · have hbundle : (p.bundle cfg log).write cfg c k = ⟨some c.lastVerdict, some c.verdict,
        some (buildFailureSummary (c.manifest cfg) c.verdict), log ++ [p.event (p.manifest cfg)]⟩ := by
      rcases hcut with rfl | rfl <;> rfl
    rw [hbundle, hparts]
    constructor
    · rintro ⟨hvalid, -, -, -, hstatus⟩
      exact ⟨hvalid, hstatus.trans hevent, Or.inr hcut⟩
    · rintro ⟨hvalid, hstatus, -⟩
      exact ⟨hvalid, hcount _ hstatus, hown, ⟨rfl, rfl, rfl⟩, hstatus.trans hevent.symm⟩

/-- **The validator accepts exactly the unseen torn calls.** -/
theorem torn_consistent_iff (nt : NumText) (w : World cfg) (fs : Files) (n k : Nat) (hk : 1 ≤ k) (hk' : k ≤ 4) :
    ((bundleAt nt w fs n).write cfg ((run nt w fs n).call w) k).Consistent cfg ↔ (run nt w fs n).TearUnseen w k := by
  by_cases hphase : ((run nt w fs n).call w).phase = .timeout
  swap
  · exact ⟨fun h => absurd (torn_attempt hk hk' h) hphase, fun h => absurd h.timeout hphase⟩
  obtain ⟨attempt, hcontrol, hcattempt⟩ := timingOut_of_phase hphase
  obtain ⟨m, rfl, hsettle, hattempt, -, hfailed⟩ := timingOut_follows nt w fs n attempt hcontrol
  have hlast : (run nt w fs (m + 1)).last = some ((run nt w fs m).call w).lastVerdict := by rw [run, step_last]
  have hlog : (run nt w fs (m + 1)).log = (run nt w fs m).log ++
      [((run nt w fs m).call w).event (((run nt w fs m).call w).manifest cfg)] := by rw [run, step_log]; rfl
  have htaxonomy : ((run nt w fs (m + 1)).call w).verdict.status ≠ .pass →
      ((run nt w fs (m + 1)).call w).verdict.taxonomy ≠ ((run nt w fs m).call w).verdict.taxonomy := fun hc heq => by
    have hclass := call_taxonomy w _ hc
    rw [heq, call_taxonomy w _ hfailed, hphase, hsettle] at hclass
    cases hclass
  rw [bundleAt, torn_after_iff _ _ _ k hk hk' (hcattempt.trans hattempt.symm) hfailed htaxonomy, ← hlog]
  constructor
  · rintro ⟨⟨hmin, hmax, hplain⟩, hstatus, hcut⟩
    refine ⟨hphase, hstatus, hcut.imp_left (And.imp_right (fun htime => ?_)), ⟨hmin, hmax⟩, hplain⟩
    rw [hlast, ← htime]
    rfl
  · rintro ⟨-, hstatus, hcut, ⟨hmin, hmax⟩, hplain⟩
    refine ⟨⟨hmin, hmax, hplain⟩, hstatus, hcut.imp_left (And.imp_right (fun htime => ?_))⟩
    rw [hlast] at htime
    exact Option.some.inj htime

/-- The validator reports the next call torn after `k` writes. -/
def TearReported (nt : NumText) (reprList : List String → String) (w : World cfg) (fs : Files) (n k : Nat) : Prop :=
  let s := run nt w fs n
  ∃ report, validateRegistrationEvidence nt reprList evidenceContract
      (applyAll ((artifactWrites nt cfg (s.call w)).take k) s.files) = .ok report ∧ report.errors ≠ []

theorem torn_report (nt : NumText) (reprList : List String → String) (w : World cfg) (fs : Files) (h : NoArtifacts fs)
    (n k : Nat) (hk : 1 ≤ k) (hk' : k ≤ 4) (hwritten : WritesUpTo nt w fs n k) :
    ∃ report, validateRegistrationEvidence nt reprList evidenceContract
      (applyAll ((artifactWrites nt cfg ((run nt w fs n).call w)).take k) (run nt w fs n).files) = .ok report ∧
      (report.errors = [] ↔ (run nt w fs n).TearUnseen w k) := by
  have hholds := holds_write (holds_run nt w h n) ((run nt w fs n).call w) k (Nat.le_succ_of_le hk')
  have hmade := made_write (made_run nt w fs n) (call_produced w (run nt w fs n)) k hk'
  have hfits := fits_write hwritten.fits_bundleAt hk' hwritten.call
  rw [← torn_consistent_iff nt w fs n k hk hk']
  exact validate_bundle reprList hmade hfits hholds

/-- **A torn call is reported unless it is one of the unseen ones**: always in the settle and the steady loop, and always
when the failure summary is the first file to be missing. -/
theorem tearReported_iff (nt : NumText) (reprList : List String → String) (w : World cfg) (fs : Files)
    (h : NoArtifacts fs) (n k : Nat) (hk : 1 ≤ k) (hk' : k ≤ 4) (hwritten : WritesUpTo nt w fs n k) :
    TearReported nt reprList w fs n k ↔ ¬ (run nt w fs n).TearUnseen w k := by
  obtain ⟨report, hreport, herrors⟩ := torn_report nt reprList w fs h n k hk hk' hwritten
  rw [← herrors]
  constructor
  · rintro ⟨report', hreport', hne⟩
    rw [hreport] at hreport'
    cases hreport'
    exact hne
  · exact fun hne => ⟨report, hreport, hne⟩

end

/-! ## Samples -/

theorem sampleWorld_writes : WritesUpTo .bits sampleWorld (fun _ => none) 1 5 where
  manifest := by decide
  before := by decide
  call := by decide +kernel

/-- The sample's artifacts are in order once its second verdict, the passing one, is written. -/
theorem sampleWorld_valid : ∃ report, validateRegistrationEvidence .bits (fun _ => "") evidenceContract
    (run .bits sampleWorld (fun _ => none) 2).files = .ok report ∧ report.errors = [] := by
  refine completed_evidence_valid .bits (fun _ => "") sampleWorld (fun _ => none) (by decide) (by decide)
    (fun i s hs => ?_) (fun i text htext => ?_) (fun _ _ => rfl) 1 sampleWorld_writes
  · simp only [sampleWorld] at hs
    split at hs
    · cases hs
    · cases hs
      exact fun a ha => ha
  · simp only [sampleWorld] at htext
    split at htext
    · cases htext
      decide
    · cases htext

theorem sampleWorld_torn : TearReported .bits (fun _ => "") sampleWorld (fun _ => none) 0 1 :=
  (tearReported_iff .bits (fun _ => "") sampleWorld (fun _ => none) ⟨rfl, rfl, fun _ _ => rfl⟩ 0 1 (by decide)
    (by decide) ⟨by decide, by decide, by decide⟩).2 (fun h => absurd h.timeout (by decide))

/-- Every collection is refused, and no time passes. -/
def refusedWorld : World (sampleConfig 0) where
  collect _ := .error "Connection refused"
  monotonic _ := 0

/-- **A torn timeout is not seen**: the first attempt fails at the deadline, and of the timeout's writes the snapshot and
the event are missing. -/
theorem refusedWorld_unseen : ¬ TearReported .bits (fun _ => "") refusedWorld (fun _ => none) 1 3 := by
  have hfail : ∀ i timedOut, (collectVerdict refusedWorld i timedOut).status ≠ .pass := fun i timedOut hpass =>
    List.cons_ne_nil _ _ ((status_pass_iff (emptySnapshot (sampleConfig 0)).val timedOut ["Connection refused"]).1 hpass).1
  have hcontrol : (run .bits refusedWorld (fun _ => none) 1).control = .timingOut 1 := by
    rcases settling_cases .bits refusedWorld (run .bits refusedWorld (fun _ => none) 0) 0 2 rfl with
      ⟨hpass, -⟩ | ⟨-, -, hctl, -⟩ | ⟨-, hearly, -⟩
    · exact absurd hpass (hfail _ _)
    · exact hctl
    · simp [refusedWorld, deadline, sampleConfig] at hearly
  have hunseen : (run .bits refusedWorld (fun _ => none) 1).TearUnseen refusedWorld 3 := by
    refine ⟨?_, ?_, Or.inr (Or.inl rfl), by decide, run_plain .bits (fun _ => none) (fun i text h => ?_) 1⟩
    · rw [OrchestratorState.call, hcontrol]
    · rw [call_verdict]
      exact hfail _ _
    · cases h
      decide
  obtain ⟨report, hreport, herrors⟩ := torn_report .bits (fun _ => "") refusedWorld (fun _ => none)
    ⟨rfl, rfl, fun _ _ => rfl⟩ 1 3 (by decide) (by decide) ⟨by decide, by decide, by decide +kernel⟩
  rintro ⟨report', hreport', hne⟩
  rw [hreport] at hreport'
  cases hreport'
  exact hne (herrors.2 hunseen)

end Lider
