import LiderPlatform.EventLog
import LiderPlatform.Orchestrator
import LiderPlatform.RegistrationEvidence
/-!
# EvidenceAgreement — what the validator makes of the orchestrator's artifacts

A `Bundle` is a directory as the orchestrator can leave it, also between two of its writes: a manifest, a verdict and a
failure summary that may be missing, and an event log.  `validate_bundle` says exactly which bundles the validator
accepts: those whose parts agree (`Bundle.Consistent`) and whose log can be split into its events.
-/
namespace Lider

open Py

section
variable (nt : NumText) (reprList : List String → String) (cfg : OrchestratorConfig)

/-! ## Verdicts of the orchestrator -/

def Produced (v : Verdict) : Prop :=
  ∃ (result : Except String (Collected cfg)) (timedOut : Bool),
    v = verdictOf cfg (collected result).1.val timedOut (collected result).2

theorem errorIf_nil_iff (wrong : Bool) (message : String) : errorIf wrong message = [] ↔ wrong = false := by
  cases wrong <;> simp [errorIf]

theorem statesDict_keys (e : AgentState) (h : e.HasStates) : e.statesDict.keys = evidenceContract.registrationStates := by
  have hkeys : e.statesDict.keys = (e.states.map Prod.fst).map RegState.name := by
    rw [AgentState.statesDict, Dict.keys, List.map_map, List.map_map]
    rfl
  rw [hkeys, h]
  rfl

theorem highest_reached (s : Snapshot) (agentId : String) (state : RegState)
    (h : (s.agentState agentId).highestState = some state) : s.reached agentId state = true := by
  obtain ⟨p, hp, rfl⟩ := List.mem_map.1 (List.mem_of_getLast? h)
  obtain ⟨hmem, htrue⟩ := List.mem_filter.1 hp
  obtain ⟨r, -, rfl⟩ := List.mem_map.1 hmem
  exact htrue

theorem statesDict_get (s : Snapshot) (agentId : String) (state : RegState) :
    (s.agentState agentId).statesDict.get state.name = .bool (s.reached agentId state) := by
  cases state <;> simp [AgentState.statesDict, Snapshot.agentState, RegState.all, RegState.name]

theorem state_known (state : RegState) : state.name ∈ evidenceContract.registrationStates := by cases state <;> decide

theorem inTexts_str (s : String) (names : List String) : inTexts (.str s) names = .ok (decide (s ∈ names)) := by
  rw [inTexts]
  · congr 1
    rw [Bool.eq_iff_iff]
    simp
  · simp
  · simp

/-- **The per-agent table of a verdict has no errors.** -/
theorem stateErrors_nil (s : Snapshot) (agentId label : String) :
    stateErrors reprList evidenceContract.registrationStates label (s.agentState agentId).statesDict
      (.str (s.agentState agentId).highestText) = .ok [] := by
  have hkeys := statesDict_keys _ (s.agentState_hasStates agentId)
  have hmissing :
      evidenceContract.registrationStates.filter (fun name => !(s.agentState agentId).statesDict.has name) = [] := by
    rw [List.filter_eq_nil_iff]
    intro name hname
    rw [Bool.not_eq_true, Bool.not_eq_false', Dict.has_iff_mem_keys, hkeys]
    exact hname
  have hunexpected :
      (s.agentState agentId).statesDict.keys.filter (fun name => name ∉ evidenceContract.registrationStates) = [] := by
    rw [List.filter_eq_nil_iff, hkeys]
    intro name hname
    simpa using hname
  have hflags : (s.agentState agentId).statesDict.flatMap
      (fun p => errorIf (!isBool p.2) (label ++ ": state " ++ p.1 ++ " must be boolean")) = [] := by
    rw [List.flatMap_eq_nil_iff]
    intro p hp
    obtain ⟨f, -, rfl⟩ := List.mem_map.1 hp
    rfl
  have hnone : (sortedUnique ([] : List String)).val = [] := rfl
  unfold stateErrors
  simp only [hmissing, hunexpected, hflags, hnone, inTexts_str, Json.pyEq_str]
  cases hhigh : (s.agentState agentId).highestState with
  | none =>
    have htext : (s.agentState agentId).highestText = "missing" := by rw [AgentState.highestText, hhigh]
    have hunknown : "missing" ∉ evidenceContract.registrationStates := by decide
    rw [htext]
    simp [hunknown, errorIf, bind, Except.bind, pure, Except.pure]
  | some state =>
    have htext : (s.agentState agentId).highestText = state.name := by rw [AgentState.highestText, hhigh]
    have hget : (s.agentState agentId).statesDict.get state.name = .bool true := by
      rw [statesDict_get, highest_reached s agentId state hhigh]
    rw [htext]
    simp [state_known state, hget, errorIf, bind, Except.bind, pure, Except.pure]

theorem perAgentErrors_nil (s : Snapshot) : ∀ (ids : List String) (index : Nat),
    perAgentErrors reprList evidenceContract.registrationStates index
      (ids.map (fun agentId => .obj (s.agentState agentId).toDict)) = .ok []
  | [], _ => rfl
  | agentId :: ids, index => by
    have hentry : ∀ label, agentErrors reprList evidenceContract.registrationStates label
        (.obj (s.agentState agentId).toDict) = .ok [] := fun label => by
      have hstates := stateErrors_nil reprList s agentId label
      simp [agentErrors, AgentState.toDict, hstates, errorIf, bind, Except.bind, pure, Except.pure]
    rw [List.map_cons, perAgentErrors, hentry, perAgentErrors_nil s ids (index + 1)]
    rfl

def agentsJson (v : Verdict) : List Json := v.perAgent.map (fun e => .obj e.toDict)

theorem saysPass_eq (v : Verdict) : saysPass v.toDict = decide (v.status = .pass) := by
  cases h : v.status <;> simp [saysPass, Verdict.toDict, Status.text, h]

/-- A passing verdict lists as many agents as it expects. -/
def CountRight (v : Verdict) : Prop :=
  v.status = .pass → 0 < v.expectedAgents → (v.perAgent.length : Int) = v.expectedAgents

theorem countErrors_nil_iff (v : Verdict) : countErrors v.toDict (agentsJson v) = [] ↔ CountRight v := by
  have hexpected : asInt (v.toDict.get "expectedAgents") = some v.expectedAgents := by simp [Verdict.toDict, asInt]
  rw [countErrors, hexpected]
  simp only [errorIf_nil_iff, saysPass_eq, agentsJson, List.length_map, Bool.and_eq_false_iff, decide_eq_false_iff_not,
    not_not, CountRight]
  tauto

theorem checksErrors_nil (v : Verdict) : checksErrors v.toDict = [] := by
  have hchecks : v.toDict.get "checks" = .obj (checksToDict v.checks) := by simp [Verdict.toDict]
  rw [checksErrors, hchecks]
  simp only [List.flatMap_eq_nil_iff]
  intro p hp
  obtain ⟨c, -, rfl⟩ := List.mem_map.1 hp
  rfl

theorem passErrors_nil (s : Snapshot) (timedOut : Bool) (errors : List String) :
    passErrors (verdictOf cfg s timedOut errors).toDict = [] := by
  rw [passErrors, saysPass_eq]
  by_cases hpass : (verdictOf cfg s timedOut errors).status = .pass
  · obtain ⟨herrors, hchecks⟩ := (status_pass_iff s timedOut errors).1 hpass
    have hfailed : (verdictOf cfg s timedOut errors).failedChecks = [] := (failedChecks_nil_iff s).2 hchecks
    have htaxonomy : (verdictOf cfg s timedOut errors).taxonomy = [] :=
      (classify_nil_iff errors timedOut s.failedChecks).2 ⟨herrors, hfailed⟩
    have hall : (checksToDict (verdictOf cfg s timedOut errors).checks).all (fun p => p.2.truthy) = true := by
      rw [List.all_eq_true]
      intro p hp
      obtain ⟨c, hc, rfl⟩ := List.mem_map.1 hp
      have htrue := List.all_eq_true.1 ((checks_all_iff s).2 hchecks) c hc
      simpa [Json.truthy] using htrue
    simp only [hpass, decide_true, if_true]
    simp [Verdict.toDict, hall, hfailed, htaxonomy, failedChecksToJson, taxonomyToJson, Json.strs, errorIf]
  · simp [hpass]

/-- **The verdict's block finds nothing but a wrong count of agents.** -/
theorem verdictErrors_produced {v : Verdict} (hv : Produced cfg v) :
    verdictErrors reprList evidenceContract v.toDict = .ok (countErrors v.toDict (agentsJson v)) := by
  obtain ⟨result, timedOut, rfl⟩ := hv
  generalize (collected result).1.val = s
  generalize (collected result).2 = errors
  have hstatus : inTexts ((verdictOf cfg s timedOut errors).toDict.get "status") ["pass", "fail"] = .ok true := by
    have hget : (verdictOf cfg s timedOut errors).toDict.get "status" =
        .str (verdictOf cfg s timedOut errors).status.text := by simp [Verdict.toDict]
    rw [hget, inTexts_str]
    cases (verdictOf cfg s timedOut errors).status <;> rfl
  have hagents : (verdictOf cfg s timedOut errors).toDict.get "perAgent" =
      .arr (agentsJson (verdictOf cfg s timedOut errors)) := by simp [Verdict.toDict, agentsJson]
  have hper : perAgentErrors reprList evidenceContract.registrationStates 1
      (agentsJson (verdictOf cfg s timedOut errors)) = .ok [] := by
    rw [agentsJson, show (verdictOf cfg s timedOut errors).perAgent = s.allIds.val.map s.agentState from rfl, List.map_map]
    exact perAgentErrors_nil reprList s s.allIds.val 1
  have hfailed : arrayErrors (verdictOf cfg s timedOut errors).toDict "registration-verdict.json" "failedChecks" = [] := by
    simp [arrayErrors, Verdict.toDict, failedChecksToJson, Json.strs]
  have htaxonomy : arrayErrors (verdictOf cfg s timedOut errors).toDict "registration-verdict.json" "taxonomy" = [] := by
    simp [arrayErrors, Verdict.toDict, taxonomyToJson]
  have hsurfaces : surfacesErrors (verdictOf cfg s timedOut errors).toDict = [] := by
    simp [surfacesErrors, Verdict.toDict]
  rw [verdictErrors, hstatus, hagents]
  simp only [hper, bind, Except.bind, pure, Except.pure, checksErrors_nil, hfailed, htaxonomy, hsurfaces, passErrors_nil,
    errorIf, Bool.not_true, Bool.false_eq_true, if_false, List.nil_append, List.append_nil]

theorem Produced.wf {v : Verdict} (hv : Produced cfg v) : (Json.obj v.toDict).WF := by
  obtain ⟨result, timedOut, rfl⟩ := hv
  generalize (collected result).1.val = s
  generalize (collected result).2 = errors
  have hchecks : (Json.obj (checksToDict s.checks)).WF := by
    refine flags_wf Check.name s.checks ?_
    rw [Snapshot.checks, List.map_map]
    exact (by decide : (Check.all.map Check.name).Nodup)
  have hagents : Json.WFList ((buildPerAgentState s).map (fun e => .obj e.toDict)) := by
    rw [Json.wfList_iff]
    intro x hx
    obtain ⟨e, he, rfl⟩ := List.mem_map.1 hx
    obtain ⟨agentId, -, rfl⟩ := List.mem_map.1 he
    exact AgentState.toDict_wf _ (s.agentState_hasStates agentId)
  have hsurfaces := s.surfaces.toDict_wf
  have hsnapshot := s.toDict_wf
  have htaxonomy := taxonomyToJson_wf (classify errors timedOut s.failedChecks)
  simp only [Json.WF] at hchecks hsurfaces hsnapshot
  simp [Verdict.toDict, verdictOf, evaluateSnapshot, Json.WF, Json.WFMembers, Dict.keys, failedChecksToJson, Json.wf_strs]
  exact ⟨hchecks, htaxonomy, hsurfaces, hagents, hsnapshot⟩

/-! ## Bundles -/

/-- The artifacts in a directory, as the orchestrator can leave them between two writes. -/
structure Bundle where
  last : Option LastVerdict
  verdict : Option Verdict
  summary : Option FailureSummary
  events : List Event

/-- A directory holds the artifacts, and no report of the platform runtime. -/
structure Holds (fs : Files) (b : Bundle) : Prop where
  manifest : fs "run-manifest.json" = some (jsonFile nt (.obj (cfg.runManifest b.last).toDict))
  verdict : fs "registration-verdict.json" = b.verdict.map (fun v => jsonFile nt (.obj v.toDict))
  summary : fs "failure-summary.json" = b.summary.map (fun f => jsonFile nt (.obj f.toDict))
  events : fs "registration-events.jsonl" = some (encode (b.events.flatMap (Event.line nt)))
  reports : ∀ name ∈ reportNames, fs name = none

/-- `json.dumps` refuses none of the artifacts. -/
structure Bundle.Fits (b : Bundle) : Prop where
  manifest : (Json.obj (cfg.runManifest b.last).toDict).fits nt.maxStrDigits = true
  verdict : ∀ v, b.verdict = some v → (Json.obj v.toDict).fits nt.maxStrDigits = true
  summary : ∀ f, b.summary = some f → (Json.obj f.toDict).fits nt.maxStrDigits = true
  events : ∀ e ∈ b.events, e.Fits nt

/-- The artifacts are the orchestrator's own. -/
structure Bundle.Made (b : Bundle) : Prop where
  verdict : ∀ v, b.verdict = some v → Produced cfg v
  summary : ∀ f, b.summary = some f → f.runId = cfg.runId
  logged : ∀ e ∈ b.events, ∃ error, e.Logged error
  event : ∀ e ∈ b.events, e.runId = cfg.runId ∧ 0 < e.attempt

structure Bundle.Agrees (b : Bundle) (v : Verdict) (f : FailureSummary) (e : Event) : Prop where
  verdict : b.verdict = some v
  summary : b.summary = some f
  event : b.events.getLast? = some e
  count : CountRight v
  last : ∀ l, b.last = some l → l.lastStatus = v.status ∧ l.lastVerdictAt = v.capturedAt ∧ l.attemptCount = e.attempt
  status : f.status = v.status
  failedChecks : f.failedChecks = v.failedChecks
  taxonomy : f.taxonomy = v.taxonomy
  eventStatus : v.status = e.status

/-- **What an accepted bundle is**: its backoff makes sense, its log splits into its events, and its parts agree. -/
structure Bundle.Consistent (b : Bundle) : Prop where
  min_nonneg : 0 ≤ cfg.minBackoffSeconds
  min_le_max : cfg.minBackoffSeconds ≤ cfg.maxBackoffSeconds
  plain : ∀ e ∈ b.events, e.Plain
  agrees : ∃ v f e, b.Agrees v f e

/-! ## Block by block -/

theorem requireFields_manifest (last : Option LastVerdict) :
    requireFields (some (cfg.runManifest last).toDict) evidenceContract.runManifestRequiredFields
      "run-manifest.json" = [] := by
  cases last <;> simp [requireFields, evidenceContract, RunManifest.toDict, OrchestratorConfig.runManifest]

theorem requireFields_verdict (v : Verdict) : requireFields (some v.toDict)
    evidenceContract.registrationVerdictRequiredFields "registration-verdict.json" = [] := by
  simp [requireFields, evidenceContract, Verdict.toDict]

theorem requireFields_summary (f : FailureSummary) : requireFields (some f.toDict)
    evidenceContract.failureSummaryRequiredFields "failure-summary.json" = [] := by
  simp [requireFields, evidenceContract, FailureSummary.toDict]

theorem backoffErrors_nil_iff (last : Option LastVerdict) : backoffErrors (cfg.runManifest last).toDict = [] ↔
    0 ≤ cfg.minBackoffSeconds ∧ cfg.minBackoffSeconds ≤ cfg.maxBackoffSeconds := by
  have hget : (cfg.runManifest last).toDict.get "backoff" =
      .obj [("minSeconds", .int cfg.minBackoffSeconds), ("maxSeconds", .int cfg.maxBackoffSeconds)] := by
    simp [RunManifest.toDict, OrchestratorConfig.runManifest]
  rw [backoffErrors, hget]
  simp only [Dict.get_cons, if_true, asInt, List.append_eq_nil_iff, errorIf_nil_iff, decide_eq_false_iff_not, not_lt]
  simp only [String.reduceEq, if_false]
  simp only [decide_eq_false_iff_not, not_lt]
  omega

theorem status_text_inj (a b : Status) : a.text = b.text ↔ a = b := by cases a <;> cases b <;> simp [Status.text]

theorem check_name_inj : Function.Injective Check.name := by
  intro a b h
  cases a <;> cases b <;> first | rfl | exact absurd h (by decide)

theorem code_inj (a b : FailureClass) : a.code = b.code ↔ a = b := by
  constructor
  · intro h
    cases a <;> cases b <;> first | rfl | exact absurd h (by decide)
  · rintro rfl
    rfl

theorem pyEq_failedChecks (a b : List Check) :
    (failedChecksToJson a).pyEq (failedChecksToJson b) = decide (a = b) := by
  rw [failedChecksToJson, failedChecksToJson, Json.pyEq_strs, Bool.eq_iff_iff]
  simp [List.map_inj_right check_name_inj]

theorem pyEq_taxonomyEntry (a b : TaxonomyEntry) : a.toJson.pyEq b.toJson = decide (a = b) := by
  have hentry : a = b ↔ a.code = b.code ∧ a.severity = b.severity ∧ a.details = b.details := by
    cases a
    cases b
    simp
  have hpy : a.toJson.pyEq b.toJson = ((Json.str a.code.code).pyEq (.str b.code.code) &&
      ((Json.str a.severity).pyEq (.str b.severity) && ((Json.strs a.details).pyEq (.strs b.details) && true))) := rfl
  rw [Bool.eq_iff_iff, decide_eq_true_eq, hentry, hpy]
  simp [Json.pyEq_strs, code_inj]

theorem pyEq_taxonomy : ∀ (a b : List TaxonomyEntry), (taxonomyToJson a).pyEq (taxonomyToJson b) = decide (a = b)
  | [], [] => rfl
  | [], _ :: _ => rfl
  | _ :: _, [] => rfl
  | x :: xs, y :: ys => by
    have ih := pyEq_taxonomy xs ys
    simp only [taxonomyToJson, Json.pyEq] at ih
    simp only [taxonomyToJson, Json.pyEq, List.map_cons, Json.pyEqList, ih, pyEq_taxonomyEntry]
    simp

theorem runIdErrors_nil_iff {v : Verdict} (hv : Produced cfg v) (last : Option LastVerdict) :
    runIdErrors (some (cfg.runManifest last).toDict) (some v.toDict) = [] ↔
      ∀ l, last = some l → l.lastStatus = v.status ∧ l.lastVerdictAt = v.capturedAt := by
  obtain ⟨result, timedOut, rfl⟩ := hv
  generalize hw : verdictOf cfg (collected result).1.val timedOut (collected result).2 = w
  have hrun : w.runId = cfg.runId := by rw [← hw]; rfl
  have hprofile : w.runtimeProfile = cfg.runtimeProfile := by rw [← hw]; rfl
  have hexpected : w.expectedAgents = cfg.expectedAgents := by rw [← hw]; rfl
  cases last with
  | none =>
    simp [runIdErrors, manifestVerdictErrors, differs, RunManifest.toDict, OrchestratorConfig.runManifest, Verdict.toDict,
      hrun, hprofile, hexpected, errorIf, Json.isNone]
  | some l =>
    simp [runIdErrors, manifestVerdictErrors, differs, RunManifest.toDict, OrchestratorConfig.runManifest, Verdict.toDict,
      LastVerdict.toDict, hrun, hprofile, hexpected, errorIf_nil_iff, Json.isNone, status_text_inj]

theorem summaryErrors_nil_iff {v : Verdict} (f : FailureSummary) (hrun : f.runId = v.runId) :
    summaryErrors (some f.toDict) (some v.toDict) = [] ↔
      f.status = v.status ∧ f.failedChecks = v.failedChecks ∧ f.taxonomy = v.taxonomy := by
  simp [summaryErrors, differs, FailureSummary.toDict, Verdict.toDict, hrun, errorIf_nil_iff, status_text_inj,
    pyEq_failedChecks, pyEq_taxonomy]

/-! ## The log read back -/

theorem parseEvents_dicts : ∀ (lines : List Text) (index : Nat) (d : Dict), d ∈ (parseEvents nt index lines).1 →
    ∃ l ∈ lines, loads nt l = .ok (.obj d)
  | [], _, d, h => (nomatch h)
  | l :: lines, index, d, h => by
    have ih := parseEvents_dicts lines (index + 1) d
    rw [parseEvents] at h
    cases hl : loads nt l with
    | error e =>
      rw [hl] at h
      obtain ⟨l', hl', hd⟩ := ih h
      exact ⟨l', List.mem_cons_of_mem _ hl', hd⟩
    | ok v =>
      rw [hl] at h
      cases v with
      | obj payload =>
        rcases List.mem_cons.1 h with rfl | h
        · exact ⟨l, List.mem_cons_self, hl⟩
        · obtain ⟨l', hl', hd⟩ := ih h
          exact ⟨l', List.mem_cons_of_mem _ hl', hd⟩
      | _ =>
        obtain ⟨l', hl', hd⟩ := ih h
        exact ⟨l', List.mem_cons_of_mem _ hl', hd⟩

theorem parseEvents_error : ∀ (lines : List Text) (index : Nat), (∃ l ∈ lines, ∃ x, loads nt l = .error x) →
    (parseEvents nt index lines).2 ≠ []
  | [], _, ⟨_, hl, _⟩ => (nomatch hl)
  | l :: lines, index, ⟨l', hl', x, hx⟩ => by
    have ih := parseEvents_error lines (index + 1)
    rw [parseEvents]
    cases hl : loads nt l with
    | error e => simp
    | ok v =>
      have hrest : ∃ l ∈ lines, ∃ x, loads nt l = .error x := by
        rcases List.mem_cons.1 hl' with rfl | hmem
        · rw [hl] at hx
          cases hx
        · exact ⟨l', hmem, x, hx⟩
      cases v with
      | obj payload => exact ih hrest
      | _ => simp

theorem parseEvents_texts : ∀ (log : List Event) (index : Nat), (∀ e ∈ log, e.Fits nt) →
    parseEvents nt index (log.map (Event.text nt)) = (log.map Event.sortedDict, [])
  | [], _, _ => rfl
  | e :: log, index, hfits => by
    obtain ⟨hfit, hrest⟩ := List.forall_mem_cons.1 hfits
    rw [List.map_cons, parseEvents, loads_eventText nt e hfit]
    simp only [parseEvents_texts log (index + 1) hrest]
    rfl

theorem line_ne_nil (e : Event) : e.line nt ≠ [] := by simp [Event.line]

theorem log_no_cr (log : List Event) : '\r' ∉ log.flatMap (Event.line nt) := by
  intro h
  obtain ⟨e, -, he⟩ := List.mem_flatMap.1 h
  rcases List.mem_append.1 he with he | he
  · exact jsonText_no_cr nt .compact compact_no_cr 0 _ he
  · exact absurd (List.mem_singleton.1 he) (by decide)

/-- **The log read back**: its dictionaries are events' or empty, and nothing is wrong with it exactly when it has events
and all are plain, and then they are read. -/
theorem loadEvents_log {fs : Files} {log : List Event} (hlogged : ∀ e ∈ log, ∃ error, e.Logged error)
    (hfits : ∀ e ∈ log, e.Fits nt)
    (hfile : fs "registration-events.jsonl" = some (encode (log.flatMap (Event.line nt)))) :
    ∃ events errors, loadEvents nt fs = .ok (events, errors) ∧
      (∀ d ∈ events, d = [] ∨ ∃ e ∈ log, d = e.sortedDict) ∧
      (errors = [] ↔ log ≠ [] ∧ ∀ e ∈ log, e.Plain) ∧ ((∀ e ∈ log, e.Plain) → events = log.map Event.sortedDict) := by
  have hread := readText_encode _ (log_no_cr nt log)
  unfold loadEvents
  rw [hfile]
  simp only [hread, bind, Except.bind, pure, Except.pure]
  by_cases hnil : log = []
  · subst hnil
    exact ⟨[], _, rfl, fun d hd => (nomatch hd), by simp, fun _ => rfl⟩
  · have htext : log.flatMap (Event.line nt) ≠ [] := by
      obtain ⟨e, log, rfl⟩ := List.exists_cons_of_ne_nil hnil
      simp [line_ne_nil]
    have hlines : (splitlines (log.flatMap (Event.line nt))).isEmpty = false := by
      have hhead := head?_splitlines _ htext
      cases hs : splitlines (log.flatMap (Event.line nt)) with
      | nil => rw [hs] at hhead; cases hhead
      | cons l ls => rfl
    rw [if_neg (by simp [hlines])]
    obtain ⟨hdict, herror⟩ := log_lines nt log hlogged hfits
    refine ⟨_, _, rfl, fun d hd => ?_, ?_, fun hplain => ?_⟩
    · obtain ⟨l, hl, hd⟩ := parseEvents_dicts nt _ 1 d hd
      exact hdict l hl d hd
    · refine ⟨fun hno => ⟨hnil, fun e he => ?_⟩, fun ⟨_, hplain⟩ => ?_⟩
      · by_contra hnot
        exact parseEvents_error nt _ 1 (herror ⟨e, he, hnot⟩) hno
      · rw [splitlines_log nt log hplain, parseEvents_texts nt log 1 hfits]
    · rw [splitlines_log nt log hplain, parseEvents_texts nt log 1 hfits]

/-! ## Events -/

theorem eventErrors_ok (runId : Json) (index : Nat) {d : Dict} (hd : d = [] ∨ ∃ e : Event, d = e.sortedDict) :
    ∃ errors, eventErrors reprList evidenceContract runId index d = .ok errors := by
  rcases hd with rfl | ⟨e, rfl⟩
  · exact ⟨_, rfl⟩
  · have hphase : e.sortedDict.get "phase" = .str e.phase.text := by simp [Event.sortedDict]
    have hstatus : e.sortedDict.get "status" = .str e.status.text := by simp [Event.sortedDict]
    rw [eventErrors, hphase, hstatus, inTexts_str, inTexts_str]
    exact ⟨_, rfl⟩

theorem eventsErrors_ok (runId : Json) : ∀ (events : List Dict) (index : Nat),
    (∀ d ∈ events, d = [] ∨ ∃ e : Event, d = e.sortedDict) →
      ∃ errors, eventsErrors reprList evidenceContract runId index events = .ok errors
  | [], _, _ => ⟨[], rfl⟩
  | d :: events, index, h => by
    obtain ⟨errors, herrors⟩ := eventErrors_ok reprList runId index (h d List.mem_cons_self)
    obtain ⟨rest, hrest⟩ := eventsErrors_ok runId events (index + 1) (fun d' hd' => h d' (List.mem_cons_of_mem _ hd'))
    exact ⟨errors ++ rest, by rw [eventsErrors, herrors, hrest]; rfl⟩

theorem eventErrors_nil (index : Nat) (e : Event) (hrun : e.runId = cfg.runId) (hattempt : 0 < e.attempt) :
    eventErrors reprList evidenceContract (.str cfg.runId) index e.sortedDict = .ok [] := by
  have hphase : e.sortedDict.get "phase" = .str e.phase.text := by simp [Event.sortedDict]
  have hstatus : e.sortedDict.get "status" = .str e.status.text := by simp [Event.sortedDict]
  have hid : e.sortedDict.get "runId" = .str cfg.runId := by simp [Event.sortedDict, hrun]
  have hnumber : asInt (e.sortedDict.get "attempt") = some (e.attempt : Int) := by simp [Event.sortedDict, asInt]
  have hphase' : e.phase.text ∈ evidenceContract.eventPhases := by cases e.phase <;> decide
  have hstatus' : e.status.text ∈ ["pass", "fail"] := by cases e.status <;> decide
  have hfields : ∀ label, requireFields (some e.sortedDict) evidenceContract.registrationEventRequiredFields label = [] := by
    simp [requireFields, evidenceContract, Event.sortedDict]
  have hfailed : ∀ label, arrayErrors e.sortedDict label "failedChecks" = [] := by
    simp [arrayErrors, Event.sortedDict, failedChecksToJson, Json.strs]
  have htaxonomy : ∀ label, arrayErrors e.sortedDict label "taxonomy" = [] := by
    simp [arrayErrors, Event.sortedDict, taxonomyToJson, Json.sortKeys]
  have hpositive : decide ((e.attempt : Int) ≤ 0) = false := by simp; omega
  rw [eventErrors, hphase, hstatus, inTexts_str, inTexts_str, hid, hnumber]
  simp only [bind, Except.bind, pure, Except.pure, hfields, hfailed, htaxonomy, hphase', hstatus', hpositive, errorIf,
    decide_true, Bool.not_true, Json.pyEq_str, Bool.and_false, Bool.false_eq_true, if_false, List.nil_append]

theorem eventsErrors_nil : ∀ (log : List Event) (index : Nat), (∀ e ∈ log, e.runId = cfg.runId ∧ 0 < e.attempt) →
    eventsErrors reprList evidenceContract (.str cfg.runId) index (log.map Event.sortedDict) = .ok []
  | [], _, _ => rfl
  | e :: log, index, h => by
    obtain ⟨hrun, hattempt⟩ := h e List.mem_cons_self
    rw [List.map_cons, eventsErrors, eventErrors_nil reprList cfg index e hrun hattempt,
      eventsErrors_nil log (index + 1) (fun e' he' => h e' (List.mem_cons_of_mem _ he'))]
    rfl

theorem lastEventErrors_nil_iff (last : Option LastVerdict) (verdict : Option Verdict) (log : List Event) :
    lastEventErrors (some (cfg.runManifest last).toDict) (verdict.map Verdict.toDict) (log.map Event.sortedDict) = [] ↔
      ∀ e, log.getLast? = some e → (∀ l, last = some l → l.attemptCount = e.attempt) ∧
        ∀ v, verdict = some v → v.status = e.status := by
  rw [lastEventErrors, List.getLast?_map]
  cases log.getLast? with
  | none => simp
  | some e =>
    cases last <;> cases verdict <;>
      simp [RunManifest.toDict, OrchestratorConfig.runManifest, LastVerdict.toDict, Verdict.toDict, Event.sortedDict,
        Json.isNone, differs, errorIf_nil_iff, status_text_inj]

/-! ## The whole validator -/

section
variable {nt cfg}

theorem loadJson_of {fs : Files} {name : String} {d : Dict} (hwf : (Json.obj d).WF)
    (hfit : (Json.obj d).fits nt.maxStrDigits = true) (hfile : fs name = some (jsonFile nt (.obj d))) :
    loadJson nt fs name = (some d, []) := by
  simp only [loadJson, hfile, loadsFile_jsonFile nt _ hwf hfit]

theorem loadJson_opt {α : Type} (toDict : α → Dict) {fs : Files} {name : String} {x : Option α}
    (hwf : ∀ v, x = some v → (Json.obj (toDict v)).WF)
    (hfit : ∀ v, x = some v → (Json.obj (toDict v)).fits nt.maxStrDigits = true)
    (hfile : fs name = x.map (fun v => jsonFile nt (.obj (toDict v)))) :
    loadJson nt fs name = (x.map toDict, []) := by
  cases x with
  | none => simp only [loadJson, hfile, Option.map_none]
  | some v => exact loadJson_of (hwf v rfl) (hfit v rfl) hfile

theorem reports_absent_iff {fs : Files} : (∀ name ∈ reportNames, fs name = none) ↔
    fs "runtime-core-report.json" = none ∧ fs "runtime-operational-report.json" = none := by simp [reportNames]

theorem support_absent {fs : Files} (h : ∀ name ∈ reportNames, fs name = none) :
    runtimeSupportSnapshot nt fs reportNames = .ok ([], []) := by
  obtain ⟨hcore, hoperational⟩ := reports_absent_iff.1 h
  simp only [reportNames, runtimeSupportSnapshot, loadJson, hcore, hoperational, bind, Except.bind, pure, Except.pure,
    List.append_nil]

theorem missingArtifacts_nil_iff {fs : Files} {b : Bundle} (h : Holds nt cfg fs b) :
    missingArtifacts evidenceContract fs = [] ↔ b.verdict.isSome = true ∧ b.summary.isSome = true := by
  simp [missingArtifacts, evidenceContract, List.filter_cons, h.manifest, h.verdict, h.summary, h.events]
  cases b.verdict <;> cases b.summary <;> simp

theorem bundleRunId_eq (last : Option LastVerdict) (verdict : Option Dict) :
    bundleRunId (some (cfg.runManifest last).toDict) verdict = .str cfg.runId := by
  cases verdict <;> simp [bundleRunId, RunManifest.toDict, OrchestratorConfig.runManifest, Json.isNone]

def aboutVerdict (b : Bundle) : List String :=
  match b.verdict with
  | some v => countErrors v.toDict (agentsJson v)
  | none => []

/-- What the validator reports about a bundle, block by block. -/
def bundleErrors (cfg : OrchestratorConfig) (fs : Files) (b : Bundle) (eventErrs aboutEvents : List String)
    (events : List Dict) : List String :=
  missingArtifacts evidenceContract fs ++ eventErrs ++ backoffErrors (cfg.runManifest b.last).toDict ++ aboutVerdict b ++
    runIdErrors (some (cfg.runManifest b.last).toDict) (b.verdict.map Verdict.toDict) ++
    summaryErrors (b.summary.map FailureSummary.toDict) (b.verdict.map Verdict.toDict) ++ aboutEvents ++
    lastEventErrors (some (cfg.runManifest b.last).toDict) (b.verdict.map Verdict.toDict) events

theorem validate_eq {fs : Files} {b : Bundle} (hmade : b.Made cfg) (hfits : b.Fits nt cfg) (hholds : Holds nt cfg fs b)
    {events : List Dict}
    {eventErrs aboutEvents : List String} (hevents : loadEvents nt fs = .ok (events, eventErrs))
    (habout : eventsErrors reprList evidenceContract (.str cfg.runId) 1 events = .ok aboutEvents) :
    ∃ report, validateRegistrationEvidence nt reprList evidenceContract fs = .ok report ∧
      report.errors = bundleErrors cfg fs b eventErrs aboutEvents events := by
  have hmanifest := loadJson_of (cfg.runManifest b.last).toDict_wf hfits.manifest hholds.manifest
  have hverdict := loadJson_opt Verdict.toDict (fun v hv => (hmade.verdict v hv).wf) hfits.verdict hholds.verdict
  have hsummary := loadJson_opt FailureSummary.toDict (fun f _ => f.toDict_wf) hfits.summary hholds.summary
  have hblock : verdictBlock reprList evidenceContract (b.verdict.map Verdict.toDict) = .ok (aboutVerdict b) := by
    unfold verdictBlock aboutVerdict
    cases hv : b.verdict with
    | none => rfl
    | some v => exact verdictErrors_produced reprList cfg (hmade.verdict v hv)
  have hreqVerdict : requireFields (b.verdict.map Verdict.toDict) evidenceContract.registrationVerdictRequiredFields
      "registration-verdict.json" = [] := by
    cases b.verdict
    · rfl
    · exact requireFields_verdict _
  have hreqSummary : requireFields (b.summary.map FailureSummary.toDict) evidenceContract.failureSummaryRequiredFields
      "failure-summary.json" = [] := by
    cases b.summary
    · rfl
    · exact requireFields_summary _
  unfold validateRegistrationEvidence
  simp only [hmanifest, hverdict, hsummary, hevents, hblock, bundleRunId_eq, habout, support_absent hholds.reports, bind,
    Except.bind, pure, Except.pure]
  refine ⟨_, rfl, ?_⟩
  simp only [requireFields_manifest, hreqVerdict, hreqSummary, bundleErrors, List.append_nil]

theorem Bundle.Made.runId {b : Bundle} (h : b.Made cfg) {v : Verdict} {f : FailureSummary} (hv : b.verdict = some v)
    (hf : b.summary = some f) : f.runId = v.runId := by
  obtain ⟨result, timedOut, rfl⟩ := h.verdict v hv
  exact h.summary f hf

theorem aboutVerdict_nil_iff (b : Bundle) : aboutVerdict b = [] ↔ ∀ v, b.verdict = some v → CountRight v := by
  rw [aboutVerdict]
  cases b.verdict with
  | none => simp
  | some v => simp [countErrors_nil_iff]

/-- **The validator accepts exactly the consistent bundles**, and raises on none. -/
theorem validate_bundle {fs : Files} {b : Bundle} (hmade : b.Made cfg) (hfits : b.Fits nt cfg)
    (hholds : Holds nt cfg fs b) : ∃ report, validateRegistrationEvidence nt reprList evidenceContract fs = .ok report ∧
      (report.errors = [] ↔ b.Consistent cfg) := by
  obtain ⟨events, eventErrs, hevents, hdicts, herrs, hread⟩ := loadEvents_log nt hmade.logged hfits.events hholds.events
  obtain ⟨aboutEvents, habout⟩ := eventsErrors_ok reprList (.str cfg.runId) events 1
    (fun d hd => (hdicts d hd).imp_right (fun ⟨e, _, heq⟩ => ⟨e, heq⟩))
  obtain ⟨report, hreport, herrors⟩ := validate_eq reprList hmade hfits hholds hevents habout
  refine ⟨report, hreport, ?_⟩
  rw [herrors]
  simp only [bundleErrors, List.append_eq_nil_iff, missingArtifacts_nil_iff hholds, herrs, backoffErrors_nil_iff,
    aboutVerdict_nil_iff, and_assoc]
  constructor
  · rintro ⟨hv, hf, hne, hplain, hmin, hmax, hcount, hid, hsummary, -, hlast⟩
    obtain ⟨v, hv⟩ := Option.isSome_iff_exists.1 hv
    obtain ⟨f, hf⟩ := Option.isSome_iff_exists.1 hf
    obtain ⟨e, he⟩ : ∃ e, b.events.getLast? = some e := ⟨_, List.getLast?_eq_some_getLast hne⟩
    rw [hv, Option.map_some] at hid
    rw [hf, hv, Option.map_some, Option.map_some] at hsummary
    rw [hread hplain, lastEventErrors_nil_iff] at hlast
    have hvid := hmade.runId hv hf
    rw [runIdErrors_nil_iff cfg (hmade.verdict v hv)] at hid
    obtain ⟨hstatus, hfailed, htaxonomy⟩ := (summaryErrors_nil_iff f hvid).1 hsummary
    obtain ⟨hattempt, hevent⟩ := hlast e he
    exact ⟨hmin, hmax, hplain, v, f, e, hv, hf, he, hcount v hv, fun l hl => ⟨(hid l hl).1, (hid l hl).2, hattempt l hl⟩,
      hstatus, hfailed, htaxonomy, hevent v hv⟩
  · rintro ⟨hmin, hmax, hplain, v, f, e, hagrees⟩
    have hvid := hmade.runId hagrees.verdict hagrees.summary
    have hne : b.events ≠ [] := by
      intro hnil
      have hlast := hagrees.event
      rw [hnil] at hlast
      cases hlast
    have hnone : aboutEvents = [] := by
      rw [hread hplain, eventsErrors_nil reprList cfg _ 1 hmade.event] at habout
      exact (Except.ok.inj habout).symm
    refine ⟨by simp [hagrees.verdict], by simp [hagrees.summary], hne, hplain, hmin, hmax, ?_, ?_, ?_, hnone, ?_⟩
    · intro v' hv'
      rw [hagrees.verdict] at hv'
      cases hv'
      exact hagrees.count
    · rw [hagrees.verdict, Option.map_some, runIdErrors_nil_iff cfg (hmade.verdict v hagrees.verdict)]
      exact fun l hl => ⟨(hagrees.last l hl).1, (hagrees.last l hl).2.1⟩
    · rw [hagrees.verdict, hagrees.summary, Option.map_some, Option.map_some, summaryErrors_nil_iff f hvid]
      exact ⟨hagrees.status, hagrees.failedChecks, hagrees.taxonomy⟩
    · rw [hread hplain, lastEventErrors_nil_iff]
      intro e' he'
      rw [hagrees.event] at he'
      cases he'
      refine ⟨fun l hl => (hagrees.last l hl).2.2, fun v' hv' => ?_⟩
      rw [hagrees.verdict] at hv'
      cases hv'
      exact hagrees.eventStatus

end
end
end Lider
