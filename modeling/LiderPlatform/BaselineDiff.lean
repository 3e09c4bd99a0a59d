import LiderPlatform.BaselineCapture
import LiderPlatform.Registration
/-!
# BaselineDiff — live state against a golden baseline (`_build_baseline_diff_payload`)

The diff compares five surfaces of two payloads.  Lists of DNs and ids are compared whole; configuration fields are
compared by running over the fields of the baseline, so a field only the live payload has is never looked at.
`diff_correct_iff` says when that goes unnoticed.
-/
namespace Lider

open Py

/-! ## Differences -/

structure DiffEntry where
  code : String
  severity : String
  surface : String
  message : String
  baseline : Json
  current : Json
  details : Option Json

def listDiffDetails (baselineValues currentValues : List String) : Json :=
  let baselineUnique := fromkeys baselineValues
  let currentUnique := fromkeys currentValues
  .obj [("baselineCount", .int baselineUnique.length), ("currentCount", .int currentUnique.length),
    ("missingFromCurrent", idsToJson (sortedUnique (baselineUnique.filter (fun x => x ∉ currentUnique)))),
    ("extraInCurrent", idsToJson (sortedUnique (currentUnique.filter (fun x => x ∉ baselineUnique))))]

/-- `_append_diff`: an entry when the two values differ. -/
def diffEntry (code surface message : String) (baseline current : Json) (details : Option Json) : List DiffEntry :=
  if baseline.pyEq current then [] else [⟨code, "error", surface, message, baseline, current, details⟩]

def ldapDns (p : BaselinePayload) : List String := p.ldapTree.entries.map LdapEntry.dn

/-- The field of a configuration, `None` when it has none of the name. -/
def ConfigCapture.field (config : ConfigCapture) (name : String) : Json :=
  match config.fields.lookup name with
  | none => .null
  | some f => f.toJson

def fieldDiffs (baseline live : BaselinePayload) : List DiffEntry :=
  baseline.config.fields.flatMap (fun f =>
    diffEntry ("config_field:" ++ f.1) "config" ("Runtime config field " ++ f.1 ++ " differs from the golden baseline.")
      f.2.toJson (live.config.field f.1) none)

/-- The verdict's source, when it is not the artifact itself. -/
def verdictSourceDiffs (verdictSource : String) : List DiffEntry :=
  if verdictSource = "artifact" then []
  else
    let message :=
      if verdictSource = "artifact-invalid" then
        "Registration verdict artifact was invalid; baseline diff used a live evaluation fallback."
      else if verdictSource = "artifact-missing" then
        "Registration verdict artifact was missing; baseline diff used a live evaluation fallback."
      else "Registration verdict artifact was unavailable; baseline diff used a live evaluation fallback."
    [⟨"registration_verdict_artifact_missing", "warn", "registration", message, .str "artifact", .str verdictSource, none⟩]

/-- The `diffs` list of `_build_baseline_diff_payload`. -/
def baselineDiffs (baseline live : BaselinePayload) (liveVerdict : Dict) (verdictSource : String) : List DiffEntry :=
  verdictSourceDiffs verdictSource ++
  diffEntry "ldap_entry_dns" "ldap" "LDAP distinguished names differ from the golden baseline."
    (Json.strs (ldapDns baseline)) (Json.strs (ldapDns live))
    (some (listDiffDetails (ldapDns baseline) (ldapDns live))) ++
  fieldDiffs baseline live ++
  diffEntry "dashboard_total" "dashboard" "Dashboard total computer count differs from the golden baseline."
    (baseline.dashboard.payload.val.get "totalComputerNumber") (live.dashboard.payload.val.get "totalComputerNumber")
    none ++
  diffEntry "dashboard_online" "dashboard" "Dashboard online computer count differs from the golden baseline."
    (baseline.dashboard.payload.val.get "totalOnlineComputerNumber")
    (live.dashboard.payload.val.get "totalOnlineComputerNumber") none ++
  diffEntry "agent_list_identities" "agent-list" "Agent inventory identities differ from the golden baseline."
    (idsToJson baseline.agentList.agentIds) (idsToJson live.agentList.agentIds)
    (some (listDiffDetails baseline.agentList.agentIds.val live.agentList.agentIds.val)) ++
  diffEntry "computer_tree_identities" "computer-tree" "Computer tree identities differ from the golden baseline."
    (idsToJson baseline.computerTree.agentIds) (idsToJson live.computerTree.agentIds)
    (some (listDiffDetails baseline.computerTree.agentIds.val live.computerTree.agentIds.val)) ++
  diffEntry "registration_verdict_status" "registration" "Registration verdict is not pass for the current run."
    (.str "pass") (liveVerdict.get "status") none

structure DiffSummary where
  totalDiffs : Nat
  counts : List (String × Nat)
  blockingSeverity : String
  blockingDiffCount : Nat
  highestSeverity : Option String
  hasWarnings : Bool
  hasInfo : Bool

def severityCount (diffs : List DiffEntry) (severity : String) : Nat :=
  (diffs.filter (fun d => d.severity = severity)).length

def summarizeDiffs (diffs : List DiffEntry) (severityOrder : List String) (blockingSeverity : String) : DiffSummary where
  totalDiffs := diffs.length
  counts := (fromkeys (severityOrder ++ diffs.map DiffEntry.severity)).map (fun s => (s, severityCount diffs s))
  blockingSeverity := blockingSeverity
  blockingDiffCount := severityCount diffs blockingSeverity
  highestSeverity := severityOrder.find? (fun s => 0 < severityCount diffs s)
  hasWarnings := decide (0 < severityCount diffs "warn")
  hasInfo := decide (0 < severityCount diffs "info")

/-- The verdict of `_build_baseline_diff_payload`, with what it rests on. -/
structure DiffPayload where
  status : Status
  summary : DiffSummary
  diffs : List DiffEntry

def buildBaselineDiffPayload (c : BaselineContract) (baseline live : BaselinePayload) (liveVerdict : Dict)
    (verdictSource : String) : DiffPayload :=
  let diffs := baselineDiffs baseline live liveVerdict verdictSource
  let summary := summarizeDiffs diffs c.severityOrder c.blockingSeverity
  { status := if 0 < summary.blockingDiffCount then .fail else .pass
    summary := summary
    diffs := diffs }

/-! ## What an entry means -/

def Blocking (c : BaselineContract) (baseline live : BaselinePayload) (liveVerdict : Dict) (verdictSource : String) : Prop :=
  ∃ d ∈ (buildBaselineDiffPayload c baseline live liveVerdict verdictSource).diffs, d.severity = c.blockingSeverity

/-- **The status fails exactly on a blocking entry.** -/
theorem status_fail_iff (c : BaselineContract) (baseline live : BaselinePayload) (v : Dict) (src : String) :
    (buildBaselineDiffPayload c baseline live v src).status = .fail ↔ Blocking c baseline live v src := by
  simp only [buildBaselineDiffPayload, summarizeDiffs, severityCount, Blocking, ite_eq_left_iff, reduceCtorEq, imp_false,
    not_not, List.length_pos_iff_exists_mem, List.mem_filter, decide_eq_true_eq]

theorem pyEq_ids (a b : Ascending String) : (idsToJson a).pyEq (idsToJson b) = decide (a = b) := by
  rw [idsToJson, idsToJson, Json.pyEq_strs]
  simp [Subtype.ext_iff]

theorem diffEntry_severity (code surface message : String) (v w : Json) (details : Option Json) :
    (∃ d ∈ diffEntry code surface message v w details, d.severity = "error") ↔ v.pyEq w = false := by
  unfold diffEntry
  cases v.pyEq w <;> simp

structure SurfacesEqual (b l : BaselinePayload) : Prop where
  dns : ldapDns b = ldapDns l
  total : (b.dashboard.payload.val.get "totalComputerNumber").pyEq
    (l.dashboard.payload.val.get "totalComputerNumber") = true
  online : (b.dashboard.payload.val.get "totalOnlineComputerNumber").pyEq
    (l.dashboard.payload.val.get "totalOnlineComputerNumber") = true
  agentIds : b.agentList.agentIds = l.agentList.agentIds
  treeIds : b.computerTree.agentIds = l.computerTree.agentIds

def fieldNames (p : BaselinePayload) : List String := p.config.fields.map Prod.fst

def FieldsWithin (b l : BaselinePayload) : Prop :=
  ∀ name ∈ fieldNames b, (b.config.field name).pyEq (l.config.field name) = true

/-- Two payloads agree on every surface, a field either has included. -/
def PayloadsAgree (b l : BaselinePayload) : Prop := SurfacesEqual b l ∧ FieldsWithin b l ∧ FieldsWithin l b

theorem field_of_mem (p : BaselinePayload) (f : String × ConfigField) (h : f ∈ p.config.fields) :
    p.config.field f.1 = f.2.toJson := by
  rw [ConfigCapture.field, Dict.lookup_eq_some_of_mem p.config.fields p.config.distinct h]

theorem field_of_not_mem (p : BaselinePayload) (name : String) (h : name ∉ fieldNames p) :
    p.config.field name = .null := by
  have hnone : p.config.fields.lookup name = none := by
    cases hl : p.config.fields.lookup name with
    | none => rfl
    | some f => exact absurd (List.mem_map_of_mem (Dict.mem_of_lookup_eq_some _ hl)) h
  rw [ConfigCapture.field, hnone]

theorem fieldDiffs_severity (b l : BaselinePayload) :
    (∃ d ∈ fieldDiffs b l, d.severity = "error") ↔ ¬ FieldsWithin b l := by
  have hwithin : FieldsWithin b l ↔ ∀ f ∈ b.config.fields, f.2.toJson.pyEq (l.config.field f.1) = true := by
    rw [FieldsWithin, fieldNames, List.forall_mem_map]
    exact forall₂_congr (fun f hf => by rw [field_of_mem b f hf])
  rw [hwithin, fieldDiffs]
  simp only [List.mem_flatMap]
  constructor
  · rintro ⟨d, ⟨f, hf, hd⟩, hsev⟩ hall
    have := (diffEntry_severity _ _ _ _ _ _).1 ⟨d, hd, hsev⟩
    rw [hall f hf] at this
    cases this
  · intro hall
    simp only [not_forall, Bool.not_eq_true] at hall
    obtain ⟨f, hf, hne⟩ := hall
    obtain ⟨d, hd, hsev⟩ := (diffEntry_severity _ _ _ _ _ none).2 hne
    exact ⟨d, ⟨f, hf, hd⟩, hsev⟩

/-- **A passing diff says that the baseline's surfaces and fields are found in the live payload.** -/
theorem not_blocking_iff (b l : BaselinePayload) (verdict : Dict) (hpass : verdict.get "status" = .str "pass") :
    ¬ Blocking baselineContract b l verdict "artifact" ↔ SurfacesEqual b l ∧ FieldsWithin b l := by
  have hsplit : Blocking baselineContract b l verdict "artifact" ↔
      ldapDns b ≠ ldapDns l ∨ ¬ FieldsWithin b l ∨
        (b.dashboard.payload.val.get "totalComputerNumber").pyEq (l.dashboard.payload.val.get "totalComputerNumber") = false ∨
        (b.dashboard.payload.val.get "totalOnlineComputerNumber").pyEq
          (l.dashboard.payload.val.get "totalOnlineComputerNumber") = false ∨
        b.agentList.agentIds ≠ l.agentList.agentIds ∨ b.computerTree.agentIds ≠ l.computerTree.agentIds := by
    have hsource : verdictSourceDiffs "artifact" = [] := rfl
    unfold Blocking
    simp only [buildBaselineDiffPayload, baselineDiffs, hsource, List.nil_append, List.mem_append, or_and_right,
      exists_or, show baselineContract.blockingSeverity = "error" from rfl, diffEntry_severity, fieldDiffs_severity,
      Json.pyEq_strs, pyEq_ids, hpass, Json.pyEq_str, decide_eq_false_iff_not]
    tauto
  rw [hsplit]
  constructor
  · intro h
    simp only [not_or, not_not, Bool.not_eq_false] at h
    obtain ⟨h1, h2, h3, h4, h5, h6⟩ := h
    exact ⟨⟨h1, h3, h4, h5, h6⟩, h2⟩
  · rintro ⟨⟨h1, h3, h4, h5, h6⟩, h2⟩
    simp [h1, h2, h3, h4, h5, h6]

/-! ## Both directions -/

theorem wf_configField (f : ConfigField) : f.toJson.WF := by
  obtain ⟨present, source, sha256, value⟩ := f
  cases value with
  | none => simp [ConfigField.toJson, Json.WF, Json.WFMembers, Dict.keys]
  | some v => simpa [ConfigField.toJson, Json.WF, Json.WFMembers, Dict.keys] using v.property

theorem wf_field (p : BaselinePayload) (name : String) : (p.config.field name).WF := by
  unfold ConfigCapture.field
  split
  · trivial
  · exact wf_configField _

theorem field_comm (b l : BaselinePayload) (name : String) :
    (b.config.field name).pyEq (l.config.field name) = (l.config.field name).pyEq (b.config.field name) :=
  Json.pyEq_comm _ _ (wf_field b name) (wf_field l name)

theorem SurfacesEqual.symm {b l : BaselinePayload} (h : SurfacesEqual b l) : SurfacesEqual l b where
  dns := h.dns.symm
  total := by rw [Json.pyEq_comm _ _ (Json.wf_get _ _) (Json.wf_get _ _)]; exact h.total
  online := by rw [Json.pyEq_comm _ _ (Json.wf_get _ _) (Json.wf_get _ _)]; exact h.online
  agentIds := h.agentIds.symm
  treeIds := h.treeIds.symm

def CommonFieldsEqual (b l : BaselinePayload) : Prop :=
  ∀ name ∈ fieldNames b, name ∈ fieldNames l → (b.config.field name).pyEq (l.config.field name) = true

/-- A field of `b` is never equal to a missing one. -/
theorem fieldsWithin_iff (b l : BaselinePayload) :
    FieldsWithin b l ↔ CommonFieldsEqual b l ∧ fieldNames b ⊆ fieldNames l := by
  constructor
  · intro h
    refine ⟨fun name hb _ => h name hb, fun name hb => ?_⟩
    by_contra hl
    have heq := h name hb
    rw [field_of_not_mem l name hl, Json.pyEq_null_iff] at heq
    obtain ⟨f, hf, rfl⟩ := List.mem_map.1 hb
    rw [field_of_mem b f hf] at heq
    cases heq
  · rintro ⟨hcommon, hsub⟩ name hb
    exact hcommon name hb (hsub hb)

theorem CommonFieldsEqual.symm {b l : BaselinePayload} (h : CommonFieldsEqual b l) : CommonFieldsEqual l b :=
  fun name hl hb => by rw [field_comm]; exact h name hb hl

/-- The payloads agree on all they both have, and the fields of one are strictly fewer. -/
def HiddenFields (b l : BaselinePayload) : Prop :=
  SurfacesEqual b l ∧ CommonFieldsEqual b l ∧
    ((fieldNames b ⊆ fieldNames l ∧ ¬ fieldNames l ⊆ fieldNames b) ∨
      (fieldNames l ⊆ fieldNames b ∧ ¬ fieldNames b ⊆ fieldNames l))

/-- The diff is symmetric, and passes exactly when the payloads agree. -/
def DiffCorrect (b l : BaselinePayload) (verdict : Dict) : Prop :=
  (Blocking baselineContract b l verdict "artifact" ↔ Blocking baselineContract l b verdict "artifact") ∧
    (¬ Blocking baselineContract b l verdict "artifact" ↔ PayloadsAgree b l)

/-- **The diff is symmetric, sound and complete exactly when neither payload has fields the other lacks unnoticed.** -/
theorem diff_correct_iff (b l : BaselinePayload) (verdict : Dict) (hpass : verdict.get "status" = .str "pass") :
    DiffCorrect b l verdict ↔ ¬ HiddenFields b l := by
  have hbl := not_blocking_iff b l verdict hpass
  have hlb := not_blocking_iff l b verdict hpass
  have hsurf : SurfacesEqual l b ↔ SurfacesEqual b l := ⟨SurfacesEqual.symm, SurfacesEqual.symm⟩
  have hcommon : CommonFieldsEqual l b ↔ CommonFieldsEqual b l := ⟨CommonFieldsEqual.symm, CommonFieldsEqual.symm⟩
  rw [fieldsWithin_iff] at hbl hlb
  rw [hsurf, hcommon] at hlb
  unfold DiffCorrect HiddenFields PayloadsAgree
  rw [fieldsWithin_iff, fieldsWithin_iff, hcommon]
  constructor
  · rintro ⟨hsym, -⟩ ⟨hs, hc, hnames⟩
    rw [← not_iff_not, hbl, hlb] at hsym
    rcases hnames with ⟨hsub, hnot⟩ | ⟨hsub, hnot⟩
    · exact hnot (hsym.1 ⟨hs, hc, hsub⟩).2.2
    · exact hnot (hsym.2 ⟨hs, hc, hsub⟩).2.2
  · intro hhidden
    have hboth : SurfacesEqual b l → CommonFieldsEqual b l →
        (fieldNames b ⊆ fieldNames l ↔ fieldNames l ⊆ fieldNames b) := by
      intro hs hc
      constructor
      · intro hsub
        by_contra hnot
        exact hhidden ⟨hs, hc, Or.inl ⟨hsub, hnot⟩⟩
      · intro hsub
        by_contra hnot
        exact hhidden ⟨hs, hc, Or.inr ⟨hsub, hnot⟩⟩
    refine ⟨?_, ?_⟩
    · rw [← not_iff_not, hbl, hlb]
      exact and_congr_right (fun hs => and_congr_right (fun hc => hboth hs hc))
    · rw [hbl]
      constructor
      · rintro ⟨hs, hc, hsub⟩
        exact ⟨hs, ⟨hc, hsub⟩, hc, (hboth hs hc).1 hsub⟩
      · rintro ⟨hs, ⟨hc, hsub⟩, -⟩
        exact ⟨hs, hc, hsub⟩

/-! ## A drift, and a field only the live side has -/

def passVerdict : Dict := [("status", .str "pass")]

def payloadWithFields (fields : List (String × ConfigField)) (h : (fields.map Prod.fst).Nodup) : BaselinePayload where
  ldapTree := ⟨"2026-01-01T00:00:00+00:00", [], List.Pairwise.nil⟩
  config := ⟨"2026-01-01T00:00:00+00:00", "stock-liderahenk-install", fields, h⟩
  dashboard := ⟨"2026-01-01T00:00:00+00:00", Record.empty⟩
  agentList := ⟨"2026-01-01T00:00:00+00:00", [], sortedUnique []⟩
  computerTree := ⟨"2026-01-01T00:00:00+00:00", [], sortedUnique []⟩

def sampleField : ConfigField := ⟨true, "c_config.liderConfigParams", "a", none⟩

def earlierPayload : BaselinePayload := payloadWithFields [("ldapRootDn", sampleField)] (by simp)

def laterPayload : BaselinePayload :=
  payloadWithFields [("ldapRootDn", sampleField), ("xmppResource", sampleField)] (by simp)

theorem sampleField_eq : sampleField.toJson.pyEq sampleField.toJson = true := by decide

def ahenkEntry (uid : String) : LdapEntry String :=
  ⟨"cn=" ++ uid ++ ",ou=Ahenkler,dc=liderahenk,dc=org", [("cn", .many [uid])]⟩

def dashboardCounts (total online : Int) : Record :=
  ⟨[("totalComputerNumber", .int total), ("totalOnlineComputerNumber", .int online)],
    by simp [Json.WF, Json.WFMembers, Dict.keys]⟩

/-- A runtime with one agent. -/
def capturedPayload : BaselinePayload :=
  { laterPayload with
    ldapTree := ⟨"2026-01-01T00:00:00+00:00", [ahenkEntry "ahenk-001"], List.pairwise_singleton _ _⟩
    dashboard := ⟨"2026-01-01T00:00:00+00:00", dashboardCounts 1 1⟩
    agentList := ⟨"2026-01-01T00:00:00+00:00", [], sortedUnique ["ahenk-001"]⟩
    computerTree := ⟨"2026-01-01T00:00:00+00:00", [], sortedUnique ["ahenk-001"]⟩ }

/-- The same runtime later: a second agent, which is not in the tree yet, and one field has changed. -/
def driftedPayload : BaselinePayload :=
  { payloadWithFields [("ldapRootDn", ⟨true, "c_config.liderConfigParams", "b", none⟩), ("xmppResource", sampleField)]
      (by simp) with
    ldapTree := ⟨"2026-02-01T00:00:00+00:00", [ahenkEntry "ahenk-001", ahenkEntry "ahenk-002"], by decide⟩
    dashboard := ⟨"2026-02-01T00:00:00+00:00", dashboardCounts 2 1⟩
    agentList := ⟨"2026-02-01T00:00:00+00:00", [], sortedUnique ["ahenk-002", "ahenk-001"]⟩
    computerTree := ⟨"2026-02-01T00:00:00+00:00", [], sortedUnique ["ahenk-001"]⟩ }

theorem driftedPayload_total : ¬ SurfacesEqual capturedPayload driftedPayload :=
  fun h => absurd h.total (by decide)

/-- The drift is found whichever of the two is the baseline. -/
theorem driftedPayload_correct :
    DiffCorrect capturedPayload driftedPayload passVerdict ∧
      Blocking baselineContract capturedPayload driftedPayload passVerdict "artifact" ∧
      Blocking baselineContract driftedPayload capturedPayload passVerdict "artifact" := by
  have hcorrect : DiffCorrect capturedPayload driftedPayload passVerdict :=
    (diff_correct_iff capturedPayload driftedPayload passVerdict rfl).2 (fun h => driftedPayload_total h.1)
  have hblocking : Blocking baselineContract capturedPayload driftedPayload passVerdict "artifact" := by
    by_contra hnot
    exact driftedPayload_total ((not_blocking_iff _ _ passVerdict rfl).1 hnot).1
  exact ⟨hcorrect, hblocking, hcorrect.1.1 hblocking⟩

/-- **A field added to the critical list after the capture is not looked at**: the diff passes on unequal payloads, and
fails the other way round. -/
theorem laterField_unseen : ¬ DiffCorrect earlierPayload laterPayload passVerdict := by
  have hsurf : SurfacesEqual earlierPayload laterPayload := ⟨rfl, rfl, rfl, rfl, rfl⟩
  have hwithin : FieldsWithin earlierPayload laterPayload := by
    intro name hname
    simp only [fieldNames, earlierPayload, payloadWithFields, List.map_cons, List.map_nil, List.mem_singleton] at hname
    subst hname
    exact sampleField_eq
  intro h
  have hback := (h.2.1 ((not_blocking_iff _ _ passVerdict rfl).2 ⟨hsurf, hwithin⟩)).2.2 "xmppResource" (by decide)
  rw [field_of_not_mem earlierPayload "xmppResource" (by decide), Json.pyEq_null_iff] at hback
  cases hback

end Lider
