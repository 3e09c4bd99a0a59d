import LiderPlatform.BaselineDiff
/-!
# BaselineGate — the gate of the baseline diff under any diff policy (`_summarize_diffs`)

A diff policy orders the severities, the most severe first, and names the one that blocks.  The gate counts the diffs of
that one severity.  `summarizeDiffs_gate`: the counts add up, the highest severity is the most severe one among the diffs,
and the gate is a threshold exactly when no diff is more severe than the blocking severity without one that has it; the
shipped policy, whose blocking severity comes first, is such a one.
-/
namespace Lider

open Py

def gateStatus (summary : DiffSummary) : Status := if 0 < summary.blockingDiffCount then .fail else .pass

theorem status_eq_gateStatus (c : BaselineContract) (baseline live : BaselinePayload) (v : Dict) (src : String) :
    (buildBaselineDiffPayload c baseline live v src).status =
      gateStatus (buildBaselineDiffPayload c baseline live v src).summary := rfl

def AtLeast (severityOrder : List String) (s t : String) : Prop := severityOrder.idxOf s ≤ severityOrder.idxOf t

/-! ## Counts -/

theorem severityCount_pos_iff (diffs : List DiffEntry) (s : String) :
    0 < severityCount diffs s ↔ ∃ d ∈ diffs, d.severity = s := by
  simp only [severityCount, List.length_pos_iff_exists_mem, List.mem_filter, decide_eq_true_eq]

theorem severityCount_cons (d : DiffEntry) (diffs : List DiffEntry) (s : String) :
    severityCount (d :: diffs) s = severityCount diffs s + if d.severity = s then 1 else 0 := by
  unfold severityCount
  rw [List.filter_cons]
  by_cases hs : d.severity = s <;> simp [hs]

theorem sum_severityCount_cons (d : DiffEntry) (diffs : List DiffEntry) : ∀ (severities : List String),
    (severities.map (severityCount (d :: diffs))).sum =
      (severities.map (severityCount diffs)).sum + severities.count d.severity
  | [] => rfl
  | s :: severities => by
    have ih := sum_severityCount_cons d diffs severities
    rw [List.map_cons, List.sum_cons, List.map_cons, List.sum_cons, List.count_cons, severityCount_cons, ih]
    by_cases hs : d.severity = s
    · simp only [hs, beq_self_eq_true, if_true]
      omega
    · simp only [hs, beq_eq_false_iff_ne.2 (Ne.symm hs), if_false, Bool.false_eq_true]
      omega

/-- **Counts over different severities that include every diff's add up to the number of diffs.** -/
theorem sum_severityCount (severities : List String) (hnodup : severities.Nodup) (diffs : List DiffEntry)
    (h : ∀ d ∈ diffs, d.severity ∈ severities) : (severities.map (severityCount diffs)).sum = diffs.length := by
  induction diffs with
  | nil =>
    have hzero : severityCount [] = fun _ => 0 := rfl
    simp [hzero]
  | cons d diffs ih =>
    rw [sum_severityCount_cons, ih (fun d' hd' => h d' (List.mem_cons_of_mem _ hd')),
      List.count_eq_one_of_mem hnodup (h d List.mem_cons_self), List.length_cons]

theorem counts_sum (diffs : List DiffEntry) (severityOrder : List String) (blocking : String) :
    ((summarizeDiffs diffs severityOrder blocking).counts.map Prod.snd).sum = diffs.length := by
  rw [summarizeDiffs, List.map_map]
  exact sum_severityCount _ (nodup_fromkeys _) diffs (fun d hd => by
    rw [mem_fromkeys]
    exact List.mem_append_right _ (List.mem_map_of_mem hd))

/-! ## The gate -/

theorem gateStatus_fail_iff (diffs : List DiffEntry) (severityOrder : List String) (blocking : String) :
    gateStatus (summarizeDiffs diffs severityOrder blocking) = .fail ↔ ∃ d ∈ diffs, d.severity = blocking := by
  rw [← severityCount_pos_iff, gateStatus, ite_eq_left_iff]
  simp [summarizeDiffs]

section
variable (diffs : List DiffEntry) (severityOrder : List String) (hknown : ∀ d ∈ diffs, d.severity ∈ severityOrder)
include hknown

/-- **The highest severity is the most severe one among the diffs.** -/
theorem highestSeverity_spec (hnodup : severityOrder.Nodup) (blocking : String) :
    ((summarizeDiffs diffs severityOrder blocking).highestSeverity = none ↔ diffs = []) ∧
      ∀ s, (summarizeDiffs diffs severityOrder blocking).highestSeverity = some s →
        (∃ d ∈ diffs, d.severity = s) ∧ ∀ d ∈ diffs, AtLeast severityOrder s d.severity := by
  simp only [summarizeDiffs]
  constructor
  · rw [List.find?_eq_none]
    constructor
    · intro hnone
      by_contra hne
      obtain ⟨d, hd⟩ := List.exists_mem_of_ne_nil _ hne
      have := hnone d.severity (hknown d hd)
      rw [decide_eq_true_eq, severityCount_pos_iff] at this
      exact this ⟨d, hd, rfl⟩
    · rintro rfl s -
      simp [severityCount]
  · intro s hs
    rw [List.find?_eq_some_iff_append, decide_eq_true_eq, severityCount_pos_iff] at hs
    obtain ⟨hex, before, after, rfl, hbefore⟩ := hs
    refine ⟨hex, fun d hd => ?_⟩
    -- no diff has a severity from before the first that counts
    have hnot : ∀ d ∈ diffs, d.severity ∉ before := fun d hd hm => by
      have := hbefore _ hm
      rw [Bool.not_eq_true', decide_eq_false_iff_not, severityCount_pos_iff] at this
      exact this ⟨d, hd, rfl⟩
    have hs' : s ∉ before := by
      obtain ⟨d', hd', rfl⟩ := hex
      exact hnot d' hd'
    unfold AtLeast
    rw [List.idxOf_append_of_notMem hs', List.idxOf_append_of_notMem (hnot d hd), List.idxOf_cons_self]
    omega

/-- **The gate of any diff policy**: the counts add up and the highest severity is the most severe of the diffs; the
status fails exactly on a diff of the blocking severity, which is the threshold unless a diff is more severe and none has
the blocking severity itself. -/
theorem summarizeDiffs_gate (hnodup : severityOrder.Nodup) (blocking : String) (hblocking : blocking ∈ severityOrder) :
    (gateStatus (summarizeDiffs diffs severityOrder blocking) = .fail ↔ ∃ d ∈ diffs, d.severity = blocking) ∧
      ((gateStatus (summarizeDiffs diffs severityOrder blocking) = .fail ↔
          ∃ d ∈ diffs, AtLeast severityOrder d.severity blocking) ↔
        ((∃ d ∈ diffs, d.severity = blocking) ∨ ∀ d ∈ diffs, AtLeast severityOrder blocking d.severity)) ∧
      ((summarizeDiffs diffs severityOrder blocking).counts.map Prod.snd).sum =
        (summarizeDiffs diffs severityOrder blocking).totalDiffs ∧
      ((summarizeDiffs diffs severityOrder blocking).highestSeverity = none ↔ diffs = []) ∧
      ∀ s, (summarizeDiffs diffs severityOrder blocking).highestSeverity = some s →
        (∃ d ∈ diffs, d.severity = s) ∧ ∀ d ∈ diffs, AtLeast severityOrder s d.severity := by
  have hgate := gateStatus_fail_iff diffs severityOrder blocking
  have hhighest := highestSeverity_spec diffs severityOrder hknown hnodup blocking
  refine ⟨hgate, ?_, counts_sum diffs severityOrder blocking, hhighest.1, hhighest.2⟩
  have hsame : ∀ d ∈ diffs, AtLeast severityOrder d.severity blocking → AtLeast severityOrder blocking d.severity →
      d.severity = blocking := fun d hd h h' => (List.idxOf_inj (hknown d hd)).1 (Nat.le_antisymm h h')
  rw [hgate]
  constructor
  · intro hiff
    by_cases hex : ∃ d ∈ diffs, d.severity = blocking
    · exact Or.inl hex
    · refine Or.inr (fun d hd => ?_)
      have hless : ¬ AtLeast severityOrder d.severity blocking := fun h => hex (hiff.2 ⟨d, hd, h⟩)
      exact Nat.le_of_lt (Nat.lt_of_not_le hless)
  · rintro (hex | hall)
    · refine iff_of_true hex ?_
      obtain ⟨d, hd, rfl⟩ := hex
      exact ⟨d, hd, Nat.le_refl _⟩
    · constructor
      · rintro ⟨d, hd, rfl⟩
        exact ⟨d, hd, Nat.le_refl _⟩
      · rintro ⟨d, hd, h⟩
        exact ⟨d, hd, hsame d hd h (hall d hd)⟩

end

def errorDiff : DiffEntry :=
  ⟨"registration_verdict_status", "error", "registration", "Registration verdict is not pass for the current run.",
    .str "pass", .str "fail", none⟩

/-- A diff against an artifact that is missing, which warns, with one that blocks. -/
def mixedDiffs : List DiffEntry := verdictSourceDiffs "artifact-missing" ++ [errorDiff, errorDiff]

/-- The gate fails, on all three diffs counted and the most severe named. -/
theorem mixedDiffs_gate : gateStatus (summarizeDiffs mixedDiffs ["error", "warn", "info"] "error") = .fail ∧
    ((summarizeDiffs mixedDiffs ["error", "warn", "info"] "error").counts.map Prod.snd).sum = 3 ∧
    (summarizeDiffs mixedDiffs ["error", "warn", "info"] "error").highestSeverity = some "error" ∧
    ∀ d ∈ mixedDiffs, AtLeast ["error", "warn", "info"] "error" d.severity := by
  have hknown : ∀ d ∈ mixedDiffs, d.severity ∈ ["error", "warn", "info"] := by decide
  have herror : errorDiff ∈ mixedDiffs := by simp [mixedDiffs]
  have hhighest : (summarizeDiffs mixedDiffs ["error", "warn", "info"] "error").highestSeverity = some "error" := by
    decide
  obtain ⟨hgate, -, hcounts, -, hsevere⟩ :=
    summarizeDiffs_gate mixedDiffs ["error", "warn", "info"] hknown (by decide) "error" (by decide)
  exact ⟨hgate.2 ⟨errorDiff, herror, rfl⟩, hcounts, hhighest, (hsevere "error" hhighest).2⟩

/-- **With `warn` blocking, a diff of the severity above it passes.** -/
theorem errorDiff_unblocked : ¬ (gateStatus (summarizeDiffs [errorDiff] ["error", "warn", "info"] "warn") = .fail ↔
    ∃ d ∈ [errorDiff], AtLeast ["error", "warn", "info"] d.severity "warn") := by
  have hpass : gateStatus (summarizeDiffs [errorDiff] ["error", "warn", "info"] "warn") = .pass := by decide
  have hsevere : AtLeast ["error", "warn", "info"] errorDiff.severity "warn" := by
    unfold AtLeast
    decide
  rw [hpass]
  exact fun h => nomatch h.2 ⟨errorDiff, List.mem_cons_self, hsevere⟩

/-- With the blocking severity first, as in the shipped policy, the gate is the threshold. -/
theorem gateStatus_first (diffs : List DiffEntry) (blocking : String) (others : List String) :
    gateStatus (summarizeDiffs diffs (blocking :: others) blocking) = .fail ↔
      ∃ d ∈ diffs, AtLeast (blocking :: others) d.severity blocking := by
  rw [gateStatus_fail_iff]
  refine exists_congr (fun d => and_congr_right (fun _ => ?_))
  by_cases h : d.severity = blocking
  · simp [h, AtLeast]
  · simp [h, AtLeast, List.idxOf_cons_ne _ (Ne.symm h)]

end Lider
