import LiderPlatform.RuntimeReadiness
/-!
# ObservabilityTargets — one value for each scrape job (`readiness/connectivity.py`)

`observability_checks` collapses the active targets of Prometheus into a dictionary by job before it judges them, so the
last target of a job speaks for all of them.  `targetsCheck_law_iff` says for which lists that judgement is the one the
check describes, and the same in every order.
-/
namespace Py

/-! ## Dictionary comprehensions -/

section
variable {κ β : Type} [BEq κ] [LawfulBEq κ] [DecidableEq κ]

/-- `d[key] = v` in a dictionary with keys of any type. -/
def assign (key : κ) (v : β) : List (κ × β) → List (κ × β)
  | [] => [(key, v)]
  | (k, w) :: d => if k = key then (k, v) :: d else (k, w) :: assign key v d

/-- `{key: v for key, v in pairs}`. -/
def comprehension (pairs : List (κ × β)) : List (κ × β) :=
  pairs.foldl (fun d p => assign p.1 p.2 d) []

theorem lookup_assign (key : κ) (v : β) (k : κ) : ∀ (d : List (κ × β)),
    (assign key v d).lookup k = if k = key then some v else d.lookup k
  | [] => by
    by_cases h : k = key
    · simp [assign, h]
    · simp [assign, h, List.lookup_cons, beq_eq_false_iff_ne.2 h]
  | (k', w) :: d => by
    have ih := lookup_assign key v k d
    by_cases hk : k' = key
    · subst hk
      rw [assign, if_pos rfl, List.lookup_cons, List.lookup_cons]
      by_cases h : k = k'
      · simp [h]
      · simp [h, beq_eq_false_iff_ne.2 h]
    · rw [assign, if_neg hk, List.lookup_cons, List.lookup_cons, ih]
      by_cases h : k = k'
      · subst h
        simp [hk]
      · simp [beq_eq_false_iff_ne.2 h]

/-- **The value of a key is the one the last of its pairs gives.** -/
theorem lookup_comprehension (k : κ) (pairs : List (κ × β)) :
    (comprehension pairs).lookup k = ((pairs.filter (fun p => p.1 = k)).map Prod.snd).getLast? := by
  have hfold : ∀ (pairs d : List (κ × β)), (pairs.foldl (fun d p => assign p.1 p.2 d) d).lookup k =
      ((pairs.filter (fun p => p.1 = k)).map Prod.snd).getLast?.or (d.lookup k) := by
    intro pairs
    induction pairs with
    | nil => intro d; rfl
    | cons p pairs ih =>
      intro d
      rw [List.foldl_cons, ih, lookup_assign]
      by_cases h : p.1 = k
      · rw [if_pos h.symm, List.filter_cons_of_pos (by simpa using h), List.map_cons, List.getLast?_cons]
        cases ((pairs.filter (fun p => p.1 = k)).map Prod.snd).getLast? <;> rfl
      · rw [if_neg (Ne.symm h), List.filter_cons_of_neg (by simpa using h)]
  rw [comprehension, hfold, List.lookup_nil, Option.or_none]

end

end Py

namespace Lider

open Py

/-! ## The check -/

/-- What the check reads of an active target: its labels, when it has them, and its health. -/
structure ActiveTarget where
  labels : Option (List (String × String))
  health : Option Json

/-- `target.get("labels", {}).get("job")`. -/
def ActiveTarget.job (target : ActiveTarget) : Option String := (target.labels.getD []).lookup "job"

/-- `target.get("health") == "up"`. -/
def ActiveTarget.up (target : ActiveTarget) : Bool := (target.health.getD .null).pyEq (.str "up")

/-- The answer of `/api/v1/targets`; the list is `none` when the payload has no `data` or no `activeTargets`. -/
structure TargetsResponse where
  statusCode : Int
  activeTargets : Option (List ActiveTarget)

/-- `active_targets`; `http_get` returns `None` when the request fails. -/
def activeTargets (targetsResponse : Option TargetsResponse) : List ActiveTarget :=
  match targetsResponse with
  | some response => if response.statusCode = 200 then response.activeTargets.getD [] else []
  | none => []

def targetJobs (targets : List ActiveTarget) : List (Option String × Json) :=
  comprehension (targets.map (fun target => (target.job, target.health.getD .null)))

def missingJobs (expectedJobs : List String) (targets : List ActiveTarget) : List String :=
  expectedJobs.filter (fun job => !(((targetJobs targets).lookup (some job)).getD .null).pyEq (.str "up"))

/-- The `observability_targets` check; the report writes the key `None` as `null`. -/
def observabilityTargetsCheck (expectedJobs : List String) (targetsResponse : Option TargetsResponse) : Dict :=
  let targets := activeTargets targetsResponse
  let missing := missingJobs expectedJobs targets
  buildCheck "observability_targets" "observability" "Prometheus targets for the runtime stack are healthy"
    missing.isEmpty (.obj ((targetJobs targets).map (fun p => (p.1.getD "null", p.2))))
    (.obj (comprehension (expectedJobs.map (fun job => (job, Json.str "up"))))) (.obj [("missingJobs", .strs missing)])

/-- The check passes on a list of targets that Prometheus returned. -/
def TargetsPass (expectedJobs : List String) (targets : List ActiveTarget) : Prop :=
  (observabilityTargetsCheck expectedJobs (some ⟨200, some targets⟩)).get "status" = .str "pass"

/-! ## What the check says -/

/-- Every expected job has a target, and none that is not up. -/
def AllUp (expectedJobs : List String) (targets : List ActiveTarget) : Prop :=
  ∀ job ∈ expectedJobs, (∃ t ∈ targets, t.job = some job) ∧ ∀ t ∈ targets, t.job = some job → t.up = true

/-- What the check claims of the runtime stack, in whatever order Prometheus lists the targets. -/
def TargetsLaw (expectedJobs : List String) (targets : List ActiveTarget) : Prop :=
  (TargetsPass expectedJobs targets ↔ AllUp expectedJobs targets) ∧
    ∀ targets', targets'.Perm targets → (TargetsPass expectedJobs targets' ↔ TargetsPass expectedJobs targets)

/-- Every expected job has a target that is up, and one of them has another that is not. -/
def Masked (expectedJobs : List String) (targets : List ActiveTarget) : Prop :=
  (∀ job ∈ expectedJobs, ∃ t ∈ targets, t.job = some job ∧ t.up = true) ∧
    ∃ job ∈ expectedJobs, ∃ t ∈ targets, t.job = some job ∧ t.up = false

theorem lookup_targetJobs (targets : List ActiveTarget) (job : String) :
    (targetJobs targets).lookup (some job) =
      ((targets.filter (fun t => t.job = some job)).map (fun t => t.health.getD .null)).getLast? := by
  rw [targetJobs, lookup_comprehension, List.filter_map, List.map_map]
  rfl

theorem up_lookup_targetJobs_iff (targets : List ActiveTarget) (job : String) :
    (((targetJobs targets).lookup (some job)).getD .null).pyEq (.str "up") = true ↔
      ∃ t, (targets.filter (fun t => t.job = some job)).getLast? = some t ∧ t.up = true := by
  rw [lookup_targetJobs, List.getLast?_map]
  cases (targets.filter (fun t => t.job = some job)).getLast? with
  | none => simp
  | some t => simp [ActiveTarget.up]

/-- **The last target of each expected job decides.** -/
theorem targetsPass_iff (expectedJobs : List String) (targets : List ActiveTarget) :
    TargetsPass expectedJobs targets ↔ ∀ job ∈ expectedJobs,
      ∃ t, (targets.filter (fun t => t.job = some job)).getLast? = some t ∧ t.up = true := by
  have hstatus : TargetsPass expectedJobs targets ↔ (missingJobs expectedJobs targets).isEmpty = true := by
    rw [TargetsPass, observabilityTargetsCheck, buildCheck_pass_iff]
    simp [activeTargets]
  rw [hstatus, List.isEmpty_iff, missingJobs, List.filter_eq_nil_iff]
  refine forall₂_congr (fun job _ => ?_)
  rw [← up_lookup_targetJobs_iff]
  simp

theorem targetsPass_of_allUp {expectedJobs : List String} {targets : List ActiveTarget}
    (h : AllUp expectedJobs targets) : TargetsPass expectedJobs targets := by
  rw [targetsPass_iff]
  intro job hjob
  obtain ⟨⟨t, ht, htjob⟩, hup⟩ := h job hjob
  have hne : targets.filter (fun t => t.job = some job) ≠ [] :=
    List.ne_nil_of_mem (List.mem_filter.2 ⟨ht, by simpa using htjob⟩)
  have hlast := List.mem_filter.1 (List.getLast_mem hne)
  exact ⟨_, List.getLast?_eq_some_getLast hne, hup _ hlast.1 (by simpa using hlast.2)⟩

/-- A check that passes has seen a target up for every expected job. -/
theorem exists_up_of_targetsPass {expectedJobs : List String} {targets : List ActiveTarget}
    (h : TargetsPass expectedJobs targets) :
    ∀ job ∈ expectedJobs, ∃ t ∈ targets, t.job = some job ∧ t.up = true := by
  intro job hjob
  obtain ⟨t, ht, hup⟩ := (targetsPass_iff expectedJobs targets).1 h job hjob
  obtain ⟨hmem, htjob⟩ := List.mem_filter.1 (List.mem_of_getLast? ht)
  exact ⟨t, hmem, by simpa using htjob, hup⟩

theorem allUp_of_perm {expectedJobs : List String} {targets targets' : List ActiveTarget}
    (hperm : targets'.Perm targets) (h : AllUp expectedJobs targets) : AllUp expectedJobs targets' := by
  intro job hjob
  obtain ⟨⟨t, ht, htjob⟩, hup⟩ := h job hjob
  exact ⟨⟨t, hperm.mem_iff.2 ht, htjob⟩, fun t ht => hup t (hperm.mem_iff.1 ht)⟩

/-! ## The masking order -/

/-- The targets that are up, after all the others. -/
def upLast (targets : List ActiveTarget) : List ActiveTarget :=
  targets.filter (fun t => !t.up) ++ targets.filter (fun t => t.up)

theorem upLast_perm (targets : List ActiveTarget) : (upLast targets).Perm targets := by
  have h := List.filter_append_perm (fun t : ActiveTarget => t.up) targets
  exact List.perm_append_comm.trans h

/-- **With the targets that are up at the end, one of each job is enough.** -/
theorem targetsPass_upLast {expectedJobs : List String} {targets : List ActiveTarget}
    (h : ∀ job ∈ expectedJobs, ∃ t ∈ targets, t.job = some job ∧ t.up = true) :
    TargetsPass expectedJobs (upLast targets) := by
  rw [targetsPass_iff]
  intro job hjob
  obtain ⟨t, ht, htjob, hup⟩ := h job hjob
  have hne : (targets.filter (fun t => t.up)).filter (fun t => t.job = some job) ≠ [] :=
    List.ne_nil_of_mem (List.mem_filter.2 ⟨List.mem_filter.2 ⟨ht, hup⟩, by simpa using htjob⟩)
  have hlast := List.getLast_mem hne
  refine ⟨_, ?_, (List.mem_filter.1 (List.mem_filter.1 hlast).1).2⟩
  rw [upLast, List.filter_append, List.getLast?_append, List.getLast?_eq_some_getLast hne]
  rfl

/-- The check passes exactly when all expected targets are up, in every order, unless a target that is up may mask one
that is not. -/
theorem targetsCheck_law_iff (expectedJobs : List String) (targets : List ActiveTarget) :
    TargetsLaw expectedJobs targets ↔ ¬ Masked expectedJobs targets := by
  constructor
  · rintro ⟨hpass, horder⟩ ⟨hsome, job, hjob, t, ht, htjob, hdown⟩
    have hup : TargetsPass expectedJobs targets := (horder _ (upLast_perm targets)).1 (targetsPass_upLast hsome)
    have := (hpass.1 hup job hjob).2 t ht htjob
    rw [hdown] at this
    cases this
  · intro hmask
    by_cases hsome : ∀ job ∈ expectedJobs, ∃ t ∈ targets, t.job = some job ∧ t.up = true
    · have hall : AllUp expectedJobs targets := by
        intro job hjob
        obtain ⟨t, ht, htjob, -⟩ := hsome job hjob
        refine ⟨⟨t, ht, htjob⟩, fun t' ht' htjob' => ?_⟩
        by_contra hdown
        exact hmask ⟨hsome, job, hjob, t', ht', htjob', by simpa using hdown⟩
      refine ⟨iff_of_true (targetsPass_of_allUp hall) hall, fun targets' hperm => ?_⟩
      exact iff_of_true (targetsPass_of_allUp (allUp_of_perm hperm hall)) (targetsPass_of_allUp hall)
    · have hfail : ∀ targets', targets'.Perm targets → ¬ TargetsPass expectedJobs targets' := by
        intro targets' hperm hpass
        refine hsome (fun job hjob => ?_)
        obtain ⟨t, ht, h⟩ := exists_up_of_targetsPass hpass job hjob
        exact ⟨t, hperm.mem_iff.1 ht, h⟩
      have hnot := hfail targets (List.Perm.refl targets)
      exact ⟨iff_of_false hnot (fun hall => hnot (targetsPass_of_allUp hall)),
        fun targets' hperm => iff_of_false (hfail targets' hperm) hnot⟩

/-- Two targets of one job, the first down: the check passes. -/
theorem targetsCheck_law_false : ¬ ∀ (expectedJobs : List String) (targets : List ActiveTarget),
    TargetsLaw expectedJobs targets := by
  intro h
  have hlaw := h ["liderapi"] [⟨some [("job", "liderapi")], some (.str "down")⟩,
    ⟨some [("job", "liderapi")], some (.str "up")⟩]
  have hpass : TargetsPass ["liderapi"] [⟨some [("job", "liderapi")], some (.str "down")⟩,
      ⟨some [("job", "liderapi")], some (.str "up")⟩] := rfl
  have hdown := (hlaw.1.1 hpass "liderapi" (by simp)).2 ⟨some [("job", "liderapi")], some (.str "down")⟩ (by simp) rfl
  simp [ActiveTarget.up] at hdown

end Lider
