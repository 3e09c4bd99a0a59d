import Mathlib.Data.List.Basic
/-!
# Replicas — one register kept in several copies

A write stores its value in the replicas it reaches, a clear empties all of them, a read returns the first copy, in
a fixed order, among the replicas it reaches.  `register` is the single cell the copies stand for.  Whether a read
agrees with it is decided by the reach of the operations alone: `Age` tracks, without any value, which copies were
made by the last write.  A read is right when the first copy it meets is one of those (`readFirst_eq`), and wrong
otherwise when no value was written twice (`readFirst_ne`).
-/
namespace Replicas

variable {ι α : Type}

/-- An operation, with the replicas it reaches. -/
inductive Op (ι α : Type) where
  | write (value : α) (reach : ι → Bool)
  | clear
  | read (reach : ι → Bool)

def Op.apply : Op ι α → (ι → Option α) → ι → Option α
  | .write v reach, c => fun i => if reach i then some v else c i
  | .clear, _ => fun _ => none
  | .read _, c => c

/-- What a read returns: the first copy it reaches. -/
def readFirst (order : List ι) (reach : ι → Bool) (c : ι → Option α) : Option α :=
  order.findSome? (fun i => if reach i then c i else none)

/-- The one cell the copies stand for. -/
def Op.register : Op ι α → Option α → Option α
  | .write v _, _ => some v
  | .clear, _ => none
  | .read _, r => r

/-- The values the register held before. -/
def Op.past : Op ι α → Option α → List α → List α
  | .read _, _, past => past
  | _, r, past => r.toList ++ past

/-! ## Ages -/

/-- A copy against the last write: absent, made by it, or older. -/
inductive Age where
  | missing
  | fresh
  | stale
deriving DecidableEq, Repr

def Op.age : Op ι α → (ι → Age) → ι → Age
  | .write _ reach, a => fun i => if reach i then .fresh else if a i = .missing then .missing else .stale
  | .clear, _ => fun _ => .missing
  | .read _, a => a

/-- The first copy a read meets was made by the last write, unless there is no copy at all. -/
def ReadsFresh (order : List ι) (reach : ι → Bool) (a : ι → Age) : Prop :=
  (∀ i ∈ order, a i = .missing) ∨ (order.find? (fun i => reach i && a i != .missing)).map a = some .fresh

/-- The ages describe the copies: the fresh ones hold the register's value, the stale ones an earlier one. -/
structure Tracks (order : List ι) (c : ι → Option α) (a : ι → Age) (r : Option α) (past : List α) : Prop where
  missing : ∀ i ∈ order, a i = .missing ↔ c i = none
  fresh : ∀ i ∈ order, a i = .fresh → c i = r
  stale : ∀ i ∈ order, a i = .stale → ∃ v ∈ past, c i = some v
  kept : (∀ i ∈ order, a i = .missing) ↔ r = none

/-- A write that happens reaches a replica. -/
def Op.Lands (order : List ι) : Op ι α → Prop
  | .write _ reach => ∃ i ∈ order, reach i = true
  | _ => True

theorem tracks_none (order : List ι) (past : List α) : Tracks order (fun _ => none) (fun _ => .missing) none past :=
  ⟨fun _ _ => by simp, fun _ _ h => (nomatch h), fun _ _ h => (nomatch h), by simp⟩

theorem write_reached (v : α) (reach : ι → Bool) (c : ι → Option α) (a : ι → Age) (i : ι) (h : reach i = true) :
    (Op.write v reach).apply c i = some v ∧ (Op.write v reach).age a i = .fresh := by simp [Op.apply, Op.age, h]

/-- A replica a write misses keeps its copy, which grows stale. -/
theorem write_missed (v : α) (reach : ι → Bool) (c : ι → Option α) (a : ι → Age) (i : ι) (h : ¬ reach i = true) :
    (Op.write v reach).apply c i = c i ∧
      (Op.write v reach).age a i = if a i = .missing then .missing else .stale := by simp [Op.apply, Op.age, h]

/-- **One operation keeps the ages true.** -/
theorem Tracks.apply {order : List ι} {c : ι → Option α} {a : ι → Age} {r : Option α} {past : List α}
    (h : Tracks order c a r past) (op : Op ι α) (hop : op.Lands order) :
    Tracks order (op.apply c) (op.age a) (op.register r) (op.past r past) := by
  cases op with
  | clear => exact tracks_none order _
  | read reach => exact h
  | write v reach =>
    refine ⟨fun i hi => ?_, fun i hi hf => ?_, fun i hi hs => ?_, ?_⟩
    · by_cases hr : reach i = true
      · obtain ⟨hc, ha⟩ := write_reached v reach c a i hr
        simp [hc, ha]
      · obtain ⟨hc, ha⟩ := write_missed v reach c a i hr
        rw [hc, ha, ← h.missing i hi]
        split <;> simp_all
    · by_cases hr : reach i = true
      · exact (write_reached v reach c a i hr).1
      · rw [(write_missed v reach c a i hr).2] at hf
        split at hf <;> cases hf
    · by_cases hr : reach i = true
      · rw [(write_reached v reach c a i hr).2] at hs
        cases hs
      · obtain ⟨hc, ha⟩ := write_missed v reach c a i hr
        rw [ha] at hs
        rw [hc]
        -- the copy was the register's value before, or older
        cases hai : a i with
        | missing => rw [hai] at hs; cases hs
        | fresh =>
          have hne : c i ≠ none := fun hn => by rw [(h.missing i hi).2 hn] at hai; cases hai
          obtain ⟨w, hw⟩ := Option.ne_none_iff_exists'.1 hne
          exact ⟨w, by simp [Op.past, ← h.fresh i hi hai, hw], hw⟩
        | stale =>
          obtain ⟨w, hw, hcw⟩ := h.stale i hi hai
          exact ⟨w, List.mem_append_right _ hw, hcw⟩
    · obtain ⟨i, hi, hr⟩ := hop
      refine ⟨fun hall => ?_, fun hn => by cases hn⟩
      have := hall i hi
      rw [(write_reached v reach c a i hr).2] at this
      cases this

theorem readFirst_eq_find (reach : ι → Bool) (c : ι → Option α) (a : ι → Age) : ∀ (order : List ι),
    (∀ i ∈ order, a i = .missing ↔ c i = none) →
    readFirst order reach c = (order.find? (fun i => reach i && a i != .missing)).bind c
  | [], _ => rfl
  | i :: order, h => by
    have ih := readFirst_eq_find reach c a order (fun j hj => h j (List.mem_cons_of_mem _ hj))
    have hi := h i List.mem_cons_self
    unfold readFirst at ih ⊢
    rw [List.findSome?_cons, List.find?_cons]
    by_cases hr : reach i = true
    · cases hc : c i with
      | none => simpa [hr, hi.2 hc] using ih
      | some v =>
        have ha : (a i != .missing) = true := bne_iff_ne.2 (fun ha => by rw [hi.1 ha] at hc; cases hc)
        simp [hr, ha, hc]
    · simpa [hr] using ih

section
variable {order : List ι} {c : ι → Option α} {a : ι → Age} {r : Option α} {past : List α}

/-- **A read whose first copy is fresh returns the register.** -/
theorem readFirst_eq (h : Tracks order c a r past) (reach : ι → Bool) (hread : ReadsFresh order reach a) :
    readFirst order reach c = r := by
  rw [readFirst_eq_find reach c a order h.missing]
  rcases hread with hall | hf
  · have hnone : order.find? (fun i => reach i && a i != .missing) = none :=
      List.find?_eq_none.2 (fun i hi => by simp [hall i hi])
    rw [hnone, h.kept.1 hall]; rfl
  · obtain ⟨i, hi, ha⟩ := Option.map_eq_some_iff.1 hf
    rw [hi]
    exact h.fresh i (List.mem_of_find?_eq_some hi) ha

/-- **Any other read is wrong**, unless the register's value was written before: it finds nothing, or an old copy. -/
theorem readFirst_ne (h : Tracks order c a r past) (hnew : ∀ v, r = some v → v ∉ past) (reach : ι → Bool)
    (hread : ¬ ReadsFresh order reach a) : readFirst order reach c ≠ r := by
  simp only [ReadsFresh, not_or] at hread
  obtain ⟨v, hv⟩ := Option.ne_none_iff_exists'.1 (mt h.kept.2 hread.1)
  rw [readFirst_eq_find reach c a order h.missing, hv]
  cases hf : order.find? (fun i => reach i && a i != .missing) with
  | none => simp
  | some i =>
    have hi := List.mem_of_find?_eq_some hf
    have hne : a i ≠ .missing := by
      have := List.find?_some hf
      simp only [Bool.and_eq_true, bne_iff_ne] at this
      exact this.2
    have hstale : a i = .stale := by
      have hnf : a i ≠ .fresh := fun ha => hread.2 (by rw [hf, Option.map_some, ha])
      cases ha : a i with
      | missing => exact absurd ha hne
      | fresh => exact absurd ha hnf
      | stale => rfl
    obtain ⟨w, hw, hc⟩ := h.stale i hi hstale
    rw [Option.bind_some, hc]
    rintro heq
    obtain rfl := Option.some.inj heq
    exact hnew w hv hw

end

end Replicas
