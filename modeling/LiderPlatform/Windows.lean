import Mathlib.Data.List.Basic
/-!
# Windows — a list cut into pages of one size

`window xs s i` is page `i` of `xs`, counted from zero.  The pages up to the last one give the list back, and pages that
are the windows wherever the list reaches give it back only if they are the windows everywhere
(`flatMap_eq_self_iff`).
-/
namespace Windows

section
variable {α : Type}

/-- The items at the places from `i * s` up to `(i + 1) * s`. -/
def window (xs : List α) (s i : Nat) : List α := (xs.drop (i * s)).take s

theorem window_of_length_le {xs : List α} {s i : Nat} (h : xs.length ≤ i * s) : window xs s i = [] := by
  rw [window, List.drop_eq_nil_of_le h, List.take_nil]

/-- **The first pages are the start of the list.** -/
theorem flatMap_window (xs : List α) (s : Nat) : ∀ n, (List.range n).flatMap (window xs s) = xs.take (n * s)
  | 0 => by simp
  | n + 1 => by
    rw [List.range_succ, List.flatMap_append, flatMap_window xs s n, List.flatMap_singleton, Nat.succ_mul, List.take_add]
    rfl

theorem flatMap_window_of_length_le {xs : List α} {s n : Nat} (h : xs.length ≤ n * s) :
    (List.range n).flatMap (window xs s) = xs := by
  rw [flatMap_window, List.take_of_length_le h]

theorem flatMap_range_prefix (pages : Nat → List α) {m n : Nat} (h : m ≤ n) :
    (List.range m).flatMap pages <+: (List.range n).flatMap pages := by
  obtain ⟨k, rfl⟩ := Nat.exists_eq_add_of_le h
  rw [List.range_add, List.flatMap_append]
  exact List.prefix_append _ _

/-- **Pages that are right where the list reaches give it back exactly when they are right everywhere.** -/
theorem flatMap_eq_self_iff {xs : List α} {s n : Nat} (hn : xs.length ≤ n * s) {pages : Nat → List α}
    (hreach : ∀ i < n, i * s < xs.length → pages i = window xs s i) :
    (List.range n).flatMap pages = xs ↔ ∀ i < n, pages i = window xs s i := by
  constructor
  · intro h i
    induction i using Nat.strongRecOn with
    | _ i ih =>
      intro hi
      by_cases hlt : i * s < xs.length
      · exact hreach i hi hlt
      -- all pages before are right and give the list, so that nothing is left for this one
      have hle : xs.length ≤ i * s := Nat.le_of_not_lt hlt
      have hbefore : (List.range i).flatMap pages = xs := by
        rw [← flatMap_window_of_length_le hle]
        exact List.flatMap_congr (fun j hj => ih j (List.mem_range.1 hj) (Nat.lt_trans (List.mem_range.1 hj) hi))
      have hpre := flatMap_range_prefix pages (show i + 1 ≤ n from hi)
      rw [List.range_succ, List.flatMap_append, hbefore, List.flatMap_singleton, h] at hpre
      have hlength := hpre.length_le
      rw [List.length_append] at hlength
      rw [window_of_length_le hle]
      exact List.eq_nil_of_length_eq_zero (by omega)
  · intro h
    have hpages : (List.range n).flatMap pages = (List.range n).flatMap (window xs s) :=
      List.flatMap_congr (fun i hi => h i (List.mem_range.1 hi))
    rw [hpages, flatMap_window_of_length_le hn]

end

end Windows
