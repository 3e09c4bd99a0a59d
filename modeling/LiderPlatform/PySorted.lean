import Mathlib.Data.List.Sort
import Mathlib.Data.String.Basic
/-!
# PySorted — `sorted(dict.fromkeys(xs))`, and the lists it returns

A list in strictly ascending order is sorted and has no duplicates; `Ascending α` is the type of such lists.  Two of
them with the same members are one list (`Ascending.ext_mem`), so `==` on them compares the sets they stand for.
-/
namespace Py

/-- A sorted list without duplicates. -/
abbrev Ascending (α : Type) [LT α] := {l : List α // l.Pairwise (· < ·)}

/-- `list(dict.fromkeys(xs))`: the first of equal values is kept. -/
def fromkeys {α : Type} [BEq α] (xs : List α) : List α := xs.eraseDups

section
variable {α : Type} [BEq α] [LawfulBEq α]

@[simp] theorem mem_fromkeys (xs : List α) (x : α) : x ∈ fromkeys xs ↔ x ∈ xs := List.mem_eraseDups

theorem nodup_fromkeys : ∀ (xs : List α), (fromkeys xs).Nodup
  | [] => List.nodup_nil
  | x :: xs => by
    have hlen : (xs.filter (fun y => !y == x)).length < xs.length + 1 :=
      Nat.lt_succ_of_le (List.length_filter_le _ xs)
    have ih := nodup_fromkeys (xs.filter (fun y => !y == x))
    unfold fromkeys at ih ⊢
    rw [List.eraseDups_cons, List.nodup_cons]
    exact ⟨by simp, ih⟩
termination_by xs => xs.length

theorem fromkeys_of_nodup : ∀ (xs : List α), xs.Nodup → fromkeys xs = xs
  | [], _ => rfl
  | x :: xs, h => by
    rw [List.nodup_cons] at h
    have hfilter : xs.filter (fun y => !y == x) = xs := List.filter_eq_self.2 (fun y hy => by
      simp only [Bool.not_eq_true', beq_eq_false_iff_ne]
      rintro rfl
      exact h.1 hy)
    have ih := fromkeys_of_nodup xs h.2
    unfold fromkeys at ih ⊢
    rw [List.eraseDups_cons, hfilter, ih]

end

section
variable {α : Type} [LinearOrder α]

/-- `sorted(dict.fromkeys(xs))`. -/
def sortedUnique (xs : List α) : Ascending α :=
  ⟨(fromkeys xs).insertionSort (· ≤ ·), by
    have hle := List.pairwise_insertionSort (· ≤ ·) (fromkeys xs)
    have hne : ((fromkeys xs).insertionSort (· ≤ ·)).Nodup :=
      (List.perm_insertionSort (· ≤ ·) (fromkeys xs)).nodup_iff.2 (nodup_fromkeys xs)
    exact hle.imp₂ (fun _ _ h h' => lt_of_le_of_ne h h') hne⟩

theorem length_sortedUnique (xs : List α) (h : xs.Nodup) : (sortedUnique xs).val.length = xs.length := by
  rw [sortedUnique, List.length_insertionSort, fromkeys_of_nodup xs h]

@[simp] theorem mem_sortedUnique (xs : List α) (x : α) : x ∈ (sortedUnique xs).val ↔ x ∈ xs := by
  simp [sortedUnique]

theorem Ascending.nodup (a : Ascending α) : a.val.Nodup := a.property.imp ne_of_lt

/-- **Ascending lists with the same members are equal.** -/
theorem Ascending.ext_mem (a b : Ascending α) (h : ∀ x, x ∈ a.val ↔ x ∈ b.val) : a = b := by
  have hperm : a.val.Perm b.val := (List.perm_ext_iff_of_nodup a.nodup b.nodup).2 h
  exact Subtype.ext (hperm.eq_of_pairwise (fun x y _ _ h1 h2 => absurd h2 (lt_asymm h1)) a.property b.property)

/-- An ascending list inside one that is no longer is all of it. -/
theorem Ascending.eq_of_subset (a b : Ascending α) (h : ∀ x ∈ a.val, x ∈ b.val) (hlen : b.val.length ≤ a.val.length) :
    a = b := by
  have hperm : a.val.Perm b.val := (List.subperm_of_subset a.nodup h).perm_of_length_le hlen
  exact Ascending.ext_mem a b (fun _ => hperm.mem_iff)

end

/-! ## Sorting by a key -/

/-- `sorted(xs, key=key)`, stable. -/
def sortedBy {α κ : Type} [LinearOrder κ] (key : α → κ) (xs : List α) : List α :=
  xs.insertionSort (fun x y => key x ≤ key y)

theorem sortedBy_pairwise {α κ : Type} [LinearOrder κ] (key : α → κ) (xs : List α) :
    (sortedBy key xs).Pairwise (fun x y => key x ≤ key y) :=
  have : Std.Total (fun x y => key x ≤ key y) := ⟨fun x y => le_total (key x) (key y)⟩
  have : IsTrans α (fun x y => key x ≤ key y) := ⟨fun _ _ _ h h' => le_trans h h'⟩
  List.pairwise_insertionSort _ _

/-- **Two lists with the same keys in the same places sort to one list only if they are one list**: the sort moves
both alike. -/
theorem sortedBy_eq_iff {α κ : Type} [LinearOrder κ] (key : α → κ) (xs ys : List α) (hkeys : xs.map key = ys.map key) :
    sortedBy key xs = sortedBy key ys ↔ xs = ys := by
  refine ⟨fun h => ?_, fun h => by rw [h]⟩
  have hlen : xs.length = ys.length := by simpa using congrArg List.length hkeys
  have hfst : (xs.zip ys).map Prod.fst = xs := List.map_fst_zip (le_of_eq hlen)
  have hsnd : (xs.zip ys).map Prod.snd = ys := List.map_snd_zip (le_of_eq hlen.symm)
  have hpair : ∀ p ∈ xs.zip ys, key p.1 = key p.2 := by
    have hmaps : (xs.zip ys).map (key ∘ Prod.fst) = (xs.zip ys).map (key ∘ Prod.snd) := by
      rw [← List.map_map, ← List.map_map, hfst, hsnd, hkeys]
    exact List.map_inj_left.1 hmaps
  -- sort the pairs by the key of their first part
  have h1 : (sortedBy (fun p => key p.1) (xs.zip ys)).map Prod.fst = sortedBy key xs := by
    rw [sortedBy, List.map_insertionSort (s := fun x y => key x ≤ key y) _ _ _ (fun _ _ _ _ => Iff.rfl), hfst, sortedBy]
  have h2 : (sortedBy (fun p => key p.1) (xs.zip ys)).map Prod.snd = sortedBy key ys := by
    rw [sortedBy, List.map_insertionSort (s := fun x y => key x ≤ key y) _ _ _
      (fun p hp q hq => by rw [hpair p hp, hpair q hq]), hsnd, sortedBy]
  have heq : ∀ p ∈ sortedBy (fun p => key p.1) (xs.zip ys), p.1 = p.2 := by
    rw [← h1, ← h2] at h
    exact List.map_inj_left.1 h
  have hall : ∀ p ∈ xs.zip ys, p.1 = p.2 := fun p hp => heq p ((List.mem_insertionSort _).2 hp)
  exact hfst.symm.trans ((List.map_inj_left.2 hall).trans hsnd)

/-! ## Ranks -/

/-- How many items have a key below `k`. -/
def rank {α κ : Type} [LinearOrder κ] (key : α → κ) (xs : List α) (k : κ) : Nat := xs.countP (fun x => key x < k)

section
variable {α κ : Type} [LinearOrder κ] {key : α → κ} {xs : List α}

theorem rank_perm {ys : List α} (h : xs.Perm ys) (k : κ) : rank key xs k = rank key ys k := h.countP_eq _

/-- **The items of a list have different ranks when their keys differ.** -/
theorem rank_lt {x : α} (hx : x ∈ xs) {k : κ} (hk : key x < k) : rank key xs (key x) < rank key xs k := by
  induction xs with
  | nil => cases hx
  | cons y ys ih =>
    have hmono : rank key ys (key x) ≤ rank key ys k :=
      List.countP_mono_left (fun z _ hz => by simpa using lt_trans (of_decide_eq_true hz) hk)
    simp only [rank, List.countP_cons] at ih hmono ⊢
    rcases List.mem_cons.1 hx with rfl | hx
    · simp only [lt_self_iff_false, decide_false, Bool.false_eq_true, if_false, hk, decide_true, if_true]
      omega
    · have hstep : (if decide (key y < key x) = true then 1 else 0) ≤ if decide (key y < k) = true then 1 else 0 := by
        by_cases hy : key y < key x
        · simp [hy, lt_trans hy hk]
        · simp [hy]
      have := ih hx
      omega

/-- **The first item of the sorted list with `p` is at the rank of its key**, when it is the only one with `p` and the
keys are all different. -/
theorem findIdx_sortedBy {x : α} (hx : x ∈ xs) (hkeys : (xs.map key).Nodup) {p : α → Bool} (hp : p x = true)
    (honly : ∀ y ∈ xs, p y = true → y = x) : (sortedBy key xs).findIdx? p = some (rank key xs (key x)) := by
  have hperm : (sortedBy key xs).Perm xs := List.perm_insertionSort _ xs
  have hnodup : ((sortedBy key xs).map key).Nodup := (hperm.map key).nodup_iff.2 hkeys
  obtain ⟨before, after, hsplit⟩ := List.append_of_mem (hperm.mem_iff.2 hx)
  have hsorted := sortedBy_pairwise key xs
  rw [hsplit, List.map_append, List.map_cons, List.nodup_append, List.nodup_cons] at hnodup
  rw [hsplit, List.pairwise_append, List.pairwise_cons] at hsorted
  have hbefore : ∀ y ∈ before, key y < key x := fun y hy =>
    lt_of_le_of_ne (hsorted.2.2 y hy x List.mem_cons_self)
      (hnodup.2.2 _ (List.mem_map_of_mem hy) _ List.mem_cons_self)
  have hafter : ∀ y ∈ after, ¬ key y < key x := fun y hy => not_lt.2 (hsorted.2.1.1 y hy)
  have hrank : rank key xs (key x) = before.length := by
    rw [← rank_perm hperm, hsplit, rank, List.countP_append, List.countP_cons,
      List.countP_eq_length.2 (fun y hy => decide_eq_true (hbefore y hy)),
      List.countP_eq_zero.2 (fun y hy => by simpa using hafter y hy)]
    simp
  have hnone : before.findIdx? p = none := by
    refine List.findIdx?_eq_none_iff.2 (fun y hy => ?_)
    cases hpy : p y with
    | false => rfl
    | true =>
      have hy' : y ∈ xs := hperm.mem_iff.1 (hsplit ▸ List.mem_append_left _ hy)
      exact absurd (honly y hy' hpy ▸ hbefore y hy) (lt_irrefl _)
  rw [hrank, hsplit, List.findIdx?_append, hnone, List.findIdx?_cons, hp]
  simp

end

end Py
