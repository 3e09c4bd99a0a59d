import Mathlib.Data.Int.CardIntervalMod
import Mathlib.Data.List.Nodup
/-!
# RoundRobin — items dealt to hands in turn

`deal xs k` gives item `j` to hand `j mod k`.  The hands partition the items, each keeps their order, their sizes differ
by at most one, and with fewer items than hands the last hands are empty.
-/
namespace RoundRobin

section
variable {α β : Type}

def deal (xs : List α) (k : Nat) : List (List α) :=
  xs.zipIdx.foldl (fun hands m => hands.modify (m.2 % k) (· ++ [m.1])) (List.replicate k [])

/-- The items whose place is `i` modulo `k`, in their order. -/
def hand (xs : List α) (k i : Nat) : List α := (xs.zipIdx.filter (fun m => m.2 % k = i)).map Prod.fst

/-- **A fold that appends each item to the list its key names leaves each list with the items of its key.** -/
theorem getElem?_foldl_modify (key : β → Nat) (f : β → α) (i : Nat) : ∀ (ms : List β) (hands : List (List α)),
    (ms.foldl (fun hands m => hands.modify (key m) (· ++ [f m])) hands)[i]? =
      hands[i]?.map (· ++ (ms.filter (fun m => key m = i)).map f)
  | [], hands => by simp
  | m :: ms, hands => by
    rw [List.foldl_cons, getElem?_foldl_modify key f i ms, List.getElem?_modify]
    by_cases h : key m = i
    · rw [List.filter_cons_of_pos (by simpa using h)]
      cases hands[i]? <;> simp [h]
    · rw [List.filter_cons_of_neg (by simpa using h)]
      cases hands[i]? <;> simp [h]

theorem getElem?_deal (xs : List α) (k i : Nat) : (deal xs k)[i]? = if i < k then some (hand xs k i) else none := by
  rw [deal, getElem?_foldl_modify (fun m : α × Nat => m.2 % k) Prod.fst i xs.zipIdx, List.getElem?_replicate]
  split <;> simp [hand]

theorem getD_deal (xs : List α) {k i : Nat} (h : i < k) : (deal xs k).getD i [] = hand xs k i := by
  rw [List.getD_eq_getElem?_getD, getElem?_deal, if_pos h, Option.getD_some]

/-! ## The hands -/

theorem hand_sublist (xs : List α) (k i : Nat) : (hand xs k i).Sublist xs := by
  have h := (List.filter_sublist (p := fun m : α × Nat => decide (m.2 % k = i)) (l := xs.zipIdx)).map Prod.fst
  rwa [List.zipIdx_map_fst] at h

theorem map_hand (f : α → β) (xs : List α) (k i : Nat) : (hand xs k i).map f = hand (xs.map f) k i := by
  simp [hand, List.zipIdx_map, List.filter_map, Function.comp_def]

theorem mem_hand_iff (xs : List α) (k i : Nat) (x : α) : x ∈ hand xs k i ↔ ∃ j, xs[j]? = some x ∧ j % k = i := by
  simp only [hand, List.mem_map, List.mem_filter, decide_eq_true_eq]
  constructor
  · rintro ⟨⟨y, j⟩, ⟨hm, hj⟩, rfl⟩
    exact ⟨j, List.mem_zipIdx_iff_getElem?.1 hm, hj⟩
  · rintro ⟨j, hx, hj⟩
    exact ⟨(x, j), ⟨List.mem_zipIdx_iff_getElem?.2 hx, hj⟩, rfl⟩

/-- **Each item is in exactly one hand.** -/
theorem existsUnique_hand {xs : List α} (hnodup : xs.Nodup) {k : Nat} (hk : 0 < k) {x : α} (hx : x ∈ xs) :
    ∃! i, i < k ∧ x ∈ hand xs k i := by
  obtain ⟨j, hj, rfl⟩ := List.mem_iff_getElem.1 hx
  refine ⟨j % k, ⟨Nat.mod_lt j hk, (mem_hand_iff xs k _ _).2 ⟨j, List.getElem?_eq_getElem hj, rfl⟩⟩, ?_⟩
  rintro i ⟨-, hi⟩
  obtain ⟨j', hj', rfl⟩ := (mem_hand_iff xs k i _).1 hi
  obtain ⟨hlt, heq⟩ := List.getElem?_eq_some_iff.1 hj'
  rw [hnodup.getElem_inj_iff.1 heq]

/-- The size of a hand: the quotient, and one more for the hands before the remainder. -/
theorem length_hand (xs : List α) {k i : Nat} (hi : i < k) :
    (hand xs k i).length = xs.length / k + if i < xs.length % k then 1 else 0 := by
  have hcount : (hand xs k i).length = xs.length.count (fun j => j ≡ i [MOD k]) := by
    have hplaces : xs.zipIdx.map Prod.snd = List.range xs.length := by
      rw [List.zipIdx_map_snd, List.range_eq_range']
    have hsame : (fun m : α × Nat => decide (m.2 % k = i)) = (fun j => decide (j ≡ i [MOD k])) ∘ Prod.snd := by
      funext m
      simp only [Function.comp_apply, Nat.ModEq, Nat.mod_eq_of_lt hi]
    rw [hand, List.length_map, ← List.countP_eq_length_filter, hsame, ← List.countP_map, hplaces, Nat.count]
  rw [hcount, Nat.count_modEq_card _ (by omega), Nat.mod_eq_of_lt hi]

theorem length_hand_le (xs : List α) {k i j : Nat} (hi : i < k) (hj : j < k) :
    (hand xs k i).length ≤ (hand xs k j).length + 1 := by
  rw [length_hand xs hi, length_hand xs hj]
  split <;> split <;> omega

theorem hand_eq_nil_iff (xs : List α) {k i : Nat} (hi : i < k) : hand xs k i = [] ↔ xs.length ≤ i := by
  rw [List.eq_nil_iff_forall_not_mem]
  constructor
  · intro h
    by_contra hlt
    have hlt : i < xs.length := by omega
    exact h xs[i] ((mem_hand_iff xs k i _).2 ⟨i, List.getElem?_eq_getElem hlt, Nat.mod_eq_of_lt hi⟩)
  · intro hle x hx
    obtain ⟨j, hj, hmod⟩ := (mem_hand_iff xs k i x).1 hx
    obtain ⟨hlt, -⟩ := List.getElem?_eq_some_iff.1 hj
    have := Nat.mod_le j k
    omega

end

end RoundRobin
