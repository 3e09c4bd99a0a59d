import Mathlib.Data.List.Basic
import Mathlib.Data.List.Nodup
/-!
# Admission — lists that grow by offers

A list is built by offers, one after the other.  Some are always accepted, the others only when the list has no element
of the same key yet.  An offer is turned away exactly when it is not one of the first kind and an earlier offer has its
key (`acceptAll_eq`), so who is accepted can be read off the offers (`nodup_labels_iff`, `nodup_keys_iff`).
-/
namespace Admission

/-- An element offered to a list; `always`: it is accepted whatever the list holds. -/
structure Offer (α : Type) where
  value : α
  always : Bool
deriving DecidableEq, Repr

variable {α ι β : Type} [DecidableEq ι] (key : α → ι)

def accept (kept : List α) (o : Offer α) : List α :=
  if o.always = false ∧ kept.any (fun t => key t = key o.value) = true then kept else kept ++ [o.value]

def acceptAll (kept : List α) (offers : List (Offer α)) : List α := offers.foldl (accept key) kept

@[simp] theorem acceptAll_nil (kept : List α) : acceptAll key kept [] = kept := rfl

@[simp] theorem acceptAll_cons (kept : List α) (o : Offer α) (os : List (Offer α)) :
    acceptAll key kept (o :: os) = acceptAll key (accept key kept o) os := rfl

theorem acceptAll_append (kept : List α) (os os' : List (Offer α)) :
    acceptAll key kept (os ++ os') = acceptAll key (acceptAll key kept os) os' := List.foldl_append

theorem accept_always (kept : List α) (a : α) : accept key kept ⟨a, true⟩ = kept ++ [a] := by simp [accept]

theorem mem_acceptAll {t : α} (os : List (Offer α)) : ∀ {kept : List α},
    t ∈ acceptAll key kept os → t ∈ kept ∨ ∃ o ∈ os, o.value = t := by
  induction os with
  | nil => exact fun h => .inl h
  | cons o os ih =>
    intro kept h
    rw [acceptAll_cons, accept] at h
    have hrest := ih h
    grind

/-- A loop whose turns each make offers makes them all. -/
theorem foldlM_acceptAll {ε γ : Type} {turn : List α → γ → Except ε (List α)} {made : γ → List (Offer α)} (xs : List γ) :
    (∀ x ∈ xs, ∀ kept, turn kept x = .ok (acceptAll key kept (made x))) →
      ∀ kept, xs.foldlM turn kept = .ok (acceptAll key kept (xs.flatMap made)) := by
  induction xs with
  | nil => exact fun _ _ => rfl
  | cons x xs ih =>
    intro h kept
    rw [List.foldlM_cons, h x List.mem_cons_self kept, List.flatMap_cons, acceptAll_append]
    exact ih (fun y hy => h y (List.mem_cons_of_mem _ hy)) _

def turnedAway (earlier : List (Offer α)) (o : Offer α) : Bool :=
  !o.always && earlier.any (fun p => key p.value = key o.value)

/-- The offers, each with whether it is turned away. -/
def answers (earlier : List (Offer α)) : List (Offer α) → List (Offer α × Bool)
  | [] => []
  | o :: os => (o, turnedAway key earlier o) :: answers (earlier ++ [o]) os

/-- **The list holds what is not turned away**: the keys of the list are those of the earlier offers. -/
theorem acceptAll_eq (os : List (Offer α)) : ∀ (kept : List α) (earlier : List (Offer α)),
    (∀ k, (∃ t ∈ kept, key t = k) ↔ ∃ p ∈ earlier, key p.value = k) →
      acceptAll key kept os = kept ++ ((answers key earlier os).filter (fun a => !a.2)).map (·.1.value) := by
  induction os with
  | nil =>
    intro kept earlier _
    simp [answers]
  | cons o os ih =>
    intro kept earlier hkeys
    have hany : kept.any (fun t => key t = key o.value) = earlier.any (fun p => key p.value = key o.value) := by
      rw [Bool.eq_iff_iff]
      simpa using hkeys (key o.value)
    rw [acceptAll_cons, answers, List.filter_cons, turnedAway, accept, hany]
    by_cases hturned : o.always = false ∧ earlier.any (fun p => key p.value = key o.value) = true
    · rw [if_pos hturned, ih kept (earlier ++ [o]), if_neg (by simp [hturned])]
      -- the key of an offer turned away is there already
      intro k
      obtain ⟨p, hp, hkey⟩ := List.any_eq_true.1 hturned.2
      rw [hkeys k]
      constructor
      · rintro ⟨q, hq, hk⟩
        exact ⟨q, List.mem_append_left _ hq, hk⟩
      · rintro ⟨q, hq, hk⟩
        rcases List.mem_append.1 hq with hq | hq
        · exact ⟨q, hq, hk⟩
        · rw [List.mem_singleton.1 hq] at hk
          exact ⟨p, hp, (by simpa using hkey : key p.value = key o.value).trans hk⟩
    · rw [if_neg hturned, ih (kept ++ [o.value]) (earlier ++ [o]), if_pos (by grind), List.map_cons,
        List.append_assoc, List.singleton_append]
      intro k
      have hk := hkeys k
      grind

/-- Of two offers with one label, one is turned away. -/
def Clear [DecidableEq β] (label : α → Option β) (offers : List (Offer α)) : Prop :=
  (answers key [] offers).Pairwise fun a b =>
    a.2 = true ∨ b.2 = true ∨ label a.1.value = none ∨ label a.1.value ≠ label b.1.value

instance [DecidableEq β] (label : α → Option β) (offers : List (Offer α)) : Decidable (Clear key label offers) :=
  inferInstanceAs (Decidable (List.Pairwise _ _))

/-- **A label comes once in the list** iff of two offers with one label, one is turned away. -/
theorem nodup_labels_iff [DecidableEq β] (label : α → Option β) (offers : List (Offer α)) :
    ((acceptAll key [] offers).filterMap label).Nodup ↔ Clear key label offers := by
  rw [acceptAll_eq key offers [] [] (by simp), List.nil_append, List.Nodup, List.pairwise_filterMap, List.pairwise_map,
    List.pairwise_filter, Clear]
  refine List.pairwise_iff_forall_sublist.trans (Iff.trans ?_ List.pairwise_iff_forall_sublist.symm)
  refine forall_congr' fun a => forall_congr' fun b => forall_congr' fun _ => ?_
  cases a.2 <;> cases b.2 <;> cases label a.1.value <;> simp
  grind

theorem nodup_map_iff_filterMap {f : α → Option β} : ∀ {l : List α}, (∀ a ∈ l, f a ≠ none) →
    ((l.map f).Nodup ↔ (l.filterMap f).Nodup)
  | [], _ => by simp
  | a :: l, h => by
    obtain ⟨b, hb⟩ := Option.ne_none_iff_exists'.1 (h a List.mem_cons_self)
    rw [List.map_cons, List.filterMap_cons_some hb, List.nodup_cons, List.nodup_cons, hb,
      nodup_map_iff_filterMap (fun x hx => h x (List.mem_cons_of_mem _ hx))]
    simp

/-- **A key comes once in the list** iff no offer that is always accepted comes after another one of its key. -/
theorem nodup_keys_iff (os : List (Offer α)) : ∀ kept : List α,
    ((acceptAll key kept os).map key).Nodup ↔
      (kept.map key).Nodup ∧ (∀ o ∈ os, o.always = true → key o.value ∉ kept.map key) ∧
        os.Pairwise (fun a b => b.always = true → key a.value ≠ key b.value) := by
  induction os with
  | nil => simp
  | cons o os ih =>
    intro kept
    rw [acceptAll_cons, ih, accept]
    simp only [List.forall_mem_cons, List.pairwise_cons]
    have hany : kept.any (fun t => key t = key o.value) = true ↔ key o.value ∈ kept.map key := by simp
    by_cases hskip : o.always = false ∧ kept.any (fun t => key t = key o.value) = true
    · rw [if_pos hskip]
      grind
    · rw [if_neg hskip]
      simp only [List.map_append, List.map_cons, List.map_nil, List.nodup_append]
      grind

end Admission
