import Mathlib.Data.List.Induction
/-!
# Sections — lines under headings, and the values written into them

Lines are read from top to bottom: a heading opens a section, and an entry below it gives one of its fields a value.
`lookup` finds the first value of a field of a section; `overwrite` gives a field a new value in every section that has
one to give.  Overwriting again is overwriting once (`overwrite_overwrite`), and of a list of writes, one after another,
the last to each section stays (`foldl_overwrite`).
-/
namespace Sections

variable {L κ φ ν : Type}

inductive View (κ φ ν : Type) where
  | heading (name : κ)
  | entry (field : φ) (value : ν)
  | other

/-- How a line is read, and how a value is written into an entry. -/
structure Format (L κ φ ν : Type) where
  view : L → View κ φ ν
  write : L → ν → L
  view_write : ∀ {l field value} new, view l = .entry field value → view (write l new) = .entry field new
  write_write : ∀ l old new, write (write l old) new = write l new

variable (F : Format L κ φ ν)

/-- An entry under the section `cur`, once the sections' values are written. -/
def rewritten (f : κ → Option ν) (cur : Option κ) (l : L) : L := ((cur.bind f).map (F.write l)).getD l

section
variable {F} {f g : κ → Option ν} {cur : Option κ} {l : L}

theorem rewritten_of_none (h : cur.bind f = none) : rewritten F f cur l = l := by
  rw [rewritten, h]
  rfl

theorem rewritten_of_some {new : ν} (h : cur.bind f = some new) : rewritten F f cur l = F.write l new := by
  rw [rewritten, h]
  rfl

theorem view_rewritten {field : φ} {value : ν} (h : F.view l = .entry field value) :
    F.view (rewritten F f cur l) = .entry field ((cur.bind f).getD value) := by
  cases hnew : cur.bind f with
  | none => rw [rewritten_of_none hnew, h, Option.getD_none]
  | some new => rw [rewritten_of_some hnew, F.view_write new h, Option.getD_some]

theorem rewritten_rewritten :
    rewritten F f cur (rewritten F g cur l) = rewritten F (fun name => (f name).or (g name)) cur l := by
  cases cur with
  | none => rfl
  | some name =>
    simp only [rewritten, Option.bind_some]
    cases f name with
    | none => rfl
    | some new =>
      cases g name with
      | none => rfl
      | some old => exact F.write_write l old new

end

variable [DecidableEq φ]

def overwrite (field : φ) (f : κ → Option ν) : Option κ → List L → List L
  | _, [] => []
  | cur, l :: ls =>
    match F.view l with
    | .heading opened => l :: overwrite field f (some opened) ls
    | .entry g _ => (if g = field then rewritten F f cur l else l) :: overwrite field f cur ls
    | .other => l :: overwrite field f cur ls

section
variable {F} {f g : κ → Option ν} {field : φ}

theorem overwrite_overwrite : ∀ (ls : List L) (cur : Option κ),
    overwrite F field f cur (overwrite F field g cur ls) = overwrite F field (fun name => (f name).or (g name)) cur ls
  | [], _ => rfl
  | l :: ls, cur => by
    cases hview : F.view l with
    | heading opened =>
      simp only [overwrite, hview]
      rw [overwrite_overwrite ls]
    | other =>
      simp only [overwrite, hview]
      rw [overwrite_overwrite ls]
    | entry g' value =>
      by_cases hfield : g' = field
      · simp only [overwrite, hview, if_pos hfield, view_rewritten hview]
        rw [rewritten_rewritten, overwrite_overwrite ls]
      · simp only [overwrite, hview, if_neg hfield]
        rw [overwrite_overwrite ls]

theorem length_overwrite : ∀ (ls : List L) (cur : Option κ), (overwrite F field f cur ls).length = ls.length
  | [], _ => rfl
  | l :: ls, cur => by
    cases hview : F.view l <;> simp only [overwrite, hview, List.length_cons] <;> rw [length_overwrite ls]

theorem overwrite_none : ∀ (ls : List L) (cur : Option κ), overwrite F field (fun _ => none) cur ls = ls
  | [], _ => rfl
  | l :: ls, cur => by
    have hline : rewritten F (fun _ => none) cur l = l := rewritten_of_none (by cases cur <;> rfl)
    cases hview : F.view l with
    | heading opened =>
      simp only [overwrite, hview]
      rw [overwrite_none ls]
    | other =>
      simp only [overwrite, hview]
      rw [overwrite_none ls]
    | entry g' value =>
      simp only [overwrite, hview, hline, ite_self]
      rw [overwrite_none ls]

end

variable [DecidableEq κ]

/-- The first value of the field in the section, from a line where the section `cur` is open. -/
def lookup (name : κ) (field : φ) : Option κ → List L → Option ν
  | _, [] => none
  | cur, l :: ls =>
    match F.view l with
    | .heading opened => lookup name field (some opened) ls
    | .entry g value => if cur = some name ∧ g = field then some value else lookup name field cur ls
    | .other => lookup name field cur ls

variable {F} {f g : κ → Option ν} {name : κ} {field other : φ}

/-- **A lookup finds what was written last.** -/
theorem lookup_overwrite : ∀ (ls : List L) (cur : Option κ),
    lookup F name field cur (overwrite F field f cur ls) = (lookup F name field cur ls).map (fun v => (f name).getD v)
  | [], _ => rfl
  | l :: ls, cur => by
    cases hview : F.view l with
    | heading opened =>
      simp only [overwrite, lookup, hview]
      exact lookup_overwrite ls _
    | other =>
      simp only [overwrite, lookup, hview]
      exact lookup_overwrite ls _
    | entry g' value =>
      by_cases hfield : g' = field
      · simp only [overwrite, lookup, hview, if_pos hfield, view_rewritten hview]
        by_cases hcur : cur = some name
        · rw [if_pos ⟨hcur, hfield⟩, if_pos ⟨hcur, hfield⟩, hcur]
          rfl
        · rw [if_neg (fun h => hcur h.1), if_neg (fun h => hcur h.1)]
          exact lookup_overwrite ls _
      · simp only [overwrite, lookup, hview, if_neg hfield]
        rw [if_neg (fun h => hfield h.2), if_neg (fun h => hfield h.2)]
        exact lookup_overwrite ls _

/-- The other fields stay as they are. -/
theorem lookup_overwrite_of_ne (hne : other ≠ field) : ∀ (ls : List L) (cur : Option κ),
    lookup F name other cur (overwrite F field f cur ls) = lookup F name other cur ls
  | [], _ => rfl
  | l :: ls, cur => by
    cases hview : F.view l with
    | heading opened =>
      simp only [overwrite, lookup, hview]
      exact lookup_overwrite_of_ne hne ls _
    | other =>
      simp only [overwrite, lookup, hview]
      exact lookup_overwrite_of_ne hne ls _
    | entry g' value =>
      by_cases hfield : g' = field
      · have hother : ¬ (cur = some name ∧ g' = other) := fun h => hne (h.2.symm.trans hfield)
        simp only [overwrite, lookup, hview, if_pos hfield, view_rewritten hview]
        rw [if_neg hother, if_neg hother]
        exact lookup_overwrite_of_ne hne ls _
      · simp only [overwrite, lookup, hview, if_neg hfield]
        rw [lookup_overwrite_of_ne hne ls]

/-- The values for sections without the field do not matter. -/
theorem overwrite_congr : ∀ (ls : List L) (cur : Option κ),
    (∀ name, (lookup F name field cur ls).isSome → f name = g name) →
      overwrite F field f cur ls = overwrite F field g cur ls
  | [], _, _ => rfl
  | l :: ls, cur, h => by
    cases hview : F.view l with
    | heading opened =>
      simp only [lookup, hview] at h
      simp only [overwrite, hview]
      rw [overwrite_congr ls _ h]
    | other =>
      simp only [lookup, hview] at h
      simp only [overwrite, hview]
      rw [overwrite_congr ls _ h]
    | entry g' value =>
      simp only [lookup, hview] at h
      simp only [overwrite, hview]
      have hrest : overwrite F field f cur ls = overwrite F field g cur ls := overwrite_congr ls cur (fun name hname =>
        h name (by split <;> simp_all))
      have hline : g' = field → rewritten F f cur l = rewritten F g cur l := fun hfield => by
        cases cur with
        | none => rfl
        | some opened => simp [rewritten, h opened (by simp [hfield])]
      rw [hrest]
      split
      · rename_i hfield
        rw [hline hfield]
      · rfl

/-! ## One write after another -/

def only (name : κ) (new : ν) : κ → Option ν := fun k => if k = name then some new else none

/-- The last value written to the section. -/
def lastOf (writes : List (κ × ν)) (name : κ) : Option ν :=
  (writes.reverse.find? (fun w => w.1 = name)).map Prod.snd

theorem lastOf_append (writes : List (κ × ν)) (w : κ × ν) (name : κ) :
    lastOf (writes ++ [w]) name = (only w.1 w.2 name).or (lastOf writes name) := by
  rw [lastOf, List.reverse_append, List.reverse_singleton, List.singleton_append, List.find?_cons]
  by_cases h : w.1 = name
  · simp [only, h]
  · simp [only, h, Ne.symm h, lastOf]

/-- **Of writes one after another, the last to each section stays.** -/
theorem foldl_overwrite (field : φ) (cur : Option κ) (ls : List L) (writes : List (κ × ν)) :
    writes.foldl (fun ls w => overwrite F field (only w.1 w.2) cur ls) ls = overwrite F field (lastOf writes) cur ls := by
  induction writes using List.reverseRecOn with
  | nil => exact (overwrite_none ls cur).symm
  | append_singleton writes w ih =>
    rw [List.foldl_append, ih, List.foldl_cons, List.foldl_nil, overwrite_overwrite]
    congr 1
    funext name
    exact (lastOf_append writes w name).symm

end Sections
