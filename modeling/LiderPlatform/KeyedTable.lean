import Mathlib.Data.List.Nodup
/-!
# KeyedTable — rows with a generated id, looked up by a key of their own

`save` appends a row under a fresh id, or replaces the row of an id.  An `Upsert` looks up the first row of a key and saves
what it makes of it, if anything.  Upserts of distinct keys do not interfere: each leaves one row of its key
(`withKey_upsertAll`), and the rows of every other key stay as they are (`filter_upsertAll`).
-/
namespace KeyedTable

/-- Rows with distinct ids below the next one. -/
structure Table (α : Type) where
  rows : List (Nat × α)
  nextId : Nat
  nodup : (rows.map Prod.fst).Nodup
  below : ∀ row ∈ rows, row.1 < nextId

section
variable {α κ : Type}

def Table.empty : Table α := ⟨[], 0, List.nodup_nil, fun _ h => nomatch h⟩

def replaceAt (id : Nat) (a : α) (rows : List (Nat × α)) : List (Nat × α) :=
  rows.map (fun row => if row.1 = id then (id, a) else row)

theorem fst_replaceAt (id : Nat) (a : α) (rows : List (Nat × α)) :
    (replaceAt id a rows).map Prod.fst = rows.map Prod.fst := by
  rw [replaceAt, List.map_map]
  refine List.map_congr_left (fun row _ => ?_)
  rw [Function.comp_apply]
  split
  · rename_i h
    exact h.symm
  · rfl

/-- Stores a row: under the next id, or in the place of the row it was read from. -/
def Table.save (t : Table α) (id : Option Nat) (a : α) : Table α :=
  match id with
  | none =>
    { rows := t.rows ++ [(t.nextId, a)]
      nextId := t.nextId + 1
      nodup := by
        rw [List.map_append, List.map_singleton, List.nodup_append]
        refine ⟨t.nodup, List.nodup_singleton _, fun i hi j hj => ?_⟩
        obtain ⟨row, hrow, rfl⟩ := List.mem_map.1 hi
        rw [List.mem_singleton.1 hj]
        exact Nat.ne_of_lt (t.below row hrow)
      below := by
        intro row hrow
        rcases List.mem_append.1 hrow with hrow | hrow
        · exact Nat.lt_succ_of_lt (t.below row hrow)
        · rw [List.mem_singleton.1 hrow]
          exact Nat.lt_succ_self _ }
  | some id =>
    { rows := replaceAt id a t.rows
      nextId := t.nextId
      nodup := by
        rw [fst_replaceAt]
        exact t.nodup
      below := by
        intro row hrow
        obtain ⟨old, hold, heq⟩ := List.mem_map.1 (fst_replaceAt id a t.rows ▸ List.mem_map_of_mem hrow)
        rw [← heq]
        exact t.below old hold }

variable [DecidableEq κ] (key : α → κ)

def Table.withKey (t : Table α) (k : κ) : List (Nat × α) := t.rows.filter (fun row => key row.2 = k)

/-- What to make of the row of a key, when there is one: a value to save, if any. -/
structure Upsert (key : α → κ) where
  target : κ
  change : Option α → Option α
  keyed : ∀ old a, change old = some a → key a = target
  creates : change none ≠ none

def Table.upsert (t : Table α) (u : Upsert key) : Table α :=
  let existing := (t.withKey key u.target).head?
  match u.change (existing.map Prod.snd) with
  | none => t
  | some a => t.save (existing.map Prod.fst) a

def Table.upsertAll (t : Table α) (us : List (Upsert key)) : Table α := us.foldl (fun t u => t.upsert key u) t

variable {key}

/-- How a row comes out: changed, or left as it was. -/
def Upsert.Gives (u : Upsert key) (old : Option α) (new : α) : Prop :=
  u.change old = some new ∨ u.change old = none ∧ old = some new

theorem filter_replaceAt {p : Nat × α → Bool} {id : Nat} {a : α} (hnew : p (id, a) = false) :
    ∀ rows : List (Nat × α), (∀ row ∈ rows, row.1 = id → p row = false) → (replaceAt id a rows).filter p = rows.filter p
  | [], _ => rfl
  | row :: rows, hold => by
    have ih := filter_replaceAt hnew rows (fun r hr => hold r (List.mem_cons_of_mem _ hr))
    rw [replaceAt, List.map_cons, List.filter_cons, List.filter_cons]
    by_cases h : row.1 = id
    · rw [if_pos h, hnew, hold row List.mem_cons_self h]
      exact ih
    · rw [if_neg h]
      exact congrArg (fun l => if p row = true then row :: l else l) ih

/-- A row that is read is the only one of its id. -/
theorem Table.eq_of_fst_eq (t : Table α) {row row' : Nat × α} (h : row ∈ t.rows) (h' : row' ∈ t.rows)
    (heq : row.1 = row'.1) : row = row' :=
  List.inj_on_of_nodup_map t.nodup h h' heq

theorem Table.mem_withKey {t : Table α} {k : κ} {row : Nat × α} :
    row ∈ t.withKey key k ↔ row ∈ t.rows ∧ key row.2 = k := by
  simp [Table.withKey]

/-- **An upsert leaves the rows that do not have its key.** -/
theorem Table.filter_upsert (t : Table α) (u : Upsert key) {p : κ → Bool} (hp : p u.target = false) :
    (t.upsert key u).rows.filter (fun row => p (key row.2)) = t.rows.filter (fun row => p (key row.2)) := by
  simp only [Table.upsert]
  cases hchange : u.change (((t.withKey key u.target).head?).map Prod.snd) with
  | none => rfl
  | some a =>
    have hkey : p (key a) = false := by rw [u.keyed _ a hchange, hp]
    cases hexisting : (t.withKey key u.target).head? with
    | none =>
      show (t.rows ++ [(t.nextId, a)]).filter _ = _
      rw [List.filter_append, List.filter_singleton, hkey]
      exact List.append_nil _
    | some row =>
      obtain ⟨hrow, htarget⟩ := Table.mem_withKey.1 (List.mem_of_mem_head? hexisting)
      refine filter_replaceAt (p := fun row => p (key row.2)) hkey t.rows (fun r hr hid => ?_)
      rw [t.eq_of_fst_eq hr hrow hid, htarget, hp]

/-- **An upsert leaves one row of its key**, when there was at most one. -/
theorem Table.withKey_upsert (t : Table α) (u : Upsert key) (hone : (t.withKey key u.target).length ≤ 1) :
    ∃ row, (t.upsert key u).withKey key u.target = [row] ∧
      u.Gives (((t.withKey key u.target).head?).map Prod.snd) row.2 := by
  simp only [Table.upsert]
  cases hexisting : t.withKey key u.target with
  | nil =>
    rw [List.head?_nil, Option.map_none]
    obtain ⟨a, ha⟩ := Option.ne_none_iff_exists'.1 u.creates
    refine ⟨(t.nextId, a), ?_, .inl ha⟩
    simp only [ha]
    show (t.rows ++ [(t.nextId, a)]).filter _ = _
    rw [List.filter_append, List.filter_singleton, show t.rows.filter _ = [] from hexisting]
    simp [u.keyed _ a ha]
  | cons row rest =>
    obtain rfl : rest = [] := by
      rw [hexisting] at hone
      simpa using hone
    rw [List.head?_cons, Option.map_some]
    cases hchange : u.change (some row.2) with
    | none => exact ⟨row, hexisting, .inr ⟨hchange, rfl⟩⟩
    | some a =>
      obtain ⟨hrow, htarget⟩ := Table.mem_withKey.1 (hexisting ▸ List.mem_singleton_self row)
      refine ⟨(row.1, a), ?_, .inl hchange⟩
      -- the row found is the one of its id, so no other row changes its key
      have hsame : ∀ r ∈ t.rows, ((fun r => decide (key r.2 = u.target)) ∘
          fun r => if r.1 = row.1 then (row.1, a) else r) r = decide (key r.2 = u.target) := by
        intro r hr
        rw [Function.comp_apply]
        split
        · rename_i hid
          rw [t.eq_of_fst_eq hr hrow hid, htarget, u.keyed _ a hchange]
        · rfl
      show (replaceAt row.1 a t.rows).filter _ = _
      rw [replaceAt, List.filter_map, List.filter_congr hsame, show t.rows.filter _ = [row] from hexisting]
      simp

theorem Table.withKey_upsert_of_ne (t : Table α) (u : Upsert key) {k : κ} (hk : u.target ≠ k) :
    (t.upsert key u).withKey key k = t.withKey key k :=
  t.filter_upsert u (p := fun k' => decide (k' = k)) (by simpa using hk)

/-- **Upserts leave the rows that have none of their keys.** -/
theorem Table.filter_upsertAll {p : κ → Bool} : ∀ (us : List (Upsert key)) (t : Table α),
    (∀ u ∈ us, p u.target = false) →
    (t.upsertAll key us).rows.filter (fun row => p (key row.2)) = t.rows.filter (fun row => p (key row.2))
  | [], _, _ => rfl
  | u :: us, t, hp => by
    rw [Table.upsertAll, List.foldl_cons]
    exact (Table.filter_upsertAll us _ (fun v hv => hp v (List.mem_cons_of_mem _ hv))).trans
      (t.filter_upsert u (hp u List.mem_cons_self))

/-- **Upserts of distinct keys leave one row for each of them.** -/
theorem Table.withKey_upsertAll : ∀ (us : List (Upsert key)) (t : Table α), (us.map (·.target)).Nodup →
    (∀ u ∈ us, (t.withKey key u.target).length ≤ 1) → ∀ u ∈ us,
      ∃ row, (t.upsertAll key us).withKey key u.target = [row] ∧
        u.Gives (((t.withKey key u.target).head?).map Prod.snd) row.2
  | [], _, _, _, _, hu => nomatch hu
  | v :: us, t, hnodup, hone, u, hu => by
    rw [List.map_cons, List.nodup_cons] at hnodup
    have hne : ∀ w ∈ us, v.target ≠ w.target := fun w hw heq =>
      hnodup.1 (heq ▸ List.mem_map_of_mem hw)
    rw [Table.upsertAll, List.foldl_cons]
    rcases List.mem_cons.1 hu with rfl | hu
    · obtain ⟨row, hrow, hgives⟩ := t.withKey_upsert u (hone u List.mem_cons_self)
      refine ⟨row, ?_, hgives⟩
      rw [← hrow]
      exact Table.filter_upsertAll us _ (p := fun k => decide (k = u.target))
        (fun w hw => by simpa using (hne w hw).symm)
    · have hother := fun w (hw : w ∈ us) => t.withKey_upsert_of_ne v (hne w hw)
      rw [← hother u hu]
      refine Table.withKey_upsertAll us (t.upsert key v) hnodup.2 (fun w hw => ?_) u hu
      rw [hother w hw]
      exact hone w (List.mem_cons_of_mem _ hw)

/-! ## Following a row -/

theorem Table.mem_save (t : Table α) (id : Nat) (a : α) {row : Nat × α} (hrow : row ∈ t.rows) :
    (row.1, if row.1 = id then a else row.2) ∈ (t.save (some id) a).rows := by
  refine List.mem_map.2 ⟨row, hrow, ?_⟩
  by_cases h : row.1 = id
  · rw [if_pos h, if_pos h, h]
  · rw [if_neg h, if_neg h]

/-- A row keeps its place, and what every change of it keeps. -/
theorem Table.row_upsert {P : α → Prop} (t : Table α) (u : Upsert key)
    (hchange : ∀ old new, P old → key old = u.target → u.change (some old) = some new → P new) {id : Nat} {a : α}
    (hrow : (id, a) ∈ t.rows) (hP : P a) : ∃ new, (id, new) ∈ (t.upsert key u).rows ∧ P new := by
  simp only [Table.upsert]
  cases hexisting : (t.withKey key u.target).head? with
  | none =>
    rw [Option.map_none]
    cases u.change none with
    | none => exact ⟨a, hrow, hP⟩
    | some b => exact ⟨a, List.mem_append_left _ hrow, hP⟩
  | some found =>
    rw [Option.map_some]
    obtain ⟨hfound, htarget⟩ := Table.mem_withKey.1 (List.mem_of_mem_head? hexisting)
    cases ha : u.change (some found.2) with
    | none => exact ⟨a, hrow, hP⟩
    | some b =>
      refine ⟨_, t.mem_save found.1 b hrow, ?_⟩
      split
      · rename_i hid
        obtain rfl := t.eq_of_fst_eq hrow hfound hid
        exact hchange _ _ hP htarget ha
      · exact hP

theorem Table.row_upsertAll {P : α → Prop} : ∀ (us : List (Upsert key)) (t : Table α),
    (∀ u ∈ us, ∀ old new, P old → key old = u.target → u.change (some old) = some new → P new) →
    ∀ (id : Nat) (a : α), (id, a) ∈ t.rows → P a → ∃ new, (id, new) ∈ (t.upsertAll key us).rows ∧ P new
  | [], _, _, _, a, hrow, hP => ⟨a, hrow, hP⟩
  | u :: us, t, hchange, id, a, hrow, hP => by
    obtain ⟨new, hnew, hPnew⟩ := t.row_upsert u (hchange u List.mem_cons_self) hrow hP
    rw [Table.upsertAll, List.foldl_cons]
    exact Table.row_upsertAll us _ (fun v hv => hchange v (List.mem_cons_of_mem _ hv)) id new hnew hPnew

end

end KeyedTable
