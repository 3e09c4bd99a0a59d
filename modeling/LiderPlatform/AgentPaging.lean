import LiderPlatform.JavaText
import LiderPlatform.Windows
import Mathlib.Algebra.Group.Int.Defs
import Mathlib.Algebra.Group.Nat.Defs
/-!
# AgentPaging — a page of the filtered agents (`AgentInfoCriteriaBuilder.filterAgents`)

The criteria select `rows`, in the order of the query; a page of them is asked for by a first result and a maximum,
both computed in `int`.  The products wrap at 32 bits: `filterAgents_iff` says on which pages that shows.
-/
namespace Lider

open Java Windows

/-! ## The query -/

structure PageRequest where
  page : Int32
  size : Int32

def PageRequest.of (page size : Int32) : Method PageRequest :=
  if page < 0 ∨ size < 1 then .error .illegalArgumentException else .ok ⟨page, size⟩

/-- A query that selects `rows`; a bound that was not set does not count. -/
structure TypedQuery (α : Type) where
  rows : List α
  firstResult : Nat := 0
  maxResults : Option Nat := none

namespace TypedQuery

variable {α : Type}

/-- `setFirstResult`: a negative offset is rejected. -/
def setFirstResult (q : TypedQuery α) (startPosition : Int32) : Method (TypedQuery α) :=
  if startPosition < 0 then .error .illegalArgumentException
  else .ok { q with firstResult := startPosition.toNatClampNeg }

/-- `setMaxResults`: a negative maximum is rejected. -/
def setMaxResults (q : TypedQuery α) (maxResult : Int32) : Method (TypedQuery α) :=
  if maxResult < 0 then .error .illegalArgumentException else .ok { q with maxResults := some maxResult.toNatClampNeg }

def getResultList (q : TypedQuery α) : List α :=
  match q.maxResults with
  | none => q.rows.drop q.firstResult
  | some n => (q.rows.drop q.firstResult).take n

end TypedQuery

/-- What `filterAgents` makes its `PageImpl` of. -/
structure AgentPage (α : Type) where
  content : List α
  pageable : PageRequest
  total : Int64

/-- `filterAgents`, once its criteria selected `rows`: the count query and the page query have the same criteria. -/
def filterAgents {α : Type} (pageNumber pageSize : Int32) (rows : List α) : Method (AgentPage α) := do
  let pageable ← PageRequest.of (pageNumber - 1) pageSize
  let count := Int64.ofNat rows.length
  let typedQuery : TypedQuery α := { rows }
  let typedQuery ← typedQuery.setFirstResult ((pageNumber - 1) * pageSize)
  let typedQuery ←
    if count < (pageNumber * pageSize).toInt64 then typedQuery.setMaxResults (count % pageSize.toInt64).toInt32
    else typedQuery.setMaxResults pageSize
  return ⟨typedQuery.getResultList, pageable, count⟩

abbrev Positive := {n : Int32 // 0 < n}

/-- A result whose count is an `int`. -/
abbrev Rows (α : Type) := {rows : List α // rows.length < 2 ^ 31}

def Positive.toNat (n : Positive) : Nat := n.val.toNatClampNeg

/-- The request for the page returns the rows of that page. -/
def ServesPage {α : Type} (rows : Rows α) (s p : Positive) : Prop :=
  ∃ page, filterAgents p.val s.val rows.val = .ok page ∧ page.content = window rows.val s.toNat (p.toNat - 1)

/-- The requests for the first `n` pages return, and their rows one after another are all rows. -/
def PagesGive {α : Type} (rows : Rows α) (s : Positive) (n : Nat) : Prop :=
  ∃ contents : Nat → List α, (∀ p : Positive, p.toNat ≤ n →
      ∃ page, filterAgents p.val s.val rows.val = .ok page ∧ page.content = contents (p.toNat - 1)) ∧
    (List.range n).flatMap contents = rows.val

/-- The offset, or the end of the page, wraps to a place where the query finds rows or is rejected: an offset from
`2 ^ 31` on, unless what is left of it lies behind the rows, or the page seems to reach over the rows and the rows fill
whole pages. -/
def Wraps (p s c : Nat) : Prop :=
  let offset := (p - 1) * s
  let left := offset % 2 ^ 32
  2 ^ 31 ≤ offset ∧ ¬ (c ≤ left ∧ left < 2 ^ 31) ∧ ¬ (left < c ∧ s ∣ c ∧ c < left + s ∧ left + s < 2 ^ 31)

/-! ## The arithmetic -/

theorem Positive.toInt (n : Positive) : n.val.toInt = n.toNat :=
  (Int32.cast_toNatClampNeg n.val (Int32.le_iff_toInt_le.2 (Int.le_of_lt (Int32.lt_iff_toInt_lt.1 n.property)))).symm

theorem Positive.bounds (n : Positive) : 1 ≤ n.toNat ∧ n.toNat < 2 ^ 31 := by
  have hlow := Int32.lt_iff_toInt_lt.1 n.property
  have hhigh := n.val.toInt_lt
  rw [n.toInt] at hlow hhigh
  rw [Int32.toInt_zero] at hlow
  omega

theorem Positive.toInt_sub_one (p : Positive) : (p.val - 1).toInt = ((p.toNat - 1 : Nat) : Int) := by
  have hb := p.bounds
  rw [Int32.toInt_sub, p.toInt, show (1 : Int32).toInt = 1 from rfl, Int.bmod_eq_of_le (by omega) (by omega)]
  omega

theorem PageRequest.of_positive (p s : Positive) : PageRequest.of (p.val - 1) s.val = .ok ⟨p.val - 1, s.val⟩ := by
  have hs := s.bounds
  rw [PageRequest.of, if_neg]
  simp only [Int32.lt_iff_toInt_lt, p.toInt_sub_one, s.toInt, Int32.toInt_zero, show (1 : Int32).toInt = 1 from rfl]
  omega

def Wrapped (x : Int32) (n : Nat) : Prop := x.toInt = ((n % 2 ^ 32 : Nat) : Int) - if n % 2 ^ 32 < 2 ^ 31 then 0 else 2 ^ 32

theorem wrapped_of_toInt_eq_bmod {x : Int32} {n : Nat} (h : x.toInt = (n : Int).bmod (2 ^ 32)) : Wrapped x n := by
  unfold Wrapped
  rw [h, Int.bmod_def]
  split <;> split <;> omega

theorem offset_wrapped (p s : Positive) : Wrapped ((p.val - 1) * s.val) ((p.toNat - 1) * s.toNat) := by
  refine wrapped_of_toInt_eq_bmod ?_
  rw [Int32.toInt_mul, p.toInt_sub_one, s.toInt, ← Int.natCast_mul]

theorem end_wrapped (p s : Positive) : Wrapped (p.val * s.val) (p.toNat * s.toNat) := by
  refine wrapped_of_toInt_eq_bmod ?_
  rw [Int32.toInt_mul, p.toInt, s.toInt, ← Int.natCast_mul]

theorem Wrapped.neg_iff {x : Int32} {n : Nat} (h : Wrapped x n) : x < 0 ↔ 2 ^ 31 ≤ n % 2 ^ 32 := by
  unfold Wrapped at h
  rw [Int32.lt_iff_toInt_lt, h, Int32.toInt_zero]
  split <;> omega

theorem Wrapped.toNatClampNeg {x : Int32} {n : Nat} (h : Wrapped x n) (hn : n % 2 ^ 32 < 2 ^ 31) :
    x.toNatClampNeg = n % 2 ^ 32 := by
  unfold Wrapped at h
  rw [if_pos hn] at h
  rw [← Int32.toNat_toInt, h]
  omega

/-! ## The page -/

section
variable {α : Type}

theorem setFirstResult_eq {x : Int32} {n : Nat} (h : Wrapped x n) (q : TypedQuery α) :
    q.setFirstResult x = if 2 ^ 31 ≤ n % 2 ^ 32 then .error .illegalArgumentException
      else .ok { q with firstResult := n % 2 ^ 32 } := by
  rw [TypedQuery.setFirstResult]
  by_cases hn : 2 ^ 31 ≤ n % 2 ^ 32
  · rw [if_pos (h.neg_iff.2 hn), if_pos hn]
  · rw [if_neg (mt h.neg_iff.1 hn), if_neg hn, h.toNatClampNeg (by omega)]

theorem setMaxResults_eq {x : Int32} {n : Nat} (h : x.toInt = n) (q : TypedQuery α) :
    q.setMaxResults x = .ok { q with maxResults := some n } := by
  have hneg : ¬ x < 0 := by
    rw [Int32.lt_iff_toInt_lt, h, Int32.toInt_zero]
    omega
  rw [TypedQuery.setMaxResults, if_neg hneg, ← Int32.toNat_toInt, h, Int.toNat_natCast]

theorem Rows.toInt_count (rows : Rows α) : (Int64.ofNat rows.val.length).toInt = rows.val.length :=
  Int64.toInt_ofNat_of_lt (Nat.lt_of_lt_of_le rows.property (by decide))

theorem toInt_remainder (rows : Rows α) (s : Positive) :
    (Int64.ofNat rows.val.length % s.val.toInt64).toInt32.toInt = ((rows.val.length % s.toNat : Nat) : Int) := by
  have hs := s.bounds
  have hlt : rows.val.length % s.toNat < 2 ^ 31 := Nat.lt_trans (Nat.mod_lt _ hs.1) hs.2
  rw [Int64.toInt_toInt32, Int64.toInt_mod, rows.toInt_count, Int32.toInt_toInt64, s.toInt, ← Int.ofNat_tmod,
    Int.bmod_eq_of_le (by omega) (by omega)]

def pageMaximum (left s c : Nat) : Nat := if c < left + s ∧ left + s < 2 ^ 31 then c % s else s

/-- **What the request for a page returns**, by the offset that is left of the product. -/
theorem filterAgents_eq (rows : Rows α) (p s : Positive) :
    filterAgents p.val s.val rows.val =
      if 2 ^ 31 ≤ (p.toNat - 1) * s.toNat % 2 ^ 32 then .error .illegalArgumentException
      else .ok ⟨(rows.val.drop ((p.toNat - 1) * s.toNat % 2 ^ 32)).take
          (pageMaximum ((p.toNat - 1) * s.toNat % 2 ^ 32) s.toNat rows.val.length),
        ⟨p.val - 1, s.val⟩, Int64.ofNat rows.val.length⟩ := by
  have hp := p.bounds
  have hs := s.bounds
  have hend := end_wrapped p s
  have hsum : p.toNat * s.toNat = (p.toNat - 1) * s.toNat + s.toNat := by
    rw [← Nat.succ_mul, Nat.succ_eq_add_one, Nat.sub_add_cancel hp.1]
  have hc := rows.property
  rw [filterAgents, PageRequest.of_positive]
  simp only [bind, Except.bind, setFirstResult_eq (offset_wrapped p s)]
  by_cases hleft : 2 ^ 31 ≤ (p.toNat - 1) * s.toNat % 2 ^ 32
  · rw [if_pos hleft, if_pos hleft]
  rw [if_neg hleft, if_neg hleft]
  rw [hsum] at hend
  generalize (p.toNat - 1) * s.toNat = n at hleft hend ⊢
  have hreach : Int64.ofNat rows.val.length < (p.val * s.val).toInt64 ↔
      rows.val.length < n % 2 ^ 32 + s.toNat ∧ n % 2 ^ 32 + s.toNat < 2 ^ 31 := by
    unfold Wrapped at hend
    rw [Int64.lt_iff_toInt_lt, rows.toInt_count, Int32.toInt_toInt64, hend]
    split <;> omega
  rw [pageMaximum]
  by_cases hover : rows.val.length < n % 2 ^ 32 + s.toNat ∧ n % 2 ^ 32 + s.toNat < 2 ^ 31
  · simp only [if_pos (hreach.2 hover), if_pos hover, setMaxResults_eq (toInt_remainder rows s)]
    rfl
  · simp only [if_neg (mt hreach.1 hover), if_neg hover, setMaxResults_eq s.toInt]
    rfl

theorem pageMaximum_eq_zero_iff {left s c : Nat} (hs : 0 < s) :
    pageMaximum left s c = 0 ↔ s ∣ c ∧ c < left + s ∧ left + s < 2 ^ 31 := by
  unfold pageMaximum
  split
  · rename_i h
    rw [Nat.dvd_iff_mod_eq_zero]
    exact ⟨fun h0 => ⟨h0, h⟩, fun h' => h'.1⟩
  · rename_i h
    exact ⟨fun h0 => absurd h0 (by omega), fun h' => absurd h'.2 h⟩

/-- A maximum computed from the right offset cuts the page at the end of the rows, and nowhere else. -/
theorem take_pageMaximum (rows : List α) (i s : Nat) :
    (rows.drop (i * s)).take (pageMaximum (i * s) s rows.length) = window rows s i := by
  unfold pageMaximum
  split
  · rename_i h
    by_cases hin : i * s ≤ rows.length
    · have hmod : rows.length % s = rows.length - i * s := by
        obtain ⟨r, hr⟩ := Nat.exists_eq_add_of_le hin
        rw [hr, Nat.add_comm, Nat.add_mul_mod_self_right, Nat.mod_eq_of_lt (by omega)]
        omega
      rw [hmod, window, ← List.length_drop, List.take_length, List.take_of_length_le]
      rw [List.length_drop]
      omega
    · rw [window_of_length_le (by omega), List.drop_eq_nil_of_le (by omega), List.take_nil]
  · rfl

/-- **A page is right exactly when its arithmetic does not wrap to somewhere else.** -/
theorem servesPage_iff (rows : Rows α) (s p : Positive) :
    ServesPage rows s p ↔ ¬ Wraps p.toNat s.toNat rows.val.length := by
  have hs := s.bounds
  have hc := rows.property
  unfold ServesPage Wraps
  rw [filterAgents_eq]
  by_cases hexact : (p.toNat - 1) * s.toNat < 2 ^ 31
  · have hleft : (p.toNat - 1) * s.toNat % 2 ^ 32 = (p.toNat - 1) * s.toNat := Nat.mod_eq_of_lt (by omega)
    rw [hleft, if_neg (by omega), take_pageMaximum rows.val]
    exact iff_of_true ⟨_, rfl, rfl⟩ (fun h => absurd h.1 (by omega))
  · have hempty : window rows.val s.toNat (p.toNat - 1) = [] := window_of_length_le (by omega)
    rw [hempty]
    generalize (p.toNat - 1) * s.toNat = n at hexact ⊢
    by_cases hneg : 2 ^ 31 ≤ n % 2 ^ 32
    · rw [if_pos hneg]
      exact iff_of_false (fun ⟨_, hpage, _⟩ => nomatch hpage)
        (not_not_intro ⟨by omega, by omega, by omega⟩)
    · rw [if_neg hneg]
      -- the query returns no row behind the rows, or for a maximum of zero
      have hcontent : (rows.val.drop (n % 2 ^ 32)).take (pageMaximum (n % 2 ^ 32) s.toNat rows.val.length) = [] ↔
          rows.val.length ≤ n % 2 ^ 32 ∨ pageMaximum (n % 2 ^ 32) s.toNat rows.val.length = 0 := by
        rw [List.take_eq_nil_iff, List.drop_eq_nil_iff, or_comm]
      constructor
      · rintro ⟨page, hpage, hnil⟩ ⟨-, hbehind, hwhole⟩
        cases hpage
        rcases hcontent.1 hnil with h | h
        · exact hbehind ⟨h, by omega⟩
        · obtain ⟨hdvd, hover⟩ := (pageMaximum_eq_zero_iff hs.1).1 h
          exact hwhole ⟨by omega, hdvd, hover⟩
      · intro h
        refine ⟨_, rfl, hcontent.2 ?_⟩
        by_contra hne
        rw [not_or, pageMaximum_eq_zero_iff hs.1] at hne
        exact h ⟨by omega, fun hb => hne.1 hb.1, fun hw => hne.2 hw.2⟩

theorem servesPage_of_lt {rows : Rows α} {s p : Positive} (h : (p.toNat - 1) * s.toNat < rows.val.length) :
    ServesPage rows s p :=
  (servesPage_iff rows s p).2 (fun hw => absurd hw.1 (by have := rows.property; omega))

theorem Positive.exists_toNat {n : Nat} (h1 : 1 ≤ n) (h2 : n < 2 ^ 31) : ∃ p : Positive, p.toNat = n := by
  have hint : (Int32.ofNat n).toInt = n := Int32.toInt_ofNat_of_lt h2
  refine ⟨⟨Int32.ofNat n, ?_⟩, ?_⟩
  · rw [Int32.lt_iff_toInt_lt, hint, Int32.toInt_zero]
    omega
  · rw [Positive.toNat, ← Int32.toNat_toInt, hint, Int.toNat_natCast]

/-- **Pages up to the end give all rows exactly when each of them is right.** -/
theorem pagesGive_iff (rows : Rows α) (s : Positive) {n : Nat} (hn : n < 2 ^ 31) (hend : rows.val.length ≤ n * s.toNat) :
    PagesGive rows s n ↔ ∀ p : Positive, p.toNat ≤ n → ServesPage rows s p := by
  constructor
  · rintro ⟨contents, hpages, hflat⟩ p hp
    have hreach : ∀ i < n, i * s.toNat < rows.val.length → contents i = window rows.val s.toNat i := by
      intro i hi hlt
      obtain ⟨q, hq⟩ := Positive.exists_toNat (n := i + 1) (by omega) (by omega)
      obtain ⟨page, hpage, hcontent⟩ := hpages q (by omega)
      have hserves : ServesPage rows s q := servesPage_of_lt (by rwa [hq])
      obtain ⟨page', hpage', hwindow⟩ := hserves
      obtain rfl : page = page' := Except.ok.inj (hpage.symm.trans hpage')
      rw [hq] at hcontent hwindow
      exact hcontent.symm.trans hwindow
    have hb := p.bounds
    obtain ⟨page, hpage, hcontent⟩ := hpages p hp
    exact ⟨page, hpage, hcontent.trans ((flatMap_eq_self_iff hend hreach).1 hflat _ (by omega))⟩
  · intro h
    exact ⟨window rows.val s.toNat, h, flatMap_window_of_length_le hend⟩

/-- **Every page is right exactly when its arithmetic does not wrap to other rows or to a rejected offset, and the pages
up to any page behind the rows are all rows exactly when none of them wraps so.** -/
theorem filterAgents_iff (rows : Rows α) (s : Positive) :
    (∀ p : Positive, ServesPage rows s p ↔ ¬ Wraps p.toNat s.toNat rows.val.length) ∧
    ∀ n, n < 2 ^ 31 → rows.val.length ≤ n * s.toNat →
      (PagesGive rows s n ↔ ∀ p : Positive, p.toNat ≤ n → ¬ Wraps p.toNat s.toNat rows.val.length) := by
  refine ⟨servesPage_iff rows s, fun n hn hend => ?_⟩
  rw [pagesGive_iff rows s hn hend]
  exact forall_congr' (fun p => imp_congr_right (fun _ => servesPage_iff rows s p))

end

def threeAgents : Rows String := ⟨["ahenk-001", "ahenk-002", "ahenk-003"], by decide⟩

def two : Positive := ⟨2, by decide⟩

theorem filterAgents_threeAgents : PagesGive threeAgents two 2 :=
  ((filterAgents_iff threeAgents two).2 2 (by decide) (by decide)).2 (fun p hp hw => by
    have hoffset : (p.toNat - 1) * 2 ≤ 2 := by omega
    exact absurd hw.1 (Nat.not_le.2 (Nat.lt_of_le_of_lt hoffset (by decide))))

/-- **Page 65537 of size 65536 is page 1 again.** -/
theorem filterAgents_wrapped : ¬ ∀ (rows : Rows String) (s p : Positive), ServesPage rows s p := by
  intro h
  obtain ⟨page, hpage, hcontent⟩ := h ⟨["ahenk-001"], by decide⟩ ⟨65536, by decide⟩ ⟨65537, by decide⟩
  have hserved : filterAgents 65537 65536 ["ahenk-001"] = .ok ⟨["ahenk-001"], ⟨65536, 65536⟩, 1⟩ := rfl
  rw [hserved] at hpage
  cases hpage
  exact absurd hcontent (by decide)

end Lider
