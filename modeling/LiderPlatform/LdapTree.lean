import Mathlib.Data.List.Infix
import Mathlib.Data.List.Nodup
/-!
# LdapTree — a directory of named entries

A distinguished name is a list of components, the entry's own first.  In a directory every entry below the naming
context has its parent, so a name that is not there has nothing below it (`Directory.mem_of_suffix`), which is what
moving a subtree rests on.  An operation that its conditions refuse leaves the directory as it is.
-/
namespace Ldap

/-- A name: its components as the server compares them, the entry's own first. -/
abbrev Dn (ρ : Type) := List ρ

/-- Entries below a naming context, in the order they were added. -/
structure Directory (ρ α : Type) where
  base : Dn ρ
  entries : List (Dn ρ × α)
  nodup : (entries.map Prod.fst).Nodup
  closed : ∀ d ∈ entries.map Prod.fst, d ≠ base → d ≠ [] ∧ d.tail ∈ entries.map Prod.fst

namespace Directory

variable {ρ α β : Type}

def dns (s : Directory ρ α) : List (Dn ρ) := s.entries.map Prod.fst

theorem ext {s t : Directory ρ α} (hbase : s.base = t.base) (hentries : s.entries = t.entries) : s = t := by
  cases s
  cases t
  cases hbase
  cases hentries
  rfl

/-! ## Names in a directory -/

theorem base_suffix (s : Directory ρ α) : ∀ (d : Dn ρ), d ∈ s.dns → s.base <:+ d
  | [], hd => by
    by_cases h : [] = s.base
    · rw [← h]
    · exact absurd rfl (s.closed [] hd h).1
  | r :: d, hd => by
    by_cases h : r :: d = s.base
    · rw [h]
    · exact (base_suffix s d (s.closed _ hd h).2).trans (List.suffix_cons r d)

/-- **What is above an entry, up to the naming context, is there.** -/
theorem mem_of_suffix (s : Directory ρ α) {a : Dn ρ} (ha : s.base <:+ a) : ∀ (d : Dn ρ), d ∈ s.dns → a <:+ d → a ∈ s.dns
  | [], hd, h => by rwa [List.suffix_nil.1 h]
  | r :: d, hd, h => by
    rcases List.suffix_cons_iff.1 h with h | h
    · rwa [h]
    · by_cases hbase : r :: d = s.base
      · have hlen := ha.length_le
        rw [← hbase, List.length_cons] at hlen
        have := h.length_le
        omega
      · exact mem_of_suffix s ha d (s.closed _ hd hbase).2 h

/-- An entry with another one below it has one right below it. -/
theorem child_of_suffix (s : Directory ρ α) {c d : Dn ρ} (hc : c ∈ s.dns) (hd : d ∈ s.dns) (h : c <:+ d) (hne : c ≠ d) :
    ∃ e ∈ s.dns, e ≠ [] ∧ e.tail = c := by
  obtain ⟨x, rfl⟩ := h
  rcases List.eq_nil_or_concat x with rfl | ⟨x, r, rfl⟩
  · exact absurd rfl hne
  · have hbase : s.base <:+ r :: c := (s.base_suffix c hc).trans (List.suffix_cons r c)
    refine ⟨r :: c, s.mem_of_suffix hbase _ hd ?_, List.cons_ne_nil _ _, rfl⟩
    rw [List.concat_append]
    exact List.suffix_append x _

variable [DecidableEq ρ]

instance (s : Directory ρ α) (d : Dn ρ) : Decidable (d ∈ s.dns) := List.instDecidableMemOfLawfulBEq d s.dns

def find? (s : Directory ρ α) (d : Dn ρ) : Option α := s.entries.lookup d

theorem lookup_isSome (d : Dn ρ) : ∀ (entries : List (Dn ρ × α)),
    (entries.lookup d).isSome = true ↔ d ∈ entries.map Prod.fst
  | [] => by simp
  | (d', a) :: entries => by
    rw [List.lookup_cons]
    by_cases h : d = d'
    · simp [h]
    · simp [beq_eq_false_iff_ne.2 h, h, lookup_isSome d entries]

theorem mem_dns_iff (s : Directory ρ α) (d : Dn ρ) : d ∈ s.dns ↔ ∃ a, s.find? d = some a :=
  (lookup_isSome d s.entries).symm.trans Option.isSome_iff_exists

theorem lookup_eq_some_iff (d : Dn ρ) (a : α) : ∀ (entries : List (Dn ρ × α)), (entries.map Prod.fst).Nodup →
    (entries.lookup d = some a ↔ (d, a) ∈ entries)
  | [], _ => by simp
  | (d', a') :: entries, hnodup => by
    rw [List.map_cons, List.nodup_cons] at hnodup
    rw [List.lookup_cons]
    by_cases h : d = d'
    · subst h
      have hno : (d, a) ∉ entries := fun hmem => hnodup.1 (List.mem_map.2 ⟨(d, a), hmem, rfl⟩)
      simp [hno, eq_comm]
    · simp [beq_eq_false_iff_ne.2 h, h, lookup_eq_some_iff d a entries hnodup.2]

/-- **An entry is found under its name.** -/
theorem find?_eq_some_iff (s : Directory ρ α) (d : Dn ρ) (a : α) : s.find? d = some a ↔ (d, a) ∈ s.entries :=
  lookup_eq_some_iff d a s.entries s.nodup

/-- The entries one level below. -/
def children (s : Directory ρ α) (d : Dn ρ) : List (Dn ρ) := s.dns.filter (fun e => e ≠ [] ∧ e.tail = d)

theorem mem_children (s : Directory ρ α) (d e : Dn ρ) : e ∈ s.children d ↔ e ∈ s.dns ∧ e ≠ [] ∧ e.tail = d := by
  simp [children]

theorem nodup_children (s : Directory ρ α) (d : Dn ρ) : (s.children d).Nodup := s.nodup.filter _

/-- An entry with nothing below it. -/
def IsLeaf (s : Directory ρ α) (d : Dn ρ) : Prop := s.children d = []

instance (s : Directory ρ α) (d : Dn ρ) : Decidable (s.IsLeaf d) := inferInstanceAs (Decidable (_ = _))

theorem not_isLeaf_iff (s : Directory ρ α) (d : Dn ρ) : ¬ s.IsLeaf d ↔ ∃ e ∈ s.dns, e ≠ [] ∧ e.tail = d := by
  unfold IsLeaf
  rw [List.eq_nil_iff_forall_not_mem]
  simp [mem_children]

/-! ## Adding, changing and deleting an entry -/

/-- Where an entry can be added. -/
def CanAdd (s : Directory ρ α) (d : Dn ρ) : Prop := d ∉ s.dns ∧ d ≠ [] ∧ d.tail ∈ s.dns

instance (s : Directory ρ α) (d : Dn ρ) : Decidable (s.CanAdd d) := inferInstanceAs (Decidable (_ ∧ _))

def add (s : Directory ρ α) (d : Dn ρ) (a : α) : Directory ρ α :=
  if h : s.CanAdd d then
    { base := s.base
      entries := s.entries ++ [(d, a)]
      nodup := by
        rw [List.map_append]
        refine List.Nodup.append s.nodup (List.nodup_singleton _) (fun e he he' => ?_)
        rw [List.mem_singleton.1 he'] at he
        exact h.1 he
      closed := by
        intro e he hbase
        rw [List.map_append, List.mem_append] at he ⊢
        rcases he with he | he
        · exact ⟨(s.closed e he hbase).1, Or.inl (s.closed e he hbase).2⟩
        · rw [List.mem_singleton.1 he]
          exact ⟨h.2.1, Or.inl h.2.2⟩ }
  else s

theorem entries_add {s : Directory ρ α} {d : Dn ρ} (h : s.CanAdd d) (a : α) :
    (s.add d a).entries = s.entries ++ [(d, a)] := by
  unfold add
  rw [dif_pos h]

theorem find?_add_self {s : Directory ρ α} {d : Dn ρ} (h : s.CanAdd d) (a : α) : (s.add d a).find? d = some a := by
  rw [find?_eq_some_iff, entries_add h]
  exact List.mem_append_right _ (List.mem_singleton_self _)

/-- Adding leaves the entries that are there. -/
theorem find?_add {s : Directory ρ α} {d' : Dn ρ} {a' : α} (hfind : s.find? d' = some a') (d : Dn ρ) (a : α) :
    (s.add d a).find? d' = some a' := by
  by_cases h : s.CanAdd d
  · rw [find?_eq_some_iff] at hfind ⊢
    rw [entries_add h]
    exact List.mem_append_left _ hfind
  · unfold add
    rwa [dif_neg h]

theorem dns_add {s : Directory ρ α} {d : Dn ρ} (h : s.CanAdd d) (a : α) : (s.add d a).dns = s.dns ++ [d] := by
  unfold dns
  rw [entries_add h, List.map_append]
  rfl

theorem not_mem_add {s : Directory ρ α} {d d' : Dn ρ} (hd' : d' ∉ s.dns) (hne : d' ≠ d) (a : α) :
    d' ∉ (s.add d a).dns := by
  by_cases h : s.CanAdd d
  · rw [dns_add h]
    simp [hd', hne]
  · unfold add
    rwa [dif_neg h]

theorem map_modify_fst (d : Dn ρ) (f : α → α) (entries : List (Dn ρ × α)) :
    (entries.map (fun e => if e.1 = d then (e.1, f e.2) else e)).map Prod.fst = entries.map Prod.fst := by
  rw [List.map_map]
  refine List.map_congr_left (fun e _ => ?_)
  show (if e.1 = d then (e.1, f e.2) else e).1 = e.1
  split <;> rfl

def modify (s : Directory ρ α) (d : Dn ρ) (f : α → α) : Directory ρ α where
  base := s.base
  entries := s.entries.map (fun e => if e.1 = d then (e.1, f e.2) else e)
  nodup := by
    rw [map_modify_fst]
    exact s.nodup
  closed := by
    rw [map_modify_fst]
    exact s.closed

@[simp] theorem dns_modify (s : Directory ρ α) (d : Dn ρ) (f : α → α) : (s.modify d f).dns = s.dns :=
  map_modify_fst d f s.entries

theorem find?_modify_self {s : Directory ρ α} {d : Dn ρ} {a : α} (hfind : s.find? d = some a) (f : α → α) :
    (s.modify d f).find? d = some (f a) := by
  rw [find?_eq_some_iff] at hfind ⊢
  exact List.mem_map.2 ⟨(d, a), hfind, if_pos rfl⟩

theorem find?_modify {s : Directory ρ α} {d d' : Dn ρ} {a : α} (hfind : s.find? d' = some a) (hne : d' ≠ d)
    (f : α → α) : (s.modify d f).find? d' = some a := by
  rw [find?_eq_some_iff] at hfind ⊢
  exact List.mem_map.2 ⟨(d', a), hfind, if_neg hne⟩

/-- A change that changes nothing. -/
theorem modify_eq_self {s : Directory ρ α} {d : Dn ρ} {a : α} (hfind : s.find? d = some a) {f : α → α} (hf : f a = a) :
    s.modify d f = s := by
  refine ext rfl ?_
  show s.entries.map _ = s.entries
  conv_rhs => rw [← List.map_id s.entries]
  refine List.map_congr_left (fun e he => ?_)
  by_cases h : e.1 = d
  · have : s.find? d = some e.2 := (find?_eq_some_iff s d e.2).2 (h ▸ he)
    rw [hfind, Option.some.injEq] at this
    rw [if_pos h, ← this, hf, this]
    rfl
  · rw [if_neg h]
    rfl

def delete (s : Directory ρ α) (d : Dn ρ) : Directory ρ α :=
  if h : s.IsLeaf d then
    { base := s.base
      entries := s.entries.filter (fun e => e.1 ≠ d)
      nodup := s.nodup.sublist (List.filter_sublist.map _)
      closed := by
        intro e he hbase
        obtain ⟨p, hp, rfl⟩ := List.mem_map.1 he
        have hmem : p.1 ∈ s.dns := List.mem_map_of_mem (List.mem_filter.1 hp).1
        obtain ⟨hne, htail⟩ := s.closed p.1 hmem hbase
        refine ⟨hne, ?_⟩
        obtain ⟨q, hq, hqt⟩ := List.mem_map.1 htail
        have hqd : q.1 ≠ d := by
          intro hqd
          have : p.1 ∈ s.children d := (s.mem_children d p.1).2 ⟨hmem, hne, hqt.symm.trans hqd⟩
          rw [show s.children d = [] from h] at this
          cases this
        exact List.mem_map.2 ⟨q, List.mem_filter.2 ⟨hq, by simpa using hqd⟩, hqt⟩ }
  else s

theorem entries_delete {s : Directory ρ α} {d : Dn ρ} (h : s.IsLeaf d) :
    (s.delete d).entries = s.entries.filter (fun e => e.1 ≠ d) := by
  unfold delete
  rw [dif_pos h]

theorem delete_of_not_leaf {s : Directory ρ α} {d : Dn ρ} (h : ¬ s.IsLeaf d) : s.delete d = s := dif_neg h

theorem find?_delete {s : Directory ρ α} {d d' : Dn ρ} {a : α} (hfind : s.find? d' = some a) (hne : d' ≠ d) :
    (s.delete d).find? d' = some a := by
  by_cases h : s.IsLeaf d
  · rw [find?_eq_some_iff] at hfind ⊢
    rw [entries_delete h]
    exact List.mem_filter.2 ⟨hfind, by simpa using hne⟩
  · rwa [delete_of_not_leaf h]

theorem dns_delete {s : Directory ρ α} {d : Dn ρ} (h : s.IsLeaf d) : (s.delete d).dns = s.dns.filter (· ≠ d) := by
  unfold dns
  rw [entries_delete h, List.filter_map]
  rfl

theorem mem_of_mem_delete {s : Directory ρ α} {c d : Dn ρ} (hd : d ∈ (s.delete c).dns) : d ∈ s.dns := by
  by_cases h : s.IsLeaf c
  · rw [dns_delete h] at hd
    exact (List.mem_filter.1 hd).1
  · rwa [delete_of_not_leaf h] at hd

/-- **A deleted entry leaves nothing below its name.** -/
theorem not_below_delete {s : Directory ρ α} {c : Dn ρ} (h : s.IsLeaf c) (hc : c ∈ s.dns) :
    ∀ d ∈ (s.delete c).dns, ¬ c <:+ d := by
  intro d hd hcd
  rw [dns_delete h, List.mem_filter] at hd
  have hne : d ≠ c := by simpa using hd.2
  exact (not_isLeaf_iff s c).2 (s.child_of_suffix hc hd.1 hcd hne.symm) h

theorem children_delete {s : Directory ρ α} {d : Dn ρ} (h : s.IsLeaf d) (p : Dn ρ) :
    (s.delete d).children p = (s.children p).filter (· ≠ d) := by
  unfold children
  rw [dns_delete h, List.filter_comm]

/-! ## Moving a subtree -/

/-- The name below `t` of what has the name `d` below `c`. -/
def rename (c t d : Dn ρ) : Dn ρ := if c <:+ d then d.take (d.length - c.length) ++ t else d

theorem rename_append (c t x : Dn ρ) : rename c t (x ++ c) = x ++ t := by
  unfold rename
  rw [if_pos (List.suffix_append x c), List.length_append, Nat.add_sub_cancel, List.take_left]

theorem rename_of_not {c d : Dn ρ} (h : ¬ c <:+ d) (t : Dn ρ) : rename c t d = d := if_neg h

/-- Where the subtree of `c` can be moved to: below `p`, under the component it has. -/
structure CanMove (s : Directory ρ α) (c p : Dn ρ) : Prop where
  mem : c ∈ s.dns
  ne_nil : c ≠ []
  parent : p ∈ s.dns
  free : c.take 1 ++ p ∉ s.dns
  apart : ¬ c <:+ p

omit [DecidableEq ρ] in
theorem canMove_iff (s : Directory ρ α) (c p : Dn ρ) :
    s.CanMove c p ↔ c ∈ s.dns ∧ c ≠ [] ∧ p ∈ s.dns ∧ c.take 1 ++ p ∉ s.dns ∧ ¬ c <:+ p :=
  ⟨fun h => ⟨h.1, h.2, h.3, h.4, h.5⟩, fun ⟨h1, h2, h3, h4, h5⟩ => ⟨h1, h2, h3, h4, h5⟩⟩

instance (s : Directory ρ α) (c p : Dn ρ) : Decidable (s.CanMove c p) := decidable_of_iff' _ (canMove_iff s c p)

section
variable {s : Directory ρ α} {c p : Dn ρ}

omit [DecidableEq ρ] in
/-- A name below the target is not there before the move. -/
theorem CanMove.not_mem (h : s.CanMove c p) (x : Dn ρ) : x ++ (c.take 1 ++ p) ∉ s.dns := fun hmem =>
  h.free (s.mem_of_suffix ((s.base_suffix p h.parent).trans (List.suffix_append _ p)) _ hmem (List.suffix_append x _))

omit [DecidableEq ρ] in
theorem CanMove.below_ne_base (h : s.CanMove c p) {r : ρ} {x : Dn ρ} : r :: x ++ c ≠ s.base := fun hbase => by
  have hlen := (s.base_suffix c h.mem).length_le
  rw [← hbase, List.length_append, List.length_cons] at hlen
  omega

theorem CanMove.rename_injOn (h : s.CanMove c p) {d e : Dn ρ} (hd : d ∈ s.dns) (he : e ∈ s.dns)
    (heq : rename c (c.take 1 ++ p) d = rename c (c.take 1 ++ p) e) : d = e := by
  by_cases hdc : c <:+ d
  · obtain ⟨x, rfl⟩ := hdc
    rw [rename_append] at heq
    by_cases hec : c <:+ e
    · obtain ⟨y, rfl⟩ := hec
      rw [rename_append] at heq
      rw [List.append_cancel_right heq]
    · rw [rename_of_not hec] at heq
      exact absurd (heq ▸ he) (h.not_mem x)
  · rw [rename_of_not hdc] at heq
    by_cases hec : c <:+ e
    · obtain ⟨y, rfl⟩ := hec
      rw [rename_append] at heq
      exact absurd (heq ▸ hd) (h.not_mem y)
    · rwa [rename_of_not hec] at heq

/-- The parent of what was moved is there after the move. -/
theorem CanMove.closed_rename (h : s.CanMove c p) {d : Dn ρ} (hd : d ∈ s.dns)
    (hbase : rename c (c.take 1 ++ p) d ≠ s.base) :
    rename c (c.take 1 ++ p) d ≠ [] ∧
      (rename c (c.take 1 ++ p) d).tail ∈ s.dns.map (rename c (c.take 1 ++ p)) := by
  by_cases hdc : c <:+ d
  · obtain ⟨x, rfl⟩ := hdc
    rw [rename_append]
    cases x with
    | nil =>
      cases c with
      | nil => exact absurd rfl h.ne_nil
      | cons r c => exact ⟨List.cons_ne_nil _ _, List.mem_map.2 ⟨p, h.parent, rename_of_not h.apart _⟩⟩
    | cons r x =>
      refine ⟨List.cons_ne_nil _ _, List.mem_map.2 ⟨x ++ c, ?_, rename_append _ _ _⟩⟩
      exact (s.closed _ hd h.below_ne_base).2
  · rw [rename_of_not hdc] at hbase ⊢
    obtain ⟨hne, htail⟩ := s.closed d hd hbase
    refine ⟨hne, List.mem_map.2 ⟨d.tail, htail, rename_of_not (fun hc => hdc ?_) _⟩⟩
    exact hc.trans (List.tail_suffix d)

end

theorem map_rename_fst (c t : Dn ρ) (entries : List (Dn ρ × α)) :
    (entries.map (fun e => (rename c t e.1, e.2))).map Prod.fst = (entries.map Prod.fst).map (rename c t) := by
  rw [List.map_map, List.map_map]
  rfl

/-- Moves the subtree of `c` below `p`. -/
def move (s : Directory ρ α) (c p : Dn ρ) : Directory ρ α :=
  if h : s.CanMove c p then
    { base := s.base
      entries := s.entries.map (fun e => (rename c (c.take 1 ++ p) e.1, e.2))
      nodup := by
        rw [map_rename_fst]
        exact List.Nodup.map_on (fun d hd e he heq => h.rename_injOn hd he heq) s.nodup
      closed := by
        rw [map_rename_fst]
        intro e he hbase
        obtain ⟨d, hd, rfl⟩ := List.mem_map.1 he
        exact h.closed_rename hd hbase }
  else s

theorem entries_move {s : Directory ρ α} {c p : Dn ρ} (h : s.CanMove c p) :
    (s.move c p).entries = s.entries.map (fun e => (rename c (c.take 1 ++ p) e.1, e.2)) := by
  unfold move
  rw [dif_pos h]

theorem move_of_not {s : Directory ρ α} {c p : Dn ρ} (h : ¬ s.CanMove c p) : s.move c p = s := dif_neg h

/-- Moving leaves what is not in the subtree. -/
theorem find?_move {s : Directory ρ α} {c p d : Dn ρ} {a : α} (hfind : s.find? d = some a) (hd : ¬ c <:+ d) :
    (s.move c p).find? d = some a := by
  by_cases h : s.CanMove c p
  · rw [find?_eq_some_iff] at hfind ⊢
    rw [entries_move h]
    exact List.mem_map.2 ⟨(d, a), hfind, by rw [rename_of_not hd]⟩
  · rwa [move_of_not h]

theorem dns_move {s : Directory ρ α} {c p : Dn ρ} (h : s.CanMove c p) :
    (s.move c p).dns = s.dns.map (rename c (c.take 1 ++ p)) := by
  unfold dns
  rw [entries_move h, map_rename_fst]

/-- A name after the move was there before, or is at the target. -/
theorem mem_dns_move {s : Directory ρ α} {c p d : Dn ρ} (h : s.CanMove c p) (hd : d ∈ (s.move c p).dns) :
    (d ∈ s.dns ∧ ¬ c <:+ d) ∨ ∃ x, d = x ++ (c.take 1 ++ p) := by
  rw [dns_move h] at hd
  obtain ⟨e, he, rfl⟩ := List.mem_map.1 hd
  by_cases hce : c <:+ e
  · obtain ⟨x, rfl⟩ := hce
    exact Or.inr ⟨x, rename_append _ _ _⟩
  · rw [rename_of_not hce]
    exact Or.inl ⟨he, hce⟩

omit [DecidableEq ρ] in
/-- An entry that is there is not at or below the target. -/
theorem CanMove.not_suffix_target {s : Directory ρ α} {c p d : Dn ρ} (h : s.CanMove c p) (hd : d ∈ s.dns) :
    ¬ c.take 1 ++ p <:+ d := by
  rintro ⟨x, rfl⟩
  exact h.not_mem x hd

/-- **A moved entry leaves nothing below its old name.** -/
theorem not_below_move {s : Directory ρ α} {c p : Dn ρ} (h : s.CanMove c p) : ∀ d ∈ (s.move c p).dns, ¬ c <:+ d := by
  intro d hd hcd
  rcases mem_dns_move h hd with ⟨-, hnot⟩ | ⟨x, rfl⟩
  · exact hnot hcd
  · rcases List.suffix_or_suffix_of_suffix hcd (List.suffix_append x _) with hsuffix | hsuffix
    · cases c with
      | nil => exact h.ne_nil rfl
      | cons r c =>
        rcases List.suffix_cons_iff.1 hsuffix with heq | hsuffix
        · exact h.free (heq ▸ h.mem)
        · exact h.apart hsuffix
    · exact h.not_suffix_target h.mem hsuffix

/-- **What is below another entry after the move**: what was there, without the moved entry. -/
theorem children_move {s : Directory ρ α} {c p : Dn ρ} (h : s.CanMove c p) {q : Dn ρ} (hq : q ∈ s.dns) (hqp : q ≠ p)
    (hqc : ¬ c <:+ q) : (s.move c p).children q = (s.children q).filter (· ≠ c) := by
  have key : ∀ e ∈ s.dns, (rename c (c.take 1 ++ p) e ≠ [] ∧ (rename c (c.take 1 ++ p) e).tail = q) ↔
      (e ≠ [] ∧ e.tail = q) ∧ e ≠ c := by
    intro e he
    by_cases hec : c <:+ e
    · obtain ⟨x, rfl⟩ := hec
      rw [rename_append]
      cases x with
      | nil =>
        cases c with
        | nil => exact absurd rfl h.ne_nil
        | cons r c => simp [Ne.symm hqp]
      | cons r x =>
        have hleft : x ++ (c.take 1 ++ p) ≠ q := fun heq => h.not_mem x (heq ▸ hq)
        have hright : x ++ c ≠ q := fun heq => hqc (heq ▸ List.suffix_append x c)
        simp [-List.append_assoc, hleft, hright]
    · rw [rename_of_not hec]
      have hne : e ≠ c := fun heq => hec (heq ▸ List.suffix_refl _)
      simp [hne]
  unfold children
  rw [dns_move h, List.filter_map, List.filter_filter]
  have hfilter : s.dns.filter ((fun e => decide (e ≠ [] ∧ e.tail = q)) ∘ rename c (c.take 1 ++ p)) =
      s.dns.filter (fun e => decide (e ≠ c) && decide (e ≠ [] ∧ e.tail = q)) := by
    refine List.filter_congr (fun e he => ?_)
    have := key e he
    simp only [Function.comp_apply]
    rw [← Bool.decide_and]
    exact decide_eq_decide.2 (this.trans and_comm)
  rw [hfilter]
  conv_rhs => rw [← List.map_id (s.dns.filter _)]
  refine List.map_congr_left (fun e he => rename_of_not (fun hec => ?_) _)
  -- What stays below `q` is not in the moved subtree.
  obtain ⟨x, rfl⟩ := hec
  have hmem := (List.mem_filter.1 he).2
  simp only [Bool.and_eq_true, decide_eq_true_eq] at hmem
  cases x with
  | nil => exact hmem.1 rfl
  | cons r x => exact hqc (hmem.2.2 ▸ List.suffix_append x c)

/-! ## Directories with less in their entries -/

def map (f : α → β) (s : Directory ρ α) : Directory ρ β where
  base := s.base
  entries := s.entries.map (fun e => (e.1, f e.2))
  nodup := by
    rw [List.map_map]
    exact s.nodup
  closed := by
    rw [List.map_map]
    exact s.closed

omit [DecidableEq ρ] in
@[simp] theorem dns_map (f : α → β) (s : Directory ρ α) : (s.map f).dns = s.dns := by
  unfold dns map
  rw [List.map_map]
  rfl

@[simp] theorem children_map (f : α → β) (s : Directory ρ α) (d : Dn ρ) : (s.map f).children d = s.children d := by
  unfold children
  rw [dns_map]

theorem find?_map (f : α → β) (s : Directory ρ α) (d : Dn ρ) : (s.map f).find? d = (s.find? d).map f := by
  show (s.entries.map (fun e => (e.1, f e.2))).lookup d = (s.entries.lookup d).map f
  induction s.entries with
  | nil => rfl
  | cons e entries ih =>
    rw [List.map_cons, List.lookup_cons, List.lookup_cons]
    cases d == e.1
    · exact ih
    · rfl

omit [DecidableEq ρ] in
theorem canAdd_map (f : α → β) (s : Directory ρ α) (d : Dn ρ) : (s.map f).CanAdd d ↔ s.CanAdd d := by
  unfold CanAdd
  rw [dns_map]

theorem isLeaf_map (f : α → β) (s : Directory ρ α) (d : Dn ρ) : (s.map f).IsLeaf d ↔ s.IsLeaf d := by
  unfold IsLeaf
  rw [children_map]

omit [DecidableEq ρ] in
theorem canMove_map (f : α → β) (s : Directory ρ α) (c p : Dn ρ) : (s.map f).CanMove c p ↔ s.CanMove c p := by
  rw [canMove_iff, canMove_iff, dns_map]

theorem map_add (f : α → β) (s : Directory ρ α) (d : Dn ρ) (a : α) : (s.add d a).map f = (s.map f).add d (f a) := by
  by_cases h : s.CanAdd d
  · refine ext ?_ ?_
    · unfold add
      rw [dif_pos h, dif_pos ((canAdd_map f s d).2 h)]
      rfl
    · rw [entries_add ((canAdd_map f s d).2 h)]
      show (s.add d a).entries.map _ = _
      rw [entries_add h, List.map_append]
      rfl
  · unfold add
    rw [dif_neg h, dif_neg (fun h' => h ((canAdd_map f s d).1 h'))]

theorem map_modify (f : α → β) (s : Directory ρ α) (d : Dn ρ) {g : α → α} {g' : β → β} (hg : ∀ a, f (g a) = g' (f a)) :
    (s.modify d g).map f = (s.map f).modify d g' := by
  refine ext rfl ?_
  show (s.entries.map _).map _ = (s.entries.map _).map _
  rw [List.map_map, List.map_map]
  refine List.map_congr_left (fun e _ => ?_)
  by_cases h : e.1 = d <;> simp [h, hg]

theorem map_delete (f : α → β) (s : Directory ρ α) (d : Dn ρ) : (s.delete d).map f = (s.map f).delete d := by
  by_cases h : s.IsLeaf d
  · refine ext ?_ ?_
    · unfold delete
      rw [dif_pos h, dif_pos ((isLeaf_map f s d).2 h)]
      rfl
    · rw [entries_delete ((isLeaf_map f s d).2 h)]
      show (s.delete d).entries.map _ = _
      rw [entries_delete h]
      show _ = (s.entries.map _).filter _
      rw [List.filter_map]
      rfl
  · rw [delete_of_not_leaf h, delete_of_not_leaf (fun h' => h ((isLeaf_map f s d).1 h'))]

theorem map_move (f : α → β) (s : Directory ρ α) (c p : Dn ρ) : (s.move c p).map f = (s.map f).move c p := by
  by_cases h : s.CanMove c p
  · refine ext ?_ ?_
    · unfold move
      rw [dif_pos h, dif_pos ((canMove_map f s c p).2 h)]
      rfl
    · rw [entries_move ((canMove_map f s c p).2 h)]
      show (s.move c p).entries.map _ = (s.entries.map _).map _
      rw [entries_move h, List.map_map, List.map_map]
      rfl
  · rw [move_of_not h, move_of_not (fun h' => h ((canMove_map f s c p).1 h'))]

end Directory

end Ldap
