import Mathlib.Data.List.Nodup
import Mathlib.Data.List.Infix
/-!
# FileTrees — trees of files, copied over one another

A tree is its files by their paths, none of them below another.  `copy` puts one tree over another and fails where a
file of one is a directory of the other.  Of trees stacked by copies, each path has the file of the topmost that has
one (`find?_stack`), and the stack stands exactly when no two of them clash (`stack_isSome_iff`).
-/
namespace FileTrees

structure Tree (σ β : Type) where
  files : List (List σ × β)
  nodup : (files.map Prod.fst).Nodup
  separate : ∀ p ∈ files.map Prod.fst, ∀ q ∈ files.map Prod.fst, p <+: q → p = q

variable {σ β : Type}

def Tree.paths (t : Tree σ β) : List (List σ) := t.files.map Prod.fst

/-- The tree as a directory of another. -/
def Tree.under (directory : List σ) (t : Tree σ β) : Tree σ β where
  files := t.files.map (fun f => (directory ++ f.1, f.2))
  nodup := by
    rw [List.map_map]
    have h := t.nodup.map (fun p q (heq : directory ++ p = directory ++ q) => List.append_cancel_left heq)
    rwa [List.map_map] at h
  separate := by
    intro p hp q hq hpq
    rw [List.map_map] at hp hq
    obtain ⟨f, hf, rfl⟩ := List.mem_map.1 hp
    obtain ⟨g, hg, rfl⟩ := List.mem_map.1 hq
    have heq := t.separate f.1 (List.mem_map_of_mem hf) g.1 (List.mem_map_of_mem hg)
      ((List.prefix_append_right_inj directory).1 hpq)
    exact congrArg (directory ++ ·) heq

/-- No file of one tree is a directory of the other. -/
def Agree (s t : Tree σ β) : Prop := ∀ p ∈ s.paths, ∀ q ∈ t.paths, p <+: q ∨ q <+: p → p = q

variable [DecidableEq σ]

instance (s t : Tree σ β) : Decidable (Agree s t) :=
  inferInstanceAs (Decidable (∀ p ∈ s.paths, ∀ q ∈ t.paths, p <+: q ∨ q <+: p → p = q))

def Tree.find? (t : Tree σ β) (path : List σ) : Option β := t.files.lookup path

theorem find?_eq_none {t : Tree σ β} {path : List σ} : t.find? path = none ↔ path ∉ t.paths := by
  rw [Tree.find?, List.lookup_eq_none_iff, Tree.paths]
  simp only [bne_iff_ne, List.mem_map, not_exists, not_and]
  exact forall₂_congr (fun f _ => ne_comm)

def Tree.copyOnto (s t : Tree σ β) (h : Agree s t) : Tree σ β where
  files := s.files ++ t.files.filter (fun f => (s.find? f.1).isNone)
  nodup := by
    rw [List.map_append, List.nodup_append']
    refine ⟨s.nodup, ?_, ?_⟩
    · exact t.nodup.sublist (List.filter_sublist.map _)
    · intro p hs ht
      obtain ⟨f, hf, rfl⟩ := List.mem_map.1 ht
      exact find?_eq_none.1 (Option.isNone_iff_eq_none.1 (List.mem_filter.1 hf).2) hs
  separate := by
    intro p hp q hq hpq
    have hside : ∀ r ∈ (s.files ++ t.files.filter (fun f => (s.find? f.1).isNone)).map Prod.fst,
        r ∈ s.paths ∨ r ∈ t.paths := by
      intro r hr
      rw [List.map_append, List.mem_append] at hr
      exact hr.imp id (fun hr => (List.filter_sublist.map Prod.fst).subset hr)
    rcases hside p hp with hp | hp <;> rcases hside q hq with hq | hq
    · exact s.separate p hp q hq hpq
    · exact h p hp q hq (.inl hpq)
    · exact (h q hq p hp (.inr hpq)).symm
    · exact t.separate p hp q hq hpq

/-- `cp -a s/. t/`. -/
def Tree.copy (s t : Tree σ β) : Option (Tree σ β) := if h : Agree s t then some (s.copyOnto t h) else none

/-- Copies of the layers onto the bottom, the lowest first. -/
def stack (layers : List (Tree σ β)) (bottom : Tree σ β) : Option (Tree σ β) :=
  layers.foldlM (fun t layer => layer.copy t) bottom

section
variable {s t u : Tree σ β}

theorem mem_paths_copyOnto (h : Agree s t) (p : List σ) :
    p ∈ (s.copyOnto t h).paths ↔ p ∈ s.paths ∨ p ∈ t.paths := by
  rw [Tree.paths, Tree.copyOnto, List.map_append, List.mem_append]
  refine or_congr_right' (fun hs => ?_)
  constructor
  · exact fun hp => (List.filter_sublist.map Prod.fst).subset hp
  · intro hp
    obtain ⟨f, hf, rfl⟩ := List.mem_map.1 hp
    exact List.mem_map_of_mem (List.mem_filter.2 ⟨hf, Option.isNone_iff_eq_none.2 (find?_eq_none.2 hs)⟩)

theorem lookup_filter {keep : List σ × β → Bool} {path : List σ} : ∀ files : List (List σ × β),
    (∀ f ∈ files, f.1 = path → keep f = true) → (files.filter keep).lookup path = files.lookup path
  | [], _ => rfl
  | f :: files, h => by
    have ih := lookup_filter files (fun g hg => h g (List.mem_cons_of_mem _ hg))
    by_cases hpath : f.1 = path
    · rw [List.filter_cons_of_pos (h f List.mem_cons_self hpath), List.lookup_cons, List.lookup_cons, ih]
    · have hne : (path == f.1) = false := beq_eq_false_iff_ne.2 (Ne.symm hpath)
      rw [List.filter_cons, List.lookup_cons, hne]
      split
      · rw [List.lookup_cons, hne, ih]
      · exact ih

/-- **A copy shows the upper tree first.** -/
theorem find?_copyOnto (h : Agree s t) (path : List σ) :
    (s.copyOnto t h).find? path = (s.find? path).or (t.find? path) := by
  rw [Tree.find?, Tree.copyOnto, List.lookup_append]
  by_cases hpath : path ∈ s.paths
  · obtain ⟨file, hfile⟩ := Option.ne_none_iff_exists'.1 (fun hnone => find?_eq_none.1 hnone hpath)
    rw [Tree.find?] at hfile
    rw [Tree.find?, hfile, Option.some_or, Option.some_or]
  · rw [lookup_filter t.files (fun f _ hf => Option.isNone_iff_eq_none.2 (find?_eq_none.2 (hf ▸ hpath)))]
    rfl

theorem agree_copyOnto (h : Agree s t) : Agree u (s.copyOnto t h) ↔ Agree u s ∧ Agree u t := by
  simp only [Agree, mem_paths_copyOnto]
  constructor
  · exact fun hu => ⟨fun p hp q hq => hu p hp q (.inl hq), fun p hp q hq => hu p hp q (.inr hq)⟩
  · rintro ⟨hs, ht⟩ p hp q (hq | hq)
    · exact hs p hp q hq
    · exact ht p hp q hq

theorem stack_cons (layer : Tree σ β) (layers : List (Tree σ β)) (bottom : Tree σ β) :
    stack (layer :: layers) bottom = (layer.copy bottom).bind (stack layers) := rfl

/-- **Each path has the file of the topmost tree that has one.** -/
theorem find?_stack : ∀ (layers : List (Tree σ β)) (bottom : Tree σ β), stack layers bottom = some t →
    ∀ path, t.find? path = (layers.reverse.findSome? (·.find? path)).or (bottom.find? path)
  | [], bottom, h, path => by
    obtain rfl := Option.some.inj h
    rfl
  | layer :: layers, bottom, h, path => by
    rw [stack_cons, Tree.copy] at h
    split at h
    · rename_i hagree
      rw [find?_stack layers _ h, find?_copyOnto, List.reverse_cons, List.findSome?_append, List.findSome?_singleton,
        Option.or_assoc]
    · cases h

/-- **A stack stands exactly when no two of its trees clash.** -/
theorem stack_isSome_iff : ∀ (layers : List (Tree σ β)) (bottom : Tree σ β),
    (stack layers bottom).isSome ↔ (bottom :: layers).Pairwise (fun lower upper => Agree upper lower)
  | [], bottom => by simp [stack]
  | layer :: layers, bottom => by
    rw [stack_cons, Tree.copy, List.pairwise_cons, List.pairwise_cons]
    by_cases hagree : Agree layer bottom
    · rw [dif_pos hagree, Option.bind_some, stack_isSome_iff layers, List.pairwise_cons]
      simp only [agree_copyOnto, List.forall_mem_cons, hagree, true_and, forall_and]
      tauto
    · rw [dif_neg hagree]
      exact iff_of_false Bool.false_ne_true (fun h => hagree (h.1 layer List.mem_cons_self))

end

end FileTrees
