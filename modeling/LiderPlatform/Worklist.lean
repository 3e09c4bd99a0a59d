import Mathlib.Data.List.Perm.Basic
import Mathlib.Data.List.Lattice
import Mathlib.Algebra.BigOperators.Group.List.Basic
import Mathlib.Algebra.Ring.Nat
/-!
# Worklist — loops that take a pending node and put its children back

A forest is walked with a list of pending nodes: the loop takes the first one, does its step and puts the node's
children back, behind the others (a queue) or in front of them (a stack).  Whichever it is, the nodes taken are the same
ones in another order (`order_perm`), those reached from the start (`mem_order_iff`).  A walk that goes on to fewer
children takes fewer nodes, unless it leaves none out (`length_order_eq_iff`).
-/
namespace Worklist

/-- The children of a node; that a node weighs more than its children together bounds every walk. -/
structure Forest (α : Type) where
  kids : α → List α
  grounded : ∃ weight : α → Nat, ∀ x, ((kids x).map weight).sum < weight x

/-- Where the children of the node just taken are put. -/
structure Discipline (α : Type) where
  push : List α → List α → List α
  perm : ∀ rest kids, (push rest kids).Perm (rest ++ kids)

variable {α σ : Type}

/-- The children wait behind the others. -/
def queue : Discipline α := ⟨fun rest kids => rest ++ kids, fun _ _ => List.Perm.refl _⟩

/-- The last child is taken next; the top of the stack is the head of the list. -/
def stack : Discipline α := ⟨fun rest kids => kids.reverse ++ rest, fun rest kids =>
  ((List.reverse_perm kids).append_right rest).trans List.perm_append_comm⟩

/-- The children are taken next, in their order. -/
def depthFirst : Discipline α := ⟨fun rest kids => kids ++ rest, fun _ _ => List.perm_append_comm⟩

namespace Forest

variable (F : Forest α) (D : Discipline α)

noncomputable def weight : α → Nat := F.grounded.choose

theorem lighter (x : α) : ((F.kids x).map F.weight).sum < F.weight x := F.grounded.choose_spec x

noncomputable def total (pending : List α) : Nat := (pending.map F.weight).sum

theorem total_push (x : α) (rest : List α) : F.total (D.push rest (F.kids x)) < F.total (x :: rest) := by
  have hperm : F.total (D.push rest (F.kids x)) = F.total (rest ++ F.kids x) := ((D.perm _ _).map F.weight).sum_eq
  have hlighter := F.lighter x
  rw [hperm]
  simp only [total, List.map_append, List.sum_append, List.map_cons, List.sum_cons]
  omega

/-- **A statement about forests goes down to the children and along the roots.** -/
theorem induction {P : List α → Prop} (nil : P []) (cons : ∀ x rest, P (F.kids x) → P rest → P (x :: rest)) :
    ∀ pending, P pending
  | [] => nil
  | x :: rest => cons x rest (induction nil cons (F.kids x)) (induction nil cons rest)
termination_by pending => F.total pending
decreasing_by
  all_goals
    have hlighter := F.lighter x
    simp only [total, List.map_cons, List.sum_cons]
    omega

/-- `while pending: …`, with `step` on the node just taken. -/
def run (step : σ → α → σ) (s : σ) : List α → σ
  | [] => s
  | x :: rest => run step (step s x) (D.push rest (F.kids x))
termination_by pending => F.total pending
decreasing_by exact F.total_push D x rest

def order : List α → List α
  | [] => []
  | x :: rest => x :: order (D.push rest (F.kids x))
termination_by pending => F.total pending
decreasing_by exact F.total_push D x rest

@[simp] theorem order_nil : F.order D [] = [] := by rw [order]

theorem order_cons (x : α) (rest : List α) : F.order D (x :: rest) = x :: F.order D (D.push rest (F.kids x)) := by
  rw [order]

/-- **The loop folds its step over the nodes it takes.** -/
theorem run_eq (step : σ → α → σ) (s : σ) (pending : List α) :
    F.run D step s pending = (F.order D pending).foldl step s := by
  fun_induction F.run D step s pending with
  | case1 s => rw [order_nil, List.foldl_nil]
  | case2 s x rest ih => rw [order_cons, List.foldl_cons, ih]

/-- A loop that counts its steps counts the nodes it takes. -/
theorem run_count (step : σ → α → σ) (count : σ → Nat) (hstep : ∀ s x, count (step s x) = count s + 1) (s : σ)
    (pending : List α) : count (F.run D step s pending) = count s + (F.order D pending).length := by
  fun_induction F.run D step s pending with
  | case1 s => rw [order_nil, List.length_nil, Nat.add_zero]
  | case2 s x rest ih => rw [ih, hstep, order_cons, List.length_cons, Nat.add_assoc, Nat.add_comm 1]

/-! ## Every discipline takes the same nodes -/

theorem order_depthFirst_append (ps qs : List α) :
    F.order depthFirst (ps ++ qs) = F.order depthFirst ps ++ F.order depthFirst qs := by
  fun_induction F.order depthFirst ps with
  | case1 => rw [List.nil_append, List.nil_append]
  | case2 x rest ih =>
    have hpush : ∀ r : List α, depthFirst.push r (F.kids x) = F.kids x ++ r := fun _ => rfl
    rw [List.cons_append, order_cons, hpush, ← List.append_assoc, ← hpush rest, ih, List.cons_append]

theorem order_depthFirst_perm {ps qs : List α} (h : ps.Perm qs) :
    (F.order depthFirst ps).Perm (F.order depthFirst qs) := by
  induction h with
  | nil => exact List.Perm.refl _
  | @cons x l l' _ ih =>
    have hsplit : ∀ m : List α, F.order depthFirst (x :: m) = F.order depthFirst [x] ++ F.order depthFirst m :=
      fun m => F.order_depthFirst_append [x] m
    rw [hsplit l, hsplit l']
    exact ih.append_left _
  | swap x y l =>
    have hsplit : ∀ a b : α, F.order depthFirst (a :: b :: l) =
        F.order depthFirst [a] ++ F.order depthFirst [b] ++ F.order depthFirst l := fun a b => by
      rw [← order_depthFirst_append, ← order_depthFirst_append]
      rfl
    rw [hsplit, hsplit]
    exact List.perm_append_comm.append_right _
  | trans _ _ ih ih' => exact ih.trans ih'

/-- **A queue, a stack or a recursion: the nodes taken are the same.** -/
theorem order_perm (pending : List α) : (F.order D pending).Perm (F.order depthFirst pending) := by
  fun_induction F.order D pending with
  | case1 => rw [order_nil]
  | case2 x rest ih =>
    rw [order_cons]
    refine (ih.trans (F.order_depthFirst_perm ?_)).cons x
    exact (D.perm _ _).trans List.perm_append_comm

/-- A node reached from the pending ones over children. -/
inductive Reach (pending : List α) : α → Prop
  | root {x : α} (h : x ∈ pending) : Reach pending x
  | kid {x y : α} (hx : Reach pending x) (hy : y ∈ F.kids x) : Reach pending y

variable {F} in
theorem Reach.mono {ps qs : List α} (h : ∀ x ∈ ps, F.Reach qs x) {y : α} (hy : F.Reach ps y) : F.Reach qs y := by
  induction hy with
  | root hx => exact h _ hx
  | kid _ hy ih => exact ih.kid hy

theorem mem_order_of_mem {pending : List α} {x : α} (hx : x ∈ pending) : x ∈ F.order depthFirst pending := by
  obtain ⟨before, after, rfl⟩ := List.append_of_mem hx
  rw [order_depthFirst_append, order_cons]
  simp

/-- In depth-first order a node's children follow it. -/
theorem mem_order_of_kid {pending : List α} : ∀ x ∈ F.order depthFirst pending, ∀ y ∈ F.kids x,
    y ∈ F.order depthFirst pending := by
  fun_induction F.order depthFirst pending with
  | case1 => exact fun x hx => (nomatch hx)
  | case2 x rest ih =>
    intro z hz y hy
    refine List.mem_cons_of_mem _ ?_
    rcases List.mem_cons.1 hz with rfl | hz
    · exact F.mem_order_of_mem ((depthFirst.perm _ _).mem_iff.2 (List.mem_append_right _ hy))
    · exact ih z hz y hy

/-- **The nodes taken are the nodes reached.** -/
theorem mem_order_iff (pending : List α) (y : α) : y ∈ F.order D pending ↔ F.Reach pending y := by
  constructor
  · fun_induction F.order D pending with
    | case1 => exact fun h => (nomatch h)
    | case2 x rest ih =>
      intro hy
      rcases List.mem_cons.1 hy with rfl | hy
      · exact .root List.mem_cons_self
      · refine (ih hy).mono (fun z hz => ?_)
        rcases List.mem_append.1 ((D.perm _ _).mem_iff.1 hz) with hz | hz
        · exact .root (List.mem_cons_of_mem _ hz)
        · exact (Reach.root List.mem_cons_self).kid hz
  · intro hy
    rw [(F.order_perm D pending).mem_iff]
    induction hy with
    | root hx => exact F.mem_order_of_mem hx
    | kid _ hy ih => exact F.mem_order_of_kid _ ih _ hy

/-! ## Walks that leave children out -/

/-- **A walk that goes on to fewer children, from fewer nodes, takes fewer nodes**, and as many only if it leaves out
none of either. -/
theorem length_order_sublist (G : Forest α) (hsub : ∀ x, (F.kids x).Sublist (G.kids x)) : ∀ (qs ps : List α),
    ps.Sublist qs → (F.order depthFirst ps).length ≤ (G.order depthFirst qs).length ∧
      ((F.order depthFirst ps).length = (G.order depthFirst qs).length ↔
        ps = qs ∧ ∀ y ∈ G.order depthFirst qs, F.kids y = G.kids y) := by
  intro qs
  fun_induction G.order depthFirst qs with
  | case1 =>
    intro ps h
    obtain rfl := List.sublist_nil.1 h
    simp
  | case2 x rest ih =>
    intro ps h
    cases h with
    | cons _ h =>
      -- the walk below starts without `x`
      have hlt := (ih ps (h.trans (List.sublist_append_right _ _))).1
      have hlen := h.length_le
      refine ⟨by rw [List.length_cons]; omega, fun heq => ?_, fun ⟨heq, _⟩ => ?_⟩
      · rw [List.length_cons] at heq
        omega
      · rw [heq, List.length_cons] at hlen
        omega
    | @cons_cons ps _ _ h =>
      have hpush : (depthFirst.push ps (F.kids x)).Sublist (depthFirst.push rest (G.kids x)) := (hsub x).append h
      obtain ⟨hle, hiff⟩ := ih _ hpush
      rw [order_cons, List.length_cons, List.length_cons, Nat.add_right_cancel_iff, hiff, List.forall_mem_cons]
      refine ⟨Nat.succ_le_succ hle, ?_⟩
      constructor
      · rintro ⟨hps, hall⟩
        have hlenF := (hsub x).length_le
        have hlenP := h.length_le
        have hlen := congrArg List.length hps
        simp only [depthFirst, List.length_append] at hlen
        have hkids := (hsub x).eq_of_length (by omega)
        exact ⟨by rw [h.eq_of_length (by omega)], hkids, hall⟩
      · rintro ⟨hps, hkids, hall⟩
        rw [List.cons.injEq] at hps
        exact ⟨by rw [hps.2, hkids], hall⟩

/-- **Two walks from one start, one leaving children out, count alike exactly when nowhere it leaves out any.** -/
theorem length_order_eq_iff (G : Forest α) (hsub : ∀ x, (F.kids x).Sublist (G.kids x)) (D' : Discipline α)
    (pending : List α) : (F.order D pending).length = (G.order D' pending).length ↔
      ∀ y, G.Reach pending y → F.kids y = G.kids y := by
  rw [(F.order_perm D pending).length_eq, (G.order_perm D' pending).length_eq,
    (F.length_order_sublist G hsub pending pending (List.Sublist.refl _)).2]
  simp only [true_and, mem_order_iff]

theorem length_order_le (G : Forest α) (hsub : ∀ x, (F.kids x).Sublist (G.kids x)) (D' : Discipline α)
    (pending : List α) : (F.order D pending).length ≤ (G.order D' pending).length := by
  rw [(F.order_perm D pending).length_eq, (G.order_perm D' pending).length_eq]
  exact (F.length_order_sublist G hsub pending pending (List.Sublist.refl _)).1

end Forest
end Worklist
