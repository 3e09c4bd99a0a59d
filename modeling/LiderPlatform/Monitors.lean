import Mathlib.Logic.Function.Basic
import Mathlib.Logic.Relation
/-!
# Monitors — threads over a shared state with one lock

Any number of threads take their steps in any order, on a state they share and on their own.  An outline says what holds
of the shared state and of each thread; it is checked one step of one thread at a time (`Sound`).  A thread with the
lock relies on what no other does without it (`quiet`), a thread without on what no step takes back (`grows`).  Then the
outline holds in every configuration reached (`Sound.holds`), and a call can always be brought to its end (`Live.rests`).
-/
namespace Monitors

structure Config (ι σ ℓ : Type) where
  shared : σ
  thread : ι → ℓ

/-- The steps of a thread and of the environment; whom the shared state names as the holder of the lock, and which
states of a thread hold it. -/
structure Program (ι σ ℓ : Type) where
  act : ι → σ → ℓ → σ → ℓ → Prop
  env : σ → σ → Prop
  holder : σ → Option ι
  holds : ℓ → Prop

/-- What is claimed of the shared state and of a thread, and what a step may do to the shared state: without the lock,
and at all. -/
structure Outline (σ ℓ : Type) where
  inv : σ → Prop
  assert : ℓ → σ → Prop
  quiet : σ → σ → Prop
  grows : σ → σ → Prop

variable {ι σ ℓ : Type}

/-- The threads that hold the lock are the one that the shared state names. -/
def Exclusive (P : Program ι σ ℓ) (c : Config ι σ ℓ) : Prop :=
  ∀ i, P.holds (c.thread i) ↔ P.holder c.shared = some i

theorem Exclusive.unique {P : Program ι σ ℓ} {c : Config ι σ ℓ} (h : Exclusive P c) {i j : ι}
    (hi : P.holds (c.thread i)) (hj : P.holds (c.thread j)) : i = j :=
  Option.some.inj (((h i).1 hi).symm.trans ((h j).1 hj))

section
variable [DecidableEq ι] (P : Program ι σ ℓ)

/-- The configuration after thread `i` left `s'` and `l'`. -/
def Config.set (c : Config ι σ ℓ) (i : ι) (s' : σ) (l' : ℓ) : Config ι σ ℓ := ⟨s', Function.update c.thread i l'⟩

@[simp] theorem Config.set_shared (c : Config ι σ ℓ) (i : ι) (s' : σ) (l' : ℓ) : (c.set i s' l').shared = s' := rfl

@[simp] theorem Config.set_thread_self (c : Config ι σ ℓ) (i : ι) (s' : σ) (l' : ℓ) : (c.set i s' l').thread i = l' :=
  Function.update_self ..

theorem Config.set_thread_of_ne (c : Config ι σ ℓ) {i j : ι} (h : j ≠ i) (s' : σ) (l' : ℓ) :
    (c.set i s' l').thread j = c.thread j :=
  Function.update_of_ne h ..

inductive Step : Config ι σ ℓ → Config ι σ ℓ → Prop where
  | thread {c : Config ι σ ℓ} (i : ι) {s' : σ} {l' : ℓ} (h : P.act i c.shared (c.thread i) s' l') :
      Step c (c.set i s' l')
  | env {c : Config ι σ ℓ} {s' : σ} (h : P.env c.shared s') : Step c ⟨s', c.thread⟩

/-- What any number of steps, in any order of the threads, lead to. -/
abbrev Reach : Config ι σ ℓ → Config ι σ ℓ → Prop := Relation.ReflTransGen (Step P)

/-- The lock is taken when it is free, and given back by its holder. -/
structure Disciplined : Prop where
  act : ∀ i s l s' l', P.act i s l s' l' → (P.holds l ↔ P.holder s = some i) →
    (P.holder s' = P.holder s ∧ (P.holds l' ↔ P.holds l)) ∨
    (P.holder s = none ∧ P.holder s' = some i ∧ P.holds l') ∨
    (P.holder s = some i ∧ P.holder s' = none ∧ ¬ P.holds l')
  env : ∀ s s', P.env s s' → P.holder s' = P.holder s

variable {P}

theorem Exclusive.step (hP : Disciplined P) {c c' : Config ι σ ℓ} (h : Exclusive P c) (hstep : Step P c c') :
    Exclusive P c' := by
  cases hstep with
  | env henv =>
    intro j
    show P.holds (c.thread j) ↔ _
    rw [hP.env _ _ henv]
    exact h j
  | @thread i s' l' hact =>
    intro j
    by_cases hj : j = i
    · subst hj
      rw [Config.set_thread_self, Config.set_shared]
      rcases hP.act _ _ _ _ _ hact (h j) with ⟨hs, hl⟩ | ⟨-, hs, hl⟩ | ⟨-, hs, hl⟩
      · rw [hs, hl]
        exact h j
      · simp [hs, hl]
      · simp [hs, hl]
    · rw [c.set_thread_of_ne hj, Config.set_shared, h j]
      rcases hP.act _ _ _ _ _ hact (h i) with ⟨hs, -⟩ | ⟨hs, hs', -⟩ | ⟨hs, hs', -⟩
      · rw [hs]
      · simp [hs, hs', Ne.symm hj]
      · simp [hs, hs', Ne.symm hj]

/-! ## Outlines -/

variable (P)

/-- An outline of which each step of one thread, and of the environment, keeps its part. -/
structure Sound (O : Outline σ ℓ) : Prop where
  act : ∀ i s l s' l', P.act i s l s' l' → (P.holds l ↔ P.holder s = some i) → O.inv s → O.assert l s →
    O.inv s' ∧ O.assert l' s' ∧ O.grows s s' ∧ (¬ P.holds l → O.quiet s s')
  env : ∀ s s', P.env s s' → O.inv s → O.inv s' ∧ O.grows s s' ∧ O.quiet s s'
  keep : ∀ l s s', P.holds l → O.assert l s → O.quiet s s' → O.assert l s'
  stable : ∀ l s s', ¬ P.holds l → O.assert l s → O.grows s s' → O.assert l s'

/-- The outline holds of a configuration. -/
structure Holds (O : Outline σ ℓ) (c : Config ι σ ℓ) : Prop where
  exclusive : Exclusive P c
  inv : O.inv c.shared
  assert : ∀ i, O.assert (c.thread i) c.shared

variable {P} {O : Outline σ ℓ}

/-- **A step keeps a sound outline**: of the thread that takes it by `act`, and of any other by what it relies on. -/
theorem Holds.step (hP : Disciplined P) (hO : Sound P O) {c c' : Config ι σ ℓ} (h : Holds P O c)
    (hstep : Step P c c') : Holds P O c' := by
  refine ⟨h.exclusive.step hP hstep, ?_, ?_⟩
  · cases hstep with
    | env henv => exact (hO.env _ _ henv h.inv).1
    | thread i hact => exact (hO.act _ _ _ _ _ hact (h.exclusive i) h.inv (h.assert i)).1
  cases hstep with
  | env henv =>
    intro j
    obtain ⟨-, hgrows, hquiet⟩ := hO.env _ _ henv h.inv
    by_cases hj : P.holds (c.thread j)
    · exact hO.keep _ _ _ hj (h.assert j) hquiet
    · exact hO.stable _ _ _ hj (h.assert j) hgrows
  | thread i hact =>
    intro j
    obtain ⟨-, hassert, hgrows, hquiet⟩ := hO.act _ _ _ _ _ hact (h.exclusive i) h.inv (h.assert i)
    by_cases hne : j = i
    · subst hne
      rw [Config.set_thread_self]
      exact hassert
    rw [c.set_thread_of_ne hne]
    by_cases hj : P.holds (c.thread j)
    · have hi : ¬ P.holds (c.thread i) := fun hi => hne (h.exclusive.unique hj hi)
      exact hO.keep _ _ _ hj (h.assert j) (hquiet hi)
    · exact hO.stable _ _ _ hj (h.assert j) hgrows

/-- **A sound outline holds in every configuration reached** from one where it holds. -/
theorem Sound.holds (hP : Disciplined P) (hO : Sound P O) {c c' : Config ι σ ℓ} (h : Holds P O c) (hreach : Reach P c c') :
    Holds P O c' := by
  induction hreach with
  | refl => exact h
  | tail _ hstep ih => exact ih.step hP hO hstep

/-- What no step takes back, no number of steps takes back. -/
theorem Sound.grown (hP : Disciplined P) (hO : Sound P O) (hrefl : ∀ s, O.grows s s)
    (htrans : ∀ s s' s'', O.grows s s' → O.grows s' s'' → O.grows s s'') {c c' : Config ι σ ℓ} (h : Holds P O c)
    (hreach : Reach P c c') : O.grows c.shared c'.shared := by
  induction hreach with
  | refl => exact hrefl _
  | tail hreach hstep ih =>
    have hholds := hO.holds hP h hreach
    refine htrans _ _ _ ih ?_
    cases hstep with
    | env henv => exact (hO.env _ _ henv hholds.inv).2.1
    | thread i hact => exact (hO.act _ _ _ _ _ hact (hholds.exclusive i) hholds.inv (hholds.assert i)).2.2.1

/-! ## Ends -/

variable (P)

/-- A thread that is not at rest can take a step, unless it wants a lock that is not free, and its steps run out. -/
structure Live (rest wants : ℓ → Prop) (rank : ℓ → Nat) : Prop where
  runs : ∀ i s l, ¬ rest l → ¬ wants l → ∃ s' l', P.act i s l s' l' ∧ rank l' < rank l
  takes : ∀ i s l, wants l → P.holder s = none → ∃ s' l', P.act i s l s' l' ∧ rank l' < rank l
  holds : ∀ l, P.holds l → ¬ rest l ∧ ¬ wants l

variable {P} {rest wants : ℓ → Prop} {rank : ℓ → Nat}

/-- The holder, running alone, gives the lock back: by induction on its rank. -/
theorem Live.frees (hP : Disciplined P) (hL : Live P rest wants rank) (j : ι) :
    ∀ (n : Nat) (c : Config ι σ ℓ), rank (c.thread j) ≤ n → Exclusive P c → P.holder c.shared = some j →
      ∃ c', Reach P c c' ∧ Exclusive P c' ∧ P.holder c'.shared = none
  | n, c, hn, hex, hj => by
    obtain ⟨hrest, hwants⟩ := hL.holds _ ((hex j).2 hj)
    obtain ⟨s', l', hact, hrank⟩ := hL.runs j c.shared _ hrest hwants
    have hex' := hex.step hP (.thread j hact)
    rcases hP.act _ _ _ _ _ hact (hex j) with ⟨hs, -⟩ | ⟨hs, -, -⟩ | ⟨-, hs, -⟩
    · match n with
      | 0 => omega
      | n + 1 =>
        obtain ⟨c', hreach, h'⟩ := Live.frees hP hL j n (c.set j s' l') (by rw [Config.set_thread_self]; omega) hex'
          (hs.trans hj)
        exact ⟨c', .head (.thread j hact) hreach, h'⟩
    · exact nomatch hj.symm.trans hs
    · exact ⟨_, .single (.thread j hact), hex', hs⟩

/-- With the lock free or its own, a thread comes to rest on its own steps. -/
theorem Live.rests_alone (hP : Disciplined P) (hL : Live P rest wants rank) (i : ι) :
    ∀ (n : Nat) (c : Config ι σ ℓ), rank (c.thread i) ≤ n → Exclusive P c →
      (P.holder c.shared = none ∨ P.holder c.shared = some i) → ∃ c', Reach P c c' ∧ rest (c'.thread i)
  | n, c, hn, hex, hfree => by
    by_cases hrest : rest (c.thread i)
    · exact ⟨c, .refl, hrest⟩
    have hact : ∃ s' l', P.act i c.shared (c.thread i) s' l' ∧ rank l' < rank (c.thread i) := by
      by_cases hwants : wants (c.thread i)
      · have hi : ¬ P.holds (c.thread i) := fun hi => (hL.holds _ hi).2 hwants
        exact hL.takes i c.shared _ hwants (hfree.resolve_right (fun h => hi ((hex i).2 h)))
      · exact hL.runs i c.shared _ hrest hwants
    obtain ⟨s', l', hact, hrank⟩ := hact
    have hfree' : P.holder s' = none ∨ P.holder s' = some i := by
      rcases hP.act _ _ _ _ _ hact (hex i) with ⟨hs, -⟩ | ⟨-, hs, -⟩ | ⟨-, hs, -⟩
      · rw [hs]
        exact hfree
      · exact .inr hs
      · exact .inl hs
    match n with
    | 0 => omega
    | n + 1 =>
      obtain ⟨c', hreach, h'⟩ := Live.rests_alone hP hL i n (c.set i s' l') (by rw [Config.set_thread_self]; omega)
        (hex.step hP (.thread i hact)) hfree'
      exact ⟨c', .head (.thread i hact) hreach, h'⟩

/-- **No call is stuck**: from any configuration, some order of steps brings a given thread to rest. -/
theorem Live.rests (hP : Disciplined P) (hL : Live P rest wants rank) {c : Config ι σ ℓ} (hex : Exclusive P c) (i : ι) :
    ∃ c', Reach P c c' ∧ rest (c'.thread i) := by
  cases hj : P.holder c.shared with
  | none => exact hL.rests_alone hP i _ c (Nat.le_refl _) hex (.inl hj)
  | some j =>
    obtain ⟨c₁, hreach, hex₁, hfree⟩ := hL.frees hP j _ c (Nat.le_refl _) hex hj
    obtain ⟨c', hreach', hrest⟩ := hL.rests_alone hP i _ c₁ (Nat.le_refl _) hex₁ (.inl hfree)
    exact ⟨c', hreach.trans hreach', hrest⟩

end

end Monitors
