import Mathlib.Logic.Basic
/-!
# PyBlocks — statements that change variables and may raise

A block of Python statements runs over a frame of variables: it returns or raises, and the frame keeps what was assigned
before.  `Triple P b Q E` says what holds when `b` returns (`Q`) and when it raises (`E`), from any frame with `P`; the
rules below follow the statements.
-/
namespace Py

/-- A block over frames `σ` that may raise an `ε`. -/
def Block (σ ε α : Type) : Type := σ → Except ε α × σ

namespace Block

variable {σ ε α β : Type}

def bind (b : Block σ ε α) (next : α → Block σ ε β) : Block σ ε β := fun s =>
  match b s with
  | (.ok a, s') => next a s'
  | (.error e, s') => (.error e, s')

instance : Monad (Block σ ε) where
  pure a := fun s => (.ok a, s)
  bind := bind

def raise (e : ε) : Block σ ε α := fun s => (.error e, s)

/-- An assignment. -/
def assign (f : σ → σ) : Block σ ε Unit := fun s => (.ok (), f s)

/-- The variables as they are. -/
def frame : Block σ ε σ := fun s => (.ok s, s)

/-- A value computed from what the frame does not hold. -/
def ofExcept (r : Except ε α) : Block σ ε α := fun s => (r, s)

/-- `try: body` with an `except` clause for every exception. -/
def tryExcept (body : Block σ ε α) (handler : ε → Block σ ε α) : Block σ ε α := fun s =>
  match body s with
  | (.ok a, s') => (.ok a, s')
  | (.error e, s') => handler e s'

/-- `try: body finally: final`: an exception of the last statements replaces what the body did. -/
def tryFinally (body : Block σ ε α) (final : Block σ ε β) : Block σ ε α := fun s =>
  match final (body s).2 with
  | (.ok _, s') => ((body s).1, s')
  | (.error e, s') => (.error e, s')

theorem bind_of_ok {b : Block σ ε α} {a : α} {s s' : σ} (h : b s = (.ok a, s')) (next : α → Block σ ε β) :
    (b >>= next) s = next a s' := by
  show Block.bind b next s = next a s'
  rw [Block.bind, h]

theorem bind_of_error {b : Block σ ε α} {e : ε} {s s' : σ} (h : b s = (.error e, s')) (next : α → Block σ ε β) :
    (b >>= next) s = (.error e, s') := by
  show Block.bind b next s = (.error e, s')
  rw [Block.bind, h]

theorem tryExcept_of_ok {b : Block σ ε α} {a : α} {s s' : σ} (h : b s = (.ok a, s')) (handler : ε → Block σ ε α) :
    tryExcept b handler s = (.ok a, s') := by
  rw [tryExcept, h]

theorem tryExcept_of_error {b : Block σ ε α} {e : ε} {s s' : σ} (h : b s = (.error e, s'))
    (handler : ε → Block σ ε α) : tryExcept b handler s = handler e s' := by
  rw [tryExcept, h]

/-- What returned went through both parts. -/
theorem bind_inv {b : Block σ ε α} {next : α → Block σ ε β} {s s' : σ} {r : β} (h : (b >>= next) s = (.ok r, s')) :
    ∃ a s₁, b s = (.ok a, s₁) ∧ next a s₁ = (.ok r, s') := by
  cases hb : b s with
  | mk x s₁ =>
    cases x with
    | ok a => exact ⟨a, s₁, rfl, (bind_of_ok hb next).symm.trans h⟩
    | error e => exact nomatch congrArg Prod.fst ((bind_of_error hb next).symm.trans h)

theorem ofExcept_inv {r : Except ε α} {a : α} {s s' : σ} (h : (ofExcept r : Block σ ε α) s = (.ok a, s')) :
    r = .ok a ∧ s' = s := ⟨congrArg Prod.fst h, (congrArg Prod.snd h).symm⟩

/-! ## Triples -/

/-- From a frame with `P` the block returns with `Q` or raises with `E`. -/
def Triple (P : σ → Prop) (b : Block σ ε α) (Q : α → σ → Prop) (E : ε → σ → Prop) : Prop :=
  ∀ s, P s → match b s with
    | (.ok a, s') => Q a s'
    | (.error e, s') => E e s'

variable {P P' : σ → Prop} {Q Q' : α → σ → Prop} {E E' : ε → σ → Prop}

theorem Triple.pure {a : α} (h : ∀ s, P s → Q a s) : Triple P (Pure.pure a : Block σ ε α) Q E := fun s hs => h s hs

theorem Triple.raise {e : ε} (h : ∀ s, P s → E e s) : Triple P (raise e : Block σ ε α) Q E := fun s hs => h s hs

theorem Triple.assign {f : σ → σ} {R : Unit → σ → Prop} (h : ∀ s, P s → R () (f s)) :
    Triple P (assign f : Block σ ε Unit) R E := fun s hs => h s hs

theorem Triple.frame {R : σ → σ → Prop} (h : ∀ s, P s → R s s) : Triple P (frame : Block σ ε σ) R E := fun s hs => h s hs

theorem Triple.ofExcept {r : Except ε α} (hok : ∀ a, r = .ok a → ∀ s, P s → Q a s)
    (herr : ∀ e, r = .error e → ∀ s, P s → E e s) : Triple P (ofExcept r) Q E := fun s hs => by
  cases r with
  | ok a => exact hok a rfl s hs
  | error e => exact herr e rfl s hs

theorem Triple.bind {b : Block σ ε α} {next : α → Block σ ε β} {R : β → σ → Prop} (hb : Triple P b Q E)
    (hnext : ∀ a, Triple (Q a) (next a) R E) : Triple P (b >>= next) R E := fun s hs => by
  have h := hb s hs
  show match Block.bind b next s with
    | (.ok a, s') => R a s'
    | (.error e, s') => E e s'
  unfold Block.bind
  cases hr : b s with
  | mk r s' =>
    rw [hr] at h
    cases r with
    | ok a => exact hnext a s' h
    | error e => exact h

theorem Triple.tryExcept {b : Block σ ε α} {handler : ε → Block σ ε α} (E₁ : ε → σ → Prop) (hb : Triple P b Q E₁)
    (hh : ∀ e, Triple (E₁ e) (handler e) Q E) : Triple P (tryExcept b handler) Q E := fun s hs => by
  have h := hb s hs
  unfold Block.tryExcept
  cases hr : b s with
  | mk r s' =>
    rw [hr] at h
    cases r with
    | ok a => exact h
    | error e => exact hh e s' h

/-- What a block leaves, whether it returns or raises. -/
theorem Triple.leaves {b : Block σ ε α} {R : σ → Prop} (h : Triple P b (fun _ => R) (fun _ => R)) {s : σ} (hs : P s) :
    R (b s).2 := by
  have h := h s hs
  cases hr : b s with
  | mk r s' =>
    rw [hr] at h
    cases r <;> exact h

theorem Triple.of_leaves {b : Block σ ε α} {R : σ → Prop} (h : ∀ s, P s → R (b s).2) :
    Triple P b (fun _ => R) (fun _ => R) := fun s hs => by
  have h := h s hs
  cases hr : b s with
  | mk r s' =>
    rw [hr] at h
    cases r <;> exact h

/-- The last statements run from whatever the body leaves. -/
theorem Triple.tryFinally {b : Block σ ε α} {final : Block σ ε β} {R : σ → Prop}
    (hb : Triple P b (fun _ => P') (fun _ => P')) (hf : Triple P' final (fun _ => R) (fun _ => R)) :
    Triple P (tryFinally b final) (fun _ => R) (fun _ => R) :=
  Triple.of_leaves (fun s hs => by
    have h := hf.leaves (hb.leaves hs)
    unfold Block.tryFinally
    cases hr : final (b s).2 with
    | mk r s' =>
      rw [hr] at h
      cases r <;> exact h)

theorem Triple.mono {b : Block σ ε α} (h : Triple P b Q E) (hP : ∀ s, P' s → P s) (hQ : ∀ a s, Q a s → Q' a s)
    (hE : ∀ e s, E e s → E' e s) : Triple P' b Q' E' := fun s hs => by
  have h := h s (hP s hs)
  cases hr : b s with
  | mk r s' =>
    rw [hr] at h
    cases r with
    | ok a => exact hQ a s' h
    | error e => exact hE e s' h

theorem Triple.and {b : Block σ ε α} (h : Triple P b Q E) (h' : Triple P' b Q' E') :
    Triple (fun s => P s ∧ P' s) b (fun a s => Q a s ∧ Q' a s) (fun e s => E e s ∧ E' e s) := fun s hs => by
  have h₁ := h s hs.1
  have h₂ := h' s hs.2
  cases hr : b s with
  | mk r s' =>
    rw [hr] at h₁ h₂
    cases r with
    | ok a => exact ⟨h₁, h₂⟩
    | error e => exact ⟨h₁, h₂⟩

/-- A block that never raises returns. -/
theorem Triple.returns {b : Block σ ε α} (h : Triple P b Q (fun _ _ => False)) {s : σ} (hs : P s) :
    ∃ a s', b s = (.ok a, s') ∧ Q a s' := by
  have h := h s hs
  cases hr : b s with
  | mk r s' =>
    rw [hr] at h
    cases r with
    | ok a => exact ⟨a, s', rfl, h⟩
    | error e => exact absurd h id

end Block

end Py
