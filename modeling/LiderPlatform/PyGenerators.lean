import Mathlib.Logic.Basic
/-!
# PyGenerators — generators, and `with` blocks over them (`contextlib.contextmanager`)

A generator runs until it returns, raises, or hands out a value and waits.  It goes on where it waits when it is asked for
the next value, or with an exception thrown in there.  A `with` block over a generator starts it, runs its body on the value
handed out and tells the generator how the body ended; `withBlock` follows `__enter__` and `__exit__` of `contextlib`.
-/
namespace Py

/-- A generator run from a world up to its next stop. -/
inductive Gen (σ ε Y : Type) : Type where
  | stop (s : σ)
  | raise (e : ε) (s : σ)
  | wait (y : Y) (s : σ) (next : σ → Gen σ ε Y) (throw : ε → σ → Gen σ ε Y)

structure GenErrors (ε : Type) where
  generatorExit : ε
  ignoredExit : ε
  didntYield : ε
  didntStop : ε
  didntStopAfterThrow : ε

namespace Gen

section
variable {σ ε Y α : Type} [DecidableEq ε] (errors : GenErrors ε)

/-- `generator.close()` on what is left of a generator after `GeneratorExit` was thrown into it. -/
def closed : Gen σ ε Y → Except ε Unit × σ
  | .stop s => (.ok (), s)
  | .raise e s => (if e = errors.generatorExit then .ok () else .error e, s)
  | .wait _ s _ _ => (.error errors.ignoredExit, s)

/-- `raise exc` with `finally: generator.close()`. -/
def closing (exc : ε) (g : Gen σ ε Y) : Except ε α × σ :=
  match closed errors g with
  | (.ok (), s) => (.error exc, s)
  | (.error e, s) => (.error e, s)

/-- `__exit__` after the body returned `a`. -/
def exitOk (a : α) : Gen σ ε Y → Except ε (Option α) × σ
  | .stop s => (.ok (some a), s)
  | .raise e s => (.error e, s)
  | .wait _ s _ throw => closing errors errors.didntStop (throw errors.generatorExit s)

/-- `__exit__` after the body raised; a generator that returns has dealt with the exception. -/
def exitRaised : Gen σ ε Y → Except ε (Option α) × σ
  | .stop s => (.ok none, s)
  | .raise e s => (.error e, s)
  | .wait _ s _ throw => closing errors errors.didntStopAfterThrow (throw errors.generatorExit s)

/-- `with generator() as y: body`, with the value the body returns. -/
def withBlock (gen : σ → Gen σ ε Y) (body : Y → σ → Except ε α × σ) (s : σ) : Except ε (Option α) × σ :=
  match gen s with
  | .stop s => (.error errors.didntYield, s)
  | .raise e s => (.error e, s)
  | .wait y s next throw =>
    match body y s with
    | (.ok a, s) => exitOk errors a (next s)
    | (.error e, s) => exitRaised errors (throw e s)

/-! ## Rules -/

variable {gen : σ → Gen σ ε Y} {body : Y → σ → Except ε α × σ} {s s₁ s₂ s₃ : σ} {y : Y} {next : σ → Gen σ ε Y}
  {throw : ε → σ → Gen σ ε Y} {a : α} {e : ε}

/-- A generator that raises before it hands out a value raises from the block; the body does not run. -/
theorem withBlock_raise (h : gen s = .raise e s₁) : withBlock errors gen body s = (.error e, s₁) := by
  rw [withBlock, h]

/-- **The body returns and the generator ends**: the block returns. -/
theorem withBlock_ok (h : gen s = .wait y s₁ next throw) (hb : body y s₁ = (.ok a, s₂)) (hn : next s₂ = .stop s₃) :
    withBlock errors gen body s = (.ok (some a), s₃) := by
  rw [withBlock, h]
  simp only [hb, hn, exitOk]

/-- **The body raises and the generator passes an exception on**: the block raises that one. -/
theorem withBlock_passed {e' : ε} (h : gen s = .wait y s₁ next throw) (hb : body y s₁ = (.error e, s₂))
    (ht : throw e s₂ = .raise e' s₃) : withBlock errors gen body s = (.error e', s₃) := by
  rw [withBlock, h]
  simp only [hb, ht, exitRaised]

/-- **The body raises and the generator hands out another value**: the generator is closed, and the body's exception is
lost. -/
theorem withBlock_waiting {y' : Y} {next' : σ → Gen σ ε Y} {throw' : ε → σ → Gen σ ε Y} {s₄ : σ}
    (h : gen s = .wait y s₁ next throw) (hb : body y s₁ = (.error e, s₂)) (ht : throw e s₂ = .wait y' s₃ next' throw')
    (hc : throw' errors.generatorExit s₃ = .raise errors.generatorExit s₄) :
    withBlock errors gen body s = (.error errors.didntStopAfterThrow, s₄) := by
  rw [withBlock, h]
  simp only [hb, ht, exitRaised, closing, hc, closed, if_true]

end
end Gen
end Py
