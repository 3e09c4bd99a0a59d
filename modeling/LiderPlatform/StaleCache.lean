import Mathlib.Algebra.Order.Group.Int
import Mathlib.Data.List.Basic
/-!
# StaleCache — a cached value that is refreshed after one age and kept on failures up to another

A lookup at `now` answers with the cached value up to the age `ttl`; then it fetches.  A failed fetch is answered with
the old value up to the age `stale`, and with `empty` beyond.  While the clock does not go back (`Sound.lookup`), an
answer that is not `empty` was fetched and is not stale, fetches keep their distance from what was stored, and a failure
costs no value that is not stale.
-/
namespace StaleCache

section
variable {α : Type}

/-- The cached value with the time it counts from, and what happened so far: the fetches started, with what they gave,
and the values stored, with their times. -/
structure State (α : Type) where
  value : α
  since : Int
  fetches : List (Int × Option α)
  stores : List (Int × α)

def State.initial (empty : α) : State α := ⟨empty, 0, [], []⟩

variable (ttl stale : Int) (empty : α)

/-- A lookup at `now`; a fetch would give `fetched`. -/
def State.lookup [DecidableEq α] (s : State α) (now : Int) (fetched : Option α) : α × State α :=
  if now - s.since ≤ ttl then (s.value, s)
  else
    let s' := { s with fetches := s.fetches ++ [(now, fetched)] }
    match fetched with
    | some v => (v, { s' with value := v, since := now, stores := s.stores ++ [(now, v)] })
    | none =>
      if now - s.since ≤ stale ∧ s.value ≠ empty then (s.value, s')
      else (empty, { s' with value := empty, since := now, stores := s.stores ++ [(now, empty)] })

/-- The law of one lookup, from `s` to `s'` with its answer. -/
structure Fresh (s s' : State α) (now : Int) (fetched : Option α) (answer : α) : Prop where
  /-- What is not empty was fetched, and is not stale. -/
  answered : answer = empty ∨ ∃ f ∈ s'.fetches, f.2 = some answer ∧ f.1 ≤ now ∧ now - f.1 ≤ stale
  /-- No fetch is started within `ttl` of what was stored last. -/
  spaced : ∀ f, s'.fetches = s.fetches ++ [f] → ∀ last ∈ s.stores.getLast?, ttl < f.1 - last.1
  /-- A failed fetch does not cost a value that is not stale. -/
  kept : fetched = none → ∀ last ∈ s.stores.getLast?, last.2 ≠ empty → now - last.1 ≤ stale →
    answer = last.2 ∧ s'.stores = s.stores

/-- What holds between lookups, once the clock has shown `now`. -/
structure Sound (s : State α) (now : Int) : Prop where
  fetched : s.value = empty ∨ (s.since, some s.value) ∈ s.fetches
  past : ∀ f ∈ s.fetches, f.1 ≤ now
  last : ∀ l ∈ s.stores.getLast?, l = (s.since, s.value)

variable {ttl stale empty}

theorem sound_initial (now : Int) : Sound empty (State.initial empty) now where
  fetched := .inl rfl
  past _ hf := nomatch hf
  last _ hl := nomatch hl

/-- **A lookup is fresh, and keeps the cache sound.** -/
theorem Sound.lookup [DecidableEq α] {s : State α} {before now : Int} (h : Sound empty s before) (hclock : before ≤ now)
    (httl : ttl ≤ stale) (hstale : 0 ≤ stale) (fetched : Option α) :
    Fresh ttl stale empty s (s.lookup ttl stale empty now fetched).2 now fetched
        (s.lookup ttl stale empty now fetched).1 ∧
      Sound empty (s.lookup ttl stale empty now fetched).2 now := by
  have hpast : ∀ f ∈ s.fetches, f.1 ≤ now := fun f hf => (h.past f hf).trans hclock
  have hpast' : ∀ f ∈ s.fetches ++ [(now, fetched)], f.1 ≤ now := by
    intro f hf
    rcases List.mem_append.1 hf with hf | hf
    · exact hpast f hf
    · rw [List.mem_singleton.1 hf]
  -- the old value, as long as it is not stale, is one that was fetched
  have hold : ∀ fetches : List (Int × Option α), (∀ f ∈ s.fetches, f ∈ fetches) → now - s.since ≤ stale →
      s.value = empty ∨ ∃ f ∈ fetches, f.2 = some s.value ∧ f.1 ≤ now ∧ now - f.1 ≤ stale := by
    intro fetches hsub hage
    rcases h.fetched with hv | hv
    · exact .inl hv
    · exact .inr ⟨_, hsub _ hv, rfl, hpast _ hv, hage⟩
  unfold State.lookup
  by_cases hhit : now - s.since ≤ ttl
  · rw [if_pos hhit]
    refine ⟨⟨hold _ (fun _ hf => hf) (by omega), fun f hf => ?_, fun _ l hl _ _ => ?_⟩, h.fetched, hpast, h.last⟩
    · exact absurd (congrArg List.length hf) (by simp)
    · rw [h.last l hl]
      exact ⟨rfl, rfl⟩
  rw [if_neg hhit]
  have hspaced : ∀ f, s.fetches ++ [(now, fetched)] = s.fetches ++ [f] → ∀ l ∈ s.stores.getLast?, ttl < f.1 - l.1 := by
    intro f hf l hl
    obtain rfl : (now, fetched) = f := List.singleton_inj.1 (List.append_cancel_left hf)
    rw [h.last l hl]
    show ttl < now - s.since
    omega
  cases fetched with
  | some v =>
    refine ⟨⟨.inr ⟨(now, some v), by simp, rfl, le_rfl, by simpa using hstale⟩, hspaced, fun hn => nomatch hn⟩, ?_, hpast', ?_⟩
    · exact .inr (List.mem_append_right _ List.mem_cons_self)
    · intro l hl
      simpa [eq_comm] using hl
  | none =>
    by_cases hkeep : now - s.since ≤ stale ∧ s.value ≠ empty
    · simp only [if_pos hkeep]
      refine ⟨⟨hold _ (fun _ hf => List.mem_append_left _ hf) hkeep.1, hspaced, fun _ l hl _ _ => ?_⟩, ?_, hpast', h.last⟩
      · rw [h.last l hl]
        exact ⟨rfl, rfl⟩
      · exact h.fetched.imp_right (fun hv => List.mem_append_left _ hv)
    · simp only [if_neg hkeep]
      refine ⟨⟨.inl rfl, hspaced, fun _ l hl hne hage => ?_⟩, .inl rfl, hpast', fun l hl => by simpa [eq_comm] using hl⟩
      rw [h.last l hl] at hne hage
      exact absurd ⟨hage, hne⟩ hkeep

theorem Sound.mono {s : State α} {before now : Int} (h : Sound empty s before) (hclock : before ≤ now) :
    Sound empty s now :=
  ⟨h.fetched, fun f hf => (h.past f hf).trans hclock, h.last⟩

end

end StaleCache
