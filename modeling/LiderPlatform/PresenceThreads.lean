import LiderPlatform.AgentPresence
import LiderPlatform.Monitors
import Mathlib.Data.List.Induction
/-!
# PresenceThreads — the presence provider under any number of threads (`EjabberdAgentPresenceProvider`)

`getOnlineRecipients` is called by the threads of the API at once.  Its steps are the reads and writes of the two
`volatile` fields, the readings of the clock, the lock and the request to ejabberd; the steps of different calls come in
any order, and the clock goes on between them.  It is a `Monitors` program.  The second part is the provider of
`AgentPresence` again, called one at a time at the readings of the fetches.
-/
namespace Lider.PresenceThreads

open Java StaleCache Monitors AgentPresence

/-! ## The code -/

/-- How the request ends: with recipients, with an exception that is caught, or with an error that is not. -/
inductive Outcome where
  | refreshed (recipients : Recipients)
  | exception (message : String)
  | error

/-- The fields of the provider, the holder of its lock and the clock, with the fetches that gave recipients or an
exception, in order. -/
structure Provider (ι : Type) where
  cachedRecipients : Recipients
  cachedAt : Int64
  refreshLock : Option ι
  clock : Int64
  fetches : List PresenceCall

/-- Where a call is, with its local variables. -/
inductive CallState where
  | idle
  | entered (now : Int64)
  | hit (now : Int64)
  | contending
  | locked
  | relocked (now : Int64)
  | lockedHit (now : Int64)
  | fetching (now : Int64)
  | refreshed (now : Int64) (recipients : Recipients)
  | stamping (now : Int64) (recipients : Recipients)
  | failed (now : Int64)
  | checking (now : Int64)
  | stale (now : Int64)
  | emptying (now : Int64)
  | emptyStamping (now : Int64)
  | emptied (now : Int64)
  | leaving (now : Int64) (answer : Option Recipients)
  | returned (now : Int64) (answer : Option Recipients)

variable {ι : Type}

def Provider.initial (clock : Int64) : Provider ι := ⟨∅, 0, none, clock, []⟩

def Provider.finish (s : Provider ι) (now : Int64) (fetched : Except String Recipients) : Provider ι :=
  { s with fetches := s.fetches ++ [⟨now, now, fetched⟩] }

/-- The next step of `getOnlineRecipients` in thread `i`, each with one access to a field; `none` while it waits for the
lock.  A thread that is `idle`, or has `returned`, enters a call. -/
def advance (i : ι) (outcome : Outcome) (s : Provider ι) : CallState → Option (Provider ι × CallState)
  | .idle => some (s, .entered s.clock)
  | .entered now => some (s, if now - s.cachedAt ≤ cacheTtl then .hit now else .contending)
  | .hit now => some (s, .returned now (some s.cachedRecipients))
  | .contending =>
    match s.refreshLock with
    | none => some ({ s with refreshLock := some i }, .locked)
    | some _ => none
  | .locked => some (s, .relocked s.clock)
  | .relocked now => some (s, if now - s.cachedAt ≤ cacheTtl then .lockedHit now else .fetching now)
  | .lockedHit now => some (s, .leaving now (some s.cachedRecipients))
  | .fetching now =>
    match outcome with
    | .refreshed recipients => some (s.finish now (.ok recipients), .refreshed now recipients)
    | .exception message => some (s.finish now (.error message), .failed now)
    | .error => some (s, .leaving now none)
  | .refreshed now recipients => some ({ s with cachedRecipients := recipients }, .stamping now recipients)
  | .stamping now recipients => some ({ s with cachedAt := now }, .leaving now (some recipients))
  | .failed now => some (s, if now - s.cachedAt ≤ staleCacheTtl then .checking now else .emptying now)
  | .checking now => some (s, if s.cachedRecipients ≠ ∅ then .stale now else .emptying now)
  | .stale now => some (s, .leaving now (some s.cachedRecipients))
  | .emptying now => some ({ s with cachedRecipients := ∅ }, .emptyStamping now)
  | .emptyStamping now => some ({ s with cachedAt := now }, .emptied now)
  | .emptied now => some (s, .leaving now (some s.cachedRecipients))
  | .leaving now answer => some ({ s with refreshLock := none }, .returned now answer)
  | .returned _ _ => some (s, .entered s.clock)

/-- The states inside `synchronized (refreshLock)`. -/
def inside : CallState → Bool
  | .idle | .entered _ | .hit _ | .contending | .returned _ _ => false
  | _ => true

/-- The threads, with any outcome of each request, and a clock that does not go back. -/
def program (ι : Type) : Program ι (Provider ι) CallState where
  act i s l s' l' := ∃ outcome, advance i outcome s l = some (s', l')
  env s s' := ∃ clock, s.clock ≤ clock ∧ s' = { s with clock := clock }
  holder s := s.refreshLock
  holds l := inside l = true

/-- Before the first call, with the clock at `clock`. -/
def start (clock : Int64) : Config ι (Provider ι) CallState := ⟨.initial clock, fun _ => .idle⟩

/-! ## The lock -/

theorem disciplined : Disciplined (program ι) where
  act := by
    rintro i s l s' l' ⟨outcome, hact⟩ hheld
    show (s'.refreshLock = s.refreshLock ∧ (inside l' = true ↔ inside l = true)) ∨
      (s.refreshLock = none ∧ s'.refreshLock = some i ∧ inside l' = true) ∨
      (s.refreshLock = some i ∧ s'.refreshLock = none ∧ ¬ inside l' = true)
    cases l with
    | contending =>
      cases hlock : s.refreshLock with
      | none =>
        simp only [advance, hlock, Option.some.injEq, Prod.mk.injEq] at hact
        obtain ⟨rfl, rfl⟩ := hact
        exact .inr (.inl ⟨rfl, rfl, rfl⟩)
      | some j => simp [advance, hlock] at hact
    | leaving now answer =>
      simp only [advance, Option.some.injEq, Prod.mk.injEq] at hact
      obtain ⟨rfl, rfl⟩ := hact
      exact .inr (.inr ⟨hheld.1 rfl, rfl, Bool.false_ne_true⟩)
    | fetching now =>
      cases outcome <;> simp only [advance, Option.some.injEq, Prod.mk.injEq] at hact <;> obtain ⟨rfl, rfl⟩ := hact <;>
        exact .inl ⟨rfl, Iff.rfl⟩
    | _ =>
      simp only [advance, Option.some.injEq, Prod.mk.injEq] at hact
      obtain ⟨rfl, rfl⟩ := hact
      refine .inl ⟨rfl, ?_⟩
      first | exact Iff.rfl | (split <;> exact Iff.rfl)
  env := by
    rintro s s' ⟨clock, -, rfl⟩
    rfl

/-- How many steps a call still takes, at most; a thread that is `idle` has its call before it. -/
def remaining : CallState → Nat
  | .returned _ _ => 0
  | .idle => 14
  | .entered _ => 13
  | .contending => 12
  | .locked => 11
  | .relocked _ => 10
  | .fetching _ => 9
  | .failed _ => 8
  | .checking _ => 7
  | .emptying _ => 6
  | .emptyStamping _ => 5
  | .emptied _ | .refreshed _ _ => 4
  | .stamping _ _ => 3
  | .lockedHit _ | .stale _ => 3
  | .leaving _ _ => 2
  | .hit _ => 1

def Returned (l : CallState) : Prop := ∃ now answer, l = .returned now answer

theorem live : Live (program ι) Returned (· = .contending) remaining where
  runs := by
    intro i s l hrest hwants
    cases l with
    | contending => exact absurd rfl hwants
    | returned now answer => exact absurd ⟨now, answer, rfl⟩ hrest
    | fetching now => exact ⟨_, _, ⟨.error, rfl⟩, by simp [remaining]⟩
    | entered now =>
      refine ⟨_, _, ⟨.error, rfl⟩, ?_⟩
      split <;> simp [remaining]
    | relocked now =>
      refine ⟨_, _, ⟨.error, rfl⟩, ?_⟩
      split <;> simp [remaining]
    | failed now =>
      refine ⟨_, _, ⟨.error, rfl⟩, ?_⟩
      split <;> simp [remaining]
    | checking now =>
      refine ⟨_, _, ⟨.error, rfl⟩, ?_⟩
      split <;> simp [remaining]
    | _ => exact ⟨_, _, ⟨.error, rfl⟩, by simp [remaining]⟩
  takes := by
    rintro i s _ rfl hfree
    have hfree : s.refreshLock = none := hfree
    refine ⟨{ s with refreshLock := some i }, .locked, ⟨.error, ?_⟩, by decide⟩
    simp [advance, hfree]
  holds := by
    intro l hl
    cases l <;> simp [program, inside, Returned] at hl ⊢

/-! ## Runs -/

section
variable [DecidableEq ι]

inductive Move (ι : Type) where
  | tick (clock : Int64)
  | step (i : ι) (outcome : Outcome)

/-- One move; a step of a thread that waits, and a clock that would go back, change nothing. -/
def play (c : Config ι (Provider ι) CallState) : Move ι → Config ι (Provider ι) CallState
  | .tick clock => if c.shared.clock ≤ clock then ⟨{ c.shared with clock := clock }, c.thread⟩ else c
  | .step i outcome =>
    match advance i outcome c.shared (c.thread i) with
    | some (s', l') => c.set i s' l'
    | none => c

theorem reach_play_one (c : Config ι (Provider ι) CallState) (m : Move ι) : Reach (program ι) c (play c m) := by
  cases m with
  | tick clock =>
    by_cases hle : c.shared.clock ≤ clock
    · rw [play, if_pos hle]
      exact .single (Step.env (P := program ι) ⟨clock, hle, rfl⟩)
    · rw [play, if_neg hle]
  | step i outcome =>
    cases hact : advance i outcome c.shared (c.thread i) with
    | some next =>
      simp only [play, hact]
      exact .single (Step.thread (P := program ι) i ⟨outcome, hact⟩)
    | none =>
      simp only [play, hact]
      exact .refl

theorem reach_play (c : Config ι (Provider ι) CallState) (moves : List (Move ι)) :
    Reach (program ι) c (moves.foldl play c) := by
  induction moves generalizing c with
  | nil => exact .refl
  | cons m moves ih => exact (reach_play_one c m).trans (ih (play c m))

end

/-! ## The provider, called one at a time -/

/-- A difference of two readings that are not negative does not wrap. -/
theorem toInt_sub_of_nonneg {a b : Int64} (ha : 0 ≤ a.toInt) (hb : 0 ≤ b.toInt) : (a - b).toInt = a.toInt - b.toInt := by
  have hahigh := a.toInt_lt
  have hbhigh := b.toInt_lt
  rw [Int64.toInt_sub, Int.bmod_eq_of_le] <;> omega

theorem age_le_iff {now since ttl : Int64} (hnow : 0 ≤ now.toInt) (hsince : 0 ≤ since.toInt) :
    now - since ≤ ttl ↔ now.toInt - since.toInt ≤ ttl.toInt := by
  rw [Int64.le_iff_toInt_le, toInt_sub_of_nonneg hnow hsince]

theorem run_append (done : List PresenceCall) (k : PresenceCall) :
    AgentPresence.run (done ++ [k]) = ((AgentPresence.run done).getOnlineRecipients k).2 := by
  rw [AgentPresence.run, List.foldl_append]
  rfl

/-- The provider once a fetch at `now` is under way. -/
def noting (p : AgentPresence) (now : Int64) (fetched : Except String Recipients) : AgentPresence :=
  { p with fetches := p.fetches ++ [(now, fetched)] }

section
variable {p : AgentPresence} {now : Int64}

theorem getOnlineRecipients_hit (h : now - p.cachedAt ≤ cacheTtl) (fetched : Except String Recipients) :
    p.getOnlineRecipients ⟨now, now, fetched⟩ = (p.cachedRecipients, p) := by
  rw [getOnlineRecipients, if_pos h]

theorem getOnlineRecipients_ok (h : ¬ now - p.cachedAt ≤ cacheTtl) (refreshed : Recipients) :
    p.getOnlineRecipients ⟨now, now, .ok refreshed⟩ = (refreshed, (noting p now (.ok refreshed)).store now refreshed) := by
  rw [getOnlineRecipients, if_neg h, if_neg h]
  rfl

theorem getOnlineRecipients_stale (h : ¬ now - p.cachedAt ≤ cacheTtl) (hstale : now - p.cachedAt ≤ staleCacheTtl)
    (hne : p.cachedRecipients ≠ ∅) (message : String) :
    p.getOnlineRecipients ⟨now, now, .error message⟩ = (p.cachedRecipients, noting p now (.error message)) := by
  rw [getOnlineRecipients, if_neg h, if_neg h]
  exact if_pos ⟨hstale, hne⟩

theorem getOnlineRecipients_emptied (h : ¬ now - p.cachedAt ≤ cacheTtl)
    (hdrop : ¬ (now - p.cachedAt ≤ staleCacheTtl ∧ p.cachedRecipients ≠ ∅)) (message : String) :
    p.getOnlineRecipients ⟨now, now, .error message⟩ = (∅, (noting p now (.error message)).store now ∅) := by
  rw [getOnlineRecipients, if_neg h, if_neg h]
  exact if_neg hdrop

/-- A fetch either leaves the cache as it is, or stores one result at its reading. -/
theorem getOnlineRecipients_due (h : ¬ now - p.cachedAt ≤ cacheTtl) (fetched : Except String Recipients) :
    ∃ answer after, p.getOnlineRecipients ⟨now, now, fetched⟩ = (answer, after) ∧
      (after = noting p now fetched ∨ after = (noting p now fetched).store now answer) := by
  cases fetched with
  | ok refreshed => exact ⟨_, _, getOnlineRecipients_ok h refreshed, .inr rfl⟩
  | error message =>
    by_cases hkeep : now - p.cachedAt ≤ staleCacheTtl ∧ p.cachedRecipients ≠ ∅
    · exact ⟨_, _, getOnlineRecipients_stale h hkeep.1 hkeep.2 message, .inl rfl⟩
    · exact ⟨_, _, getOnlineRecipients_emptied h hkeep message, .inr rfl⟩

end

/-- A list of calls that each make their fetch, when they are made one at a time. -/
inductive Logged : List PresenceCall → Prop where
  | nil : Logged []
  | snoc {done : List PresenceCall} {now : Int64} {fetched : Except String Recipients} (h : Logged done)
      (hpast : ∀ k ∈ done, k.locked.toInt ≤ now.toInt) (hdue : ¬ now - (AgentPresence.run done).cachedAt ≤ cacheTtl) :
      Logged (done ++ [⟨now, now, fetched⟩])

namespace Logged

variable {done : List PresenceCall}

theorem steady (h : Logged done) :
    ∀ {now : Int64}, (∀ k ∈ done, k.locked.toInt ≤ now.toInt) → (AgentPresence.run done).Steady now := by
  induction h with
  | nil => exact fun _ => steady_initial _
  | @snoc done now fetched _ hpast _ ih =>
    intro later hlater
    have hnow : now.toInt ≤ later.toInt := hlater _ (List.mem_append_right _ List.mem_cons_self)
    have hcall := ((ih hpast).call (k := ⟨now, now, fetched⟩) (Int64.le_refl _) (Int64.le_refl _)).2
    rw [run_append]
    exact ⟨hcall.sound.mono hnow, hcall.inRange.mono (Int64.le_iff_toInt_le.2 hnow)⟩

/-- **The provider makes these fetches**, at these readings, and no others. -/
theorem fetches (h : Logged done) : (AgentPresence.run done).fetches = done.map (fun k => (k.locked, k.fetched)) := by
  induction h with
  | nil => rfl
  | @snoc done now fetched _ _ hdue ih =>
    obtain ⟨answer, after, hcall, rfl | rfl⟩ := getOnlineRecipients_due hdue fetched
    · rw [run_append, hcall, List.map_append, ← ih]
      rfl
    · rw [run_append, hcall, List.map_append, ← ih]
      rfl

/-- What the provider holds was fetched when its stamp says. -/
theorem value (h : Logged done) {now : Int64} (hpast : ∀ k ∈ done, k.locked.toInt ≤ now.toInt) :
    (AgentPresence.run done).cachedRecipients = ∅ ∨
      ∃ k ∈ done, k.fetched = .ok (AgentPresence.run done).cachedRecipients ∧
        k.locked.toInt = (AgentPresence.run done).cachedAt.toInt := by
  rcases (h.steady hpast).sound.fetched with hempty | hfetched
  · exact .inl hempty
  obtain ⟨f, hf, heq⟩ := List.mem_map.1 hfetched
  rw [h.fetches] at hf
  obtain ⟨k, hk, rfl⟩ := List.mem_map.1 hf
  simp only [AgentPresence.abs, Prod.mk.injEq] at heq
  refine .inr ⟨k, hk, ?_, heq.1⟩
  cases hok : k.fetched with
  | ok r =>
    rw [hok] at heq
    exact congrArg Except.ok (Option.some.inj heq.2)
  | error message =>
    rw [hok] at heq
    cases heq.2

/-- **Two stored results are more than three seconds apart**, and none is later than the stamp. -/
theorem spaced (h : Logged done) :
    (AgentPresence.run done).stores.Pairwise (fun earlier later => earlier.1.toInt + 3000 < later.1.toInt) ∧
      ∀ stored ∈ (AgentPresence.run done).stores, stored.1.toInt ≤ (AgentPresence.run done).cachedAt.toInt := by
  induction h with
  | nil => exact ⟨.nil, fun _ h => nomatch h⟩
  | @snoc done now fetched hdone hpast hdue ih =>
    have hsteady := hdone.steady hpast
    have hgap : (AgentPresence.run done).cachedAt.toInt + 3000 < now.toInt := by
      have hage := mt (hsteady.inRange.le_ttl_iff toInt_cacheTtl).2 hdue
      simp only [AgentPresence.abs] at hage
      omega
    obtain ⟨answer, after, hcall, rfl | rfl⟩ := getOnlineRecipients_due hdue fetched
    · rw [run_append, hcall]
      exact ih
    · rw [run_append, hcall]
      refine ⟨List.pairwise_append.2 ⟨ih.1, List.pairwise_singleton .., fun s hs t ht => ?_⟩, fun s hs => ?_⟩
      · rw [List.mem_singleton.1 ht]
        exact lt_of_le_of_lt (Int.add_le_add_right (ih.2 s hs) 3000) hgap
      · rcases List.mem_append.1 hs with hs | hs
        · exact (ih.2 s hs).trans (by simp only [store]; omega)
        · rw [List.mem_singleton.1 hs]
          exact le_rfl

end Logged

end Lider.PresenceThreads
