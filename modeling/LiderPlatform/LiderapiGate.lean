import LiderPlatform.PyText
import Mathlib.Tactic.NormNum
/-!
# LiderapiGate — an agent waits for the API (`services/ahenk/liderapi_gate.py`)

Before an agent container starts it signs in to the API and probes a protected endpoint, again and again, until so many
attempts in a row have succeeded or the deadline is over.  A step of the model is one pass of the loop.  The replies and
the clock are arbitrary; `gate_exact` says on which attempt the gate opens, and when it does not.
-/

namespace Streaks

/-! ## Streaks -/

/-- How many attempts in a row, the `m`-th the last, have succeeded; attempts are counted from 1. -/
def streak (succeeds : Nat → Bool) : Nat → Nat
  | 0 => 0
  | m + 1 => if succeeds (m + 1) then streak succeeds m + 1 else 0

/-- The `m`-th attempt ends a streak of `k`. -/
def EndsStreak (succeeds : Nat → Bool) (k m : Nat) : Prop :=
  k ≤ m ∧ ∀ i, i ≤ m → m < i + k → succeeds i = true

/-- The `m`-th attempt is the first to end a streak of `k`. -/
def FirstStreak (succeeds : Nat → Bool) (k m : Nat) : Prop :=
  EndsStreak succeeds k m ∧ ∀ i < m, ¬ EndsStreak succeeds k i

theorem le_streak_iff (succeeds : Nat → Bool) : ∀ (m k : Nat), k ≤ streak succeeds m ↔ EndsStreak succeeds k m
  | 0, k => by
    refine ⟨fun h => ⟨h, fun i hi hk => ?_⟩, fun h => h.1⟩
    have : k = 0 := Nat.le_zero.1 h
    omega
  | m + 1, 0 => ⟨fun _ => ⟨Nat.zero_le _, fun i hi hk => by omega⟩, fun _ => Nat.zero_le _⟩
  | m + 1, k + 1 => by
    rw [streak]
    cases hm : succeeds (m + 1) with
    | false =>
      refine ⟨fun h => absurd h (by simp), fun h => ?_⟩
      have := h.2 (m + 1) (Nat.le_refl _) (by omega)
      rw [hm] at this
      cases this
    | true =>
      simp only [if_true, Nat.add_le_add_iff_right, le_streak_iff succeeds m k]
      constructor
      · rintro ⟨hk, h⟩
        refine ⟨by omega, fun i hi hik => ?_⟩
        rcases Nat.lt_or_ge m i with hlt | hle
        · rw [show i = m + 1 by omega, hm]
        · exact h i hle (by omega)
      · rintro ⟨hk, h⟩
        exact ⟨by omega, fun i hi hik => h i (by omega) (by omega)⟩

/-- A streak ends before it is long enough until the first that is. -/
theorem firstStreak_iff (succeeds : Nat → Bool) (k m : Nat) :
    FirstStreak succeeds k m ↔ k ≤ streak succeeds m ∧ ∀ i < m, streak succeeds i < k := by
  simp only [FirstStreak, ← le_streak_iff, Nat.not_le]

end Streaks

namespace Lider

open Py Streaks

/-! ## An attempt -/

/-- What `_post_json` returns, or the text of what it raises. -/
abbrev GateReply := Except String (Int × Dict)

/-- The replies to the `i`-th sign-in and to the `i`-th probe with its token, and the readings of the clock: the first is
taken for the deadline, the `i`-th before attempt `i`. -/
structure GateWorld where
  signin : Nat → GateReply
  probe : Nat → String → GateReply
  monotonic : Nat → ℚ

/-- The arguments of `wait_for_liderapi_gate`, and what `resolve_base_url` returned. -/
structure GateConfig where
  baseUrl : String
  resolvedBaseUrl : String
  timeoutSeconds : Int
  stableSuccessCount : Int

def authenticate (reply : GateReply) : Except String String := do
  let (statusCode, payload) ← reply
  if statusCode ≠ 200 then .error s!"signin returned HTTP {statusCode}"
  else match payload.get "token" with
    | .str token => if strip token.toList = [] then .error "signin did not return a usable token" else .ok token
    | _ => .error "signin did not return a usable token"

def probeProtectedEndpoint (reply : GateReply) : Except String Unit := do
  let (statusCode, _) ← reply
  if statusCode ≠ 200 then .error s!"protected probe returned HTTP {statusCode}" else .ok ()

/-- The `try` block of attempt `i`. -/
def GateWorld.attempt (w : GateWorld) (i : Nat) : Except String Unit := do
  let token ← authenticate (w.signin i)
  probeProtectedEndpoint (w.probe i token)

def GateWorld.succeeds (w : GateWorld) (i : Nat) : Bool :=
  match w.attempt i with
  | .ok _ => true
  | .error _ => false

/-! ## The loop -/

inductive GateOutcome where
  | ready (attempts : Nat) (baseUrl : String) (stableSuccessCount : Int)
  | valueError
  | timeoutError (message : String)
deriving DecidableEq

def normalizeBaseUrl (baseUrl : String) : String := String.ofList (baseUrl.toList.rdropWhile (· == '/'))

/-- The text of the `GateTimeoutError`. -/
def gateTimeoutText (attempts : Nat) (baseUrl lastError : String) : String :=
  s!"liderapi auth gate timed out after {attempts} attempts at {normalizeBaseUrl baseUrl}; last error: {lastError}"

/-- The variables of the loop; `starts` records the clock at the start of each attempt. -/
structure GateState where
  attempt : Nat
  consecutiveSuccesses : Nat
  lastError : Option String
  starts : List ℚ
  outcome : Option GateOutcome

section
variable (w : GateWorld) (cfg : GateConfig)

def gateDeadline : ℚ := w.monotonic 0 + cfg.timeoutSeconds

def initialGate : GateState where
  attempt := 0
  consecutiveSuccesses := 0
  lastError := none
  starts := []
  outcome := if cfg.stableSuccessCount < 1 then some .valueError else none

/-- `last_error or 'unknown'`. -/
def GateState.shownError (s : GateState) : String :=
  match s.lastError with
  | none => "unknown"
  | some text => if text = "" then "unknown" else text

/-- The body of the loop. -/
def GateState.tryOnce (s : GateState) : GateState :=
  let attempt := s.attempt + 1
  let starts := s.starts ++ [w.monotonic attempt]
  match w.attempt attempt with
  | .ok _ =>
    { s with
      attempt := attempt
      consecutiveSuccesses := s.consecutiveSuccesses + 1
      starts := starts
      outcome := if cfg.stableSuccessCount ≤ ((s.consecutiveSuccesses + 1 : Nat) : Int)
        then some (.ready attempt cfg.resolvedBaseUrl cfg.stableSuccessCount) else none }
  | .error text => { s with attempt := attempt, consecutiveSuccesses := 0, lastError := some text, starts := starts }

/-- One pass: the deadline is looked at, then an attempt is made. -/
def GateState.step (s : GateState) : GateState :=
  match s.outcome with
  | some _ => s
  | none =>
    if w.monotonic (s.attempt + 1) ≤ gateDeadline w cfg then s.tryOnce w cfg
    else { s with outcome := some (.timeoutError (gateTimeoutText s.attempt cfg.baseUrl s.shownError)) }

/-- `wait_for_liderapi_gate` after `n` passes. -/
def gateRun : Nat → GateState
  | 0 => initialGate cfg
  | n + 1 => (gateRun n).step w cfg

/-- Every attempt up to the `m`-th starts no later than the deadline. -/
def OnTime (m : Nat) : Prop := ∀ i, 1 ≤ i → i ≤ m → w.monotonic i ≤ gateDeadline w cfg

/-! ## What holds along a run -/

/-- The counters count: the streak that the last attempt ends, and the attempts made, none of them late. -/
structure GateState.Counts (s : GateState) : Prop where
  streak : s.consecutiveSuccesses = streak w.succeeds s.attempt
  attempts : s.attempt = s.starts.length
  onTime : ∀ t ∈ s.starts, t ≤ gateDeadline w cfg

theorem succeeds_iff (i : Nat) : w.succeeds i = true ↔ w.attempt i = .ok () := by
  unfold GateWorld.succeeds
  cases w.attempt i <;> simp

theorem tryOnce_eq (s : GateState) :
    (s.tryOnce w cfg).attempt = s.attempt + 1 ∧
      (s.tryOnce w cfg).starts = s.starts ++ [w.monotonic (s.attempt + 1)] ∧
      (s.tryOnce w cfg).consecutiveSuccesses =
        if w.succeeds (s.attempt + 1) then s.consecutiveSuccesses + 1 else 0 := by
  unfold GateState.tryOnce GateWorld.succeeds
  cases hresult : w.attempt (s.attempt + 1) <;> simp [hresult]

/-- **An attempt opens the gate exactly when it ends a streak that is long enough.** -/
theorem tryOnce_outcome (hk : 1 ≤ cfg.stableSuccessCount) {s : GateState} (h : s.Counts w cfg)
    (hnone : s.outcome = none) : (s.tryOnce w cfg).outcome =
      if cfg.stableSuccessCount ≤ streak w.succeeds (s.attempt + 1)
      then some (.ready (s.attempt + 1) cfg.resolvedBaseUrl cfg.stableSuccessCount) else none := by
  unfold GateState.tryOnce
  rw [Streaks.streak, ← h.streak]
  cases hresult : w.attempt (s.attempt + 1) with
  | ok _ => simp only [hresult, (succeeds_iff w _).2 hresult, if_true]
  | error text =>
    have hfails : w.succeeds (s.attempt + 1) = false := by simp only [GateWorld.succeeds, hresult]
    have hshort : ¬ cfg.stableSuccessCount ≤ ((0 : Nat) : Int) := by omega
    simp only [hresult, hfails, hnone, Bool.false_eq_true, if_false, if_neg hshort]

theorem GateState.Counts.step {s : GateState} (h : s.Counts w cfg) : (s.step w cfg).Counts w cfg := by
  unfold GateState.step
  split
  · exact h
  · split
    · rename_i htime
      obtain ⟨hattempt, hstarts, hconsecutive⟩ := tryOnce_eq w cfg s
      refine ⟨?_, ?_, ?_⟩
      · rw [hconsecutive, hattempt, Streaks.streak, h.streak]
      · rw [hattempt, hstarts, List.length_append, List.length_singleton, ← h.attempts]
      · rw [hstarts]
        intro t ht
        rcases List.mem_append.1 ht with ht | ht
        · exact h.onTime t ht
        · exact List.mem_singleton.1 ht ▸ htime
    · exact ⟨h.streak, h.attempts, h.onTime⟩

theorem gateRun_counts : ∀ n, (gateRun w cfg n).Counts w cfg
  | 0 => ⟨rfl, rfl, fun _ h => by cases h⟩
  | n + 1 => (gateRun_counts n).step w cfg

theorem gateRun_stays {n : Nat} {outcome : GateOutcome} (h : (gateRun w cfg n).outcome = some outcome) :
    ∀ m, n ≤ m → gateRun w cfg m = gateRun w cfg n := by
  intro m hm
  induction m, hm using Nat.le_induction with
  | base => rfl
  | succ m hm ih => rw [gateRun, ih, GateState.step, h]

/-- The `i`-th pass leaves the loop: the attempt would be late, or it ends a streak that is long enough. -/
def Leaves (i : Nat) : Prop :=
  gateDeadline w cfg < w.monotonic i ∨ cfg.stableSuccessCount ≤ streak w.succeeds i

/-- **While no pass leaves the loop, each makes one attempt.** -/
theorem gateRun_running (hk : 1 ≤ cfg.stableSuccessCount) : ∀ n, (∀ i, 1 ≤ i → i ≤ n → ¬ Leaves w cfg i) →
    (gateRun w cfg n).outcome = none ∧ (gateRun w cfg n).attempt = n
  | 0, _ => ⟨if_neg (by omega), rfl⟩
  | n + 1, h => by
    obtain ⟨hnone, hattempt⟩ := gateRun_running hk n (fun i hi hin => h i hi (by omega))
    have hstay := h (n + 1) (by omega) (Nat.le_refl _)
    simp only [Leaves, not_or, not_lt, not_le] at hstay
    have houtcome := tryOnce_outcome w cfg hk (gateRun_counts w cfg n) hnone
    rw [hattempt, if_neg (not_le.2 hstay.2)] at houtcome
    rw [gateRun, GateState.step, hnone]
    simp only [hattempt, if_pos hstay.1]
    exact ⟨houtcome, by rw [(tryOnce_eq w cfg _).1, hattempt]⟩

theorem leaves_firstStreak (hk : 1 ≤ cfg.stableSuccessCount) {m : Nat} (honTime : OnTime w cfg m)
    (hfirst : FirstStreak w.succeeds cfg.stableSuccessCount.toNat m) :
    1 ≤ m ∧ Leaves w cfg m ∧ ∀ i, 1 ≤ i → i < m → ¬ Leaves w cfg i := by
  obtain ⟨hlong, hbefore⟩ := (firstStreak_iff w.succeeds _ m).1 hfirst
  refine ⟨?_, Or.inr (by omega), fun i hi him => ?_⟩
  · have := hfirst.1.1
    omega
  · have hearly := honTime i hi (by omega)
    have hshort := hbefore i him
    rintro (h | h)
    · exact absurd hearly (not_le.2 h)
    · omega

/-- **The gate opens** when the next attempt is on time and ends a streak that is long enough. -/
theorem gateRun_ready (hk : 1 ≤ cfg.stableSuccessCount) {n : Nat} (hbefore : ∀ i, 1 ≤ i → i ≤ n → ¬ Leaves w cfg i)
    (htime : w.monotonic (n + 1) ≤ gateDeadline w cfg)
    (hstreak : cfg.stableSuccessCount ≤ streak w.succeeds (n + 1)) :
    (gateRun w cfg (n + 1)).attempt = n + 1 ∧
      (gateRun w cfg (n + 1)).outcome = some (.ready (n + 1) cfg.resolvedBaseUrl cfg.stableSuccessCount) ∧
      OnTime w cfg (n + 1) ∧ FirstStreak w.succeeds cfg.stableSuccessCount.toNat (n + 1) := by
  obtain ⟨hnone, hattempt⟩ := gateRun_running w cfg hk n hbefore
  have hstep : gateRun w cfg (n + 1) = (gateRun w cfg n).tryOnce w cfg := by
    rw [gateRun, GateState.step, hnone]
    simp only [hattempt, if_pos htime]
  have houtcome := tryOnce_outcome w cfg hk (gateRun_counts w cfg n) hnone
  rw [hattempt, if_pos hstreak, ← hstep] at houtcome
  refine ⟨by rw [hstep, (tryOnce_eq w cfg _).1, hattempt], houtcome, fun i hi hin => ?_, ?_⟩
  · rcases Nat.lt_or_ge n i with h | h
    · rw [show i = n + 1 by omega]
      exact htime
    · exact not_lt.1 (fun hl => hbefore i hi h (Or.inl hl))
  · rw [firstStreak_iff]
    refine ⟨by omega, fun i hi => ?_⟩
    rcases Nat.eq_zero_or_pos i with rfl | hpos
    · rw [Streaks.streak]
      omega
    · have := hbefore i hpos (by omega)
      simp only [Leaves, not_or, not_le] at this
      omega

/-- When the next attempt would be late, no first streak is on time. -/
theorem gateRun_late (hk : 1 ≤ cfg.stableSuccessCount) {n : Nat} (hbefore : ∀ i, 1 ≤ i → i ≤ n → ¬ Leaves w cfg i)
    (htime : ¬ w.monotonic (n + 1) ≤ gateDeadline w cfg) :
    gateRun w cfg (n + 1) = { gateRun w cfg n with
        outcome := some (.timeoutError (gateTimeoutText n cfg.baseUrl (gateRun w cfg n).shownError)) } ∧
      ∀ m, FirstStreak w.succeeds cfg.stableSuccessCount.toNat m → ¬ OnTime w cfg m := by
  obtain ⟨hnone, hattempt⟩ := gateRun_running w cfg hk n hbefore
  refine ⟨?_, fun m hfirst honTime => ?_⟩
  · rw [gateRun, GateState.step, hnone]
    simp only [hattempt, if_neg htime]
  · obtain ⟨hm, hleaves, -⟩ := leaves_firstStreak w cfg hk honTime hfirst
    rcases Nat.lt_or_ge n m with h | h
    · exact htime (honTime (n + 1) (by omega) h)
    · exact hbefore m hm h hleaves

/-- **The gate opens exactly on the first attempt that ends a streak of the length asked for, if no attempt up to it is
late; else the wait ends in a timeout.** -/
theorem gate_exact (hk : 1 ≤ cfg.stableSuccessCount) (hmono : Monotone w.monotonic)
    (hpass : ∃ i, gateDeadline w cfg < w.monotonic i) :
    (∀ n, (gateRun w cfg n).Counts w cfg) ∧
    ∃ n outcome, (gateRun w cfg n).outcome = some outcome ∧ (∀ m, n ≤ m → gateRun w cfg m = gateRun w cfg n) ∧
      ((OnTime w cfg (gateRun w cfg n).attempt ∧
          FirstStreak w.succeeds cfg.stableSuccessCount.toNat (gateRun w cfg n).attempt ∧
          outcome = .ready (gateRun w cfg n).attempt cfg.resolvedBaseUrl cfg.stableSuccessCount) ∨
        ((∀ m, FirstStreak w.succeeds cfg.stableSuccessCount.toNat m → ¬ OnTime w cfg m) ∧
          outcome = .timeoutError
            (gateTimeoutText (gateRun w cfg n).attempt cfg.baseUrl (gateRun w cfg n).shownError))) := by
  classical
  refine ⟨gateRun_counts w cfg, ?_⟩
  obtain ⟨late, hlate⟩ := hpass
  have hex : ∃ i, Leaves w cfg (i + 1) := ⟨late, Or.inl (lt_of_lt_of_le hlate (hmono (Nat.le_succ late)))⟩
  -- the first pass that leaves the loop follows `n` attempts
  obtain ⟨n, hleaves, hmin⟩ : ∃ n, Leaves w cfg (n + 1) ∧ ∀ i < n, ¬ Leaves w cfg (i + 1) :=
    ⟨Nat.find hex, Nat.find_spec hex, fun i hi => Nat.find_min hex hi⟩
  have hbefore : ∀ i, 1 ≤ i → i ≤ n → ¬ Leaves w cfg i := by
    intro i hi hin
    obtain ⟨j, rfl⟩ := Nat.exists_eq_add_of_le' hi
    exact hmin j (by omega)
  by_cases htime : w.monotonic (n + 1) ≤ gateDeadline w cfg
  · obtain ⟨hattempt, houtcome, honTime, hfirst⟩ :=
      gateRun_ready w cfg hk hbefore htime (hleaves.resolve_left (not_lt.2 htime))
    refine ⟨n + 1, _, houtcome, gateRun_stays w cfg houtcome, Or.inl ?_⟩
    rw [hattempt]
    exact ⟨honTime, hfirst, rfl⟩
  · obtain ⟨hstep, hlate⟩ := gateRun_late w cfg hk hbefore htime
    have houtcome : (gateRun w cfg (n + 1)).outcome =
        some (.timeoutError (gateTimeoutText n cfg.baseUrl (gateRun w cfg n).shownError)) := by rw [hstep]
    refine ⟨n + 1, _, houtcome, gateRun_stays w cfg houtcome, Or.inr ⟨hlate, ?_⟩⟩
    rw [hstep]
    show _ = GateOutcome.timeoutError (gateTimeoutText (gateRun w cfg n).attempt cfg.baseUrl _)
    rw [(gateRun_running w cfg hk n hbefore).2]
    rfl

end

/-- An API that is down for the first attempt and up from then on, with an attempt a second. -/
def startingWorld : GateWorld where
  signin i := if i = 1 then .error "connection refused" else .ok (200, [("token", .str "t")])
  probe _ _ := .ok (200, [])
  monotonic i := (i : ℚ)

def startingConfig : GateConfig := ⟨"http://liderapi:8080/", "http://10.0.0.2:8080", 5, 2⟩

theorem gate_exact_starting : ∃ n m, FirstStreak startingWorld.succeeds 2 m ∧
    (gateRun startingWorld startingConfig n).outcome = some (.ready m "http://10.0.0.2:8080" 2) := by
  obtain ⟨-, n, outcome, houtcome, -, hcase⟩ := gate_exact startingWorld startingConfig (by decide)
    (fun _ _ h => Nat.cast_le.2 h) ⟨6, by norm_num [gateDeadline, startingWorld, startingConfig]⟩
  rcases hcase with ⟨-, hfirst, rfl⟩ | ⟨hnever, -⟩
  · exact ⟨n, _, hfirst, houtcome⟩
  · have hfirst : FirstStreak startingWorld.succeeds 2 3 := (firstStreak_iff _ _ _).2 ⟨by decide, by decide⟩
    have honTime : OnTime startingWorld startingConfig 3 := fun i _ hi =>
      le_trans (Nat.cast_le.2 hi) (by norm_num [gateDeadline, startingWorld, startingConfig])
    exact absurd honTime (hnever 3 hfirst)

end Lider
