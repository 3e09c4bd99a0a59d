import LiderPlatform.JavaText
import LiderPlatform.StaleCache
import Mathlib.Data.Finset.Insert
import Mathlib.Data.List.Induction
/-!
# AgentPresence — the cache of the presence provider (`EjabberdAgentPresenceProvider`)

The connected users of ejabberd are cached, with two ages in `long` milliseconds.  The provider is a `StaleCache` at the
readings of the clock it takes (`getOnlineRecipients_abs`); no difference of two of them wraps.
-/
namespace Lider

open Java StaleCache

/-! ## The cache -/

/-- The set of recipients that are online, under all their forms. -/
abbrev Recipients := Finset JString

def cacheTtl : Int64 := 3000

def staleCacheTtl : Int64 := 30000

/-- One invocation: the clock on entry and under the lock, and what a fetch gives, or the message of what it throws. -/
structure PresenceCall where
  entered : Int64
  locked : Int64
  fetched : Except String Recipients

/-- The fields of the provider, with the fetches it started and the results it stored. -/
structure AgentPresence where
  cachedRecipients : Recipients
  cachedAt : Int64
  fetches : List (Int64 × Except String Recipients)
  stores : List (Int64 × Recipients)

namespace AgentPresence

def initial : AgentPresence := ⟨∅, 0, [], []⟩

def store (p : AgentPresence) (now : Int64) (recipients : Recipients) : AgentPresence :=
  { p with cachedRecipients := recipients, cachedAt := now, stores := p.stores ++ [(now, recipients)] }

def getOnlineRecipients (p : AgentPresence) (k : PresenceCall) : Recipients × AgentPresence :=
  if k.entered - p.cachedAt ≤ cacheTtl then (p.cachedRecipients, p)
  else if k.locked - p.cachedAt ≤ cacheTtl then (p.cachedRecipients, p)
  else
    let p' := { p with fetches := p.fetches ++ [(k.locked, k.fetched)] }
    match k.fetched with
    | .ok refreshed => (refreshed, p'.store k.locked refreshed)
    | .error _ =>
      if k.locked - p.cachedAt ≤ staleCacheTtl ∧ p.cachedRecipients ≠ ∅ then (p.cachedRecipients, p')
      else (∅, p'.store k.locked ∅)

def run (calls : List PresenceCall) : AgentPresence := calls.foldl (fun p k => (p.getOnlineRecipients k).2) initial

/-- The last reading of the clock that a call takes. -/
def reading (p : AgentPresence) (k : PresenceCall) : Int64 :=
  if k.entered - p.cachedAt ≤ cacheTtl then k.entered else k.locked

/-- The provider as a cache, with times in the integers. -/
def abs (p : AgentPresence) : State Recipients where
  value := p.cachedRecipients
  since := p.cachedAt.toInt
  fetches := p.fetches.map (fun f => (f.1.toInt, f.2.toOption))
  stores := p.stores.map (fun s => (s.1.toInt, s.2))

/-- The age of the cache does not wrap: it counts from zero, or from an earlier reading that was not negative. -/
def InRange (p : AgentPresence) (now : Int64) : Prop :=
  0 ≤ p.cachedAt.toInt ∧ (p.cachedAt.toInt = 0 ∨ p.cachedAt.toInt ≤ now.toInt)

theorem InRange.age {p : AgentPresence} {now : Int64} (h : p.InRange now) :
    (now - p.cachedAt).toInt = now.toInt - p.cachedAt.toInt := by
  have hzero := h.1
  have hlow := now.le_toInt
  have hhigh := now.toInt_lt
  rw [Int64.toInt_sub, Int.bmod_eq_of_le]
  · rcases h.2 with h0 | h0 <;> omega
  · rcases h.2 with h0 | h0 <;> omega

theorem InRange.mono {p : AgentPresence} {now later : Int64} (h : p.InRange now) (hclock : now ≤ later) :
    p.InRange later :=
  ⟨h.1, h.2.imp_right (fun hle => hle.trans (Int64.le_iff_toInt_le.1 hclock))⟩

theorem InRange.le_ttl_iff {p : AgentPresence} {now : Int64} (h : p.InRange now) {ttl : Int64} {n : Int}
    (hn : ttl.toInt = n) : now - p.cachedAt ≤ ttl ↔ now.toInt - p.abs.since ≤ n := by
  rw [Int64.le_iff_toInt_le, h.age, hn]
  rfl

theorem toInt_cacheTtl : cacheTtl.toInt = 3000 := rfl

theorem toInt_staleCacheTtl : staleCacheTtl.toInt = 30000 := rfl

/-- **The provider is a `StaleCache`** at the readings it takes. -/
theorem getOnlineRecipients_abs {p : AgentPresence} {k : PresenceCall} (h : p.InRange k.entered)
    (hclock : k.entered ≤ k.locked) :
    ((p.getOnlineRecipients k).1, (p.getOnlineRecipients k).2.abs) =
      p.abs.lookup 3000 30000 ∅ (p.reading k).toInt k.fetched.toOption := by
  have hlocked := h.mono hclock
  unfold getOnlineRecipients reading State.lookup
  by_cases hentered : k.entered - p.cachedAt ≤ cacheTtl
  · rw [if_pos hentered, if_pos hentered, if_pos ((h.le_ttl_iff toInt_cacheTtl).1 hentered)]
    rfl
  rw [if_neg hentered, if_neg hentered]
  by_cases hhit : k.locked - p.cachedAt ≤ cacheTtl
  · rw [if_pos hhit, if_pos ((hlocked.le_ttl_iff toInt_cacheTtl).1 hhit)]
    rfl
  rw [if_neg hhit, if_neg (mt (hlocked.le_ttl_iff toInt_cacheTtl).2 hhit)]
  cases hfetched : k.fetched with
  | ok refreshed => simp [store, abs, Except.toOption]
  | error message =>
    simp only [hlocked.le_ttl_iff toInt_staleCacheTtl, Except.toOption]
    by_cases hkeep : k.locked.toInt - p.abs.since ≤ 30000 ∧ p.abs.value ≠ ∅
    · rw [if_pos hkeep, if_pos (show _ ∧ p.cachedRecipients ≠ ∅ from hkeep)]
      simp [abs, Except.toOption]
    · rw [if_neg hkeep, if_neg (show ¬ (_ ∧ p.cachedRecipients ≠ ∅) from hkeep)]
      simp [store, abs, Except.toOption]

theorem reading_bounds (p : AgentPresence) {k : PresenceCall} (hclock : k.entered ≤ k.locked) :
    k.entered ≤ p.reading k ∧ p.reading k ≤ k.locked := by
  unfold reading
  split
  · exact ⟨Int64.le_refl _, hclock⟩
  · exact ⟨hclock, Int64.le_refl _⟩

/-- A result is stored at a reading that is not negative, since the cache is older than `CACHE_TTL` then. -/
theorem InRange.call {p : AgentPresence} {k : PresenceCall} (h : p.InRange k.entered) (hclock : k.entered ≤ k.locked) :
    (p.getOnlineRecipients k).2.InRange k.locked := by
  have hlocked := h.mono hclock
  unfold getOnlineRecipients
  by_cases hentered : k.entered - p.cachedAt ≤ cacheTtl
  · rw [if_pos hentered]
    exact hlocked
  rw [if_neg hentered]
  by_cases hhit : k.locked - p.cachedAt ≤ cacheTtl
  · rw [if_pos hhit]
    exact hlocked
  rw [if_neg hhit]
  have hstore : 0 ≤ k.locked.toInt := by
    have hzero := h.1
    have hage := mt (hlocked.le_ttl_iff toInt_cacheTtl).2 hhit
    simp only [abs] at hage
    omega
  cases k.fetched with
  | ok refreshed => exact ⟨hstore, .inr le_rfl⟩
  | error message =>
    simp only
    split
    · exact hlocked
    · exact ⟨hstore, .inr le_rfl⟩

/-- What holds between calls, once the clock has shown `now`. -/
structure Steady (p : AgentPresence) (now : Int64) : Prop where
  sound : Sound ∅ p.abs now.toInt
  inRange : p.InRange now

theorem steady_initial (now : Int64) : initial.Steady now where
  sound := sound_initial now.toInt
  inRange := ⟨le_rfl, .inl rfl⟩

/-- **One call is fresh**, and keeps the provider steady. -/
theorem Steady.call {p : AgentPresence} {before : Int64} (h : p.Steady before) {k : PresenceCall}
    (hbefore : before ≤ k.entered) (hclock : k.entered ≤ k.locked) :
    Fresh 3000 30000 ∅ p.abs (p.getOnlineRecipients k).2.abs (p.reading k).toInt k.fetched.toOption
        (p.getOnlineRecipients k).1 ∧
      (p.getOnlineRecipients k).2.Steady k.locked := by
  have hentered := h.inRange.mono hbefore
  have hreading := p.reading_bounds hclock
  have hfresh := h.sound.lookup (Int64.le_iff_toInt_le.1 (Int64.le_trans hbefore hreading.1))
    (show (3000 : Int) ≤ 30000 by decide) (by decide) k.fetched.toOption
  rw [← getOnlineRecipients_abs hentered hclock] at hfresh
  exact ⟨hfresh.1, hfresh.2.mono (Int64.le_iff_toInt_le.1 hreading.2), hentered.call hclock⟩

/-- By induction on the calls made, each at readings after those before it. -/
theorem steady_run {done : List PresenceCall} {now : Int64}
    (hclock : (done.flatMap (fun k => [k.entered, k.locked])).Pairwise (· ≤ ·))
    (hnow : ∀ t ∈ done.flatMap (fun k => [k.entered, k.locked]), t ≤ now) : (run done).Steady now := by
  induction done using List.reverseRecOn generalizing now with
  | nil => exact steady_initial now
  | append_singleton done k ih =>
    rw [List.flatMap_append, List.flatMap_singleton] at hclock hnow
    obtain ⟨hdone, hk, hbefore⟩ := List.pairwise_append.1 hclock
    have hsteady : (run done).Steady k.entered := ih hdone (fun t ht => hbefore t ht k.entered (by simp))
    have hcall := (hsteady.call (Int64.le_refl _) (List.rel_of_pairwise_cons hk (by simp))).2
    have hlast : k.locked ≤ now := hnow k.locked (by simp)
    rw [run, List.foldl_append]
    exact ⟨hcall.sound.mono (Int64.le_iff_toInt_le.1 hlast), hcall.inRange.mono hlast⟩

end AgentPresence

/-- **Every call of a run is fresh**: what it answers was fetched within 30 s unless it is empty, a fetch it starts is
more than 3 s after the last stored result, and a failed fetch does not cost it a result of the last 30 s. -/
theorem getOnlineRecipients_fresh (calls : List PresenceCall)
    (hclock : (calls.flatMap (fun k => [k.entered, k.locked])).Pairwise (· ≤ ·)) :
    ∀ done k rest, calls = done ++ k :: rest →
      Fresh 3000 30000 ∅ (AgentPresence.run done).abs (AgentPresence.run (done ++ [k])).abs
        ((AgentPresence.run done).reading k).toInt k.fetched.toOption
        ((AgentPresence.run done).getOnlineRecipients k).1 := by
  rintro done k rest rfl
  rw [List.flatMap_append, List.flatMap_cons] at hclock
  obtain ⟨hdone, hk, hbefore⟩ := List.pairwise_append.1 hclock
  have hsteady : (AgentPresence.run done).Steady k.entered :=
    AgentPresence.steady_run hdone (fun t ht => hbefore t ht k.entered (by simp))
  have hstep : AgentPresence.run (done ++ [k]) = ((AgentPresence.run done).getOnlineRecipients k).2 := by
    rw [AgentPresence.run, List.foldl_append]
    rfl
  rw [hstep]
  exact (hsteady.call (Int64.le_refl _) (List.rel_of_pairwise_cons hk (by simp))).1

/-- A fetch that finds one agent, and one that fails ten seconds later. -/
def sampleCalls : List PresenceCall :=
  [⟨100000, 100001, .ok {utf16 "ahenk-001".toList}⟩, ⟨110000, 110000, .error "HTTP 503"⟩]

theorem sampleCalls_fresh :
    Fresh 3000 30000 ∅ (AgentPresence.run (sampleCalls.take 1)).abs (AgentPresence.run sampleCalls).abs 110000 none
      {utf16 "ahenk-001".toList} :=
  getOnlineRecipients_fresh sampleCalls (by decide) (sampleCalls.take 1) ⟨110000, 110000, .error "HTTP 503"⟩ [] rfl

end Lider
