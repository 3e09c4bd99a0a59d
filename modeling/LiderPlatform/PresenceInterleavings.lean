import LiderPlatform.PresenceThreads
/-!
# PresenceInterleavings — what holds of the presence provider in every interleaving

The outline ties the fields to the provider called one at a time, in the order of the lock, but for the holder between
its two writes.  A call without the lock rests on one fact: the recipients are written before the stamp, so that they
are never older than it says.
-/
namespace Lider.PresenceThreads

open Java StaleCache Monitors AgentPresence

variable {ι : Type}

/-! ## The outline -/

section
variable (s : Provider ι) (now : Int64)

/-- The fields are those of the provider after its fetches. -/
def Synced : Prop :=
  s.cachedRecipients = (AgentPresence.run s.fetches).cachedRecipients ∧
    s.cachedAt = (AgentPresence.run s.fetches).cachedAt

/-- A reading of the clock, taken before now. -/
def Reading : Prop := 0 ≤ now.toInt ∧ now.toInt ≤ s.clock.toInt

/-- What is not empty was fetched at most 30 s before the call read the clock last. -/
def Answered (answer : Option Recipients) : Prop :=
  ∀ r, answer = some r → r = ∅ ∨ ∃ k ∈ s.fetches, k.fetched = .ok r ∧ now.toInt - k.locked.toInt ≤ 30000

/-- The answer is that of the provider to one call at `now`, which leaves it as it is now. -/
def Sequential (answer : Option Recipients) : Prop :=
  ∀ r, answer = some r → ∃ done fetched,
    (AgentPresence.run done).getOnlineRecipients ⟨now, now, fetched⟩ = (r, AgentPresence.run s.fetches)

/-- About to store `recipients` at `now`, or between the two writes. -/
structure Storing (recipients : Recipients) : Prop where
  reading : Reading s now
  value : (AgentPresence.run s.fetches).cachedRecipients = recipients
  stamp : (AgentPresence.run s.fetches).cachedAt = now
  before : s.cachedAt.toInt ≤ now.toInt
  sequential : Sequential s now (some recipients)

/-- After a fetch that threw an exception, before what follows from it is decided. -/
structure Failing : Prop where
  reading : Reading s now
  due : ¬ now - s.cachedAt ≤ cacheTtl
  fetch : ∃ done message, s.fetches = done ++ [⟨now, now, .error message⟩] ∧
    s.cachedRecipients = (AgentPresence.run done).cachedRecipients ∧ s.cachedAt = (AgentPresence.run done).cachedAt

end

/-- What holds of the shared fields. -/
structure Inv (s : Provider ι) : Prop where
  logged : Logged s.fetches
  past : ∀ k ∈ s.fetches, k.locked.toInt ≤ s.clock.toInt
  clock : 0 ≤ s.clock.toInt
  stamp : 0 ≤ s.cachedAt.toInt
  /-- The recipients are never older than the stamp says, since they are written first. -/
  value : s.cachedRecipients = ∅ ∨
    ∃ k ∈ s.fetches, k.fetched = .ok s.cachedRecipients ∧ s.cachedAt.toInt ≤ k.locked.toInt
  free : s.refreshLock = none → Synced s

/-- What holds of a call, for each place it can be at. -/
def Asserted : CallState → Provider ι → Prop
  | .idle, _ => True
  | .entered now, s => Reading s now
  | .hit now, s => Reading s now ∧ now.toInt - s.cachedAt.toInt ≤ 3000
  | .contending, _ => True
  | .locked, s => Synced s
  | .relocked now, s => Synced s ∧ Reading s now ∧ ∀ k ∈ s.fetches, k.locked.toInt ≤ now.toInt
  | .lockedHit now, s => Synced s ∧ Reading s now ∧ now - s.cachedAt ≤ cacheTtl
  | .fetching now, s =>
    Synced s ∧ Reading s now ∧ (∀ k ∈ s.fetches, k.locked.toInt ≤ now.toInt) ∧ ¬ now - s.cachedAt ≤ cacheTtl
  | .refreshed now recipients, s => Storing s now recipients
  | .stamping now recipients, s => Storing s now recipients ∧ s.cachedRecipients = recipients
  | .failed now, s => Failing s now
  | .checking now, s => Failing s now ∧ now - s.cachedAt ≤ staleCacheTtl
  | .stale now, s => Synced s ∧ Reading s now ∧ now - s.cachedAt ≤ staleCacheTtl ∧ Sequential s now (some s.cachedRecipients)
  | .emptying now, s => Storing s now ∅
  | .emptyStamping now, s => Storing s now ∅ ∧ s.cachedRecipients = ∅
  | .emptied now, s => Synced s ∧ s.cachedRecipients = ∅ ∧ Sequential s now (some ∅)
  | .leaving now answer, s => Synced s ∧ Sequential s now answer ∧ Answered s now answer
  | .returned now answer, s => Answered s now answer

/-- What no step takes back. -/
structure Grows (s s' : Provider ι) : Prop where
  clock : s.clock.toInt ≤ s'.clock.toInt
  stamp : s.cachedAt.toInt ≤ s'.cachedAt.toInt
  fetches : ∀ k ∈ s.fetches, k ∈ s'.fetches

/-- What is not done without the lock. -/
structure Quiet (s s' : Provider ι) : Prop where
  clock : s.clock.toInt ≤ s'.clock.toInt
  recipients : s'.cachedRecipients = s.cachedRecipients
  stamp : s'.cachedAt = s.cachedAt
  fetches : s'.fetches = s.fetches

def outline (ι : Type) : Outline (Provider ι) CallState := ⟨Inv, Asserted, Quiet, Grows⟩

section
variable {s s' : Provider ι} {now : Int64}

theorem Grows.refl (s : Provider ι) : Grows s s := ⟨le_rfl, le_rfl, fun _ h => h⟩

theorem Quiet.refl (s : Provider ι) : Quiet s s := ⟨le_rfl, rfl, rfl, rfl⟩

theorem Reading.mono (h : Reading s now) (hclock : s.clock.toInt ≤ s'.clock.toInt) : Reading s' now :=
  ⟨h.1, h.2.trans hclock⟩

theorem Answered.mono {answer : Option Recipients} (h : Answered s now answer) (hgrows : Grows s s') :
    Answered s' now answer := fun r hr =>
  (h r hr).imp_right (fun ⟨k, hk, hok, hage⟩ => ⟨k, hgrows.fetches k hk, hok, hage⟩)

theorem Quiet.synced (h : Quiet s s') (hs : Synced s) : Synced s' := by
  unfold Synced
  rw [h.recipients, h.stamp, h.fetches]
  exact hs

theorem Quiet.sequential (h : Quiet s s') {answer : Option Recipients} (hs : Sequential s now answer) :
    Sequential s' now answer := by
  unfold Sequential
  rw [h.fetches]
  exact hs

theorem Quiet.storing (h : Quiet s s') {recipients : Recipients} (hs : Storing s now recipients) :
    Storing s' now recipients where
  reading := hs.reading.mono h.clock
  value := h.fetches ▸ hs.value
  stamp := h.fetches ▸ hs.stamp
  before := h.stamp ▸ hs.before
  sequential := h.sequential hs.sequential

theorem Quiet.failing (h : Quiet s s') (hs : Failing s now) : Failing s' now where
  reading := hs.reading.mono h.clock
  due := h.stamp ▸ hs.due
  fetch := by
    rw [h.fetches, h.recipients, h.stamp]
    exact hs.fetch

/-- A call with the lock keeps what it has as long as no other writes. -/
theorem Asserted.keep {l : CallState} (hl : inside l = true) (h : Asserted l s) (hq : Quiet s s') : Asserted l s' := by
  have hgrows : Grows s s' := ⟨hq.clock, by rw [hq.stamp], fun k hk => by rwa [hq.fetches]⟩
  cases l with
  | idle | entered | hit | contending | returned => exact nomatch hl
  | locked => exact hq.synced h
  | relocked now => exact ⟨hq.synced h.1, h.2.1.mono hq.clock, hq.fetches ▸ h.2.2⟩
  | lockedHit now => exact ⟨hq.synced h.1, h.2.1.mono hq.clock, hq.stamp ▸ h.2.2⟩
  | fetching now => exact ⟨hq.synced h.1, h.2.1.mono hq.clock, hq.fetches ▸ h.2.2.1, hq.stamp ▸ h.2.2.2⟩
  | refreshed now recipients => exact hq.storing h
  | stamping now recipients => exact ⟨hq.storing h.1, hq.recipients.trans h.2⟩
  | failed now => exact hq.failing h
  | checking now => exact ⟨hq.failing h.1, hq.stamp ▸ h.2⟩
  | stale now =>
    refine ⟨hq.synced h.1, h.2.1.mono hq.clock, hq.stamp ▸ h.2.2.1, ?_⟩
    rw [hq.recipients]
    exact hq.sequential h.2.2.2
  | emptying now => exact hq.storing h
  | emptyStamping now => exact ⟨hq.storing h.1, hq.recipients.trans h.2⟩
  | emptied now => exact ⟨hq.synced h.1, hq.recipients.trans h.2.1, hq.sequential h.2.2⟩
  | leaving now answer => exact ⟨hq.synced h.1, hq.sequential h.2.1, h.2.2.mono hgrows⟩

/-- A call without the lock keeps what it has whatever the others do: the stamp it found fresh only grows. -/
theorem Asserted.stable {l : CallState} (hl : ¬ inside l = true) (h : Asserted l s) (hg : Grows s s') : Asserted l s' := by
  cases l with
  | idle | contending => trivial
  | entered now => exact h.mono hg.clock
  | hit now => exact ⟨h.1.mono hg.clock, (Int.sub_le_sub_left hg.stamp _).trans h.2⟩
  | returned now answer => exact h.mono hg
  | _ => exact absurd rfl hl

end

/-! ## One step -/

section
variable {s s' : Provider ι} {now : Int64} {l' : CallState}

/-- What is to be shown of a step from `s` to `s'` and `l'`; `held` says that it is taken with the lock. -/
structure Stepped (held : Prop) (s s' : Provider ι) (l' : CallState) : Prop where
  inv : Inv s'
  asserted : Asserted l' s'
  grows : Grows s s'
  quiet : ¬ held → Quiet s s'

/-- A step that only reads. -/
theorem Stepped.read {held : Prop} (hinv : Inv s) (hasserted : Asserted l' s) : Stepped held s s l' :=
  ⟨hinv, hasserted, .refl s, fun _ => .refl s⟩

theorem Inv.reading (h : Inv s) : Reading s s.clock := ⟨h.clock, le_rfl⟩

theorem Inv.age_le_iff (h : Inv s) (hnow : Reading s now) {ttl : Int64} :
    now - s.cachedAt ≤ ttl ↔ now.toInt - s.cachedAt.toInt ≤ ttl.toInt :=
  PresenceThreads.age_le_iff hnow.1 h.stamp

theorem Inv.before (h : Inv s) (hnow : Reading s now) (hdue : ¬ now - s.cachedAt ≤ cacheTtl) :
    s.cachedAt.toInt ≤ now.toInt := by
  rw [h.age_le_iff hnow, toInt_cacheTtl] at hdue
  omega

/-- What the provider holds may be answered while its stamp is at most 30 s old. -/
theorem Inv.answered (h : Inv s) (hs : Synced s) (hage : now.toInt - s.cachedAt.toInt ≤ 30000) :
    Answered s now (some s.cachedRecipients) := by
  rintro r ⟨⟩
  rw [hs.1]
  refine (h.logged.value h.past).imp_right (fun ⟨k, hk, hok, hstamp⟩ => ⟨k, hk, hok, ?_⟩)
  rw [hstamp, ← hs.2]
  exact hage

/-- A fetch ends: it is one that the provider makes too. -/
theorem Inv.finish (h : Inv s) (hheld : s.refreshLock ≠ none) (hs : Synced s) (hnow : Reading s now)
    (hlatest : ∀ k ∈ s.fetches, k.locked.toInt ≤ now.toInt) (hdue : ¬ now - s.cachedAt ≤ cacheTtl)
    (fetched : Except String Recipients) : Inv (s.finish now fetched) where
  logged := .snoc h.logged hlatest (hs.2 ▸ hdue)
  past := by
    intro k hk
    rcases List.mem_append.1 hk with hk | hk
    · exact h.past k hk
    · rw [List.mem_singleton.1 hk]
      exact hnow.2
  clock := h.clock
  stamp := h.stamp
  value := h.value.imp_right (fun ⟨k, hk, hok⟩ => ⟨k, List.mem_append_left _ hk, hok⟩)
  free := fun hfree => absurd hfree hheld

theorem Grows.finish (s : Provider ι) (now : Int64) (fetched : Except String Recipients) : Grows s (s.finish now fetched) :=
  ⟨le_rfl, le_rfl, fun _ hk => List.mem_append_left _ hk⟩

theorem Storing.ofFinish (h : Inv s) (hs : Synced s) (hnow : Reading s now) (hdue : ¬ now - s.cachedAt ≤ cacheTtl)
    (recipients : Recipients) : Storing (s.finish now (.ok recipients)) now recipients := by
  have hcall := getOnlineRecipients_ok (hs.2 ▸ hdue) recipients
  have hrun : AgentPresence.run (s.finish now (.ok recipients)).fetches =
      (noting (AgentPresence.run s.fetches) now (.ok recipients)).store now recipients := by
    rw [Provider.finish, run_append, hcall]
  refine ⟨hnow, by rw [hrun]; rfl, by rw [hrun]; rfl, h.before hnow hdue, ?_⟩
  rintro _ ⟨⟩
  exact ⟨s.fetches, .ok recipients, by rw [hcall, hrun]⟩

/-- A failure that costs the provider its recipients. -/
theorem Failing.emptying (h : Inv s) (hf : Failing s now)
    (hdrop : ¬ (now - s.cachedAt ≤ staleCacheTtl ∧ s.cachedRecipients ≠ ∅)) : Storing s now ∅ := by
  obtain ⟨done, message, hfetches, hvalue, hstamp⟩ := hf.fetch
  have hcall := getOnlineRecipients_emptied (hstamp ▸ hf.due) (hvalue ▸ hstamp ▸ hdrop) message
  have hrun : AgentPresence.run s.fetches = (noting (AgentPresence.run done) now (.error message)).store now ∅ := by
    rw [hfetches, run_append, hcall]
  refine ⟨hf.reading, by rw [hrun]; rfl, by rw [hrun]; rfl, h.before hf.reading hf.due, ?_⟩
  rintro _ ⟨⟩
  exact ⟨done, .error message, by rw [hcall, hrun]⟩

/-- A failure that does not. -/
theorem Failing.stale (hf : Failing s now) (hstale : now - s.cachedAt ≤ staleCacheTtl) (hne : s.cachedRecipients ≠ ∅) :
    Synced s ∧ Sequential s now (some s.cachedRecipients) := by
  obtain ⟨done, message, hfetches, hvalue, hstamp⟩ := hf.fetch
  have hcall := getOnlineRecipients_stale (hstamp ▸ hf.due) (hstamp ▸ hstale) (hvalue ▸ hne) message
  have hrun : AgentPresence.run s.fetches = noting (AgentPresence.run done) now (.error message) := by
    rw [hfetches, run_append, hcall]
  refine ⟨⟨by rw [hrun]; exact hvalue, by rw [hrun]; exact hstamp⟩, ?_⟩
  rintro _ ⟨⟩
  exact ⟨done, .error message, by rw [hcall, hrun, hvalue]⟩

/-- The first write: the recipients, under the stamp of what they replace. -/
theorem Storing.writeRecipients {recipients : Recipients} (h : Inv s) (hheld : s.refreshLock ≠ none)
    (hs : Storing s now recipients) :
    Inv { s with cachedRecipients := recipients } ∧ Storing { s with cachedRecipients := recipients } now recipients := by
  refine ⟨⟨h.logged, h.past, h.clock, h.stamp, ?_, fun hfree => absurd hfree hheld⟩,
    ⟨hs.reading, hs.value, hs.stamp, hs.before, hs.sequential⟩⟩
  rcases h.logged.value h.past with hempty | ⟨k, hk, hok, hstamp⟩
  · exact .inl (hs.value.symm.trans hempty)
  · refine .inr ⟨k, hk, hs.value ▸ hok, ?_⟩
    rw [hstamp, hs.stamp]
    exact hs.before

/-- The second write: the stamp. -/
theorem Storing.writeStamp {recipients : Recipients} (h : Inv s) (hs : Storing s now recipients)
    (hvalue : s.cachedRecipients = recipients) :
    Inv { s with cachedAt := now } ∧ Synced { s with cachedAt := now } ∧ Grows s { s with cachedAt := now } := by
  have hsynced : Synced { s with cachedAt := now } := ⟨hvalue.trans hs.value.symm, hs.stamp.symm⟩
  refine ⟨⟨h.logged, h.past, h.clock, hs.reading.1, ?_, fun _ => hsynced⟩, hsynced, le_rfl, hs.before, fun _ hk => hk⟩
  show s.cachedRecipients = ∅ ∨ ∃ k ∈ s.fetches, k.fetched = .ok s.cachedRecipients ∧ now.toInt ≤ k.locked.toInt
  rcases h.logged.value h.past with hempty | ⟨k, hk, hok, hstamp⟩
  · exact .inl (hsynced.1.trans hempty)
  · exact .inr ⟨k, hk, hok.trans (congrArg _ hsynced.1.symm), by rw [hstamp, hs.stamp]⟩

/-- **The spec of a step**, for each place a call can be at. -/
theorem advance_stepped {i : ι} {outcome : Outcome} {l : CallState} (hact : advance i outcome s l = some (s', l'))
    (hheld : inside l = true ↔ s.refreshLock = some i) (hinv : Inv s) (h : Asserted l s) :
    Stepped (inside l = true) s s' l' := by
  have hlock : inside l = true → s.refreshLock ≠ none := fun hl => by simp [hheld.1 hl]
  cases l with
  | idle | returned =>
    simp only [advance, Option.some.injEq, Prod.mk.injEq] at hact
    obtain ⟨rfl, rfl⟩ := hact
    exact .read hinv hinv.reading
  | entered now =>
    simp only [advance, Option.some.injEq, Prod.mk.injEq] at hact
    obtain ⟨rfl, rfl⟩ := hact
    split
    · rename_i hfresh
      exact .read hinv ⟨h, (hinv.age_le_iff h).1 hfresh⟩
    · exact .read hinv trivial
  | hit now =>
    simp only [advance, Option.some.injEq, Prod.mk.injEq] at hact
    obtain ⟨rfl, rfl⟩ := hact
    refine .read hinv ?_
    rintro r ⟨⟩
    refine hinv.value.imp_right ?_
    rintro ⟨k, hk, hok, hstamp⟩
    exact ⟨k, hk, hok, by have := h.2; omega⟩
  | contending =>
    cases hfree : s.refreshLock with
    | some j => simp [advance, hfree] at hact
    | none =>
      simp only [advance, hfree, Option.some.injEq, Prod.mk.injEq] at hact
      obtain ⟨rfl, rfl⟩ := hact
      have hsynced := hinv.free hfree
      exact ⟨⟨hinv.logged, hinv.past, hinv.clock, hinv.stamp, hinv.value, fun _ => hsynced⟩, hsynced,
        ⟨le_rfl, le_rfl, fun _ hk => hk⟩, fun _ => ⟨le_rfl, rfl, rfl, rfl⟩⟩
  | locked =>
    simp only [advance, Option.some.injEq, Prod.mk.injEq] at hact
    obtain ⟨rfl, rfl⟩ := hact
    exact .read hinv ⟨h, hinv.reading, hinv.past⟩
  | relocked now =>
    simp only [advance, Option.some.injEq, Prod.mk.injEq] at hact
    obtain ⟨rfl, rfl⟩ := hact
    obtain ⟨hsynced, hnow, hlatest⟩ := h
    split
    · rename_i hfresh
      exact .read hinv ⟨hsynced, hnow, hfresh⟩
    · rename_i hdue
      exact .read hinv ⟨hsynced, hnow, hlatest, hdue⟩
  | lockedHit now =>
    simp only [advance, Option.some.injEq, Prod.mk.injEq] at hact
    obtain ⟨rfl, rfl⟩ := hact
    obtain ⟨hsynced, hnow, hfresh⟩ := h
    have hage := (hinv.age_le_iff hnow).1 hfresh
    rw [toInt_cacheTtl] at hage
    refine .read hinv ⟨hsynced, ?_, hinv.answered hsynced (by omega)⟩
    rintro r ⟨⟩
    exact ⟨s.fetches, .error "", by rw [getOnlineRecipients_hit (hsynced.2 ▸ hfresh), hsynced.1]⟩
  | fetching now =>
    obtain ⟨hsynced, hnow, hlatest, hdue⟩ := h
    cases outcome <;> simp only [advance, Option.some.injEq, Prod.mk.injEq] at hact <;> obtain ⟨rfl, rfl⟩ := hact
    case refreshed recipients =>
      exact ⟨hinv.finish (hlock rfl) hsynced hnow hlatest hdue _, Storing.ofFinish hinv hsynced hnow hdue recipients,
        .finish .., fun hn => absurd rfl hn⟩
    case exception message =>
      exact ⟨hinv.finish (hlock rfl) hsynced hnow hlatest hdue _,
        ⟨hnow, hdue, s.fetches, message, rfl, hsynced.1, hsynced.2⟩, .finish .., fun hn => absurd rfl hn⟩
    case error =>
      refine .read hinv ⟨hsynced, ?_, ?_⟩ <;> rintro _ ⟨⟩
  | refreshed now recipients =>
    simp only [advance, Option.some.injEq, Prod.mk.injEq] at hact
    obtain ⟨rfl, rfl⟩ := hact
    obtain ⟨hinv', hstoring⟩ := h.writeRecipients hinv (hlock rfl)
    exact ⟨hinv', ⟨hstoring, rfl⟩, ⟨le_rfl, le_rfl, fun _ hk => hk⟩, fun hn => absurd rfl hn⟩
  | stamping now recipients =>
    simp only [advance, Option.some.injEq, Prod.mk.injEq] at hact
    obtain ⟨rfl, rfl⟩ := hact
    obtain ⟨hstoring, rfl⟩ := h
    obtain ⟨hinv', hsynced, hgrows⟩ := hstoring.writeStamp hinv rfl
    exact ⟨hinv', ⟨hsynced, hstoring.sequential, hinv'.answered hsynced (by simp)⟩, hgrows, fun hn => absurd rfl hn⟩
  | failed now =>
    simp only [advance, Option.some.injEq, Prod.mk.injEq] at hact
    obtain ⟨rfl, rfl⟩ := hact
    split
    · rename_i hstale
      exact .read hinv ⟨h, hstale⟩
    · rename_i hold
      exact .read hinv (h.emptying hinv (fun hkeep => hold hkeep.1))
  | checking now =>
    simp only [advance, Option.some.injEq, Prod.mk.injEq] at hact
    obtain ⟨rfl, rfl⟩ := hact
    split
    · rename_i hne
      obtain ⟨hsynced, hsequential⟩ := h.1.stale h.2 hne
      exact .read hinv ⟨hsynced, h.1.reading, h.2, hsequential⟩
    · rename_i hempty
      exact .read hinv (h.1.emptying hinv (fun hkeep => hempty hkeep.2))
  | stale now =>
    simp only [advance, Option.some.injEq, Prod.mk.injEq] at hact
    obtain ⟨rfl, rfl⟩ := hact
    obtain ⟨hsynced, hnow, hstale, hsequential⟩ := h
    exact .read hinv ⟨hsynced, hsequential, hinv.answered hsynced ((hinv.age_le_iff hnow).1 hstale)⟩
  | emptying now =>
    simp only [advance, Option.some.injEq, Prod.mk.injEq] at hact
    obtain ⟨rfl, rfl⟩ := hact
    obtain ⟨hinv', hstoring⟩ := h.writeRecipients hinv (hlock rfl)
    exact ⟨hinv', ⟨hstoring, rfl⟩, ⟨le_rfl, le_rfl, fun _ hk => hk⟩, fun hn => absurd rfl hn⟩
  | emptyStamping now =>
    simp only [advance, Option.some.injEq, Prod.mk.injEq] at hact
    obtain ⟨rfl, rfl⟩ := hact
    obtain ⟨hinv', hsynced, hgrows⟩ := h.1.writeStamp hinv h.2
    exact ⟨hinv', ⟨hsynced, h.2, h.1.sequential⟩, hgrows, fun hn => absurd rfl hn⟩
  | emptied now =>
    simp only [advance, Option.some.injEq, Prod.mk.injEq] at hact
    obtain ⟨rfl, rfl⟩ := hact
    obtain ⟨hsynced, hempty, hsequential⟩ := h
    rw [hempty]
    refine .read hinv ⟨hsynced, hsequential, ?_⟩
    rintro r ⟨⟩
    exact .inl rfl
  | leaving now answer =>
    simp only [advance, Option.some.injEq, Prod.mk.injEq] at hact
    obtain ⟨rfl, rfl⟩ := hact
    obtain ⟨hsynced, -, hanswered⟩ := h
    exact ⟨⟨hinv.logged, hinv.past, hinv.clock, hinv.stamp, hinv.value, fun _ => hsynced⟩, hanswered,
      ⟨le_rfl, le_rfl, fun _ hk => hk⟩, fun hn => absurd rfl hn⟩

end

theorem outline_sound : Sound (program ι) (outline ι) where
  act := by
    rintro i s l s' l' ⟨outcome, hact⟩ hheld hinv h
    have hstep := advance_stepped hact hheld hinv h
    exact ⟨hstep.inv, hstep.asserted, hstep.grows, hstep.quiet⟩
  env := by
    rintro s s' ⟨clock, hclock, rfl⟩ hinv
    have hclock : s.clock.toInt ≤ clock.toInt := Int64.le_iff_toInt_le.1 hclock
    exact ⟨⟨hinv.logged, fun k hk => (hinv.past k hk).trans hclock, hinv.clock.trans hclock, hinv.stamp, hinv.value,
      hinv.free⟩, ⟨hclock, le_rfl, fun _ hk => hk⟩, ⟨hclock, rfl, rfl, rfl⟩⟩
  keep := fun _ _ _ hl h hq => h.keep hl hq
  stable := fun _ _ _ hl h hg => h.stable hl hg

theorem holds_start {clock : Int64} (hclock : 0 ≤ clock.toInt) : Monitors.Holds (program ι) (outline ι) (start clock) where
  exclusive := by simp [Exclusive, program, start, inside, Provider.initial]
  inv := show Inv (Provider.initial clock) from
    ⟨.nil, fun _ hk => (nomatch hk), hclock, le_rfl, .inl rfl, fun _ => ⟨rfl, rfl⟩⟩
  assert := fun _ => trivial

variable [DecidableEq ι] {clock : Int64} {c : Config ι (Provider ι) CallState}

theorem holds_reach (hclock : 0 ≤ clock.toInt) (hreach : Reach (program ι) (start clock) c) :
    Monitors.Holds (program ι) (outline ι) c :=
  outline_sound.holds disciplined (holds_start hclock) hreach

/-! ## What no interleaving breaks -/

/-- **No answer is stale**: whatever the threads do, what a call returns is empty or was fetched at most 30 s before its
last reading of the clock. -/
theorem returned_fresh (hclock : 0 ≤ clock.toInt) (hreach : Reach (program ι) (start clock) c) (i : ι) (now : Int64)
    (recipients : Recipients) (hreturned : c.thread i = .returned now (some recipients)) :
    recipients = ∅ ∨ ∃ k ∈ c.shared.fetches, k.fetched = .ok recipients ∧ now.toInt - k.locked.toInt ≤ 30000 := by
  have h : Asserted (c.thread i) c.shared := (holds_reach hclock hreach).assert i
  rw [hreturned] at h
  exact h recipients rfl

/-- **The lock puts the fetches in a row**: the provider called one at a time, at their readings, makes the same fetches,
holds the same fields whenever the lock is free, and gives the answer that a call carries out of the lock. -/
theorem synchronized_refines (hclock : 0 ≤ clock.toInt) (hreach : Reach (program ι) (start clock) c) :
    (AgentPresence.run c.shared.fetches).fetches = c.shared.fetches.map (fun k => (k.locked, k.fetched)) ∧
      (c.shared.refreshLock = none → c.shared.cachedRecipients = (AgentPresence.run c.shared.fetches).cachedRecipients ∧
        c.shared.cachedAt = (AgentPresence.run c.shared.fetches).cachedAt) ∧
      ∀ i now recipients, c.thread i = .leaving now (some recipients) →
        ∃ done fetched, (AgentPresence.run done).getOnlineRecipients ⟨now, now, fetched⟩ =
          (recipients, AgentPresence.run c.shared.fetches) := by
  have hholds := holds_reach hclock hreach
  have hinv : Inv c.shared := hholds.inv
  refine ⟨hinv.logged.fetches, hinv.free, fun i now recipients hi => ?_⟩
  have h : Asserted (c.thread i) c.shared := hholds.assert i
  rw [hi] at h
  exact h.2.1 recipients rfl

/-- **No call is stuck**: from every configuration reached, each thread can be brought to the end of its call. -/
theorem returned_reachable (hclock : 0 ≤ clock.toInt) (hreach : Reach (program ι) (start clock) c) (i : ι) :
    ∃ c', Reach (program ι) c c' ∧ ∃ now answer, c'.thread i = .returned now answer :=
  live.rests disciplined (holds_reach hclock hreach).exclusive i

/-! ## A race -/

/-- Two calls find the cache old; the first to take the lock fetches, and the second finds what it stored. -/
def raceMoves : List (Move Bool) :=
  [.step false .error, .step true .error, .tick 100001, .step false .error, .step true .error, .step true .error,
    .step true .error, .step true .error, .step true (.refreshed {utf16 "ahenk-001".toList}), .step false .error,
    .step true .error, .tick 101000, .step true .error, .step true .error, .step false .error, .step false .error,
    .step false .error, .step false .error, .step false .error]

def race : Config Bool (Provider Bool) CallState := raceMoves.foldl play (start 100000)

theorem race_reach : Reach (program Bool) (start 100000) race := reach_play _ raceMoves

theorem race_returned : race.thread false = .returned 101000 (some {utf16 "ahenk-001".toList}) := by rfl

theorem race_fresh :
    ({utf16 "ahenk-001".toList} : Recipients) = ∅ ∨
      ∃ k ∈ race.shared.fetches, k.fetched = .ok {utf16 "ahenk-001".toList} ∧
        (101000 : Int64).toInt - k.locked.toInt ≤ 30000 :=
  returned_fresh (by decide) race_reach false 101000 _ race_returned

theorem race_refines : race.shared.cachedRecipients = (AgentPresence.run race.shared.fetches).cachedRecipients ∧
    race.shared.cachedAt = (AgentPresence.run race.shared.fetches).cachedAt :=
  (synchronized_refines (by decide) race_reach).2.1 rfl

theorem race_reachable : ∃ c', Reach (program Bool) race c' ∧ ∃ now answer, c'.thread true = .returned now answer :=
  returned_reachable (by decide) race_reach true

end Lider.PresenceThreads
