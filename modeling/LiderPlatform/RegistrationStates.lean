import LiderPlatform.Registration
import Mathlib.Logic.Relation
/-!
# RegistrationStates — the per-agent table against the registration state machine

`registration-state-machine.yaml` orders the states of a registration; the per-agent table infers six of them, each from
a surface of its own, and calls the last one flagged the highest.  An agent that has left an earlier surface keeps its
later states, so the table follows the contract's order exactly where `behind` says that nothing is missing.
-/
namespace Lider

open Py Relation

/-! ## The contract -/

inductive ContractState where
  | bootstrapSeeded
  | ldapEntryReady
  | xmppIdentityReady
  | registerSent
  | registerAccepted
  | cAgentReady
  | presenceOnline
  | domainReady
  | driftDetected
deriving DecidableEq, Repr

structure Transition where
  sources : List ContractState
  target : ContractState

/-- The `transitions` of the contract. -/
def transitions : List Transition :=
  [⟨[.bootstrapSeeded], .ldapEntryReady⟩, ⟨[.bootstrapSeeded], .xmppIdentityReady⟩,
    ⟨[.ldapEntryReady, .xmppIdentityReady], .registerSent⟩, ⟨[.registerSent], .registerAccepted⟩,
    ⟨[.registerAccepted], .cAgentReady⟩, ⟨[.cAgentReady], .presenceOnline⟩,
    ⟨[.ldapEntryReady, .xmppIdentityReady, .cAgentReady, .presenceOnline], .domainReady⟩,
    ⟨[.domainReady], .driftDetected⟩]

/-- A transition into the second state names the first. -/
def Before (a b : ContractState) : Prop := ∃ t ∈ transitions, a ∈ t.sources ∧ t.target = b

/-- The state is required before the other, directly or through others. -/
def Required : ContractState → ContractState → Prop := TransGen Before

/-- The state of the contract that a flag of the table stands for. -/
def RegState.contractState : RegState → ContractState
  | .ldapEntryReady => .ldapEntryReady
  | .xmppIdentityReady => .xmppIdentityReady
  | .registerSent => .registerSent
  | .registerAccepted => .registerAccepted
  | .cAgentReady => .cAgentReady
  | .domainReady => .domainReady

/-! ## What is required before what -/

/-- All that is required before a state. -/
def requiredList : ContractState → List ContractState
  | .bootstrapSeeded => []
  | .ldapEntryReady => [.bootstrapSeeded]
  | .xmppIdentityReady => [.bootstrapSeeded]
  | .registerSent => [.bootstrapSeeded, .ldapEntryReady, .xmppIdentityReady]
  | .registerAccepted => [.bootstrapSeeded, .ldapEntryReady, .xmppIdentityReady, .registerSent]
  | .cAgentReady => [.bootstrapSeeded, .ldapEntryReady, .xmppIdentityReady, .registerSent, .registerAccepted]
  | .presenceOnline =>
    [.bootstrapSeeded, .ldapEntryReady, .xmppIdentityReady, .registerSent, .registerAccepted, .cAgentReady]
  | .domainReady =>
    [.bootstrapSeeded, .ldapEntryReady, .xmppIdentityReady, .registerSent, .registerAccepted, .cAgentReady,
      .presenceOnline]
  | .driftDetected =>
    [.bootstrapSeeded, .ldapEntryReady, .xmppIdentityReady, .registerSent, .registerAccepted, .cAgentReady,
      .presenceOnline, .domainReady]

instance (a b : ContractState) : Decidable (Before a b) :=
  inferInstanceAs (Decidable (∃ t ∈ transitions, a ∈ t.sources ∧ t.target = b))

theorem before_mem {a b : ContractState} (h : Before a b) : a ∈ requiredList b := by
  revert h
  cases a <;> cases b <;> decide

/-- The list of a state holds the lists of what comes right before it. -/
theorem requiredList_mono {b c : ContractState} (h : Before b c) : ∀ a ∈ requiredList b, a ∈ requiredList c := by
  revert h
  cases b <;> cases c <;> decide

/-- What is on the list comes right before the state, or is on the list of a state that does. -/
theorem requiredList_step {a c : ContractState} (h : a ∈ requiredList c) :
    Before a c ∨ ∃ b, a ∈ requiredList b ∧ Before b c := by
  revert h
  cases c <;> cases a <;>
    first
    | exact fun h => absurd h (by decide)
    | exact fun _ => Or.inl (by decide)
    | exact fun _ => Or.inr ⟨.ldapEntryReady, by decide, by decide⟩
    | exact fun _ => Or.inr ⟨.registerSent, by decide, by decide⟩
    | exact fun _ => Or.inr ⟨.registerAccepted, by decide, by decide⟩
    | exact fun _ => Or.inr ⟨.cAgentReady, by decide, by decide⟩
    | exact fun _ => Or.inr ⟨.presenceOnline, by decide, by decide⟩
    | exact fun _ => Or.inr ⟨.domainReady, by decide, by decide⟩

/-- The lists grow along the contract, so unfolding them ends. -/
theorem length_requiredList {b c : ContractState} (h : Before b c) :
    (requiredList b).length < (requiredList c).length := by
  revert h
  cases b <;> cases c <;> decide

/-- **The closure of the transitions, computed.** -/
theorem required_iff (a : ContractState) : ∀ (c : ContractState), Required a c ↔ a ∈ requiredList c := by
  intro c
  constructor
  · intro h
    induction h with
    | single h => exact before_mem h
    | tail _ h ih => exact requiredList_mono h a ih
  · generalize hn : (requiredList c).length = n
    induction n using Nat.strong_induction_on generalizing c with
    | _ n ih =>
      intro h
      rcases requiredList_step h with h | ⟨b, hb, hbc⟩
      · exact TransGen.single h
      · exact TransGen.tail (ih _ (hn ▸ length_requiredList hbc) b rfl hb) hbc

/-! ## The table -/

/-- The entry has every tracked state that the contract requires before its highest one. -/
def AgentState.Refines (e : AgentState) : Prop :=
  ∀ s, e.highestState = some s → ∀ r : RegState, Required r.contractState s.contractState → (r, true) ∈ e.states

/-- The agent has a state of the registration proper, and misses a surface that an earlier state stands for. -/
def Snapshot.behind (snapshot : Snapshot) (e : AgentState) : Bool :=
  let listed (ids : AgentIds) := decide (e.agentId ∈ ids.val)
  match e.highestState with
  | some .registerSent => !(listed snapshot.ldapAgentIds && listed snapshot.xmppRegisteredAgentIds)
  | some .registerAccepted =>
    !(listed snapshot.ldapAgentIds && listed snapshot.xmppRegisteredAgentIds && listed snapshot.xmppConnectedAgentIds)
  | some .cAgentReady =>
    !(listed snapshot.ldapAgentIds && listed snapshot.xmppRegisteredAgentIds && listed snapshot.xmppConnectedAgentIds &&
      listed snapshot.domainAgentIds)
  | _ => false

theorem RegState.mem_all (r : RegState) : r ∈ RegState.all := by cases r <;> decide

theorem flagged_iff (snapshot : Snapshot) (a : String) (r : RegState) :
    (r, true) ∈ (snapshot.agentState a).states ↔ snapshot.reached a r = true := by
  simp only [Snapshot.agentState, List.mem_map, Prod.mk.injEq]
  constructor
  · rintro ⟨r', -, rfl, hr⟩
    exact hr
  · intro h
    exact ⟨r, r.mem_all, rfl, h⟩

theorem highestState_eq (snapshot : Snapshot) (a : String) :
    (snapshot.agentState a).highestState = (RegState.all.filter (snapshot.reached a)).getLast? := by
  simp [Snapshot.agentState, List.filter_map, Function.comp_def]

/-- The highest state is flagged. -/
theorem reached_highest {snapshot : Snapshot} {a : String} {s : RegState}
    (h : (snapshot.agentState a).highestState = some s) : snapshot.reached a s = true := by
  rw [highestState_eq] at h
  exact (List.mem_filter.1 (List.mem_of_getLast? h)).2

/-- The states whose contract states are required before that of `s`. -/
def earlierStates (s : RegState) : List RegState :=
  RegState.all.filter (fun r => decide (r.contractState ∈ requiredList s.contractState))

theorem mem_earlierStates (r s : RegState) : r ∈ earlierStates s ↔ r.contractState ∈ requiredList s.contractState := by
  simp [earlierStates, r.mem_all]

theorem earlierStates_eq : ∀ s : RegState, earlierStates s = match s with
  | .ldapEntryReady => []
  | .xmppIdentityReady => []
  | .registerSent => [.ldapEntryReady, .xmppIdentityReady]
  | .registerAccepted => [.ldapEntryReady, .xmppIdentityReady, .registerSent]
  | .cAgentReady => [.ldapEntryReady, .xmppIdentityReady, .registerSent, .registerAccepted]
  | .domainReady => [.ldapEntryReady, .xmppIdentityReady, .registerSent, .registerAccepted, .cAgentReady] := by
  intro s
  cases s <;> decide

theorem refines_iff (snapshot : Snapshot) (a : String) :
    (snapshot.agentState a).Refines ↔ snapshot.behind (snapshot.agentState a) = false := by
  have hstates : (snapshot.agentState a).Refines ↔ ∀ s, (snapshot.agentState a).highestState = some s →
      ∀ r ∈ earlierStates s, snapshot.reached a r = true := by
    simp only [AgentState.Refines, required_iff, flagged_iff, mem_earlierStates]
  have hid : (snapshot.agentState a).agentId = a := rfl
  rw [hstates]
  unfold Snapshot.behind
  rw [hid]
  cases hh : (snapshot.agentState a).highestState with
  | none => simp
  | some s =>
    have hs := reached_highest hh
    simp only [Option.some.injEq, forall_eq', earlierStates_eq]
    cases s with
    | ldapEntryReady => simp
    | xmppIdentityReady => simp
    | registerSent => simp [Snapshot.reached]
    | registerAccepted => simp [Snapshot.reached, and_assoc]
    | cAgentReady => simp [Snapshot.reached, and_assoc]
    | domainReady =>
      -- an agent of the domain is on every surface
      simp only [Snapshot.reached, Bool.and_eq_true] at hs
      simp [Snapshot.reached, hs]

/-- **The table follows the contract's order exactly where no earlier surface lags behind.**  An agent whose highest
state is an entry, an identity or `domain_ready` never lags. -/
theorem perAgent_refines_iff (snapshot : Snapshot) (e : AgentState) (he : e ∈ buildPerAgentState snapshot) :
    (∀ s, e.highestState = some s → (s, true) ∈ e.states) ∧ (e.Refines ↔ snapshot.behind e = false) := by
  obtain ⟨a, -, rfl⟩ := List.mem_map.1 he
  exact ⟨fun s h => (flagged_iff snapshot a s).2 (reached_highest h), refines_iff snapshot a⟩

/-- One agent that only the database lists. -/
def databaseOnly : Snapshot where
  runtimeProfile := "dev-fast"
  expectedAgents := 1
  capturedAt := ""
  ldapAgentIds := sortedUnique []
  xmppRegisteredAgentIds := sortedUnique []
  xmppConnectedAgentIds := sortedUnique []
  cAgentIds := sortedUnique ["ahenk-001"]
  domainAgentIds := sortedUnique []
  computerTreeAgentIds := sortedUnique []
  dashboard := ⟨⟨.int 1, trivial⟩, ⟨.int 0, trivial⟩⟩
  runtimeConfigFingerprint := none

/-- Its highest state is `c_agent_ready`, without any of the states before. -/
theorem databaseOnly_unordered : ∃ e ∈ buildPerAgentState databaseOnly, ¬ e.Refines := by
  refine ⟨databaseOnly.agentState "ahenk-001", List.mem_map.2 ⟨_, (mem_allIds _ _).2 (by decide), rfl⟩, ?_⟩
  rw [refines_iff]
  decide

/-- One agent that is accepted but not in the database, and one that only the database lists. -/
def acceptedAndListed : Snapshot :=
  { databaseOnly with
    expectedAgents := 2
    ldapAgentIds := sortedUnique ["ahenk-001"]
    xmppRegisteredAgentIds := sortedUnique ["ahenk-001"]
    xmppConnectedAgentIds := sortedUnique ["ahenk-001"]
    cAgentIds := sortedUnique ["ahenk-002"]
    domainAgentIds := sortedUnique ["ahenk-001"] }

/-- The first keeps the contract's order, the second does not. -/
theorem acceptedAndListed_refines :
    (acceptedAndListed.agentState "ahenk-001").highestState = some .registerAccepted ∧
      (acceptedAndListed.agentState "ahenk-001").Refines ∧ ¬ (acceptedAndListed.agentState "ahenk-002").Refines := by
  have hfirst : acceptedAndListed.agentState "ahenk-001" ∈ buildPerAgentState acceptedAndListed :=
    List.mem_map.2 ⟨_, (mem_allIds _ _).2 (by decide), rfl⟩
  have hsecond : acceptedAndListed.agentState "ahenk-002" ∈ buildPerAgentState acceptedAndListed :=
    List.mem_map.2 ⟨_, (mem_allIds _ _).2 (by decide), rfl⟩
  refine ⟨by decide, (perAgent_refines_iff acceptedAndListed _ hfirst).2.2 (by decide), fun h => ?_⟩
  exact absurd ((perAgent_refines_iff acceptedAndListed _ hsecond).2.1 h) (by decide)

end Lider
