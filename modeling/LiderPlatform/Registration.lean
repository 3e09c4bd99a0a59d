import LiderPlatform.PyJson
import LiderPlatform.PySorted
/-!
# Registration — the verdict of one registration snapshot (`platform_runtime/registration.py`)

A snapshot holds the agent ids six surfaces report and the two dashboard totals.  `evaluateSnapshot` runs twelve checks
over it, classifies what failed and lists, for every agent any surface names, the states it has reached.  The id lists
come from `sorted(dict.fromkeys(..))`, so they are ascending by type.
-/
namespace Lider

open Py

/-! ## Snapshots -/

abbrev AgentIds := Ascending String

/-- `snapshot["dashboard"]`: whatever the dashboard answered, `None` included. -/
structure Dashboard where
  totalComputerNumber : Document
  totalOnlineComputerNumber : Document

/-- The dictionary `collect_snapshot` returns. -/
structure Snapshot where
  runtimeProfile : String
  expectedAgents : Int
  capturedAt : String
  ldapAgentIds : AgentIds
  xmppRegisteredAgentIds : AgentIds
  xmppConnectedAgentIds : AgentIds
  cAgentIds : AgentIds
  domainAgentIds : AgentIds
  computerTreeAgentIds : AgentIds
  dashboard : Dashboard
  runtimeConfigFingerprint : Option String

/-! ## Checks -/

inductive Check where
  | ldapMatchesExpected
  | xmppRegisteredMatchesExpected
  | xmppConnectedMatchesExpected
  | cAgentMatchesExpected
  | domainAgentListMatchesExpected
  | computerTreeMatchesExpected
  | dashboardTotalMatchesExpected
  | dashboardOnlineMatchesXmppConnected
  | ldapMatchesXmppRegistered
  | ldapMatchesCAgent
  | cAgentMatchesDomainAgentList
  | cAgentMatchesComputerTree
deriving DecidableEq, Repr

/-- The checks in the order of the `checks` dictionary. -/
def Check.all : List Check :=
  [.ldapMatchesExpected, .xmppRegisteredMatchesExpected, .xmppConnectedMatchesExpected, .cAgentMatchesExpected,
    .domainAgentListMatchesExpected, .computerTreeMatchesExpected, .dashboardTotalMatchesExpected,
    .dashboardOnlineMatchesXmppConnected, .ldapMatchesXmppRegistered, .ldapMatchesCAgent,
    .cAgentMatchesDomainAgentList, .cAgentMatchesComputerTree]

def Check.name : Check → String
  | .ldapMatchesExpected => "ldap_matches_expected"
  | .xmppRegisteredMatchesExpected => "xmpp_registered_matches_expected"
  | .xmppConnectedMatchesExpected => "xmpp_connected_matches_expected"
  | .cAgentMatchesExpected => "c_agent_matches_expected"
  | .domainAgentListMatchesExpected => "domain_agent_list_matches_expected"
  | .computerTreeMatchesExpected => "computer_tree_matches_expected"
  | .dashboardTotalMatchesExpected => "dashboard_total_matches_expected"
  | .dashboardOnlineMatchesXmppConnected => "dashboard_online_matches_xmpp_connected"
  | .ldapMatchesXmppRegistered => "ldap_matches_xmpp_registered"
  | .ldapMatchesCAgent => "ldap_matches_c_agent"
  | .cAgentMatchesDomainAgentList => "c_agent_matches_domain_agent_list"
  | .cAgentMatchesComputerTree => "c_agent_matches_computer_tree"

theorem Check.mem_all (c : Check) : c ∈ Check.all := by cases c <;> decide

/-- The value of one entry of the `checks` dictionary. -/
def Snapshot.passes (s : Snapshot) : Check → Bool
  | .ldapMatchesExpected => decide ((s.ldapAgentIds.val.length : Int) = s.expectedAgents)
  | .xmppRegisteredMatchesExpected => decide ((s.xmppRegisteredAgentIds.val.length : Int) = s.expectedAgents)
  | .xmppConnectedMatchesExpected => decide ((s.xmppConnectedAgentIds.val.length : Int) = s.expectedAgents)
  | .cAgentMatchesExpected => decide ((s.cAgentIds.val.length : Int) = s.expectedAgents)
  | .domainAgentListMatchesExpected => decide ((s.domainAgentIds.val.length : Int) = s.expectedAgents)
  | .computerTreeMatchesExpected => decide ((s.computerTreeAgentIds.val.length : Int) = s.expectedAgents)
  | .dashboardTotalMatchesExpected => s.dashboard.totalComputerNumber.val.pyEq (.int s.expectedAgents)
  | .dashboardOnlineMatchesXmppConnected =>
    s.dashboard.totalOnlineComputerNumber.val.pyEq (.int s.xmppConnectedAgentIds.val.length)
  | .ldapMatchesXmppRegistered => decide (s.ldapAgentIds = s.xmppRegisteredAgentIds)
  | .ldapMatchesCAgent => decide (s.ldapAgentIds = s.cAgentIds)
  | .cAgentMatchesDomainAgentList => decide (s.cAgentIds = s.domainAgentIds)
  | .cAgentMatchesComputerTree => decide (s.cAgentIds = s.computerTreeAgentIds)

def Snapshot.checks (s : Snapshot) : List (Check × Bool) := Check.all.map (fun c => (c, s.passes c))

/-- `[name for name, passed in checks.items() if not passed]`. -/
def Snapshot.failedChecks (s : Snapshot) : List Check := (s.checks.filter (fun p => !p.2)).map Prod.fst

/-! ## Failure classes -/

/-- The classes of `failure-taxonomy.yaml`. -/
inductive FailureClass where
  | bootstrapFailure
  | configDrift
  | registrationTimeout
  | registrationProjectionMismatch
  | adapterError
  | uiParityBreak
deriving DecidableEq, Repr

def FailureClass.code : FailureClass → String
  | .bootstrapFailure => "bootstrap_failure"
  | .configDrift => "config_drift"
  | .registrationTimeout => "registration_timeout"
  | .registrationProjectionMismatch => "registration_projection_mismatch"
  | .adapterError => "adapter_error"
  | .uiParityBreak => "ui_parity_break"

/-- `FAILURE_TAXONOMY[code]["severity"]`. -/
def FailureClass.severity : FailureClass → String
  | .uiParityBreak => "warn"
  | _ => "error"

structure TaxonomyEntry where
  code : FailureClass
  severity : String
  details : List String
deriving DecidableEq, Repr

def TaxonomyEntry.of (code : FailureClass) (details : List String) : TaxonomyEntry := ⟨code, code.severity, details⟩

/-- The `taxonomy` list: the collection errors first, then one class for the failed checks. -/
def classify (errors : List String) (timedOut : Bool) (failedChecks : List Check) : List TaxonomyEntry :=
  (if errors.isEmpty then [] else [.of .adapterError errors]) ++
    (if failedChecks.isEmpty then []
     else if timedOut then [.of .registrationTimeout (failedChecks.map Check.name)]
     else [.of .registrationProjectionMismatch (failedChecks.map Check.name)])

/-! ## Agent states -/

inductive RegState where
  | ldapEntryReady
  | xmppIdentityReady
  | registerSent
  | registerAccepted
  | cAgentReady
  | domainReady
deriving DecidableEq, Repr

/-- The states in the order of the `states` dictionary. -/
def RegState.all : List RegState :=
  [.ldapEntryReady, .xmppIdentityReady, .registerSent, .registerAccepted, .cAgentReady, .domainReady]

def RegState.name : RegState → String
  | .ldapEntryReady => "ldap_entry_ready"
  | .xmppIdentityReady => "xmpp_identity_ready"
  | .registerSent => "register_sent"
  | .registerAccepted => "register_accepted"
  | .cAgentReady => "c_agent_ready"
  | .domainReady => "domain_ready"

/-- One flag of an agent's `states` dictionary. -/
def Snapshot.reached (s : Snapshot) (agentId : String) : RegState → Bool
  | .ldapEntryReady => decide (agentId ∈ s.ldapAgentIds.val)
  | .xmppIdentityReady => decide (agentId ∈ s.xmppRegisteredAgentIds.val)
  | .registerSent => decide (agentId ∈ s.xmppConnectedAgentIds.val)
  | .registerAccepted => decide (agentId ∈ s.domainAgentIds.val)
  | .cAgentReady => decide (agentId ∈ s.cAgentIds.val)
  | .domainReady =>
    decide (agentId ∈ s.ldapAgentIds.val) && decide (agentId ∈ s.xmppRegisteredAgentIds.val) &&
      decide (agentId ∈ s.xmppConnectedAgentIds.val) && decide (agentId ∈ s.cAgentIds.val) &&
      decide (agentId ∈ s.domainAgentIds.val) && decide (agentId ∈ s.computerTreeAgentIds.val)

/-- One entry of `perAgent`; a `highestState` of `none` is written `"missing"`. -/
structure AgentState where
  agentId : String
  states : List (RegState × Bool)
  highestState : Option RegState
deriving DecidableEq, Repr

def Snapshot.agentState (s : Snapshot) (agentId : String) : AgentState :=
  let states := RegState.all.map (fun r => (r, s.reached agentId r))
  { agentId := agentId
    states := states
    highestState := ((states.filter Prod.snd).map Prod.fst).getLast? }

/-- Every agent id any surface names. -/
def Snapshot.allIds (s : Snapshot) : AgentIds :=
  sortedUnique (s.ldapAgentIds.val ++ s.xmppRegisteredAgentIds.val ++ s.xmppConnectedAgentIds.val ++
    s.cAgentIds.val ++ s.domainAgentIds.val ++ s.computerTreeAgentIds.val)

def buildPerAgentState (s : Snapshot) : List AgentState := s.allIds.val.map s.agentState

/-! ## The verdict -/

inductive Status where
  | pass
  | fail
deriving DecidableEq, Repr

def Status.text : Status → String
  | .pass => "pass"
  | .fail => "fail"

/-- The `surfaces` dictionary: how many ids each surface reports, and the dashboard totals. -/
structure Surfaces where
  ldapAgentCount : Nat
  xmppRegisteredCount : Nat
  xmppConnectedCount : Nat
  cAgentCount : Nat
  domainAgentCount : Nat
  computerTreeAgentCount : Nat
  dashboardTotalComputerNumber : Document
  dashboardTotalOnlineComputerNumber : Document

def Snapshot.surfaces (s : Snapshot) : Surfaces where
  ldapAgentCount := s.ldapAgentIds.val.length
  xmppRegisteredCount := s.xmppRegisteredAgentIds.val.length
  xmppConnectedCount := s.xmppConnectedAgentIds.val.length
  cAgentCount := s.cAgentIds.val.length
  domainAgentCount := s.domainAgentIds.val.length
  computerTreeAgentCount := s.computerTreeAgentIds.val.length
  dashboardTotalComputerNumber := s.dashboard.totalComputerNumber
  dashboardTotalOnlineComputerNumber := s.dashboard.totalOnlineComputerNumber

structure Evaluation where
  status : Status
  checks : List (Check × Bool)
  taxonomy : List TaxonomyEntry
  failedChecks : List Check
  surfaces : Surfaces
  perAgent : List AgentState
  capturedAt : String

def evaluateSnapshot (s : Snapshot) (timedOut : Bool) (errors : List String) : Evaluation :=
  let taxonomy := classify errors timedOut s.failedChecks
  { status := if taxonomy.isEmpty && s.checks.all Prod.snd then .pass else .fail
    checks := s.checks
    taxonomy := taxonomy
    failedChecks := s.failedChecks
    surfaces := s.surfaces
    perAgent := buildPerAgentState s
    capturedAt := s.capturedAt }

theorem checks_all_iff (s : Snapshot) : s.checks.all Prod.snd = true ↔ ∀ c, s.passes c = true := by
  simp [Snapshot.checks, Check.mem_all]

theorem failedChecks_nil_iff (s : Snapshot) : s.failedChecks = [] ↔ ∀ c, s.passes c = true := by
  simp [Snapshot.failedChecks, Snapshot.checks, Check.mem_all, List.filter_eq_nil_iff]

theorem classify_nil_iff (errors : List String) (timedOut : Bool) (failed : List Check) :
    classify errors timedOut failed = [] ↔ errors = [] ∧ failed = [] := by
  unfold classify
  cases errors <;> cases failed <;> cases timedOut <;> simp

/-- **A verdict passes exactly when nothing was raised and every check holds.** -/
theorem status_pass_iff (s : Snapshot) (timedOut : Bool) (errors : List String) :
    (evaluateSnapshot s timedOut errors).status = .pass ↔ errors = [] ∧ ∀ c, s.passes c = true := by
  have htax := classify_nil_iff errors timedOut s.failedChecks
  simp only [evaluateSnapshot, ite_eq_left_iff, reduceCtorEq, imp_false, not_not, Bool.and_eq_true,
    List.isEmpty_iff, checks_all_iff, htax, failedChecks_nil_iff]
  tauto

/-! ## What the checks say together -/

/-- The twelve checks on the snapshot's own terms: five surfaces are one list, the connected ids are only counted. -/
structure Snapshot.Agrees (s : Snapshot) : Prop where
  registered : s.xmppRegisteredAgentIds = s.ldapAgentIds
  cAgent : s.cAgentIds = s.ldapAgentIds
  domain : s.domainAgentIds = s.ldapAgentIds
  tree : s.computerTreeAgentIds = s.ldapAgentIds
  count : (s.ldapAgentIds.val.length : Int) = s.expectedAgents
  connectedCount : (s.xmppConnectedAgentIds.val.length : Int) = s.expectedAgents
  total : s.dashboard.totalComputerNumber.val.pyEq (.int s.expectedAgents) = true
  online : s.dashboard.totalOnlineComputerNumber.val.pyEq (.int s.xmppConnectedAgentIds.val.length) = true

theorem agrees_iff (s : Snapshot) : s.Agrees ↔ ∀ c, s.passes c = true := by
  constructor
  · rintro ⟨hr, hc, hd, ht, hn, hcn, htot, hon⟩ c
    cases c <;> simp only [Snapshot.passes, decide_eq_true_eq]
    all_goals first | exact htot | exact hon | simp only [hr, hc, hd, ht, hn, hcn]
  · intro h
    have eqs : ∀ {p : Prop} [Decidable p] {c : Check}, s.passes c = decide p → p := fun hc =>
      of_decide_eq_true (by rw [← hc]; exact h _)
    have hr : s.ldapAgentIds = s.xmppRegisteredAgentIds := eqs (c := .ldapMatchesXmppRegistered) rfl
    have hc : s.ldapAgentIds = s.cAgentIds := eqs (c := .ldapMatchesCAgent) rfl
    have hd : s.cAgentIds = s.domainAgentIds := eqs (c := .cAgentMatchesDomainAgentList) rfl
    have ht : s.cAgentIds = s.computerTreeAgentIds := eqs (c := .cAgentMatchesComputerTree) rfl
    exact ⟨hr.symm, hc.symm, (hc.trans hd).symm, (hc.trans ht).symm, eqs (c := .ldapMatchesExpected) rfl,
      eqs (c := .xmppConnectedMatchesExpected) rfl, h .dashboardTotalMatchesExpected,
      h .dashboardOnlineMatchesXmppConnected⟩

/-! ## The verdict against the per-agent table -/

theorem reached_all_iff (s : Snapshot) (a : String) :
    (∀ r, s.reached a r = true) ↔ a ∈ s.ldapAgentIds.val ∧ a ∈ s.xmppRegisteredAgentIds.val ∧
      a ∈ s.xmppConnectedAgentIds.val ∧ a ∈ s.cAgentIds.val ∧ a ∈ s.domainAgentIds.val ∧
      a ∈ s.computerTreeAgentIds.val := by
  constructor
  · intro h
    have hd := h .domainReady
    simp only [Snapshot.reached, Bool.and_eq_true, decide_eq_true_eq] at hd
    tauto
  · rintro h r
    cases r <;> simp only [Snapshot.reached, Bool.and_eq_true, decide_eq_true_eq] <;> tauto

theorem highestState_of_all (s : Snapshot) (a : String) (h : ∀ r, s.reached a r = true) :
    (s.agentState a).highestState = some .domainReady := by
  simp [Snapshot.agentState, RegState.all, h]

/-- An entry of the per-agent table is complete: every flag set, and the last state reached. -/
def AgentState.Complete (e : AgentState) : Prop :=
  (∀ f ∈ e.states, f.2 = true) ∧ e.highestState = some .domainReady

theorem complete_iff (s : Snapshot) (a : String) : (s.agentState a).Complete ↔ ∀ r, s.reached a r = true := by
  have hall : (∀ f ∈ (s.agentState a).states, f.2 = true) ↔ ∀ r, s.reached a r = true := by
    simp only [Snapshot.agentState, List.forall_mem_map]
    exact ⟨fun h r => h r (by cases r <;> decide), fun h r _ => h r⟩
  unfold AgentState.Complete
  rw [hall]
  exact ⟨And.left, fun h => ⟨h, highestState_of_all s a h⟩⟩

theorem mem_allIds (s : Snapshot) (a : String) : a ∈ s.allIds.val ↔ a ∈ s.ldapAgentIds.val ∨
    a ∈ s.xmppRegisteredAgentIds.val ∨ a ∈ s.xmppConnectedAgentIds.val ∨ a ∈ s.cAgentIds.val ∨
    a ∈ s.domainAgentIds.val ∨ a ∈ s.computerTreeAgentIds.val := by
  simp only [Snapshot.allIds, mem_sortedUnique, List.mem_append]
  tauto

/-- The pass verdict's promise: as many agents as expected, each of them complete. -/
def PerAgentComplete (s : Snapshot) (timedOut : Bool) (errors : List String) : Prop :=
  let evaluation := evaluateSnapshot s timedOut errors
  evaluation.status = .pass →
    (evaluation.perAgent.length : Int) = s.expectedAgents ∧ ∀ e ∈ evaluation.perAgent, e.Complete

/-- The same promise on the surfaces: all six name one set of as many agents as expected. -/
def SurfacesAgree (s : Snapshot) (timedOut : Bool) (errors : List String) : Prop :=
  (evaluateSnapshot s timedOut errors).status = .pass →
    (s.ldapAgentIds.val.length : Int) = s.expectedAgents ∧ s.xmppRegisteredAgentIds = s.ldapAgentIds ∧
      s.xmppConnectedAgentIds = s.ldapAgentIds ∧ s.cAgentIds = s.ldapAgentIds ∧ s.domainAgentIds = s.ldapAgentIds ∧
      s.computerTreeAgentIds = s.ldapAgentIds

/-- The snapshots that pass although the connected agents are not the registered ones: as many, but others. -/
def Snapshot.ConnectedDiffers (s : Snapshot) : Prop := s.Agrees ∧ s.xmppConnectedAgentIds ≠ s.ldapAgentIds

/-- Six equal surfaces make the table the surface itself, with every entry complete. -/
theorem perAgent_of_agrees (s : Snapshot) (h : s.Agrees) (hconn : s.xmppConnectedAgentIds = s.ldapAgentIds) :
    ((buildPerAgentState s).length : Int) = s.expectedAgents ∧ ∀ e ∈ buildPerAgentState s, e.Complete := by
  have hids : s.allIds = s.ldapAgentIds := Ascending.ext_mem _ _ (fun a => by
    rw [mem_allIds, h.registered, hconn, h.cAgent, h.domain, h.tree]; tauto)
  refine ⟨by rw [buildPerAgentState, List.length_map, hids, h.count], ?_⟩
  intro e he
  obtain ⟨a, ha, rfl⟩ := List.mem_map.1 he
  rw [hids] at ha
  rw [complete_iff, reached_all_iff, h.registered, hconn, h.cAgent, h.domain, h.tree]
  exact ⟨ha, ha, ha, ha, ha, ha⟩

/-- Complete entries for every agent make the connected surface equal to the directory. -/
theorem connected_eq_of_complete (s : Snapshot) (h : ∀ e ∈ buildPerAgentState s, e.Complete) :
    s.xmppConnectedAgentIds = s.ldapAgentIds := by
  have hall : ∀ a ∈ s.allIds.val, a ∈ s.ldapAgentIds.val ∧ a ∈ s.xmppConnectedAgentIds.val := fun a ha => by
    have hc := (reached_all_iff s a).1 ((complete_iff s a).1 (h _ (List.mem_map_of_mem ha)))
    exact ⟨hc.1, hc.2.2.1⟩
  refine Ascending.ext_mem _ _ (fun a => ⟨fun ha => ?_, fun ha => ?_⟩)
  · exact (hall a ((mem_allIds s a).2 (by tauto))).1
  · exact (hall a ((mem_allIds s a).2 (by tauto))).2

/-- **A pass verdict is sound exactly when the connected agents are not merely as many as expected**: the promise, in
either form, fails on the snapshots that satisfy every check while the connected ids differ from the directory's. -/
theorem passVerdict_sound_iff (s : Snapshot) (timedOut : Bool) (errors : List String) :
    (PerAgentComplete s timedOut errors ↔ ¬ (errors = [] ∧ s.ConnectedDiffers)) ∧
      (SurfacesAgree s timedOut errors ↔ ¬ (errors = [] ∧ s.ConnectedDiffers)) := by
  have hpass : (evaluateSnapshot s timedOut errors).status = .pass ↔ errors = [] ∧ s.Agrees := by
    rw [status_pass_iff, agrees_iff]
  unfold PerAgentComplete SurfacesAgree Snapshot.ConnectedDiffers
  simp only [hpass]
  constructor
  · constructor
    · rintro h ⟨he, ha, hne⟩
      exact hne (connected_eq_of_complete s (h ⟨he, ha⟩).2)
    · rintro h ⟨he, ha⟩
      exact perAgent_of_agrees s ha (by by_contra hne; exact h ⟨he, ha, hne⟩)
  · constructor
    · rintro h ⟨he, ha, hne⟩
      exact hne (h ⟨he, ha⟩).2.2.1
    · rintro h ⟨he, ha⟩
      have hconn : s.xmppConnectedAgentIds = s.ldapAgentIds := by by_contra hne; exact h ⟨he, ha, hne⟩
      exact ⟨ha.count, ha.registered, hconn, ha.cAgent, ha.domain, ha.tree⟩

/-- One agent on five surfaces, and another one connected: the counts agree. -/
def strangerConnected : Snapshot where
  runtimeProfile := "dev-fast"
  expectedAgents := 1
  capturedAt := "2026-01-01T00:00:00+00:00"
  ldapAgentIds := sortedUnique ["ahenk-001"]
  xmppRegisteredAgentIds := sortedUnique ["ahenk-001"]
  xmppConnectedAgentIds := sortedUnique ["ahenk-002"]
  cAgentIds := sortedUnique ["ahenk-001"]
  domainAgentIds := sortedUnique ["ahenk-001"]
  computerTreeAgentIds := sortedUnique ["ahenk-001"]
  dashboard := ⟨⟨.int 1, trivial⟩, ⟨.int 1, trivial⟩⟩
  runtimeConfigFingerprint := none

/-- **The stranger's snapshot passes with two agents in the table**, neither of them complete. -/
theorem strangerConnected_unsound : ¬ PerAgentComplete strangerConnected false [] ∧
    ¬ SurfacesAgree strangerConnected false [] := by
  have hagrees : strangerConnected.ConnectedDiffers :=
    ⟨⟨rfl, rfl, rfl, rfl, rfl, rfl, by decide, by decide⟩, by decide⟩
  have hpass : (evaluateSnapshot strangerConnected false []).status = .pass := by
    rw [status_pass_iff, ← agrees_iff]
    exact ⟨rfl, hagrees.1⟩
  exact ⟨fun h => hagrees.2 (connected_eq_of_complete _ (h hpass).2), fun h => hagrees.2 (h hpass).2.2.1⟩

end Lider
