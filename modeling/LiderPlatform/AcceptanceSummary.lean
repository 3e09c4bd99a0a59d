import LiderPlatform.MutationSupport
import Mathlib.Data.List.Infix
/-!
# AcceptanceSummary — supported steps, from the packs to the summary (`generate_acceptance_summary.py`)

The support section of an operational report lists, over all scenario packs and over the active ones, the mutation and
session steps they declare and whether each is supported.  The acceptance summary turns the two lists into two surfaces.
Both surfaces are judged by the scenarios that are active *with session steps*: the report's own list of active
scenarios is read into the same variable first and lost, so an active pack that only mutates leaves no trace.
-/
namespace Lider

open Py

/-! ## Scenario packs (`scenario_runner.py`) -/

/-- A pack that the loader accepted: its steps are a list of texts that are not blank. -/
structure ScenarioPack where
  name : Json
  requiredTopologyProfile : Json
  steps : List String
  runtimeChecks : Json

section
variable (repr : Json → String)

/-- The loop of `_parse_runtime_checks`. -/
def parseRuntimeCheckItems (name : Json) : List Json → Except String (List String)
  | [] => .ok []
  | .str item :: items =>
    if strip item.toList = [] then .error s!"scenario pack {repr name} contains an invalid runtime check: {repr (.str item)}"
    else do
      let rest ← parseRuntimeCheckItems name items
      return String.ofList (strip item.toList) :: rest
  | item :: _ => .error s!"scenario pack {repr name} contains an invalid runtime check: {repr item}"

def parseRuntimeChecks (pack : ScenarioPack) : Except String (List String) :=
  match pack.runtimeChecks with
  | .null => .ok []
  | .arr items => parseRuntimeCheckItems repr pack.name items
  | _ => .error s!"scenario pack {repr pack.name} must define runtime_checks as a list"

def resolveActiveScenarios (env : String → Option String) (available : Ascending String) : List String :=
  let items := (((env "PLATFORM_SCENARIO_PACKS").getD "").toList.splitOn ',').map strip
  let explicit := (items.filter (fun item => item ≠ [])).map String.ofList
  if explicit ≠ [] then fromkeys explicit
  else
    let sessionPack := strip ((env "SESSION_PACK").getD "").toList
    let candidate := "session-" ++ String.ofList sessionPack
    if sessionPack ≠ [] ∧ candidate ∈ available.val then [candidate] else []

/-- An entry of the scenario catalog. -/
inductive ScenarioEntry where
  | loadError (error : String) (active : Bool)
  | loaded (active : Bool) (requiredTopologyProfile : Json) (topologyMatch : Bool) (declaredSteps mutationSteps : List String)
      (mutationStepDetails : Dict) (supportedMutationSteps unsupportedMutationSteps : List String)
      (runtimeChecks missingRuntimeChecks : List String)

def ScenarioEntry.active : ScenarioEntry → Bool
  | .loadError _ active => active
  | .loaded active .. => active

/-- `scenario.get("declaredSteps", [])`. -/
def ScenarioEntry.declaredSteps : ScenarioEntry → List String
  | .loadError .. => []
  | .loaded _ _ _ declaredSteps .. => declaredSteps

/-- `scenario.get("mutationSteps", [])`. -/
def ScenarioEntry.mutationSteps : ScenarioEntry → List String
  | .loadError .. => []
  | .loaded _ _ _ _ mutationSteps .. => mutationSteps

def isMutationStep (step : String) : Bool := decide ("_via_".toList <:+: step.toList)

/-- `catalog.get(step, {}).get("supported") is True`. -/
def supportedIn (catalog : Dict) (step : String) : Bool :=
  match catalog.get step with
  | .obj d => match Dict.get d "supported" with
    | .bool true => true
    | _ => false
  | _ => false

/-- `catalog.get(step, {"supported": False})`. -/
def detailIn (catalog : Dict) (step : String) : Json :=
  (catalog.lookup step).getD (.obj [("supported", .bool false)])

/-- The load of one pack with its runtime checks; what the exception handler shows otherwise. -/
def loadChecked (load : String → Except String ScenarioPack) (name : String) :
    Except String (ScenarioPack × List String) := do
  let pack ← load name
  let runtimeChecks ← parseRuntimeChecks repr pack
  return (pack, runtimeChecks)

def scenarioEntry (load : String → Except String ScenarioPack) (topologyName : String) (active runnerRegistry : List String)
    (mutationCatalog : Dict) (name : String) : ScenarioEntry :=
  match loadChecked repr load name with
  | .error error => .loadError error (decide (name ∈ active))
  | .ok (pack, runtimeChecks) =>
    let mutationSteps := pack.steps.filter isMutationStep
    let supportedSteps := mutationSteps.filter (supportedIn mutationCatalog)
    .loaded (decide (name ∈ active)) pack.requiredTopologyProfile (pack.requiredTopologyProfile.pyEq (.str topologyName))
      pack.steps mutationSteps
      (mutationSteps.foldl (fun details step => details.set step (detailIn mutationCatalog step)) [])
      supportedSteps (mutationSteps.filter (fun step => step ∉ supportedSteps)) runtimeChecks
      (runtimeChecks.filter (fun check => check ∉ runnerRegistry))

structure ScenarioSupport where
  profile : String
  topologyProfile : String
  activeScenarios : List String
  availableScenarios : Ascending String
  runtimeCheckRegistry : List String
  scenarios : List (String × ScenarioEntry)

def collectScenarioSupportSummary (profile topologyName : String) (env : String → Option String)
    (available : Ascending String) (load : String → Except String ScenarioPack) (checkRunners : List String)
    (mutationSupport : Dict) : ScenarioSupport :=
  let active := resolveActiveScenarios env available
  let runnerRegistry := (sortedUnique checkRunners).val
  ⟨profile, topologyName, active, available, runnerRegistry,
    available.val.map (fun name => (name, scenarioEntry repr load topologyName active runnerRegistry mutationSupport name))⟩

end

/-! ## The two support sections -/

/-- What both sections list of the declared steps. -/
structure DeclaredSupport where
  declaredSteps : List String
  supportedDeclaredSteps : List String
  unsupportedDeclaredSteps : List String
  catalogDeclaredSteps : List String
  catalogSupportedDeclaredSteps : List String
  catalogUnsupportedDeclaredSteps : List String
  declaredStepCatalog : Dict
  catalogDeclaredStepCatalog : Dict

def declaredSupport (catalog : Dict) (declared catalogDeclared : Ascending String) : DeclaredSupport :=
  let supported := declared.val.filter (supportedIn catalog)
  let catalogSupported := catalogDeclared.val.filter (supportedIn catalog)
  { declaredSteps := declared.val
    supportedDeclaredSteps := supported
    unsupportedDeclaredSteps := declared.val.filter (fun step => step ∉ supported)
    catalogDeclaredSteps := catalogDeclared.val
    catalogSupportedDeclaredSteps := catalogSupported
    catalogUnsupportedDeclaredSteps := catalogDeclared.val.filter (fun step => step ∉ catalogSupported)
    declaredStepCatalog := declared.val.map (fun step => (step, detailIn catalog step))
    catalogDeclaredStepCatalog := catalogDeclared.val.map (fun step => (step, detailIn catalog step)) }

structure SessionRule where
  surface : String
  runtimeCheck : Option String := none
  supported : Bool := false
  operationalCheck : Option String := none
  mode : Option String := none
  note : Option String := none

def sessionStepCapabilities : List (String × SessionRule) :=
  [("simulate_login", { surface := "session_login", runtimeCheck := some "ui_login" }),
    ("verify_effect",
      { surface := "session_effect"
        runtimeCheck := some "policy_effect_probe"
        supported := true
        mode := some "policy_command_history"
        note := some ("Post-login business-effect verification probe. Executes a lightweight policy roundtrip and " ++
          "verifies the command execution result appears in the command history API, proving a real observable " ++
          "side-effect.") }),
    ("collect_ui_tree_snapshot",
      { surface := "ui_tree_snapshot"
        supported := true
        operationalCheck := some "ui_agent_visibility"
        mode := some "runtime_operational_snapshot"
        note := some "Runtime operational checks already verify the UI tree visibility lane." }),
    ("collect_membership_snapshot",
      { surface := "membership_snapshot"
        runtimeCheck := some "membership_snapshot_contract"
        mode := some "user_group_tree_summary"
        note := some ("Membership evidence is collected as a lightweight summary from the user-group tree returned by " ++
          "the official Lider API surface.") }),
    ("collect_policy_snapshot",
      { surface := "policy_snapshot"
        runtimeCheck := some "policy_snapshot_contract"
        mode := some "active_policy_list"
        note := some ("Policy snapshot is collected from the active-policies API surface, providing evidence of policy " ++
          "lifecycle state in the platform.") })]

def sessionStepSupport (availableChecks : List String) : Dict :=
  sessionStepCapabilities.map (fun p =>
    let rule := p.2
    let supported := match rule.runtimeCheck with
      | some check => decide (check ∈ availableChecks)
      | none => rule.supported
    (p.1, .obj (setText "note" rule.note (setText "mode" rule.mode (setText "operationalCheck" rule.operationalCheck
      (setText "runtimeCheck" rule.runtimeCheck [("surface", .str rule.surface), ("supported", .bool supported)]))))))

structure SessionSupport where
  activeScenarios : List String
  steps : DeclaredSupport

/-- The steps of a scenario that the session table knows. -/
def sessionSteps (sessionSupport : Dict) (scenario : ScenarioEntry) : List String :=
  scenario.declaredSteps.filter sessionSupport.has

def sessionSupportSummary (scenarios : List (String × ScenarioEntry)) (availableChecks : List String) : SessionSupport :=
  let sessionSupport := sessionStepSupport availableChecks
  let active := scenarios.filter (fun p => sessionSteps sessionSupport p.2 ≠ [] ∧ p.2.active = true)
  ⟨active.map Prod.fst, declaredSupport sessionSupport
    (sortedUnique (active.flatMap (fun p => sessionSteps sessionSupport p.2)))
    (sortedUnique (scenarios.flatMap (fun p => sessionSteps sessionSupport p.2)))⟩

structure SupportSummary where
  scenarios : ScenarioSupport
  mutationCatalog : Dict
  mutationSupport : DeclaredSupport
  sessionSupport : SessionSupport

/-- What `support_summary` reads: the environment, the packs, the check runners, the scenarios' results and the
mutation evidence. -/
structure SupportInputs where
  profile : String
  topologyName : String
  env : String → Option String
  available : Ascending String
  load : String → Except String ScenarioPack
  scenarioRunners : List String
  scenarioResults : List (String × Json)
  evidence : Option Json

/-- The scenarios whose result is a dictionary of status `pass`. -/
def verifiedScenarios (results : List (String × Json)) : List String :=
  (results.filter (fun p => match p.2 with
    | .obj data => (Dict.get data "status").pyEq (.str "pass")
    | _ => false)).map Prod.fst

/-- `support_summary`; the topology fields are copied and left out. -/
def supportSummary (repr : Json → String) (input : SupportInputs) : Except PyExc SupportSummary := do
  let allow := (input.evidence.getD .null).truthy ||
    decide ("ui-user-policy-roundtrip" ∈ verifiedScenarios input.scenarioResults)
  let mutationCatalog ← mutationStepSupport input.env allow input.evidence
  let scenarioSupport := collectScenarioSupportSummary repr input.profile input.topologyName input.env input.available
    input.load input.scenarioRunners mutationCatalog
  let sessionSupport := sessionSupportSummary scenarioSupport.scenarios ("ui_agent_visibility" :: input.scenarioRunners)
  let active := scenarioSupport.scenarios.filter (fun p => p.2.active)
  return ⟨scenarioSupport, mutationCatalog,
    declaredSupport mutationCatalog (sortedUnique (active.flatMap (fun p => p.2.mutationSteps)))
      (sortedUnique (scenarioSupport.scenarios.flatMap (fun p => p.2.mutationSteps))), sessionSupport⟩

/-! ## The summary -/

structure Surface where
  name : String
  status : String
  detail : String
deriving DecidableEq

def supportSurface (activeScenarios supportedSteps unsupportedSteps catalogSupportedSteps catalogUnsupportedSteps :
    List String) : String × String :=
  if activeScenarios ≠ [] then
    (if unsupportedSteps = [] then "pass" else "fail",
      s!"{supportedSteps.length} active supported, {unsupportedSteps.length} active unsupported")
  else
    ("partial",
      s!"no active scenarios; catalog {catalogSupportedSteps.length} supported, " ++
        s!"{catalogUnsupportedSteps.length} unsupported")

structure UnitResult where
  status : String
  summaryLine : String

structure RuntimeReport where
  status : String
  passedChecks : Nat
  totalChecks : Nat

/-- The operational report: its own list of active scenarios, and the support section. -/
structure OperationalReport extends RuntimeReport where
  activeScenarios : List String
  support : SupportSummary

structure AcceptanceSummary where
  status : String
  profile : String
  expectedAgents : Int
  surfaces : List Surface
  unitTests : UnitResult
  runtimeCore : RuntimeReport
  runtimeOperational : RuntimeReport
  activeScenarios : List String
  sessionSupport : SessionSupport
  mutationSupport : DeclaredSupport

/-- The loop over the surfaces: a failure ends it. -/
def overallStatus : List Surface → String → String
  | [], overall => overall
  | s :: surfaces, overall =>
    if s.status = "fail" then "fail"
    else overallStatus surfaces (if s.status = "partial" then "partial" else overall)

def declaredSurface (activeScenarios : List String) (steps : DeclaredSupport) : String × String :=
  supportSurface activeScenarios steps.supportedDeclaredSteps steps.unsupportedDeclaredSteps
    steps.catalogSupportedDeclaredSteps steps.catalogUnsupportedDeclaredSteps

/-- `generate_acceptance_summary`, on the three results it collects. -/
def generateAcceptanceSummary (profile : String) (agents : Int) (unitResult : UnitResult) (coreReport : RuntimeReport)
    (operationalReport : OperationalReport) : AcceptanceSummary :=
  let checksPassed (r : RuntimeReport) := s!"{r.passedChecks}/{r.totalChecks} checks passed"
  let sessionSupport := operationalReport.support.sessionSupport
  let mutationSupport := operationalReport.support.mutationSupport
  -- the list of the report itself was in this variable before
  let activeScenarios := sessionSupport.activeScenarios
  let sessionSurface := declaredSurface activeScenarios sessionSupport.steps
  let mutationSurface := declaredSurface activeScenarios mutationSupport
  let surfaces : List Surface :=
    [⟨"Unit Tests", unitResult.status, unitResult.summaryLine⟩,
      ⟨"Runtime Core", coreReport.status, checksPassed coreReport⟩,
      ⟨"Runtime Operational", operationalReport.status, checksPassed operationalReport.toRuntimeReport⟩,
      ⟨"Session Support", sessionSurface.1, sessionSurface.2⟩,
      ⟨"Mutation Support", mutationSurface.1, mutationSurface.2⟩]
  { status := overallStatus surfaces "pass"
    profile := profile
    expectedAgents := agents
    surfaces := surfaces
    unitTests := unitResult
    runtimeCore := coreReport
    runtimeOperational := operationalReport.toRuntimeReport
    activeScenarios := activeScenarios
    sessionSupport := sessionSupport
    mutationSupport := mutationSupport }

/-! ## What the two lists hold -/

theorem overallStatus_of_fail {name detail : String} : ∀ {surfaces : List Surface}, ⟨name, "fail", detail⟩ ∈ surfaces →
    ∀ overall, overallStatus surfaces overall = "fail"
  | s :: surfaces, h, overall => by
    rw [overallStatus]
    by_cases hs : s.status = "fail"
    · rw [if_pos hs]
    · rw [if_neg hs]
      rcases List.mem_cons.1 h with rfl | h
      · exact absurd rfl hs
      · exact overallStatus_of_fail h _

theorem declaredSurface_fail (activeScenarios : List String) (steps : DeclaredSupport) :
    (declaredSurface activeScenarios steps).1 = "fail" ↔ activeScenarios ≠ [] ∧ steps.unsupportedDeclaredSteps ≠ [] := by
  unfold declaredSurface supportSurface
  by_cases ha : activeScenarios = []
  · simp [ha]
  · by_cases hu : steps.unsupportedDeclaredSteps = []
    · simp [ha, hu]
    · simp [ha, hu]

theorem unsupported_ne_nil (catalog : Dict) (declared catalogDeclared : Ascending String) :
    (declaredSupport catalog declared catalogDeclared).unsupportedDeclaredSteps ≠ [] ↔
      ∃ step ∈ declared.val, supportedIn catalog step = false := by
  rw [declaredSupport, ne_eq, List.filter_eq_nil_iff]
  simp only [decide_eq_true_eq, not_forall, not_not, List.mem_filter, exists_prop, not_and, Bool.not_eq_true]
  exact exists_congr fun step => and_congr_right fun h => ⟨fun h' => h' h, fun h' _ => h'⟩

section
variable (repr : Json → String) (input : SupportInputs)

/-- A step of a pack that is active and loads. -/
def ActiveStep (step : String) : Prop :=
  ∃ name ∈ input.available.val, name ∈ resolveActiveScenarios input.env input.available ∧
    ∃ pack runtimeChecks, loadChecked repr input.load name = .ok (pack, runtimeChecks) ∧ step ∈ pack.steps

/-- An active scenario declares a mutation step that is not supported. -/
def DeclaresUnsupported (catalog : Dict) : Prop :=
  ∃ step, ActiveStep repr input step ∧ isMutationStep step = true ∧ supportedIn catalog step = false

/-- An active scenario declares a session step. -/
def DeclaresSession : Prop :=
  ∃ step, ActiveStep repr input step ∧ step ∈ sessionStepCapabilities.map Prod.fst

/-- The steps of the entries of active scenarios are those of the active packs. -/
theorem activeStep_iff (topologyName : String) (registry : List String) (catalog : Dict) (step : String) :
    (∃ name ∈ input.available.val,
      (scenarioEntry repr input.load topologyName (resolveActiveScenarios input.env input.available) registry catalog
        name).active = true ∧
      step ∈ (scenarioEntry repr input.load topologyName (resolveActiveScenarios input.env input.available) registry
        catalog name).declaredSteps) ↔ ActiveStep repr input step := by
  refine exists_congr fun name => and_congr_right fun _ => ?_
  unfold scenarioEntry
  cases loadChecked repr input.load name with
  | error error => simp [ScenarioEntry.declaredSteps]
  | ok p =>
    obtain ⟨pack, runtimeChecks⟩ := p
    simp [ScenarioEntry.active, ScenarioEntry.declaredSteps]

theorem mutationSteps_eq (topologyName : String) (active registry : List String) (catalog : Dict) (name : String) :
    (scenarioEntry repr input.load topologyName active registry catalog name).mutationSteps =
      (scenarioEntry repr input.load topologyName active registry catalog name).declaredSteps.filter isMutationStep := by
  unfold scenarioEntry
  cases loadChecked repr input.load name with
  | error error => rfl
  | ok p => rfl

theorem has_sessionStepSupport (checks : List String) (step : String) :
    (sessionStepSupport checks).has step = decide (step ∈ sessionStepCapabilities.map Prod.fst) := by
  rw [Bool.eq_iff_iff, Dict.has_iff_mem_keys, decide_eq_true_eq, sessionStepSupport, Dict.keys, List.map_map]
  rfl

/-- **What the support section knows**: its mutation steps are those of the active packs, and its active scenarios are
those with a session step. -/
theorem supportSummary_ok {support : SupportSummary} (h : supportSummary repr input = .ok support) :
    (support.mutationSupport.unsupportedDeclaredSteps ≠ [] ↔ DeclaresUnsupported repr input support.mutationCatalog) ∧
      (support.sessionSupport.activeScenarios ≠ [] ↔ DeclaresSession repr input) := by
  unfold supportSummary at h
  generalize ((input.evidence.getD .null).truthy ||
    decide ("ui-user-policy-roundtrip" ∈ verifiedScenarios input.scenarioResults)) = allow at h
  cases hcatalog : mutationStepSupport input.env allow input.evidence with
  | error e => simp [hcatalog, bind, Except.bind] at h
  | ok catalog =>
    simp only [hcatalog, bind, Except.bind, pure, Except.pure, Except.ok.injEq] at h
    subst h
    constructor
    · rw [unsupported_ne_nil]
      simp only [mem_sortedUnique, List.mem_flatMap, List.mem_filter, collectScenarioSupportSummary, List.mem_map]
      constructor
      · rintro ⟨step, ⟨p, ⟨⟨name, hname, rfl⟩, hactive⟩, hstep⟩, hun⟩
        rw [mutationSteps_eq, List.mem_filter] at hstep
        exact ⟨step, (activeStep_iff repr input _ _ _ step).1 ⟨name, hname, hactive, hstep.1⟩, hstep.2, hun⟩
      · rintro ⟨step, hactive, hmut, hun⟩
        obtain ⟨name, hname, hactive, hstep⟩ := (activeStep_iff repr input input.topologyName
          (sortedUnique input.scenarioRunners).val catalog step).2 hactive
        exact ⟨step, ⟨_, ⟨⟨name, hname, rfl⟩, hactive⟩, by rw [mutationSteps_eq, List.mem_filter]; exact ⟨hstep, hmut⟩⟩,
          hun⟩
    · simp only [sessionSupportSummary, ne_eq, List.map_eq_nil_iff, List.filter_eq_nil_iff, not_forall,
        decide_eq_true_eq, not_not, collectScenarioSupportSummary, List.mem_map]
      constructor
      · rintro ⟨p, ⟨name, hname, rfl⟩, hne, hactive⟩
        obtain ⟨step, hstep⟩ := List.exists_mem_of_ne_nil _ hne
        rw [sessionSteps, List.mem_filter, has_sessionStepSupport, decide_eq_true_eq] at hstep
        exact ⟨step, (activeStep_iff repr input _ _ _ step).1 ⟨name, hname, hactive, hstep.1⟩, hstep.2⟩
      · rintro ⟨step, hactive, hsession⟩
        obtain ⟨name, hname, hactive, hstep⟩ := (activeStep_iff repr input input.topologyName
          (sortedUnique input.scenarioRunners).val catalog step).2 hactive
        refine ⟨_, ⟨name, hname, rfl⟩, List.ne_nil_of_mem (a := step) ?_, hactive⟩
        rw [sessionSteps, List.mem_filter, has_sessionStepSupport, decide_eq_true_eq]
        exact ⟨hstep, hsession⟩

end

/-- The `Mutation Support` surface has failed, and with it the summary. -/
def MutationFails (summary : AcceptanceSummary) : Prop :=
  (∃ detail, ⟨"Mutation Support", "fail", detail⟩ ∈ summary.surfaces) ∧ summary.status = "fail"

theorem generateAcceptanceSummary_fails (profile : String) (agents : Int) (unitResult : UnitResult)
    (coreReport : RuntimeReport) (report : OperationalReport) :
    MutationFails (generateAcceptanceSummary profile agents unitResult coreReport report) ↔
      report.support.sessionSupport.activeScenarios ≠ [] ∧
        report.support.mutationSupport.unsupportedDeclaredSteps ≠ [] := by
  rw [← declaredSurface_fail]
  constructor
  · rintro ⟨⟨detail, hmem⟩, -⟩
    simp only [generateAcceptanceSummary, List.mem_cons, Surface.mk.injEq, List.not_mem_nil, or_false] at hmem
    rcases hmem with ⟨h, -⟩ | ⟨h, -⟩ | ⟨h, -⟩ | ⟨h, -⟩ | ⟨-, h, -⟩
    · exact absurd h (by decide)
    · exact absurd h (by decide)
    · exact absurd h (by decide)
    · exact absurd h (by decide)
    · exact h.symm
  · intro h
    have hmem : ⟨"Mutation Support", "fail",
        (declaredSurface report.support.sessionSupport.activeScenarios report.support.mutationSupport).2⟩ ∈
          (generateAcceptanceSummary profile agents unitResult coreReport report).surfaces := by
      simp [generateAcceptanceSummary, h]
    exact ⟨⟨_, hmem⟩, overallStatus_of_fail hmem "pass"⟩

/-- **The summary shows an unsupported mutation exactly when some active scenario also declares a session step.** -/
theorem mutationFails_iff (repr : Json → String) (input : SupportInputs) (support : SupportSummary)
    (h : supportSummary repr input = .ok support) (profile : String) (agents : Int) (unitResult : UnitResult)
    (coreReport : RuntimeReport) (report : OperationalReport) (hsupport : report.support = support) :
    (DeclaresUnsupported repr input support.mutationCatalog →
      MutationFails (generateAcceptanceSummary profile agents unitResult coreReport report)) ↔
    (¬ DeclaresUnsupported repr input support.mutationCatalog ∨ DeclaresSession repr input) := by
  obtain ⟨hmutation, hsession⟩ := supportSummary_ok repr input h
  rw [generateAcceptanceSummary_fails, hsupport, hmutation, hsession, imp_iff_not_or]
  exact or_congr_right' fun hun => and_iff_left (not_not.1 hun)

/-! ## One active pack -/

def onePackEnv (name : String) : Option String := if name = "PLATFORM_SCENARIO_PACKS" then some "roundtrip" else none

/-- One active pack of the given steps, and no evidence. -/
def onePack (steps : List String) : SupportInputs where
  profile := "dev-fidelity"
  topologyName := "dev-fidelity"
  env := onePackEnv
  available := ⟨["roundtrip"], List.pairwise_singleton _ _⟩
  load := fun name => .ok ⟨.str name, .str "dev-fidelity", steps, .null⟩
  scenarioRunners := ["ui_login"]
  scenarioResults := []
  evidence := none

def onePackReport (support : SupportSummary) : OperationalReport :=
  { status := "pass", passedChecks := 9, totalChecks := 9, activeScenarios := ["roundtrip"], support := support }

theorem onePack_active (steps : List String) (step : String) (h : step ∈ steps) :
    ActiveStep (fun _ => "") (onePack steps) step :=
  ⟨"roundtrip", List.mem_singleton.2 rfl,
    (by decide : "roundtrip" ∈ resolveActiveScenarios onePackEnv ⟨["roundtrip"], List.pairwise_singleton _ _⟩),
    ⟨.str "roundtrip", .str "dev-fidelity", steps, .null⟩, [], rfl, h⟩

/-- A pack that only mutates: its unsupported step does not fail the summary. -/
theorem mutationOnly_hidden : ∃ support, supportSummary (fun _ => "") (onePack ["create_user_via_ui"]) = .ok support ∧
    DeclaresUnsupported (fun _ => "") (onePack ["create_user_via_ui"]) support.mutationCatalog ∧
    ¬ MutationFails (generateAcceptanceSummary "dev-fidelity" 2 ⟨"pass", "12 passed"⟩ ⟨"pass", 8, 8⟩
      (onePackReport support)) := by
  refine ⟨_, rfl, ⟨"create_user_via_ui", onePack_active _ _ (by decide), by decide, rfl⟩, ?_⟩
  rw [generateAcceptanceSummary_fails]
  rintro ⟨h, -⟩
  exact h rfl

/-- The same pack with a login: it fails. -/
theorem mutationWithLogin_shown : ∃ support,
    supportSummary (fun _ => "") (onePack ["create_user_via_ui", "simulate_login"]) = .ok support ∧
    (DeclaresUnsupported (fun _ => "") (onePack ["create_user_via_ui", "simulate_login"]) support.mutationCatalog →
      MutationFails (generateAcceptanceSummary "dev-fidelity" 2 ⟨"pass", "12 passed"⟩ ⟨"pass", 8, 8⟩
        (onePackReport support))) :=
  ⟨_, rfl, (mutationFails_iff (fun _ => "") (onePack ["create_user_via_ui", "simulate_login"]) _ rfl "dev-fidelity" 2
    ⟨"pass", "12 passed"⟩ ⟨"pass", 8, 8⟩ (onePackReport _) rfl).2
      (Or.inr ⟨"simulate_login", onePack_active _ _ (by decide), by decide⟩)⟩

end Lider
