import LiderPlatform.AcceptanceSummary
import LiderPlatform.RuntimeReadiness
/-!
# ScenarioRunner — the checks of the active scenarios (`scenario_runner.py`, `scenario_loader.py`)

Each active scenario emits a block of checks: one failing check when its pack does not load, otherwise a contract check
and one check for each runtime check it asks for.  The report passes a scenario when its block is not empty and all of
it passes.  A pack whose `requires` holds the name of the profile's field without being a dictionary loads, and then
ends the whole run: `collectScenarioChecks_lawful_iff`.
-/
namespace Lider

open Py

/-! ## The loader (`scenario_loader.py`) -/

/-- What is under the name of a pack. -/
inductive ScenarioFile where
  | missing
  | unreadable (message : String)
  | read (scenario : Json)

/-- `required_fields` and `requires_fields` of the contract. -/
def requiredFields : List String := ["name", "requires", "steps"]

def requiresFields : List String := ["topology_profile"]

/-- `field in value`. -/
def fieldIn (field : String) : Json → Except PyExc Bool
  | .obj d => .ok (Dict.has d field)
  | .arr xs => .ok (xs.any (fun x => x.pyEq (.str field)))
  | .str s => .ok (decide (field.toList <:+: s.toList))
  | _ => .error .typeError

/-- `value[field]`. -/
def fieldOf (field : String) : Json → Except PyExc Json
  | .obj d => if Dict.has d field then .ok (Dict.get d field) else .error .keyError
  | _ => .error .typeError

/-- `[field for field in fields if field not in value]`. -/
def missingFields (value : Json) : List String → Except PyExc (List String)
  | [] => .ok []
  | field :: fields => do
    let found ← fieldIn field value
    let rest ← missingFields value fields
    return if found then rest else field :: rest

/-- A pack that the loader accepted. -/
structure LoadedPack where
  name : Json
  requires : Json
  steps : List String
  runtimeChecks : Json

section
variable (repr : Json → String)

/-- The loop over the steps. -/
def validSteps (name : String) : List Json → Except String (List String)
  | [] => .ok []
  | .str step :: steps =>
    if strip step.toList = [] then
      .error s!"scenario pack {repr (.str name)} contains an invalid step: {repr (.str step)}"
    else do
      let rest ← validSteps name steps
      return step :: rest
  | step :: _ => .error s!"scenario pack {repr (.str name)} contains an invalid step: {repr step}"

/-- The check that `value` has the fields. -/
def requirePackFields (name label : String) (fields : List String) (value : Json) : Except String Unit := do
  let missing ← (missingFields value fields).mapError PyExc.text
  if missing = [] then .ok ()
  else .error s!"scenario pack {repr (.str name)} missing {label} fields: {repr (.strs missing)}"

/-- `load_scenario_pack`; an error is its text. -/
def loadScenarioPack (name : String) : ScenarioFile → Except String LoadedPack
  | .missing => .error s!"scenario pack not found: {name}"
  | .unreadable message => .error message
  | .read scenario => do
    requirePackFields repr name "required" requiredFields scenario
    let requires ← (fieldOf "requires" scenario).mapError PyExc.text
    requirePackFields repr name "requires" requiresFields requires
    let steps ← (fieldOf "steps" scenario).mapError PyExc.text
    match steps, scenario with
    | .arr (step :: steps), .obj d => do
      let steps ← validSteps repr name (step :: steps)
      return ⟨Dict.get d "name", requires, steps, Dict.get d "runtime_checks"⟩
    | _, _ => .error s!"scenario pack {repr (.str name)} must define a non-empty steps list"

/-- The pack as `_parse_runtime_checks` reads it. -/
def LoadedPack.pack (p : LoadedPack) : ScenarioPack where
  name := p.name
  requiredTopologyProfile := match p.requires with
    | .obj requires => Dict.get requires "topology_profile"
    | _ => .null
  steps := p.steps
  runtimeChecks := p.runtimeChecks

/-- The load of a pack with its runtime checks, inside the `try`. -/
def loadWithChecks (name : String) (file : ScenarioFile) : Except String (LoadedPack × List String) := do
  let pack ← loadScenarioPack repr name file
  let runtimeChecks ← parseRuntimeChecks repr pack.pack
  return (pack, runtimeChecks)

/-! ## The runner -/

/-- What a runner returns: a dictionary that has an id and a status. -/
structure RunnerCheck where
  payload : Dict
  hasId : payload.has "id" = true
  hasStatus : payload.has "status" = true

/-- The registered runners; each answers by the number of runners called before it. -/
abbrev Runners := String → Option (Nat → RunnerCheck)

def loadCheck (name error : String) : Dict :=
  buildCheck s!"scenario:{name}:load" "scenario" s!"Scenario pack {name} loads successfully" false .null .null (.str error)

def contractCheck (name topologyName : String) (expectedProfile : Json) (runtimeChecks : List String) (stepCount : Nat)
    (contractOk : Bool) : Dict :=
  buildCheck s!"scenario:{name}:contract" "scenario"
    s!"Scenario pack {name} matches topology and defines runtime checks" contractOk
    (.obj [("topologyProfile", expectedProfile), ("runtimeChecks", .strs runtimeChecks), ("stepCount", .int stepCount)])
    (.obj [("topologyProfile", .str topologyName), ("runtimeChecks", .str "non-empty")]) .null

def missingCheck (name runtimeCheck : String) : Dict :=
  buildCheck s!"scenario:{name}:{runtimeCheck}" "scenario"
    s!"Scenario runtime check {runtimeCheck} is registered" false (.str "missing") (.str "registered") .null

/-- The check of a scenario, from the one its runner returned. -/
def scenarioCheck (name : String) (base : RunnerCheck) : Dict :=
  let baseId := pyStr repr (base.payload.get "id")
  let check := (base.payload.set "id" (.str s!"scenario:{name}:{baseId}")).set "category" (.str "scenario")
  let merged : Dict := match check.get "details" with
    | .obj details => details
    | .null => []
    | details => [("runnerDetails", details)]
  check.set "details" (.obj ((merged.set "scenario" (.str name)).set "sourceCategory" (base.payload.get "category")))

/-- The variables of the loop over the runtime checks, and the number of runners called so far. -/
structure ScenarioFrame where
  checks : List Dict
  executedIds : List Json
  scenarioFailed : Bool
  calls : Nat

/-- The body of the loop over the runtime checks. -/
def runRuntimeCheck (runners : Runners) (name : String) (fr : ScenarioFrame) (runtimeCheck : String) : ScenarioFrame :=
  match runners runtimeCheck with
  | none => { fr with scenarioFailed := true, checks := fr.checks ++ [missingCheck name runtimeCheck] }
  | some runner =>
    let base := runner fr.calls
    let check := scenarioCheck repr name base
    { checks := fr.checks ++ [check]
      executedIds := fr.executedIds ++ [base.payload.get "id"]
      scenarioFailed := fr.scenarioFailed || !(check.get "status").pyEq (.str "pass")
      calls := fr.calls + 1 }

inductive ScenarioReport where
  | loadError (error : String)
  | ran (status profile : String) (requiredTopologyProfile : Json) (runtimeChecks : List String)
      (executedChecks : List Json) (stepCount : Nat)

def ScenarioReport.status : ScenarioReport → String
  | .loadError _ => "load_error"
  | .ran status .. => status

/-- The checks so far, the report's scenarios, and the number of runners called. -/
structure CollectedChecks where
  checks : List Dict
  scenarios : List (String × ScenarioReport)
  calls : Nat

variable (files : String → ScenarioFile) (runners : Runners) (profile topologyName : String)

/-- The part of the loop after the pack has loaded and its profile is read. -/
def collectLoaded (st : CollectedChecks) (name : String) (pack : LoadedPack) (runtimeChecks : List String)
    (expectedProfile : Json) : CollectedChecks :=
  let contractOk := expectedProfile.pyEq (.str topologyName) && !runtimeChecks.isEmpty
  let contract := contractCheck name topologyName expectedProfile runtimeChecks pack.steps.length contractOk
  let fr := runtimeChecks.foldl (runRuntimeCheck repr runners name) ⟨st.checks ++ [contract], [], !contractOk, st.calls⟩
  { checks := fr.checks
    scenarios := st.scenarios ++ [(name, .ran (if fr.scenarioFailed then "fail" else "pass") profile expectedProfile
      runtimeChecks fr.executedIds pack.steps.length)]
    calls := fr.calls }

/-- The body of the loop over the scenarios.  Their names are distinct, so the report grows at its end. -/
def collectScenario (st : CollectedChecks) (name : String) : Except PyExc CollectedChecks :=
  match loadWithChecks repr name (files name) with
  | .error error =>
    .ok { st with scenarios := st.scenarios ++ [(name, .loadError error)], checks := st.checks ++ [loadCheck name error] }
  | .ok (pack, runtimeChecks) => do
    -- outside the `try`
    let expectedProfile ← fieldOf "topology_profile" pack.requires
    return collectLoaded repr runners profile topologyName st name pack runtimeChecks expectedProfile

def collectScenarioChecks (env : String → Option String) (available : Ascending String) : Except PyExc CollectedChecks :=
  (resolveActiveScenarios env available).foldlM (collectScenario repr files runners profile topologyName) ⟨[], [], 0⟩

end

/-! ## The law -/

def Passed (check : Dict) : Prop := check.get "status" = .str "pass"

section
variable (repr : Json → String) (files : String → ScenarioFile) (runners : Runners) (profile topologyName : String)

/-- A check for an occurrence of a runtime check: of its runner, or that none is registered. -/
def CheckFor (name runtimeCheck : String) (check : Dict) : Prop :=
  match runners runtimeCheck with
  | none => check = missingCheck name runtimeCheck
  | some runner => ∃ calls, check = scenarioCheck repr name (runner calls)

/-- A scenario's report and the block of checks it emitted. -/
structure ScenarioLaw (name : String) (report : ScenarioReport) (block : List Dict) : Prop where
  verdict : report.status = "pass" ↔ block ≠ [] ∧ ∀ check ∈ block, Passed check
  unloadable : ∀ error, loadWithChecks repr name (files name) = .error error → ∃ check, block = [check] ∧ ¬ Passed check
  requested : ∀ pack runtimeChecks, loadWithChecks repr name (files name) = .ok (pack, runtimeChecks) →
    ∃ contract rest, block = contract :: rest ∧ List.Forall₂ (CheckFor repr runners name) runtimeChecks rest

/-- Each of the names has its report, and the checks are the blocks of the scenarios one after the other. -/
def RunLaw (names : List String) (checks : List Dict) (scenarios : List (String × ScenarioReport)) : Prop :=
  scenarios.map Prod.fst = names ∧ ∃ blocks : List (List Dict), checks = blocks.flatten ∧
    List.Forall₂ (fun p block => ScenarioLaw repr files runners p.1 p.2 block) scenarios blocks

/-- A pack that loads has a dictionary under `requires`. -/
def RequiresDictionary (name : String) : Prop :=
  ∀ pack runtimeChecks, loadWithChecks repr name (files name) = .ok (pack, runtimeChecks) →
    ∃ requires, pack.requires = .obj requires

/-! ## One scenario -/

variable {repr files runners profile topologyName}

@[simp] theorem get_status_scenarioCheck (name : String) (base : RunnerCheck) :
    (scenarioCheck repr name base).get "status" = base.payload.get "status" := by
  simp [scenarioCheck, Dict.get_set]

/-- **The loop over the runtime checks** emits one check each, and fails when one of them does. -/
theorem foldl_runRuntimeCheck (repr : Json → String) (runners : Runners) (name : String) :
    ∀ (runtimeChecks : List String) (fr : ScenarioFrame), ∃ rest,
    (runtimeChecks.foldl (runRuntimeCheck repr runners name) fr).checks = fr.checks ++ rest ∧
      List.Forall₂ (CheckFor repr runners name) runtimeChecks rest ∧
      ((runtimeChecks.foldl (runRuntimeCheck repr runners name) fr).scenarioFailed = false ↔
        fr.scenarioFailed = false ∧ ∀ check ∈ rest, Passed check)
  | [], fr => ⟨[], by simp, .nil, by simp⟩
  | runtimeCheck :: runtimeChecks, fr => by
    obtain ⟨rest, hchecks, hall, hfailed⟩ :=
      foldl_runRuntimeCheck repr runners name runtimeChecks (runRuntimeCheck repr runners name fr runtimeCheck)
    obtain ⟨check, hone, hfor, hpassed⟩ : ∃ check,
        (runRuntimeCheck repr runners name fr runtimeCheck).checks = fr.checks ++ [check] ∧
          CheckFor repr runners name runtimeCheck check ∧
          ((runRuntimeCheck repr runners name fr runtimeCheck).scenarioFailed = false ↔
            fr.scenarioFailed = false ∧ Passed check) := by
      unfold runRuntimeCheck CheckFor
      cases runners runtimeCheck with
      | none => exact ⟨_, rfl, rfl, by simp [Passed, missingCheck, buildCheck_status]⟩
      | some runner =>
        refine ⟨_, rfl, ⟨fr.calls, rfl⟩, ?_⟩
        simp [Passed]
    refine ⟨check :: rest, by rw [List.foldl_cons, hchecks, hone, List.append_assoc]; rfl, .cons hfor hall, ?_⟩
    rw [List.foldl_cons, hfailed, hpassed, List.forall_mem_cons, and_assoc]

theorem fieldIn_of_missingFields {value : Json} : ∀ {fields : List String}, missingFields value fields = .ok [] →
    ∀ field ∈ fields, fieldIn field value = .ok true
  | [], _, _, hmem => nomatch hmem
  | field :: fields, h, other, hmem => by
    obtain ⟨found, hfound, h⟩ := bind_eq_ok h
    obtain ⟨rest, hrest, h⟩ := bind_eq_ok h
    cases found with
    | false => cases h
    | true =>
      cases h
      rcases List.mem_cons.1 hmem with rfl | hmem
      · exact hfound
      · exact fieldIn_of_missingFields hrest other hmem

theorem fieldIn_of_requirePackFields {name label : String} {fields : List String} {value : Json}
    (h : requirePackFields repr name label fields value = .ok ()) : ∀ field ∈ fields, fieldIn field value = .ok true := by
  obtain ⟨missing, hmissing, h⟩ := bind_eq_ok h
  have hnil : missing = [] := by
    by_contra hne
    rw [if_neg hne] at h
    cases h
  refine fieldIn_of_missingFields ?_
  cases hfields : missingFields value fields with
  | error e =>
    rw [hfields] at hmissing
    cases hmissing
  | ok found =>
    rw [hfields, hnil] at hmissing
    exact congrArg Except.ok (Except.ok.inj hmissing)

/-- A pack that loads has the profile's field, in whatever sense its `requires` has fields. -/
theorem fieldIn_requires {name : String} {file : ScenarioFile} {pack : LoadedPack}
    (h : loadScenarioPack repr name file = .ok pack) : fieldIn "topology_profile" pack.requires = .ok true := by
  cases file with
  | missing => cases h
  | unreadable message => cases h
  | read scenario =>
    obtain ⟨_, -, h⟩ := bind_eq_ok h
    obtain ⟨requires, -, h⟩ := bind_eq_ok h
    obtain ⟨_, hfields, h⟩ := bind_eq_ok h
    obtain ⟨steps, -, h⟩ := bind_eq_ok h
    have hrequires : pack.requires = requires := by
      split at h
      · obtain ⟨valid, -, h⟩ := bind_eq_ok h
        cases h
        rfl
      · cases h
    rw [hrequires]
    exact fieldIn_of_requirePackFields hfields "topology_profile" (by simp [requiresFields])

/-- Reading the field gives a profile just from a dictionary. -/
theorem fieldOf_requires {name : String} {file : ScenarioFile} {pack : LoadedPack} {runtimeChecks : List String}
    (h : loadWithChecks repr name file = .ok (pack, runtimeChecks)) :
    (∃ expectedProfile, fieldOf "topology_profile" pack.requires = .ok expectedProfile) ↔
      ∃ requires, pack.requires = .obj requires := by
  obtain ⟨loaded, hload, h⟩ := bind_eq_ok h
  obtain ⟨checks, -, h⟩ := bind_eq_ok h
  obtain ⟨rfl, rfl⟩ := Prod.mk.inj (Except.ok.inj h)
  have hfield := fieldIn_requires hload
  cases hvalue : loaded.requires with
  | obj requires =>
    rw [hvalue] at hfield
    simp [fieldOf, Except.ok.inj hfield]
  | _ => simp [fieldOf]

/-- **A pack that loaded** adds its block and its report. -/
theorem collectLoaded_spec (runners : Runners) (profile topologyName : String) (st : CollectedChecks) {name : String}
    {pack : LoadedPack} {runtimeChecks : List String}
    (expectedProfile : Json) (hload : loadWithChecks repr name (files name) = .ok (pack, runtimeChecks)) :
    ∃ report block,
      (collectLoaded repr runners profile topologyName st name pack runtimeChecks expectedProfile).checks =
        st.checks ++ block ∧
      (collectLoaded repr runners profile topologyName st name pack runtimeChecks expectedProfile).scenarios =
        st.scenarios ++ [(name, report)] ∧ ScenarioLaw repr files runners name report block := by
  let contractOk := expectedProfile.pyEq (.str topologyName) && !runtimeChecks.isEmpty
  let contract := contractCheck name topologyName expectedProfile runtimeChecks pack.steps.length contractOk
  obtain ⟨rest, hchecks, hall, hfailed⟩ := foldl_runRuntimeCheck repr runners name runtimeChecks
    ⟨st.checks ++ [contract], [], !contractOk, st.calls⟩
  have hcontract : Passed contract ↔ contractOk = true := buildCheck_pass_iff _ _ _ _ _ _ _
  refine ⟨_, contract :: rest, ?_, rfl, ?_, fun error h => ?_, fun pack' runtimeChecks' h => ?_⟩
  · rw [collectLoaded, hchecks, List.append_assoc]
    rfl
  · rw [Bool.not_eq_false', ← hcontract] at hfailed
    rw [List.forall_mem_cons, ← hfailed]
    cases hfr : (runtimeChecks.foldl (runRuntimeCheck repr runners name)
      ⟨st.checks ++ [contract], [], !contractOk, st.calls⟩).scenarioFailed <;> simp [ScenarioReport.status]
  · rw [hload] at h
    cases h
  · rw [hload] at h
    cases h
    exact ⟨contract, rest, rfl, hall⟩

/-- **One scenario** adds its block and its report, unless a pack that loaded has no dictionary under `requires`. -/
theorem collectScenario_spec (runners : Runners) (profile topologyName : String) (st : CollectedChecks) {name : String}
    (hrequires : RequiresDictionary repr files name) :
    ∃ st' report block, collectScenario repr files runners profile topologyName st name = .ok st' ∧
      st'.checks = st.checks ++ block ∧ st'.scenarios = st.scenarios ++ [(name, report)] ∧
      ScenarioLaw repr files runners name report block := by
  unfold collectScenario
  cases hload : loadWithChecks repr name (files name) with
  | error error =>
    have hfails : ¬ Passed (loadCheck name error) := by simp [Passed, loadCheck, buildCheck_status]
    refine ⟨_, _, [loadCheck name error], rfl, rfl, rfl, ?_, fun _ _ => ⟨_, rfl, hfails⟩, fun _ _ h => ?_⟩
    · simp [ScenarioReport.status, hfails]
    · rw [hload] at h
      cases h
  | ok loaded =>
    obtain ⟨pack, runtimeChecks⟩ := loaded
    obtain ⟨expectedProfile, hfield⟩ := (fieldOf_requires hload).2 (hrequires pack runtimeChecks hload)
    obtain ⟨report, block, hchecks, hscenarios, hlaw⟩ := collectLoaded_spec runners profile topologyName st expectedProfile
      hload
    exact ⟨_, report, block, by simp only [hfield]; rfl, hchecks, hscenarios, hlaw⟩

theorem requiresDictionary_of_collectScenario {st st' : CollectedChecks} {name : String}
    (h : collectScenario repr files runners profile topologyName st name = .ok st') :
    RequiresDictionary repr files name := by
  intro pack runtimeChecks hload
  rw [collectScenario, hload] at h
  obtain ⟨expectedProfile, hfield, -⟩ := bind_eq_ok h
  exact (fieldOf_requires hload).1 ⟨expectedProfile, hfield⟩

/-! ## All scenarios -/

theorem foldlM_collectScenario (runners : Runners) (profile topologyName : String) :
    ∀ (names : List String) (st : CollectedChecks),
    (∀ name ∈ names, RequiresDictionary repr files name) → ∃ st' more blocks,
      names.foldlM (collectScenario repr files runners profile topologyName) st = .ok st' ∧
        st'.scenarios = st.scenarios ++ more ∧ more.map Prod.fst = names ∧
        st'.checks = st.checks ++ List.flatten blocks ∧
        List.Forall₂ (fun p block => ScenarioLaw repr files runners p.1 p.2 block) more blocks
  | [], st, _ => ⟨st, [], [], rfl, by simp, rfl, by simp, .nil⟩
  | name :: names, st, h => by
    obtain ⟨st₁, report, block, hrun, hchecks, hscenarios, hlaw⟩ :=
      collectScenario_spec runners profile topologyName st
        (h name List.mem_cons_self)
    obtain ⟨st₂, more, blocks, hruns, hmore, hnames, hblocks, hlaws⟩ :=
      foldlM_collectScenario runners profile topologyName names st₁ (fun other hother => h other (List.mem_cons_of_mem _ hother))
    refine ⟨st₂, (name, report) :: more, block :: blocks, ?_, ?_, by rw [List.map_cons, hnames], ?_, .cons hlaw hlaws⟩
    · rw [List.foldlM_cons, hrun]
      exact hruns
    · rw [hmore, hscenarios, List.append_assoc]
      rfl
    · rw [hblocks, hchecks, List.append_assoc]
      rfl

theorem requiresDictionary_of_foldlM : ∀ (names : List String) (st st' : CollectedChecks),
    names.foldlM (collectScenario repr files runners profile topologyName) st = .ok st' →
      ∀ name ∈ names, RequiresDictionary repr files name
  | [], _, _, _, _, hmem => nomatch hmem
  | name :: names, st, st', h, other, hmem => by
    rw [List.foldlM_cons] at h
    obtain ⟨st₁, hrun, hruns⟩ := bind_eq_ok h
    rcases List.mem_cons.1 hmem with rfl | hmem
    · exact requiresDictionary_of_collectScenario hrun
    · exact requiresDictionary_of_foldlM names st₁ st' hruns other hmem

end

/-- **A run obeys the law just when every active pack that loads has a dictionary under `requires`.** -/
theorem collectScenarioChecks_lawful_iff (repr : Json → String) (files : String → ScenarioFile) (runners : Runners)
    (profile topologyName : String) (env : String → Option String) (available : Ascending String) :
    (∃ result, collectScenarioChecks repr files runners profile topologyName env available = .ok result ∧
        RunLaw repr files runners (resolveActiveScenarios env available) result.checks result.scenarios) ↔
      ∀ name ∈ resolveActiveScenarios env available, RequiresDictionary repr files name := by
  constructor
  · rintro ⟨result, hrun, -⟩
    exact requiresDictionary_of_foldlM _ _ _ hrun
  · intro h
    obtain ⟨result, more, blocks, hrun, hscenarios, hnames, hchecks, hlaws⟩ :=
      foldlM_collectScenario runners profile topologyName _ ⟨[], [], 0⟩ h
    refine ⟨result, hrun, ?_⟩
    rw [RunLaw, hscenarios, hchecks]
    exact ⟨hnames, blocks, rfl, hlaws⟩

/-- A pack whose `requires` is a text. -/
def textRequires (_name : String) : ScenarioFile :=
  .read (.obj [("name", .str "pack"), ("requires", .str "topology_profile"), ("steps", .arr [.str "simulate_login"])])

/-- The environment that asks for the one pack. -/
def askForPack (name : String) : Option String := if name = "PLATFORM_SCENARIO_PACKS" then some "pack" else none

/-- **The run that asks for it ends with a `TypeError`**, and reports nothing. -/
theorem collectScenarioChecks_textRequires :
    ¬ ∃ result, collectScenarioChecks (fun _ => "") textRequires (fun _ => none) "dev-fidelity" "dev-fidelity" askForPack
        ⟨[], List.Pairwise.nil⟩ = .ok result ∧
      RunLaw (fun _ => "") textRequires (fun _ => none) (resolveActiveScenarios askForPack ⟨[], List.Pairwise.nil⟩)
        result.checks result.scenarios := by
  rintro ⟨result, hrun, -⟩
  have hactive : resolveActiveScenarios askForPack ⟨[], List.Pairwise.nil⟩ = ["pack"] := by decide
  have hraises : collectScenarioChecks (fun _ => "") textRequires (fun _ => none) "dev-fidelity" "dev-fidelity" askForPack
      ⟨[], List.Pairwise.nil⟩ = .error .typeError := by
    rw [collectScenarioChecks, hactive]
    rfl
  rw [hraises] at hrun
  cases hrun

end Lider
