import LiderPlatform.AgentIdentity
import Mathlib.Data.List.Infix
/-!
# RuntimeReadiness — one container list, judged twice (`bootstrap_runtime.py`, `readiness/containers.py`)

The bootstrap script waits until every phase of a profile finds its containers as its `wait_for` says; the readiness
report later judges the same containers by `required_service_groups` and `service_expectations` of the same contract.
`Contract.Covered` says when the first judgement implies the second, and the contract of the repository is covered.
-/
namespace Py

/-! ## Grouping -/

/-- `groups.setdefault(key, []).append(item)`. -/
def appendTo {β : Type} (key : String) (item : β) : List (String × List β) → List (String × List β)
  | [] => [(key, [item])]
  | (k, items) :: groups => if k = key then (k, items ++ [item]) :: groups else (k, items) :: appendTo key item groups

/-- The dictionary of lists that appending the pairs in order builds. -/
def grouped {β : Type} (pairs : List (String × β)) : List (String × List β) :=
  pairs.foldl (fun groups p => appendTo p.1 p.2 groups) []

/-- `groups.get(key, [])`. -/
def getGroup {β : Type} (groups : List (String × List β)) (key : String) : List β := (groups.lookup key).getD []

theorem getGroup_appendTo {β : Type} (key : String) (item : β) (k : String) : ∀ (groups : List (String × List β)),
    getGroup (appendTo key item groups) k = getGroup groups k ++ if key = k then [item] else []
  | [] => by
    by_cases h : key = k
    · simp [appendTo, getGroup, h]
    · simp [appendTo, getGroup, h, List.lookup_cons, beq_eq_false_iff_ne.2 (Ne.symm h)]
  | (k', items) :: groups => by
    have ih := getGroup_appendTo key item k groups
    simp only [getGroup] at ih
    by_cases h : k' = key
    · subst h
      by_cases hk : k' = k
      · subst hk
        simp [appendTo, getGroup]
      · simp [appendTo, getGroup, List.lookup_cons, beq_eq_false_iff_ne.2 (Ne.symm hk), hk]
    · by_cases hk : k = k'
      · subst hk
        simp [appendTo, getGroup, h, Ne.symm h]
      · simp [appendTo, getGroup, h, List.lookup_cons, beq_eq_false_iff_ne.2 hk, ih]

/-- **A group holds the items of its key, in order.** -/
theorem getGroup_grouped {β : Type} (k : String) (pairs : List (String × β)) :
    getGroup (grouped pairs) k = (pairs.filter (fun p => p.1 = k)).map Prod.snd := by
  have hfold : ∀ (pairs : List (String × β)) (groups : List (String × List β)),
      getGroup (pairs.foldl (fun groups p => appendTo p.1 p.2 groups) groups) k =
        getGroup groups k ++ (pairs.filter (fun p => p.1 = k)).map Prod.snd := by
    intro pairs
    induction pairs with
    | nil => simp
    | cons p pairs ih =>
      intro groups
      rw [List.foldl_cons, ih, getGroup_appendTo, List.append_assoc]
      by_cases h : p.1 = k
      · simp [h]
      · simp [h]
  exact (hfold pairs []).trans (List.nil_append _)

end Py

namespace Lider

open Py

/-! ## The contract -/

/-- What a phase waits for of one service: `healthy` or a state, or a dictionary of fields. -/
inductive Expectation where
  | text (value : String)
  | fields (state : String) (instances : Option Int) (health : Option String)
deriving DecidableEq

structure BootstrapPhase where
  name : String
  waitFor : List (String × Expectation)

structure RuntimeProfile where
  requiredServiceGroups : List String
  bootstrapPhases : List BootstrapPhase

structure ServiceExpectation where
  kind : String
  acceptedStates : List String

/-- The parts of `runtime-readiness.yaml` that the two judgements read. -/
structure Contract where
  runtimeProfiles : List (String × RuntimeProfile)
  serviceGroups : List (String × List String)
  serviceExpectations : List (String × ServiceExpectation)

/-- `mapping[key]`. -/
def subscript {β : Type} (mapping : List (String × β)) (key : String) : Except PyExc β :=
  match mapping.lookup key with
  | some v => .ok v
  | none => .error .keyError

/-! ## The containers -/

section
variable (repr : Json → String) (lower : String → String)

/-- `str(container.get(key) or "")`. -/
def fieldText (container : Dict) (key : String) : String := pyStr repr ((container.get key).orElse (.str ""))

/-- `normalize_state`; `_normalize_state` of the bootstrap script has the same text. -/
def normalizeState (container : Dict) : String :=
  let state := lower (fieldText repr container "State")
  let status := fieldText repr container "Status"
  if state = "running" then "running"
  else if state = "exited" ∧ "Exited (0)".toList <:+: status.toList then "completed"
  else if state = "" then "unknown"
  else state

/-! ## The bootstrap script -/

structure ContainerState where
  state : String
  health : String
deriving DecidableEq

def groupByService (containers : List Dict) : List (String × List ContainerState) :=
  grouped (containers.filterMap (fun container =>
    let service := fieldText repr container "Service"
    if service = "" then none
    else some (service, ⟨normalizeState repr lower container, lower (fieldText repr container "Health")⟩)))

/-- One entry of the `errors` list, with the values its text shows. -/
inductive PhaseError where
  | instances (service : String) (expected found : Int) (states : List String)
  | notAll (service state : String) (states : List String)
  | notAllHealth (service health : String) (found : List String)
  | noContainers (service : String)
  | notRunning (service : String) (states : List String)
  | notHealthy (service : String) (found : List String)
  | notState (service state : String) (states : List String)
deriving DecidableEq

/-- The text of an error; `listRepr` is Python's display of a list of texts. -/
def PhaseError.text (listRepr : List String → String) : PhaseError → String
  | .instances service expected found states =>
    let shown := if states = [] then ["missing"] else states
    s!"{service}: expected {expected} instance(s), found {found} ({listRepr shown})"
  | .notAll service state states => s!"{service}: expected all {state}, found {listRepr states}"
  | .notAllHealth service health found =>
    let shown := if found = [] then ["unreported"] else found
    s!"{service}: expected all health={health}, found {listRepr shown}"
  | .noContainers service => s!"{service}: no containers"
  | .notRunning service states => s!"{service}: expected running+healthy, found states={listRepr states}"
  | .notHealthy service found =>
    let shown := if found = [] then ["unreported"] else found
    s!"{service}: expected health=healthy, found {listRepr shown}"
  | .notState service state states => s!"{service}: expected {state}, found {listRepr states}"

/-- The body of the loop over `wait_for`. -/
def serviceError (containers : List ContainerState) (expectedAgents : Int) (service : String) :
    Expectation → Option PhaseError
  | .fields expectedState instances expectedHealth =>
    let states := containers.map (·.state)
    let expectedInstances := instances.getD expectedAgents
    if (states.length : Int) ≠ expectedInstances then
      some (.instances service expectedInstances states.length states)
    else if states.any (fun state => state ≠ expectedState) then some (.notAll service expectedState states)
    else match expectedHealth with
      | none => none
      | some health =>
        if health ≠ "" ∧ containers.any (fun c => c.health ≠ health) then
          some (.notAllHealth service health ((containers.map (·.health)).filter (fun h => h ≠ "")))
        else none
  | .text expectation =>
    let states := containers.map (·.state)
    let healthValues := (containers.map (·.health)).filter (fun h => h ≠ "")
    if states = [] then some (.noContainers service)
    else if expectation = "healthy" then
      if states.any (fun state => state ≠ "running") then some (.notRunning service states)
      else if healthValues = [] ∨ healthValues.any (fun h => h ≠ "healthy") then some (.notHealthy service healthValues)
      else none
    else if states.any (fun state => state ≠ expectation) then some (.notState service expectation states)
    else none

def phaseSatisfied (statesByService : List (String × List ContainerState)) (waitFor : List (String × Expectation))
    (expectedAgents : Int) : Bool × List PhaseError :=
  let errors := waitFor.filterMap (fun p => serviceError (getGroup statesByService p.1) expectedAgents p.1 p.2)
  (errors.isEmpty, errors)

/-- What the text of an error begins with. -/
def PhaseError.service : PhaseError → String
  | .instances service _ _ _ | .notAll service _ _ | .notAllHealth service _ _ | .noContainers service
  | .notRunning service _ | .notHealthy service _ | .notState service _ _ => service

theorem PhaseError.service_prefix (listRepr : List String → String) (e : PhaseError) :
    e.service.toList ++ [':'] <+: (e.text listRepr).toList := by
  cases e <;> simp [PhaseError.service, PhaseError.text, ToString.toString]

theorem service_serviceError {containers : List ContainerState} {expectedAgents : Int} {service : String}
    {expectation : Expectation} {e : PhaseError}
    (h : serviceError containers expectedAgents service expectation = some e) : e.service = service := by
  cases expectation with
  | fields expectedState instances expectedHealth =>
    cases expectedHealth <;> grind [serviceError, PhaseError.service]
  | text expectation => grind [serviceError, PhaseError.service]

/-- **Every error names the service that keeps the phase waiting.** -/
theorem phaseSatisfied_names {statesByService : List (String × List ContainerState)}
    {waitFor : List (String × Expectation)} {expectedAgents : Int} (listRepr : List String → String) {e : PhaseError}
    (h : e ∈ (phaseSatisfied statesByService waitFor expectedAgents).2) :
    ∃ p ∈ waitFor, p.1.toList ++ [':'] <+: (e.text listRepr).toList := by
  obtain ⟨p, hp, herror⟩ := List.mem_filterMap.1 h
  exact ⟨p, hp, service_serviceError herror ▸ e.service_prefix listRepr⟩

/-! ## The readiness report -/

def containersByService (containers : List Dict) : List (String × List Dict) :=
  grouped (containers.filterMap (fun entry =>
    let service := (entry.get "Service").orElse (entry.get "Name")
    if service.truthy then some (pyStr repr service, entry) else none))

/-- `build_check`: the optional fields are there when they are not `None`. -/
def buildCheck (checkId category description : String) (passed : Bool) (actual expected details : Json) : Dict :=
  [("id", .str checkId), ("category", .str category), ("description", .str description),
    ("status", .str (if passed then "pass" else "fail"))] ++
    (if actual.isNone then [] else [("actual", actual)]) ++
    (if expected.isNone then [] else [("expected", expected)]) ++
    (if details.isNone then [] else [("details", details)])

theorem buildCheck_status (checkId category description : String) (passed : Bool) (actual expected details : Json) :
    Dict.get (buildCheck checkId category description passed actual expected details) "status" =
      .str (if passed then "pass" else "fail") := by
  simp [buildCheck]

theorem buildCheck_pass_iff (checkId category description : String) (passed : Bool) (actual expected details : Json) :
    Dict.get (buildCheck checkId category description passed actual expected details) "status" = .str "pass" ↔
      passed = true := by
  rw [buildCheck_status]
  cases passed <;> simp

/-- The body of the loop over the services of a group: the check, and the service's entry of the report. -/
def serviceCheck (grouping : List (String × List Dict)) (expectedAgents : Int) (serviceName : String)
    (expectation : ServiceExpectation) : Dict × Json :=
  let instances := getGroup grouping serviceName
  let normalizedStates := instances.map (normalizeState repr lower)
  let entry := Json.obj [("instanceCount", .int instances.length), ("states", .strs normalizedStates)]
  let accepted := normalizedStates.all (fun state => state ∈ expectation.acceptedStates)
  let description := s!"{serviceName} service readiness"
  if expectation.kind = "scaled" then
    (buildCheck s!"service:{serviceName}" "docker" description
      (decide ((instances.length : Int) = expectedAgents) && !instances.isEmpty && accepted)
      (.obj [("instances", .int instances.length), ("states", .strs normalizedStates)])
      (.obj [("instances", .int expectedAgents), ("states", .strs expectation.acceptedStates)]) .null, entry)
  else
    (buildCheck s!"service:{serviceName}" "docker" description (!instances.isEmpty && accepted)
      (.strs normalizedStates) (.strs expectation.acceptedStates) .null, entry)

/-- `service_state_report`, on the containers that `compose_ps` listed. -/
def serviceStateReport (contract : Contract) (profile : String) (expectedAgents : Int) (containers : List Dict) :
    Except PyExc (List Dict × Dict) := do
  let grouping := containersByService repr containers
  let profileContract ← subscript contract.runtimeProfiles profile
  let names ← profileContract.requiredServiceGroups.mapM (subscript contract.serviceGroups)
  let rows ← names.flatten.mapM (fun name => do
    let expectation ← subscript contract.serviceExpectations name
    return (name, serviceCheck repr lower grouping expectedAgents name expectation))
  return (rows.map (fun row => row.2.1), rows.foldl (fun report row => report.set row.1 row.2.2) [])

/-! ## Both sides see the same containers -/

/-- What the bootstrap script keeps of a container. -/
def containerState (container : Dict) : ContainerState :=
  ⟨normalizeState repr lower container, lower (fieldText repr container "Health")⟩

theorem getGroup_groupByService {service : String} (hs : service ≠ "") (containers : List Dict) :
    getGroup (groupByService repr lower containers) service =
      (containers.filter (fun c => fieldText repr c "Service" = service)).map (containerState repr lower) := by
  rw [groupByService, getGroup_grouped]
  induction containers with
  | nil => rfl
  | cons c containers ih =>
    by_cases h : fieldText repr c "Service" = service
    · rw [List.filterMap_cons_some (by rw [h, if_neg hs]), List.filter_cons_of_pos (by simp),
        List.filter_cons_of_pos (by simpa using h), List.map_cons, List.map_cons, ih]
      rfl
    · rw [List.filter_cons_of_neg (by simpa using h)]
      by_cases he : fieldText repr c "Service" = ""
      · rw [List.filterMap_cons_none (by rw [he, if_pos rfl]), ih]
      · rw [List.filterMap_cons_some (by rw [if_neg he]), List.filter_cons_of_neg (by simpa using h), ih]

theorem getGroup_containersByService (service : String) (containers : List Dict)
    (hservice : ∀ c ∈ containers, (c.get "Service").truthy = true) :
    getGroup (containersByService repr containers) service =
      containers.filter (fun c => fieldText repr c "Service" = service) := by
  rw [containersByService, getGroup_grouped]
  induction containers with
  | nil => rfl
  | cons c containers ih =>
    have hc := hservice c List.mem_cons_self
    have ih := ih (fun c' hc' => hservice c' (List.mem_cons_of_mem _ hc'))
    have hname : (c.get "Service").orElse (c.get "Name") = c.get "Service" := if_pos hc
    have htext : fieldText repr c "Service" = pyStr repr (c.get "Service") := by
      rw [fieldText, Json.orElse, if_pos hc]
    rw [List.filterMap_cons_some (by rw [hname, if_pos hc]), ← htext]
    by_cases h : fieldText repr c "Service" = service
    · rw [List.filter_cons_of_pos (by simpa using h), List.filter_cons_of_pos (by simpa using h), List.map_cons, ih]
    · rw [List.filter_cons_of_neg (by simpa using h), List.filter_cons_of_neg (by simpa using h), ih]

/-! ## When waiting is enough -/

/-- A service that met the expectation of its phase meets the one of the report. -/
def Expectation.suffices (x : ServiceExpectation) : Expectation → Bool
  | .fields state none _ => decide (state ∈ x.acceptedStates)
  | .fields state (some instances) _ => decide (x.kind ≠ "scaled" ∧ 1 ≤ instances ∧ state ∈ x.acceptedStates)
  | .text value => decide (x.kind ≠ "scaled" ∧ (if value = "healthy" then "running" else value) ∈ x.acceptedStates)

/-- Every service that the report of a profile judges is waited for in a phase of it, well enough. -/
def Contract.covered (contract : Contract) (profile : String) : Bool :=
  match contract.runtimeProfiles.lookup profile with
  | none => false
  | some profileContract => profileContract.requiredServiceGroups.all (fun group =>
      match contract.serviceGroups.lookup group with
      | none => false
      | some names => names.all (fun name =>
          match contract.serviceExpectations.lookup name with
          | none => false
          | some x => decide (name ≠ "") && profileContract.bootstrapPhases.any (fun phase =>
              phase.waitFor.any (fun p => decide (p.1 = name) && p.2.suffices x))))

theorem phaseSatisfied_mem {statesByService : List (String × List ContainerState)}
    {waitFor : List (String × Expectation)} {expectedAgents : Int}
    (h : (phaseSatisfied statesByService waitFor expectedAgents).1 = true) {service : String} {e : Expectation}
    (hp : (service, e) ∈ waitFor) : serviceError (getGroup statesByService service) expectedAgents service e = none := by
  simp only [phaseSatisfied, List.isEmpty_iff, List.filterMap_eq_nil_iff] at h
  exact h (service, e) hp

theorem state_of_not_any {containers : List ContainerState} {expected : String}
    (h : ¬ ((containers.map (·.state)).any (fun state => state ≠ expected)) = true) :
    ∀ c ∈ containers, c.state = expected := by
  simp only [List.any_eq_true, List.mem_map, decide_eq_true_eq, not_exists, not_and] at h
  exact fun c hc => not_not.1 (h _ ⟨c, hc, rfl⟩)

theorem ne_nil_of_instances {containers : List ContainerState} {n : Int} (h : (containers.length : Int) = n)
    (hn : 1 ≤ n) : containers ≠ [] := by
  rintro rfl
  rw [List.length_nil] at h
  omega

/-- **What a satisfied expectation says of the containers**: they are there, in the number expected where the
expectation counts them by the agents, and each is in a state that the report accepts. -/
theorem serviceError_none {containers : List ContainerState} {expectedAgents : Int} {service : String}
    {e : Expectation} {x : ServiceExpectation} (hn : 1 ≤ expectedAgents)
    (h : serviceError containers expectedAgents service e = none) (hs : e.suffices x = true) :
    containers ≠ [] ∧ (∀ c ∈ containers, c.state ∈ x.acceptedStates) ∧
      (x.kind = "scaled" → (containers.length : Int) = expectedAgents) := by
  cases e with
  | fields state instances health =>
    simp only [serviceError, List.length_map] at h
    split at h
    · cases h
    rename_i hcount
    split at h
    · cases h
    rename_i hstates
    have hcount : (containers.length : Int) = instances.getD expectedAgents := not_not.1 hcount
    have hall := state_of_not_any hstates
    cases instances with
    | none =>
      simp only [Expectation.suffices, decide_eq_true_eq] at hs
      exact ⟨ne_nil_of_instances hcount hn, fun c hc => hall c hc ▸ hs, fun _ => hcount⟩
    | some k =>
      simp only [Expectation.suffices, decide_eq_true_eq] at hs
      exact ⟨ne_nil_of_instances hcount hs.2.1, fun c hc => hall c hc ▸ hs.2.2, fun hk => absurd hk hs.1⟩
  | text value =>
    simp only [Expectation.suffices, decide_eq_true_eq] at hs
    simp only [serviceError] at h
    split at h
    · cases h
    rename_i hne
    have hne : containers ≠ [] := fun hc => hne (by rw [hc]; rfl)
    refine ⟨hne, fun c hc => ?_, fun hk => absurd hk hs.1⟩
    by_cases hv : value = "healthy"
    · rw [if_pos hv] at h hs
      split at h
      · cases h
      rename_i hstates
      exact state_of_not_any hstates c hc ▸ hs.2
    · rw [if_neg hv] at h hs
      split at h
      · cases h
      rename_i hstates
      exact state_of_not_any hstates c hc ▸ hs.2

/-- **A service the bootstrap script found in order passes its check.** -/
theorem serviceCheck_pass {containers : List Dict} {expectedAgents : Int} {service : String}
    {e : Expectation} {x : ServiceExpectation} (hn : 1 ≤ expectedAgents) (hne : service ≠ "")
    (hservice : ∀ c ∈ containers, (c.get "Service").truthy = true)
    (h : serviceError (getGroup (groupByService repr lower containers) service) expectedAgents service e = none)
    (hs : e.suffices x = true) :
    (serviceCheck repr lower (containersByService repr containers) expectedAgents service x).1.get "status" =
      .str "pass" := by
  obtain ⟨hsome, hstates, hcount⟩ := serviceError_none hn h hs
  have hgroup := getGroup_groupByService repr lower hne containers
  rw [← getGroup_containersByService repr service containers hservice] at hgroup
  rw [hgroup] at hsome hstates hcount
  generalize hi : getGroup (containersByService repr containers) service = instances at hsome hstates hcount
  have hempty : instances.isEmpty = false := by
    cases instances with
    | nil => exact absurd rfl hsome
    | cons => rfl
  have haccepted : (instances.map (normalizeState repr lower)).all (fun state => state ∈ x.acceptedStates) = true := by
    rw [List.all_eq_true]
    intro state hstate
    obtain ⟨c, hc, rfl⟩ := List.mem_map.1 hstate
    exact decide_eq_true (hstates _ (List.mem_map.2 ⟨c, hc, rfl⟩))
  unfold serviceCheck
  simp only [hi, haccepted, hempty]
  by_cases hk : x.kind = "scaled"
  · rw [List.length_map] at hcount
    rw [if_pos hk, decide_eq_true (hcount hk)]
    rfl
  · rw [if_neg hk]
    rfl

theorem mapM_subscript {β γ : Type} {mapping : List (String × β)} : ∀ {keys : List String} {f : String → β → Prop}
    (_ : ∀ k ∈ keys, ∃ v, mapping.lookup k = some v ∧ f k v) (g : String → β → γ),
    ∃ values, keys.mapM (fun k => do let v ← subscript mapping k; return g k v) = .ok values ∧
      ∀ w ∈ values, ∃ k ∈ keys, ∃ v, mapping.lookup k = some v ∧ f k v ∧ w = g k v
  | [], _, _, _ => ⟨[], rfl, fun w hw => by cases hw⟩
  | k :: keys, f, h, g => by
    obtain ⟨v, hv, hf⟩ := h k List.mem_cons_self
    obtain ⟨values, hvalues, hmem⟩ := mapM_subscript (fun k hk => h k (List.mem_cons_of_mem _ hk)) g
    refine ⟨g k v :: values, ?_, fun w hw => ?_⟩
    · rw [List.mapM_cons, hvalues]
      simp [subscript, hv, bind, Except.bind, pure, Except.pure]
    · rcases List.mem_cons.1 hw with rfl | hw
      · exact ⟨k, List.mem_cons_self, v, hv, hf, rfl⟩
      · obtain ⟨k', hk', rest⟩ := hmem w hw
        exact ⟨k', List.mem_cons_of_mem _ hk', rest⟩

theorem Contract.covered_iff {contract : Contract} {profile : String} : contract.covered profile = true ↔
    ∃ p, contract.runtimeProfiles.lookup profile = some p ∧ ∀ group ∈ p.requiredServiceGroups,
      ∃ names, contract.serviceGroups.lookup group = some names ∧ ∀ name ∈ names,
        ∃ x, contract.serviceExpectations.lookup name = some x ∧ name ≠ "" ∧ ∃ phase ∈ p.bootstrapPhases,
          ∃ e, (name, e) ∈ phase.waitFor ∧ e.suffices x = true := by
  unfold Contract.covered
  cases contract.runtimeProfiles.lookup profile with
  | none => simp
  | some p =>
    simp only [List.all_eq_true, Option.some.injEq, exists_eq_left']
    refine forall₂_congr fun group _ => ?_
    cases contract.serviceGroups.lookup group with
    | none => simp
    | some names =>
      simp only [List.all_eq_true, Option.some.injEq, exists_eq_left']
      refine forall₂_congr fun name _ => ?_
      cases contract.serviceExpectations.lookup name with
      | none => simp
      | some x =>
        simp only [Bool.and_eq_true, decide_eq_true_eq, List.any_eq_true, Option.some.injEq, exists_eq_left',
          Prod.exists]
        constructor
        · rintro ⟨hne, phase, hphase, _, e, hmem, rfl, hs⟩
          exact ⟨hne, phase, hphase, e, hmem, hs⟩
        · rintro ⟨hne, phase, hphase, e, hmem, hs⟩
          exact ⟨hne, phase, hphase, name, e, hmem, rfl, hs⟩

/-- The bootstrap phases of a profile. -/
def Contract.phases (contract : Contract) (profile : String) : List BootstrapPhase :=
  match contract.runtimeProfiles.lookup profile with
  | none => []
  | some profileContract => profileContract.bootstrapPhases

/-- **A covered contract's bootstrap implies its readiness.** -/
theorem serviceStateReport_pass {contract : Contract} {profile : String} (hcovered : contract.covered profile = true)
    {containers : List Dict} {expectedAgents : Int} (hn : 1 ≤ expectedAgents)
    (hservice : ∀ c ∈ containers, (c.get "Service").truthy = true)
    (hboot : ∀ phase ∈ contract.phases profile,
      (phaseSatisfied (groupByService repr lower containers) phase.waitFor expectedAgents).1 = true) :
    ∃ checks services, serviceStateReport repr lower contract profile expectedAgents containers =
      .ok (checks, services) ∧ ∀ check ∈ checks, check.get "status" = .str "pass" := by
  obtain ⟨p, hp, hgroups⟩ := Contract.covered_iff.1 hcovered
  simp only [Contract.phases, hp] at hboot
  obtain ⟨groups, hread, hmem⟩ := mapM_subscript hgroups (fun _ names => names)
  have hnames : ∀ name ∈ groups.flatten, ∃ x, contract.serviceExpectations.lookup name = some x ∧ name ≠ "" ∧
      ∃ phase ∈ p.bootstrapPhases, ∃ e, (name, e) ∈ phase.waitFor ∧ e.suffices x = true := fun name hname => by
    obtain ⟨names, hg, hin⟩ := List.mem_flatten.1 hname
    obtain ⟨group, -, v, -, hv, rfl⟩ := hmem names hg
    exact hv name hin
  obtain ⟨rows, hrows, hrow⟩ := mapM_subscript hnames (fun name x =>
    (name, serviceCheck repr lower (containersByService repr containers) expectedAgents name x))
  refine ⟨rows.map (fun row => row.2.1), rows.foldl (fun report row => report.set row.1 row.2.2) [], ?_,
    fun check hcheck => ?_⟩
  · have hprofile : subscript contract.runtimeProfiles profile = .ok p := by rw [subscript, hp]
    simp only [bind_pure] at hread
    simp only [bind, Except.bind] at hrows
    simp only [serviceStateReport, hprofile, bind, Except.bind]
    rw [hread]
    simp only [hrows]
    rfl
  · obtain ⟨row, hin, rfl⟩ := List.mem_map.1 hcheck
    obtain ⟨name, -, x, -, ⟨hne, phase, hphase, e, hwait, hs⟩, rfl⟩ := hrow row hin
    exact serviceCheck_pass repr lower hn hne hservice (phaseSatisfied_mem (hboot phase hphase) hwait) hs

end

/-! ## The repository's contract -/

/-- The phases both profiles have after the core phase. -/
def laterPhases (exporters : List (String × Expectation)) : List BootstrapPhase :=
  [{ name := "lider-core", waitFor := [("lider-core", .text "healthy")] },
    { name := "lider-surface", waitFor := [("liderapi", .text "healthy"), ("lider-ui", .text "running")] },
    { name := "platform-plane"
      waitFor := [("provisioner", .text "completed"), ("registration-orchestrator", .text "running")] ++ exporters },
    { name := "agents", waitFor := [("ahenk", .fields "running" none none)] }]

def coreWaitFor : List (String × Expectation) :=
  [("mariadb", .text "healthy"), ("ldap", .text "healthy"), ("ejabberd", .text "healthy"),
    ("ldap-init", .text "completed"), ("db-migrate", .text "completed")]

def devFast : RuntimeProfile where
  requiredServiceGroups := ["core", "lider", "agent_plane"]
  bootstrapPhases := { name := "core", waitFor := coreWaitFor } :: laterPhases []

def devFidelity : RuntimeProfile where
  requiredServiceGroups := ["core", "lider", "agent_plane", "observability"]
  bootstrapPhases :=
    { name := "core"
      waitFor := coreWaitFor ++ ["prometheus", "grafana", "loki", "grafana-alloy", "otel-collector", "cadvisor",
        "mysqld-exporter", "ejabberd-exporter"].map (fun service => (service, .text "running")) } ::
      laterPhases [("platform-exporter", .text "running")]

def singleton (name : String) : String × ServiceExpectation := (name, ⟨"singleton", ["running"]⟩)

/-- `platform/contracts/runtime-readiness.yaml`. -/
def runtimeReadiness : Contract where
  runtimeProfiles := [("dev-fast", devFast), ("dev-fidelity", devFidelity)]
  serviceGroups :=
    [("core", ["mariadb", "ldap", "ejabberd"]), ("lider", ["lider-core", "liderapi", "lider-ui"]),
      ("agent_plane", ["provisioner", "ahenk", "registration-orchestrator"]),
      ("observability", ["prometheus", "grafana", "loki", "grafana-alloy", "otel-collector", "platform-exporter",
        "cadvisor", "mysqld-exporter", "ejabberd-exporter"])]
  serviceExpectations :=
    ["mariadb", "ldap", "ejabberd", "lider-core", "liderapi", "lider-ui"].map singleton ++
      [("provisioner", ⟨"singleton", ["running", "completed"]⟩), singleton "registration-orchestrator",
        ("ahenk", ⟨"scaled", ["running"]⟩)] ++
      ["prometheus", "grafana", "loki", "grafana-alloy", "otel-collector", "platform-exporter", "cadvisor",
        "mysqld-exporter", "ejabberd-exporter"].map singleton

theorem runtimeReadiness_covered :
    ∀ profile ∈ ["dev-fast", "dev-fidelity"], runtimeReadiness.covered profile = true := by
  decide +kernel

/-- **Bootstrap readiness implies service readiness**, in both profiles, for every number of agents and every list of
containers that name their services. -/
theorem bootstrap_ready (repr : Json → String) (lower : String → String) (profile : String)
    (hprofile : profile ∈ ["dev-fast", "dev-fidelity"]) (expectedAgents : Int) (hn : 1 ≤ expectedAgents)
    (containers : List Dict) (hservice : ∀ c ∈ containers, (c.get "Service").truthy = true)
    (hboot : ∀ phase ∈ runtimeReadiness.phases profile,
      (phaseSatisfied (groupByService repr lower containers) phase.waitFor expectedAgents).1 = true) :
    ∃ checks services, serviceStateReport repr lower runtimeReadiness profile expectedAgents containers =
      .ok (checks, services) ∧ ∀ check ∈ checks, check.get "status" = .str "pass" :=
  serviceStateReport_pass repr lower (runtimeReadiness_covered profile hprofile) hn hservice hboot

/-- A container as compose lists it. -/
def sampleContainer (service state status health : String) : Dict :=
  [("Service", .str service), ("State", .str state), ("Status", .str status), ("Health", .str health)]

/-- The containers of a fast profile with two agents, one-shot services exited. -/
def sampleContainers : List Dict :=
  [sampleContainer "mariadb" "running" "Up" "healthy", sampleContainer "ldap" "running" "Up" "healthy",
    sampleContainer "ejabberd" "running" "Up" "healthy", sampleContainer "ldap-init" "exited" "Exited (0)" "",
    sampleContainer "db-migrate" "exited" "Exited (0)" "", sampleContainer "lider-core" "running" "Up" "healthy",
    sampleContainer "liderapi" "running" "Up" "healthy", sampleContainer "lider-ui" "running" "Up" "",
    sampleContainer "provisioner" "exited" "Exited (0)" "", sampleContainer "registration-orchestrator" "running" "Up" "",
    sampleContainer "ahenk" "running" "Up" "", sampleContainer "ahenk" "running" "Up" ""]

theorem sampleContainers_ready :
    ∃ checks services, serviceStateReport (fun _ => "") id runtimeReadiness "dev-fast" 2 sampleContainers =
      .ok (checks, services) ∧ ∀ check ∈ checks, check.get "status" = .str "pass" :=
  bootstrap_ready (fun _ => "") id "dev-fast" (by decide) 2 (by decide) sampleContainers (by decide +kernel)
    (by decide +kernel)

end Lider
