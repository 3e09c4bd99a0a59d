import LiderPlatform.AgentIdentity
/-!
# MutationSupport — which scenario steps are supported (`readiness/mutation_support.py`, `lider_api_adapter.py`)

The support table of the mutation steps and the adapter's capability descriptors read the same evidence document and
gate it separately.  `verifiedElsewhere` names the one kind of document on which they part: the step that creates a
user is marked as verified at run time, under another mode than the adapter asks for.
-/
namespace Lider

open Py

/-! ## The rule table -/

structure ConditionalMode where
  name : String
  adapterMethod : String
  capabilityEnv : String
  capabilityMethod : String

structure StepRule where
  adapterMethod : String
  surface : String
  capabilityEnv : Option String := none
  capabilityMethod : Option String := none
  mode : Option String := none
  note : Option String := none
  conditionalMode : Option ConditionalMode := none

def mutationStepCapabilities : List (String × StepRule) :=
  [("create_user_via_ui",
      { adapterMethod := "create_directory_user"
        surface := "directory_user"
        capabilityEnv := some "LIDER_DIRECTORY_USER_CREATE_ENDPOINT"
        capabilityMethod := some "supports_directory_user_create" }),
    ("create_group_via_ui", { adapterMethod := "create_user_group", surface := "user_group" }),
    ("assign_user_to_group_via_ui",
      { adapterMethod := "create_user_group"
        surface := "user_group_membership"
        mode := some "membership_on_group_create"
        note := some ("Official create-new-group flow accepts checked user entries, so the first " ++
          "membership assignment is supported during group creation.")
        conditionalMode := some
          { name := "existing_group_membership_update"
            adapterMethod := "add_directory_entries_to_user_group"
            capabilityEnv := "LIDER_USER_GROUP_ADD_MEMBER_ENDPOINT"
            capabilityMethod := "supports_user_group_membership_update" } }),
    ("create_policy_via_ui", { adapterMethod := "create_policy", surface := "policy" }),
    ("assign_policy_to_group_via_ui", { adapterMethod := "execute_policy", surface := "policy_assignment" })]

/-- The methods of `LiderApiAdapter` that the table names. -/
def adapterMethods : List String :=
  ["create_directory_user", "supports_directory_user_create", "create_user_group",
    "add_directory_entries_to_user_group", "supports_user_group_membership_update", "create_policy", "execute_policy"]

/-! ## The evidence -/

/-- `evidence.get("verifiedSteps", {})` of a dictionary, `{}` of anything else; what follows calls `.get` on it. -/
def verifiedSteps : Option Json → Except PyExc Dict
  | some (.obj evidence) => match evidence.lookup "verifiedSteps" with
    | none => .ok []
    | some (.obj steps) => .ok steps
    | some _ => .error .attributeError
  | _ => .ok []

/-- `isinstance(step, dict) and step.get("runtimeVerified") is True`. -/
def markedVerified : Json → Bool
  | .obj step => match Dict.get step "runtimeVerified" with
    | .bool true => true
    | _ => false
  | _ => false

/-- `step.get("mode") == mode`, of a dictionary. -/
def hasMode (mode : String) : Json → Bool
  | .obj step => (Dict.get step "mode").pyEq (.str mode)
  | _ => false

/-! ## The support table -/

section
variable (env : String → Option String)

/-- `bool(os.environ.get(name, "").strip())`. -/
def envConfigured (name : String) : Bool := decide (strip ((env name).getD "").toList ≠ [])

/-- The branch of `mutation_step_support` for `assign_user_to_group_via_ui`. -/
def assignSupport (allowRuntimeVerification : Bool) (evidence : Json) (rule : StepRule) (mode : ConditionalMode) : Dict :=
  let configured := decide (mode.capabilityEnv ≠ "") && envConfigured env mode.capabilityEnv
  let runtimeVerified := allowRuntimeVerification && markedVerified evidence && hasMode mode.name evidence
  let note := rule.note.getD ""
  let note :=
    if runtimeVerified then
      note ++ " Existing-group membership mutation is runtime-verified by the " ++
        "active ui-user-policy-roundtrip acceptance lane."
    else if configured then
      note ++ " Existing-group membership mutation is configured via " ++ mode.capabilityEnv ++
        ", but it is not runtime-verified yet."
    else if mode.capabilityEnv ≠ "" then
      note ++ " Set " ++ mode.capabilityEnv ++ " to enable existing-group membership mutation after the group already exists."
    else note
  [("surface", .str rule.surface), ("supported", .bool (decide (rule.adapterMethod ∈ adapterMethods))),
    ("adapterMethod", .str rule.adapterMethod), ("mode", .str (rule.mode.getD "")), ("note", .str note),
    ("conditionalModes", .arr [.obj
      [("name", .str mode.name), ("enabled", .bool runtimeVerified), ("configured", .bool configured),
        ("runtimeVerified", .bool runtimeVerified),
        ("status", .str (if runtimeVerified then "runtime-verified" else if configured then "configured" else "disabled")),
        ("adapterMethod", .str mode.adapterMethod), ("capabilityEnv", .str mode.capabilityEnv),
        ("capabilityMethod", .str mode.capabilityMethod)]])]

/-- `d[key] = text` when there is a text. -/
def setText (key : String) : Option String → Dict → Dict
  | none, d => d
  | some text, d => d.set key (.str text)

/-- The branch for `create_user_via_ui`: supported only when verified at run time. -/
def createUserSupport (allowRuntimeVerification : Bool) (evidence : Json) (rule : StepRule) : Dict :=
  let capabilityEnv := rule.capabilityEnv.getD ""
  let capabilityMethod := rule.capabilityMethod.getD ""
  let configured := decide (rule.adapterMethod ∈ adapterMethods) && decide (capabilityMethod ∈ adapterMethods) &&
    (decide (capabilityEnv ≠ "") && envConfigured env capabilityEnv)
  let runtimeVerified := allowRuntimeVerification && markedVerified evidence
  let support : Dict :=
    [("surface", .str rule.surface), ("supported", .bool runtimeVerified), ("adapterMethod", .str rule.adapterMethod),
      ("capabilityEnv", .str capabilityEnv), ("capabilityMethod", .str capabilityMethod),
      ("configured", .bool configured), ("runtimeVerified", .bool runtimeVerified),
      ("status", .str (if runtimeVerified then "runtime-verified" else if configured then "configured" else "disabled"))]
  let support :=
    if runtimeVerified then
      (support.set "mode" (.str "ui-first-postcondition")).set "note" (.str
        "Official directory user create flow is runtime-verified by the active ui-user-policy-roundtrip acceptance lane.")
    else if configured then
      (support.set "mode" (.str "configured-not-verified")).set "note" (.str
        ("Official directory user create flow is configured through " ++ capabilityEnv ++
          ", but it is not runtime-verified yet."))
    else
      support.set "note" (.str ("Official directory user create endpoint is not configured. Set " ++ capabilityEnv ++
        " to expose create_user_via_ui."))
  setText "note" rule.note (setText "mode" rule.mode support)

def plainSupport (rule : StepRule) : Dict :=
  setText "note" rule.note (setText "mode" rule.mode
    [("surface", .str rule.surface), ("supported", .bool (decide (rule.adapterMethod ∈ adapterMethods))),
      ("adapterMethod", .str rule.adapterMethod)])

/-- One turn of the loop over the table. -/
def stepSupport (allowRuntimeVerification : Bool) (steps : Dict) (stepName : String) (rule : StepRule) : Dict :=
  if stepName = "assign_user_to_group_via_ui" then
    assignSupport env allowRuntimeVerification (steps.get stepName) rule (rule.conditionalMode.getD ⟨"", "", "", ""⟩)
  else if stepName = "create_user_via_ui" then
    createUserSupport env allowRuntimeVerification (steps.get stepName) rule
  else plainSupport rule

/-- `mutation_step_support`; `evidence` is what `load_ui_mutation_evidence()` returns when it is called. -/
def mutationStepSupport (allowRuntimeVerification : Bool) (evidence : Option Json) : Except PyExc Dict := do
  let steps ← verifiedSteps (if allowRuntimeVerification then evidence else some (.obj []))
  return mutationStepCapabilities.map (fun p => (p.1, .obj (stepSupport env allowRuntimeVerification steps p.1 p.2)))

/-! ## The adapter -/

/-- `LiderApiAdapter._mutation_step_runtime_verified`. -/
def mutationStepRuntimeVerified (evidence : Option Json) (stepName : String) (mode : Option String) :
    Except PyExc Bool := do
  let loaded := (evidence.getD .null).orElse (.obj [])
  let steps ← verifiedSteps (some loaded)
  let stepEvidence := steps.get stepName
  if !markedVerified stepEvidence then return false
  match mode with
  | none => return true
  | some mode => return hasMode mode stepEvidence

def configuredEndpoint (envName : String) : Option String :=
  match strip ((env envName).getD "").toList with
  | [] => none
  | '/' :: rest => some (String.ofList ('/' :: rest))
  | endpoint => some (String.ofList ('/' :: endpoint))

/-- `_endpoint_capability`; `probe` is the answer to an OPTIONS request, when one is asked for. -/
def endpointCapability (probe : Option (String → Dict)) (capability envName : String) : Dict :=
  let endpoint := configuredEndpoint env envName
  let descriptor : Dict :=
    [("capability", .str capability), ("env", .str envName), ("endpoint", endpoint.elim .null .str),
      ("configured", .bool endpoint.isSome), ("runtimeVerified", .bool false), ("enabled", .bool false)]
  match endpoint with
  | none =>
    (descriptor.set "status" (.str "disabled")).set "reason" (.str s!"Set {envName} to enable {capability}.")
  | some endpoint =>
    let descriptor := (descriptor.set "status" (.str "configured")).set "reason"
      (.str s!"{capability} is configured via {envName}, but runtime verification is still required.")
    match probe with
    | none => descriptor
    | some probe => descriptor.set "probe" (.obj (probe endpoint))

/-- What both capability methods do: the descriptor, raised to verified when the evidence says so. -/
def verifiedCapability (probe : Option (String → Dict)) (evidence : Option Json)
    (capability envName mode reason : String) : Except PyExc Dict := do
  let descriptor := endpointCapability env probe capability envName
  if ← mutationStepRuntimeVerified evidence capability (some mode) then
    return (((descriptor.set "runtimeVerified" (.bool true)).set "enabled" (.bool true)).set "status"
      (.str "runtime-verified")).set "reason" (.str reason)
  return descriptor

/-- `LiderApiAdapter.directory_user_create_capability`. -/
def directoryUserCreateCapability (probe : Option (String → Dict)) (evidence : Option Json) : Except PyExc Dict :=
  verifiedCapability env probe evidence "create_user_via_ui" "LIDER_DIRECTORY_USER_CREATE_ENDPOINT"
    "ui-first-postcondition" "Official directory user create flow is runtime-verified by a postcondition proof."

/-- `LiderApiAdapter.user_group_membership_update_capability`. -/
def userGroupMembershipUpdateCapability (probe : Option (String → Dict)) (evidence : Option Json) : Except PyExc Dict :=
  verifiedCapability env probe evidence "assign_user_to_group_via_ui" "LIDER_USER_GROUP_ADD_MEMBER_ENDPOINT"
    "existing_group_membership_update"
    "Official existing-group membership update flow is runtime-verified by a postcondition proof."

/-! ## The flags -/

/-- `support["create_user_via_ui"]["runtimeVerified"]`. -/
def createUserFlag (support : Dict) : Json :=
  match support.get "create_user_via_ui" with
  | .obj step => Dict.get step "runtimeVerified"
  | _ => .null

/-- `support["assign_user_to_group_via_ui"]["conditionalModes"][0]["runtimeVerified"]`. -/
def conditionalFlag (support : Dict) : Json :=
  match support.get "assign_user_to_group_via_ui" with
  | .obj step => match Dict.get step "conditionalModes" with
    | .arr (.obj mode :: _) => Dict.get mode "runtimeVerified"
    | _ => .null
  | _ => .null

theorem get_setText {key name : String} (h : name ≠ key) (text : Option String) (d : Dict) :
    (setText key text d).get name = d.get name := by
  cases text with
  | none => rfl
  | some text => rw [setText, Dict.get_set, if_neg h]

theorem createUserSupport_flag (allow : Bool) (evidence : Json) (rule : StepRule) :
    (createUserSupport env allow evidence rule).get "runtimeVerified" =
      .bool (allow && markedVerified evidence) := by
  unfold createUserSupport
  rw [get_setText (by decide), get_setText (by decide)]
  split
  · rw [Dict.get_set, if_neg (by decide), Dict.get_set, if_neg (by decide)]
    rfl
  · split
    · rw [Dict.get_set, if_neg (by decide), Dict.get_set, if_neg (by decide)]
      rfl
    · rw [Dict.get_set, if_neg (by decide)]
      rfl

/-- **The table's flag for a created user** does not look at the mode. -/
theorem mutationStepSupport_createUserFlag {evidence : Option Json} {steps : Dict}
    (h : verifiedSteps evidence = .ok steps) :
    ∃ support, mutationStepSupport env true evidence = .ok support ∧
      createUserFlag support = .bool (markedVerified (steps.get "create_user_via_ui")) ∧
      conditionalFlag support = .bool (markedVerified (steps.get "assign_user_to_group_via_ui") &&
        hasMode "existing_group_membership_update" (steps.get "assign_user_to_group_via_ui")) := by
  refine ⟨_, by rw [mutationStepSupport, if_pos rfl, h]; rfl, ?_, rfl⟩
  have hentry : ∀ rule, mutationStepCapabilities.lookup "create_user_via_ui" = some rule →
      createUserFlag (mutationStepCapabilities.map (fun p => (p.1, .obj (stepSupport env true steps p.1 p.2)))) =
        (createUserSupport env true (steps.get "create_user_via_ui") rule).get "runtimeVerified" := fun rule hrule => by
    cases hrule
    rfl
  exact (hentry _ rfl).trans (createUserSupport_flag env true _ _)

theorem verifiedSteps_orElse (evidence : Option Json) :
    verifiedSteps (some ((evidence.getD .null).orElse (.obj []))) = verifiedSteps evidence := by
  cases evidence with
  | none => rfl
  | some v =>
    unfold Json.orElse
    split
    · rfl
    · rename_i hv
      cases v with
      | obj d =>
        cases d with
        | nil => rfl
        | cons p d => exact absurd rfl hv
      | _ => rfl

theorem endpointCapability_flag (probe : Option (String → Dict)) (capability envName : String) :
    (endpointCapability env probe capability envName).get "runtimeVerified" = .bool false := by
  unfold endpointCapability
  cases configuredEndpoint env envName with
  | none =>
    dsimp only
    rw [Dict.get_set, if_neg (by decide), Dict.get_set, if_neg (by decide)]
    rfl
  | some endpoint =>
    cases probe with
    | none =>
      dsimp only
      rw [Dict.get_set, if_neg (by decide), Dict.get_set, if_neg (by decide)]
      rfl
    | some probe =>
      dsimp only
      rw [Dict.get_set, if_neg (by decide), Dict.get_set, if_neg (by decide), Dict.get_set, if_neg (by decide)]
      rfl

/-- **The adapter's flag** asks for the mark and the mode. -/
theorem verifiedCapability_flag (probe : Option (String → Dict)) {evidence : Option Json} {steps : Dict}
    (h : verifiedSteps evidence = .ok steps) (capability envName mode reason : String) :
    ∃ descriptor, verifiedCapability env probe evidence capability envName mode reason = .ok descriptor ∧
      descriptor.get "runtimeVerified" =
        .bool (markedVerified (steps.get capability) && hasMode mode (steps.get capability)) := by
  have hverified : mutationStepRuntimeVerified evidence capability (some mode) =
      .ok (markedVerified (steps.get capability) && hasMode mode (steps.get capability)) := by
    rw [mutationStepRuntimeVerified, verifiedSteps_orElse, h]
    cases hm : markedVerified (steps.get capability) <;> simp [bind, Except.bind, pure, Except.pure, hm]
  unfold verifiedCapability
  rw [hverified]
  cases hv : markedVerified (steps.get capability) && hasMode mode (steps.get capability) with
  | false => exact ⟨_, rfl, endpointCapability_flag env probe capability envName⟩
  | true =>
    refine ⟨_, rfl, ?_⟩
    rw [Dict.get_set, if_neg (by decide), Dict.get_set, if_neg (by decide), Dict.get_set, if_neg (by decide),
      Dict.get_set, if_pos rfl]

end

/-! ## Agreement -/

/-- No document, or a dictionary whose `verifiedSteps`, if there, is one. -/
def EvidenceShape (evidence : Option Json) : Prop :=
  evidence = none ∨ ∃ d, evidence = some (.obj d) ∧ ∀ v, d.lookup "verifiedSteps" = some v → ∃ steps, v = .obj steps

/-- Both paths answer, and their two flags are the same. -/
def FlagsAgree (env : String → Option String) (probe : Option (String → Dict)) (evidence : Option Json) : Prop :=
  ∃ support created assigned, mutationStepSupport env true evidence = .ok support ∧
    directoryUserCreateCapability env probe evidence = .ok created ∧
    userGroupMembershipUpdateCapability env probe evidence = .ok assigned ∧
    createUserFlag support = created.get "runtimeVerified" ∧ conditionalFlag support = assigned.get "runtimeVerified"

/-- The entry of one step in the evidence. -/
def stepEvidence (evidence : Option Json) (stepName : String) : Json :=
  match verifiedSteps evidence with
  | .ok steps => steps.get stepName
  | .error _ => .null

/-- The step that creates a user is marked as verified, under another mode than the adapter's or under none. -/
def verifiedElsewhere (evidence : Option Json) : Bool :=
  markedVerified (stepEvidence evidence "create_user_via_ui") &&
    !hasMode "ui-first-postcondition" (stepEvidence evidence "create_user_via_ui")

theorem EvidenceShape.read {evidence : Option Json} (h : EvidenceShape evidence) :
    ∃ steps, verifiedSteps evidence = .ok steps := by
  rcases h with rfl | ⟨d, rfl, hd⟩
  · exact ⟨[], rfl⟩
  · cases hl : d.lookup "verifiedSteps" with
    | none => exact ⟨[], by simp only [verifiedSteps, hl]⟩
    | some v =>
      obtain ⟨steps, rfl⟩ := hd v hl
      exact ⟨steps, by simp only [verifiedSteps, hl]⟩

/-- **The two paths agree on a document exactly when it is not verified elsewhere.** -/
theorem flagsAgree_iff (env : String → Option String) (probe : Option (String → Dict)) (evidence : Option Json)
    (hshape : EvidenceShape evidence) : FlagsAgree env probe evidence ↔ verifiedElsewhere evidence = false := by
  obtain ⟨steps, hsteps⟩ := hshape.read
  obtain ⟨support, hsupport, hcreate, hassign⟩ := mutationStepSupport_createUserFlag env hsteps
  obtain ⟨created, hcreated, hcreatedFlag⟩ := verifiedCapability_flag env probe hsteps "create_user_via_ui"
    "LIDER_DIRECTORY_USER_CREATE_ENDPOINT" "ui-first-postcondition"
    "Official directory user create flow is runtime-verified by a postcondition proof."
  obtain ⟨assigned, hassigned, hassignedFlag⟩ := verifiedCapability_flag env probe hsteps "assign_user_to_group_via_ui"
    "LIDER_USER_GROUP_ADD_MEMBER_ENDPOINT" "existing_group_membership_update"
    "Official existing-group membership update flow is runtime-verified by a postcondition proof."
  have hagree : FlagsAgree env probe evidence ↔ createUserFlag support = created.get "runtimeVerified" := by
    constructor
    · rintro ⟨support', created', assigned', h1, h2, -, h4, -⟩
      rw [hsupport] at h1
      rw [directoryUserCreateCapability, hcreated] at h2
      cases h1
      cases h2
      exact h4
    · intro h
      exact ⟨support, created, assigned, hsupport, hcreated, hassigned, h, hassign.trans hassignedFlag.symm⟩
  rw [hagree, hcreate, hcreatedFlag]
  simp only [verifiedElsewhere, stepEvidence, hsteps]
  cases markedVerified (steps.get "create_user_via_ui") <;>
    cases hasMode "ui-first-postcondition" (steps.get "create_user_via_ui") <;> simp

/-- The document the management end-to-end test writes: its first step names no mode. -/
def roundtripEvidence : Option Json :=
  some (.obj [("scenario", .str "ui-user-policy-roundtrip"),
    ("verifiedSteps", .obj
      [("create_user_via_ui", .obj [("runtimeVerified", .bool true), ("uid", .str "e2e-user")]),
        ("assign_user_to_group_via_ui", .obj
          [("runtimeVerified", .bool true), ("mode", .str "existing_group_membership_update")])])])

theorem roundtripEvidence_shape : EvidenceShape roundtripEvidence :=
  Or.inr ⟨_, rfl, fun _ hv => ⟨_, (Option.some.inj hv).symm⟩⟩

theorem roundtripEvidence_disagree : EvidenceShape roundtripEvidence ∧
    ¬ FlagsAgree (fun _ => none) none roundtripEvidence := by
  refine ⟨roundtripEvidence_shape, ?_⟩
  rintro ⟨support, created, assigned, hsupport, hcreated, -, hcreate, -⟩
  cases hsupport
  cases hcreated
  have : Json.bool true = Json.bool false := hcreate
  cases this

/-- The document the adapter writes, with its mode. -/
def adapterEvidence : Option Json :=
  some (.obj [("verifiedSteps", .obj
    [("create_user_via_ui", .obj [("runtimeVerified", .bool true), ("mode", .str "ui-first-postcondition")])])])

theorem adapterEvidence_shape : EvidenceShape adapterEvidence :=
  Or.inr ⟨_, rfl, fun _ hv => ⟨_, (Option.some.inj hv).symm⟩⟩

theorem adapterEvidence_agree : FlagsAgree (fun _ => none) none adapterEvidence :=
  (flagsAgree_iff (fun _ => none) none adapterEvidence adapterEvidence_shape).2 (by decide)

end Lider
