import LiderPlatform.PolicyWorkflow
/-!
# PolicyOwnership — a policy round trip deletes what it created, and only that

Every creation that returned owes one delete (`owed`).  From the first statement to the `finally` block the variables
hold what is owed (`Holds`), and the cleanup makes the deletes that the variables call for (`cleanupFrame_spec`); so a
run makes the deletes it owes, whatever fails (`roundtrip_deletes_owed`).
-/
namespace Lider.PolicyWorkflow

open Py

/-! ## What is owed -/

def textArgument (kwargs : Dict) (key : String) : String :=
  match kwargs.get key with
  | .str text => text
  | _ => ""

/-- The delete that a call owes: of the group, the profile or the policy that it created. -/
def owed (api : Adapter) (c : ApiCall) : Option ApiCall :=
  match c.endpoint with
  | .createUserGroup => api.createUserGroup.toOption.map (fun group => ⟨.deleteUserGroup, [("dn",
      createdGroupDn (textArgument c.kwargs "group_name") (textArgument c.kwargs "selected_ou_dn") group)]⟩)
  | .createScriptProfile => api.createScriptProfile.toOption.map (fun profile =>
      ⟨.deleteProfile, [("profile_id", recordId "profileId" profile.val)]⟩)
  | .createPolicy => api.createPolicy.toOption.map (fun policy =>
      ⟨.deletePolicy, [("policy_id", recordId "policyId" policy.val)]⟩)
  | _ => none

def deleteCalls (calls : List ApiCall) : List ApiCall := calls.filter (fun c => c.endpoint.isDelete)

def recordDelete (endpoint : Endpoint) (argument idKey : String) (record : Option Dict) : List ApiCall :=
  (record.map (fun d => ⟨endpoint, [(argument, recordId idKey d)]⟩)).toList

def groupDelete (deleteGroup : Bool) (groupDn : Json) : List ApiCall :=
  if deleteGroup then [⟨.deleteUserGroup, [("dn", groupDn)]⟩] else []

/-- The deletes that the variables call for. -/
def pending (fr : Frame) : List ApiCall :=
  recordDelete .deletePolicy "policy_id" "policyId" fr.policy ++
    recordDelete .deleteProfile "profile_id" "profileId" fr.profile ++ groupDelete fr.deleteGroup fr.groupDn

def HasId (idKey : String) (record : Option Dict) : Prop := ∀ d ∈ record, ∃ id, recordId idKey d = .int id

/-- The variables hold what is owed. -/
structure Holds (api : Adapter) (fr : Frame) : Prop where
  noDelete : deleteCalls fr.calls = []
  owed : (fr.calls.filterMap (owed api)).Perm (pending fr)
  policy : HasId "policyId" fr.policy
  profile : HasId "profileId" fr.profile
  group : fr.deleteGroup = true → fr.groupDn.truthy = true

/-- The variables before the `try` block. -/
structure Ready (api : Adapter) (fr : Frame) : Prop extends Holds api fr where
  noGroup : fr.deleteGroup = false
  noProfile : fr.profile = none
  noPolicy : fr.policy = none

/-- The deletes made are those owed. -/
def Settled (api : Adapter) (fr : Frame) : Prop := (deleteCalls fr.calls).Perm (fr.calls.filterMap (owed api))

section
variable {api : Adapter}

theorem deleteCalls_append (calls more : List ApiCall) :
    deleteCalls (calls ++ more) = deleteCalls calls ++ deleteCalls more := List.filter_append ..

theorem Ready.settled {fr : Frame} (h : Ready api fr) : Settled api fr := by
  have hpending : pending fr = [] := by
    rw [pending, h.noGroup, h.noProfile, h.noPolicy]
    rfl
  have howed := h.owed
  rw [hpending] at howed
  rw [Settled, h.noDelete]
  exact howed.symm

theorem ready_initial : Ready api Frame.initial where
  noDelete := rfl
  owed := .refl _
  policy _ h := nomatch h
  profile _ h := nomatch h
  group h := nomatch h
  noGroup := rfl
  noProfile := rfl
  noPolicy := rfl

/-- **A call that deletes nothing adds what it owes.** -/
theorem Holds.called {fr : Frame} (h : Holds api fr) {c : ApiCall} (hd : c.endpoint.isDelete = false) :
    deleteCalls (fr.calls ++ [c]) = [] ∧
      ((fr.calls ++ [c]).filterMap (PolicyWorkflow.owed api)).Perm
        ((PolicyWorkflow.owed api c).toList ++ pending fr) := by
  constructor
  · rw [deleteCalls_append, h.noDelete, deleteCalls, List.filter_singleton, hd]
    rfl
  · rw [List.filterMap_append]
    refine (h.owed.append_right _).trans (List.perm_append_comm.trans ?_)
    cases howed : PolicyWorkflow.owed api c <;> simp [howed]

/-- A call that owes nothing leaves the variables as they should be. -/
theorem Holds.keeps {fr : Frame} (h : Holds api fr) {c : ApiCall} (hd : c.endpoint.isDelete = false)
    (ho : PolicyWorkflow.owed api c = none) : Holds api { fr with calls := fr.calls ++ [c] } := by
  obtain ⟨hdelete, howed⟩ := h.called hd
  rw [ho] at howed
  exact ⟨hdelete, howed, h.policy, h.profile, h.group⟩

theorem Ready.keeps {fr : Frame} (h : Ready api fr) {c : ApiCall} (hd : c.endpoint.isDelete = false)
    (ho : PolicyWorkflow.owed api c = none) : Ready api { fr with calls := fr.calls ++ [c] } :=
  ⟨h.toHolds.keeps hd ho, h.noGroup, h.noProfile, h.noPolicy⟩

/-- A group that is not to be deleted may be named as one likes. -/
theorem Holds.named {fr : Frame} (h : Holds api fr) (hno : fr.deleteGroup = false) (groupDn : Json) :
    Holds api { fr with groupDn := groupDn } where
  noDelete := h.noDelete
  owed := by
    have howed := h.owed
    simp only [pending, hno] at howed ⊢
    exact howed
  policy := h.policy
  profile := h.profile
  group hg := by simp [hno] at hg

theorem Ready.named {fr : Frame} (h : Ready api fr) (groupDn : Json) : Ready api { fr with groupDn := groupDn } :=
  ⟨h.toHolds.named h.noGroup groupDn, h.noGroup, h.noProfile, h.noPolicy⟩

theorem triple_call {α : Type} {P : Frame → Prop} {Q : α → Frame → Prop} {E : CallError → Frame → Prop}
    {endpoint : Endpoint} {kwargs : Dict} {outcome : Except CallError α}
    (hok : ∀ a, outcome = .ok a → ∀ fr, P fr → Q a { fr with calls := fr.calls ++ [⟨endpoint, kwargs⟩] })
    (herr : ∀ e, outcome = .error e → ∀ fr, P fr → E e { fr with calls := fr.calls ++ [⟨endpoint, kwargs⟩] }) :
    Block.Triple P (call endpoint kwargs outcome) Q E := fun fr hfr => by
  cases outcome with
  | ok a => exact hok a rfl fr hfr
  | error e => exact herr e rfl fr hfr

/-- What is computed outside of the frame leaves it. -/
theorem triple_ofExcept {α : Type} {P : Frame → Prop} (r : Except CallError α) :
    Block.Triple P (Block.ofExcept r : WorkflowBlock α) (fun _ => P) (fun _ => P) :=
  Block.Triple.ofExcept (fun _ _ _ h => h) (fun _ _ _ h => h)

/-! ## Before the `try` block -/

theorem describe_keeps : Block.Triple (Ready api) (describeLifecycleCapabilities api) (fun _ => Ready api)
    (fun _ => Ready api) := by
  refine Block.Triple.bind (Q := fun _ => Ready api) (Block.Triple.frame (fun _ h => h)) (fun before => ?_)
  refine Block.Triple.bind (Q := fun _ => Ready api) (Block.Triple.assign (fun fr h => ?_)) (fun _ => ?_)
  · exact ⟨⟨h.noDelete, h.owed, h.policy, h.profile, h.group⟩, h.noGroup, h.noProfile, h.noPolicy⟩
  refine Block.Triple.bind (triple_ofExcept _) (fun _ => Block.Triple.bind (triple_ofExcept _) (fun _ => ?_))
  exact Block.Triple.pure (fun _ h => h)

theorem supportedSteps_keeps : Block.Triple (Ready api) (getSupportedMutationSteps api) (fun _ => Ready api)
    (fun _ => Ready api) := by
  refine Block.Triple.bind describe_keeps (fun _ => Block.Triple.bind (triple_ofExcept _) (fun enabled => ?_))
  split <;> exact Block.Triple.pure (fun _ h => h)

theorem selectSteps_keeps (wanted : Bool) : ∀ steps : List String,
    Block.Triple (Ready api) (selectSteps api wanted steps) (fun _ => Ready api) (fun _ => Ready api)
  | [] => Block.Triple.pure (fun _ h => h)
  | _ :: steps => Block.Triple.bind supportedSteps_keeps (fun _ =>
      Block.Triple.bind (selectSteps_keeps wanted steps) (fun _ => Block.Triple.pure (fun _ h => h)))

theorem support_keeps (callbacks : Callbacks) : Block.Triple (Ready api) (describeScenarioMutationSupport api callbacks)
    (fun _ => Ready api) (fun _ => Ready api) := by
  refine Block.Triple.bind (triple_ofExcept _) (fun _ => Block.Triple.bind (triple_ofExcept _) (fun _ => ?_))
  refine Block.Triple.bind (triple_ofExcept _) (fun mutationSteps => ?_)
  refine Block.Triple.bind (selectSteps_keeps true mutationSteps) (fun _ => ?_)
  refine Block.Triple.bind (selectSteps_keeps false mutationSteps) (fun _ => ?_)
  exact Block.Triple.bind (triple_ofExcept _) (fun _ => Block.Triple.pure (fun _ h => h))

variable {repr : Json → String} {otherInt : Json → Except CallError Int} {title : String → String}
  {callbacks : Callbacks} {r : Request}

theorem createUser_keeps : Block.Triple (Ready api) (createUser repr api title callbacks r) (fun _ => Ready api)
    (fun _ => Ready api) := by
  unfold createUser
  cases r.createUserUid with
  | none => exact Block.Triple.pure (fun _ h => h)
  | some uid =>
    refine Block.Triple.bind describe_keeps (fun capabilities => ?_)
    split
    · exact Block.Triple.raise (fun _ h => h)
    refine Block.Triple.bind (triple_ofExcept _) (fun selectedOuDn => ?_)
    refine Block.Triple.bind (Q := fun _ => Ready api) (triple_call (fun _ _ fr h => ?_) (fun _ _ fr h => ?_))
      (fun _ => Block.Triple.pure (fun _ h => h))
    · exact h.keeps rfl rfl
    · exact h.keeps rfl rfl

/-! ## The `try` block -/

theorem createdGroupDn_truthy (groupName selectedOuDn : String) (group : Dict) :
    (createdGroupDn groupName selectedOuDn group).truthy = true := by
  have hor : ∀ v w : Json, w.truthy = true → (v.orElse w).truthy = true := by
    intro v w hw
    unfold Json.orElse
    split
    · assumption
    · exact hw
  refine hor _ _ (hor _ _ ?_)
  simp only [Json.truthy, ne_eq, String.append_eq_empty_iff, decide_eq_true_eq]
  exact fun h => absurd h.1.1.1 (by decide)

/-- The variables once there is a group to work with: the one to delete, if any, is the one to execute on. -/
structure Grouped (api : Adapter) (groupDn : Except CallError Json) (fr : Frame) : Prop extends Holds api fr where
  same : fr.deleteGroup = true → groupDn = .ok fr.groupDn

/-- **The group is to be deleted when it was created**, and only then. -/
theorem obtainGroup_spec (selectedOuDn activeUserUid : String) (checkedEntries : Json) :
    Block.Triple (Ready api) (obtainGroup api callbacks r selectedOuDn activeUserUid checkedEntries)
      (fun stage fr => Grouped api (stage.groupDn r.groupName selectedOuDn) fr ∧ fr.profile = none ∧ fr.policy = none)
      (fun _ => Holds api) := by
  unfold obtainGroup
  cases r.existingGroupDn with
  | some existingGroupDn =>
    refine Block.Triple.bind (Q := fun _ => Ready api) (triple_call (fun _ _ fr h => ?_) (fun _ _ fr h => ?_))
      (fun groupResult => Block.Triple.pure (fun fr h => ?_))
    · exact h.keeps rfl rfl
    · exact (h.keeps rfl rfl).toHolds
    · exact ⟨⟨h.toHolds, fun hg => by simp [h.noGroup] at hg⟩, h.noProfile, h.noPolicy⟩
  | none =>
    refine Block.Triple.tryExcept (fun _ => Ready api) ?_ (fun exc => ?_)
    · refine Block.Triple.bind (Q := fun group fr =>
          Holds api { fr with groupDn := createdGroupDn r.groupName selectedOuDn group, deleteGroup := true } ∧
            fr.profile = none ∧ fr.policy = none)
        (triple_call (fun group hg fr h => ?_) (fun e he fr h => ?_)) (fun group => ?_)
      · obtain ⟨hdelete, howed⟩ := h.toHolds.called (c := ⟨.createUserGroup, [("group_name", .str r.groupName),
          ("checked_entries", checkedEntries), ("selected_ou_dn", .str selectedOuDn)]⟩) rfl
        refine ⟨⟨hdelete, howed.trans ?_, h.policy, h.profile, fun _ => createdGroupDn_truthy _ _ _⟩, h.noProfile,
          h.noPolicy⟩
        simp only [owed, hg, pending, h.noGroup, h.noProfile, h.noPolicy]
        exact .refl _
      · exact h.keeps rfl (by simp [owed, he, Except.toOption])
      · refine Block.Triple.bind
          (Q := fun _ fr => Grouped api (.ok (createdGroupDn r.groupName selectedOuDn group)) fr ∧ fr.profile = none ∧
            fr.policy = none)
          (Block.Triple.assign (fun fr h => ?_)) (fun _ => ?_)
        · exact ⟨⟨h.1, fun _ => rfl⟩, h.2⟩
        · exact Block.Triple.pure (fun fr h => h)
    · cases exc with
      | other typeName message => exact Block.Triple.raise (fun _ h => h.toHolds)
      | httpError typeName message response =>
        dsimp only
        cases response.map HttpResponse.statusCode with
        | none => exact Block.Triple.raise (fun _ h => h.toHolds)
        | some statusCode =>
          dsimp only
          split
          · exact Block.Triple.raise (fun _ h => h.toHolds)
          refine Block.Triple.bind ((triple_ofExcept _).mono (fun _ h => h) (fun _ _ h => h) (fun _ _ h => h.toHolds))
            (fun existingGroupDn => ?_)
          refine Block.Triple.bind (Q := fun _ => Ready api) (Block.Triple.assign (fun fr h => h.named _))
            (fun _ => Block.Triple.pure (fun fr h => ?_))
          exact ⟨⟨h.toHolds, fun hg => by simp [h.noGroup] at hg⟩, h.noProfile, h.noPolicy⟩

theorem Grouped.createProfile {groupDn : Except CallError Json} (kwargs : Dict) :
    Block.Triple (fun fr => Grouped api groupDn fr ∧ fr.profile = none ∧ fr.policy = none)
      (call .createScriptProfile kwargs api.createScriptProfile)
      (fun profile fr => Grouped api groupDn { fr with profile := some profile.val } ∧ fr.policy = none)
      (fun _ => Holds api) := by
  refine triple_call (fun profile hp fr h => ?_) (fun e he fr h => ?_)
  · obtain ⟨h, hprofile, hpolicy⟩ := h
    obtain ⟨hdelete, howed⟩ := h.toHolds.called (c := ⟨.createScriptProfile, kwargs⟩) rfl
    refine ⟨⟨⟨hdelete, howed.trans ?_, h.policy, ?_, h.group⟩, h.same⟩, hpolicy⟩
    · simp only [owed, hp, pending, hprofile, hpolicy]
      exact .refl _
    · rintro d ⟨⟩
      obtain ⟨id, -, hid⟩ := profile.property
      exact ⟨id, hid⟩
  · exact h.1.toHolds.keeps rfl (by simp [owed, he, Except.toOption])

theorem Grouped.createPolicy {groupDn : Except CallError Json} (kwargs : Dict) :
    Block.Triple (fun fr => Grouped api groupDn fr ∧ fr.policy = none)
      (call .createPolicy kwargs api.createPolicy)
      (fun policy fr => Grouped api groupDn { fr with policy := some policy.val }) (fun _ => Holds api) := by
  refine triple_call (fun policy hp fr h => ?_) (fun e he fr h => ?_)
  · obtain ⟨h, hpolicy⟩ := h
    obtain ⟨hdelete, howed⟩ := h.toHolds.called (c := ⟨.createPolicy, kwargs⟩) rfl
    refine ⟨⟨hdelete, howed.trans ?_, ?_, h.profile, h.group⟩, h.same⟩
    · simp only [owed, hp, pending, hpolicy]
      exact .refl _
    · rintro d ⟨⟩
      obtain ⟨id, -, hid⟩ := policy.property
      exact ⟨id, hid⟩
  · exact h.1.toHolds.keeps rfl (by simp [owed, he, Except.toOption])

/-- **Through the `try` block the variables hold what is owed.** -/
theorem roundtripBody_spec (selectedOuDn activeUserUid : String) (createdUser : Option Dict) (checkedEntries : Json) :
    Block.Triple (Ready api)
      (roundtripBody otherInt api callbacks r selectedOuDn activeUserUid createdUser checkedEntries)
      (fun _ => Holds api) (fun _ => Holds api) := by
  refine Block.Triple.bind (obtainGroup_spec selectedOuDn activeUserUid checkedEntries) (fun stage => ?_)
  refine Block.Triple.bind (Grouped.createProfile _) (fun profile => ?_)
  refine Block.Triple.bind (Q := fun _ fr => Grouped api (stage.groupDn r.groupName selectedOuDn) fr ∧ fr.policy = none)
    (Block.Triple.assign (fun fr h => h)) (fun _ => ?_)
  refine Block.Triple.bind (Grouped.createPolicy _) (fun policy => ?_)
  refine Block.Triple.bind (Q := fun _ => Grouped api (stage.groupDn r.groupName selectedOuDn))
    (Block.Triple.assign (fun fr h => h)) (fun _ => ?_)
  refine Block.Triple.bind ((triple_ofExcept _).mono (fun _ h => h) (fun _ _ h => h) (fun _ _ h => h.toHolds))
    (fun policyId => ?_)
  refine Block.Triple.bind (Q := fun groupDn => Grouped api (.ok groupDn))
    (Block.Triple.ofExcept (fun groupDn hdn fr h => ⟨h.toHolds, fun hg => hdn.symm.trans (h.same hg)⟩)
      (fun _ _ fr h => h.toHolds)) (fun groupDn => ?_)
  refine Block.Triple.bind (Q := fun _ => Holds api) (Block.Triple.assign (fun fr h => ?_)) (fun _ => ?_)
  · -- the name is assigned once more; when the group was created it is the same
    by_cases hg : fr.deleteGroup = true
    · rw [Except.ok.inj (h.same hg)]
      exact h.toHolds
    · exact h.toHolds.named (Bool.eq_false_iff.2 hg) groupDn
  refine Block.Triple.bind (Q := fun _ => Holds api) (triple_call (fun _ _ fr h => h.keeps rfl rfl)
    (fun _ _ fr h => h.keeps rfl rfl)) (fun response => ?_)
  exact Block.Triple.assign (fun fr h => ⟨h.noDelete, h.owed, h.policy, h.profile, h.group⟩)

/-! ## The `finally` block -/

def Operation.call (o : Operation) : ApiCall := ⟨o.endpoint, o.kwargs⟩

/-- **Every operation is attempted once, in order, whatever fails.** -/
theorem runOperations_eq (api : Adapter) : ∀ (operations : List Operation) (fr : Frame), ∃ failures,
    runOperations api operations fr =
      (.ok failures, { fr with calls := fr.calls ++ operations.map Operation.call })
  | [], fr => ⟨[], by simp only [List.map_nil, List.append_nil]; rfl⟩
  | o :: operations, fr => by
    obtain ⟨failures, ih⟩ := runOperations_eq api operations { fr with calls := fr.calls ++ [o.call] }
    rw [List.append_assoc] at ih
    have hattempt : ∃ failed, Block.tryExcept
        (do let _ ← PolicyWorkflow.call o.endpoint o.kwargs (api.delete o.endpoint); return ([] : List Dict))
        (fun exc => return [o.toDict ++ [("error", .str exc.message)]]) fr =
          (.ok failed, { fr with calls := fr.calls ++ [o.call] }) := by
      cases hdelete : api.delete o.endpoint with
      | ok _ => exact ⟨[], rfl⟩
      | error exc => exact ⟨[o.toDict ++ [("error", .str exc.message)]], rfl⟩
    obtain ⟨failed, hattempt⟩ := hattempt
    exact ⟨failed ++ failures, (Block.bind_of_ok hattempt _).trans (Block.bind_of_ok ih _)⟩

section
variable (repr : Json → String) (otherInt : Json → Except CallError Int)

theorem recordOperation_eq (resource idKey argument : String) (endpoint : Endpoint) {record : Option Dict}
    (h : HasId idKey record) : ∃ operations,
    recordOperation repr otherInt resource idKey argument endpoint record = .ok operations ∧
      operations.map Operation.call = recordDelete endpoint argument idKey record := by
  cases record with
  | none => exact ⟨[], rfl, rfl⟩
  | some d =>
    obtain ⟨id, hid⟩ := h d rfl
    refine ⟨[⟨resource, .str (pyStr repr (.int id)), endpoint, [(argument, .int id)]⟩], ?_, ?_⟩
    · simp only [recordOperation, Option.getD_some, hid]
      rfl
    · simp [recordDelete, Operation.call, hid]

/-- **The operations of the cleanup are the deletes that the variables call for.** -/
theorem cleanupOperations_eq {fr : Frame} (h : Holds api fr) : ∃ operations,
    cleanupOperations repr otherInt fr.policy fr.profile fr.groupDn fr.deleteGroup = .ok operations ∧
      operations.map Operation.call = pending fr := by
  obtain ⟨policies, hp, hp'⟩ := recordOperation_eq repr otherInt "policy" "policyId" "policy_id" .deletePolicy
    h.policy
  obtain ⟨profiles, hq, hq'⟩ := recordOperation_eq repr otherInt "profile" "profileId" "profile_id" .deleteProfile
    h.profile
  refine ⟨policies ++ profiles ++ if fr.deleteGroup && fr.groupDn.truthy then
    [⟨"group", fr.groupDn, .deleteUserGroup, [("dn", fr.groupDn)]⟩] else [], ?_, ?_⟩
  · rw [cleanupOperations, hp, hq]
    rfl
  · rw [List.map_append, List.map_append, hp', hq', pending, groupDelete]
    cases hg : fr.deleteGroup with
    | false => rfl
    | true =>
      rw [h.group hg]
      rfl

/-- The deletes that the variables call for delete, and owe nothing. -/
theorem pending_deletes (api : Adapter) (fr : Frame) :
    ∀ c ∈ pending fr, c.endpoint.isDelete = true ∧ owed api c = none := by
  intro c hc
  rcases List.mem_append.1 hc with hc | hc
  · rcases List.mem_append.1 hc with hc | hc <;>
    · rw [recordDelete, Option.mem_toList, Option.map_eq_some_iff] at hc
      obtain ⟨d, -, rfl⟩ := hc
      exact ⟨rfl, rfl⟩
  · rw [groupDelete] at hc
    split at hc
    · rw [List.mem_singleton.1 hc]
      exact ⟨rfl, rfl⟩
    · cases hc

/-- **The cleanup makes the deletes that are owed.** -/
theorem cleanupFrame_spec : Block.Triple (Holds api) (cleanupFrame repr otherInt api) (fun _ => Settled api)
    (fun _ => Settled api) := by
  refine Block.Triple.of_leaves (fun fr h => ?_)
  obtain ⟨operations, hoperations, hcalls⟩ := cleanupOperations_eq repr otherInt h
  obtain ⟨failures, hrun⟩ := runOperations_eq api operations fr
  have hops : Block.ofExcept (cleanupOperations repr otherInt fr.policy fr.profile fr.groupDn fr.deleteGroup) fr =
      (.ok operations, fr) := by
    rw [hoperations]
    rfl
  have hcleanup : ∃ report, cleanupRoundtripArtifacts repr otherInt api fr.policy fr.profile fr.groupDn fr.deleteGroup
      fr = (.ok report, { fr with calls := fr.calls ++ pending fr }) := by
    rw [← hcalls]
    exact ⟨_, (Block.bind_of_ok hops _).trans ((Block.bind_of_ok hrun _).trans rfl)⟩
  obtain ⟨report, hreport⟩ := hcleanup
  have hleaves : (cleanupFrame repr otherInt api fr).2.calls = fr.calls ++ pending fr :=
    congrArg (fun p => p.2.calls) (Block.bind_of_ok hreport (fun cleanup =>
      (Block.assign (fun fr => { fr with cleanup := some cleanup }) : WorkflowBlock Unit)))
  rw [Settled, hleaves, deleteCalls_append, h.noDelete, List.nil_append, List.filterMap_append,
    List.filterMap_eq_nil_iff.2 (fun c hc => (pending_deletes api fr c hc).2), List.append_nil, deleteCalls,
    List.filter_eq_self.2 (fun c hc => (pending_deletes api fr c hc).1)]
  exact h.owed.symm

end

/-- **A round trip makes the deletes it owes**, whether it returns or raises. -/
theorem executeUserGroupPolicyRoundtrip_settles : Block.Triple (Ready api)
    (executeUserGroupPolicyRoundtrip repr otherInt api title callbacks r) (fun _ => Settled api)
    (fun _ => Settled api) := by
  have settle : ∀ {α : Type} {b : WorkflowBlock α},
      Block.Triple (Ready api) b (fun _ => Ready api) (fun _ => Ready api) →
        Block.Triple (Ready api) b (fun _ => Ready api) (fun _ => Settled api) :=
    fun h => h.mono (fun _ h => h) (fun _ _ h => h) (fun _ _ h => h.settled)
  refine Block.Triple.bind (settle (support_keeps callbacks)) (fun support => ?_)
  split
  · exact Block.Triple.raise (fun _ h => h.settled)
  have hou : Block.Triple (Ready api) (selectedOu callbacks r) (fun _ => Ready api) (fun _ => Ready api) := by
    unfold selectedOu
    split
    · exact Block.Triple.pure (fun _ h => h)
    · exact triple_ofExcept _
  refine Block.Triple.bind (settle hou) (fun selectedOuDn => ?_)
  refine Block.Triple.bind (Q := fun _ => Ready api) (Block.Triple.assign (fun fr h => h.named _)) (fun _ => ?_)
  refine Block.Triple.bind (settle createUser_keeps) (fun user => ?_)
  refine Block.Triple.bind (settle (triple_ofExcept _)) (fun entry => ?_)
  refine Block.Triple.bind (Q := fun _ => Settled api)
    (Block.Triple.tryFinally (roundtripBody_spec _ _ _ _) (cleanupFrame_spec repr otherInt)) (fun _ => ?_)
  refine Block.Triple.bind (Q := fun _ => Settled api) (Block.Triple.frame (fun _ h => h)) (fun fr => ?_)
  split
  · exact Block.Triple.pure (fun _ h => h)
  · exact Block.Triple.raise (fun _ h => h)

end

/-- **A round trip deletes what it created, each once, and no other group**: up to their order its deletes are those
owed by the creations that returned. -/
theorem roundtrip_deletes_owed (repr : Json → String) (otherInt : Json → Except CallError Int) (api : Adapter)
    (title : String → String) (callbacks : Callbacks) (r : Request) :
    let calls := (executeUserGroupPolicyRoundtrip repr otherInt api title callbacks r Frame.initial).2.calls
    (deleteCalls calls).Perm (calls.filterMap (owed api)) ∧
      ∀ c ∈ calls, c.endpoint = .deleteUserGroup →
        ∃ created ∈ calls, created.endpoint = .createUserGroup ∧ owed api created = some c := by
  intro calls
  have hsettled : Settled api (executeUserGroupPolicyRoundtrip repr otherInt api title callbacks r Frame.initial).2 :=
    executeUserGroupPolicyRoundtrip_settles.leaves ready_initial
  refine ⟨hsettled, fun c hc hgroup => ?_⟩
  have hdelete : c ∈ deleteCalls calls := List.mem_filter.2 ⟨hc, by rw [hgroup]; rfl⟩
  obtain ⟨created, hcreated, howed⟩ := List.mem_filterMap.1 (hsettled.subset hdelete)
  refine ⟨created, hcreated, ?_, howed⟩
  -- only a group owes the delete of a group
  unfold owed at howed
  cases hendpoint : created.endpoint <;> simp only [hendpoint] at howed <;> try cases howed
  · rfl
  all_goals
    obtain ⟨record, -, rfl⟩ := Option.map_eq_some_iff.1 howed
    cases hgroup

end Lider.PolicyWorkflow
