import LiderPlatform.PolicyChecks
/-!
# PolicyCleanup — a check deletes what it obtained, once, whatever fails

What a check obtained is read off the calls it made and their outcomes: a created record, or the group that the group
tree shows after a 417.  Until a policy is executed the variables of a check hold exactly that (`Acquired`), and both
cleanup sites turn the variables into one delete each.  A group without a distinguished name cannot be deleted; the
code leaves it.
-/
namespace Lider

open Py

/-! ## What was obtained -/

/-- An endpoint was called. -/
def made (endpoint : Endpoint) (calls : List ApiCall) : Prop := endpoint ∈ calls.map ApiCall.endpoint

instance (endpoint : Endpoint) (calls : List ApiCall) : Decidable (made endpoint calls) :=
  inferInstanceAs (Decidable (endpoint ∈ calls.map ApiCall.endpoint))

@[simp] theorem made_append (e : Endpoint) (calls more : List ApiCall) :
    made e (calls ++ more) ↔ made e calls ∨ made e more := by simp [made]

@[simp] theorem made_singleton (e : Endpoint) (c : ApiCall) : made e [c] ↔ e = c.endpoint := by simp [made]

def deleteCalls (calls : List ApiCall) : List ApiCall := calls.filter (fun c => c.endpoint.isDelete)

/-- The record of a create call that was made and returned. -/
def obtainedRecord (endpoint : Endpoint) (outcome : Except CallError CreatedRecord) (calls : List ApiCall) :
    Option Dict :=
  match outcome with
  | .ok record => if made endpoint calls then some record.val else none
  | .error _ => none

section
variable (repr : Json → String) (api : LiderApi) (groupName : String)

/-- The group that was created, or that the tree showed after a 417. -/
def obtainedGroup (calls : List ApiCall) : Option Dict :=
  match api.createComputerGroup with
  | .ok group => if made .createComputerGroup calls then some group.val else none
  | .error exc =>
    if exc.response.map HttpResponse.statusCode = some 417 ∧ made .createComputerGroup calls ∧
        made .getComputerGroupTree calls then
      match api.computerGroupTree with
      | .error _ => none
      | .ok tree => (findGroupEntry repr groupName tree).toOption.join
    else none

/-- The delete of a record. -/
def recordDelete (endpoint : Endpoint) (argument : String) (record : Option Dict) : List ApiCall :=
  (record.map (fun r => ⟨endpoint, [(argument, r.get "id")]⟩)).toList

/-- The delete of a group, when it has a distinguished name. -/
def groupDelete (groupDn : Json) : List ApiCall :=
  if groupDn.truthy then [⟨.deleteComputerGroup, [("dn", groupDn)]⟩] else []

/-- The name a group can be deleted by. -/
def groupDnOf (group : Option Dict) : Json := group.elim .null (fun group => group.get "distinguishedName")

def deletesOf (policy profile : Option Dict) (groupDn : Json) : List ApiCall :=
  recordDelete .deletePolicy "policy_id" policy ++ recordDelete .deleteProfile "profile_id" profile ++
    groupDelete groupDn

/-- One delete for everything the calls obtained: the policy, the profile, the group. -/
def deletesOfObtained (calls : List ApiCall) : List ApiCall :=
  deletesOf (obtainedRecord .createPolicy api.createPolicy calls)
    (obtainedRecord .createScriptProfile api.createScriptProfile calls)
    (groupDnOf (obtainedGroup repr api groupName calls))

/-! ## The variables hold what was obtained -/

/-- The variables of a check before it cleans up. -/
structure Acquired (fr : CheckFrame) : Prop where
  noDelete : deleteCalls fr.calls = []
  policy : fr.policy = obtainedRecord .createPolicy api.createPolicy fr.calls
  profile : fr.profile = obtainedRecord .createScriptProfile api.createScriptProfile fr.calls
  group : fr.group = obtainedGroup repr api groupName fr.calls

/-- The variables before a policy is executed. -/
structure Acquiring (fr : CheckFrame) : Prop extends Acquired repr api groupName fr where
  notExecuted : ¬ made .executePolicy fr.calls

def Endpoint.obtains : Endpoint → Bool
  | .createComputerGroup | .getComputerGroupTree | .createScriptProfile | .createPolicy => true
  | _ => false

end

/-- The status that executing the policy returned, when it was executed. -/
def executedStatus (api : LiderApi) (calls : List ApiCall) : Option Int :=
  if made .executePolicy calls then api.executePolicy.toOption.map HttpResponse.statusCode else none

section
variable {repr : Json → String} {api : LiderApi} {groupName : String}

theorem obtainedRecord_append {endpoint : Endpoint} {calls more : List ApiCall} (h : ¬ made endpoint more)
    (outcome : Except CallError CreatedRecord) :
    obtainedRecord endpoint outcome (calls ++ more) = obtainedRecord endpoint outcome calls := by
  unfold obtainedRecord
  simp only [made_append, h, or_false]

theorem obtainedGroup_append {calls more : List ApiCall} (hcreate : ¬ made .createComputerGroup more)
    (htree : ¬ made .getComputerGroupTree more) :
    obtainedGroup repr api groupName (calls ++ more) = obtainedGroup repr api groupName calls := by
  unfold obtainedGroup
  simp only [made_append, hcreate, htree, or_false]

theorem deleteCalls_append (calls more : List ApiCall) :
    deleteCalls (calls ++ more) = deleteCalls calls ++ deleteCalls more := List.filter_append ..

theorem deleteCalls_singleton {c : ApiCall} (h : c.endpoint.isDelete = false) : deleteCalls [c] = [] := by
  simp [deleteCalls, h]

/-- **A call that obtains nothing and deletes nothing keeps the variables right.** -/
theorem Acquired.called {fr : CheckFrame} (h : Acquired repr api groupName fr) {c : ApiCall}
    (ho : c.endpoint.obtains = false) (hd : c.endpoint.isDelete = false) :
    Acquired repr api groupName { fr with calls := fr.calls ++ [c] } := by
  have hne : ∀ e : Endpoint, e.obtains = true → ¬ made e [c] := by
    intro e he hc
    rw [made_singleton] at hc
    rw [← hc, he] at ho
    cases ho
  refine ⟨?_, ?_, ?_, ?_⟩
  · rw [deleteCalls_append, h.noDelete, deleteCalls_singleton hd]; rfl
  · exact h.policy.trans (obtainedRecord_append (hne _ rfl) _).symm
  · exact h.profile.trans (obtainedRecord_append (hne _ rfl) _).symm
  · exact h.group.trans (obtainedGroup_append (hne _ rfl) (hne _ rfl)).symm

theorem Acquiring.staged {fr : CheckFrame} (h : Acquiring repr api groupName fr) (stage : String) :
    Acquiring repr api groupName { fr with stage := stage } :=
  ⟨⟨h.noDelete, h.policy, h.profile, h.group⟩, h.notExecuted⟩

/-! ## The statements that create -/

theorem triple_call {α : Type} {P : CheckFrame → Prop} {Q : α → CheckFrame → Prop} {E : CallError → CheckFrame → Prop}
    {endpoint : Endpoint} {kwargs : Dict} {outcome : Except CallError α}
    (hok : ∀ a, outcome = .ok a → ∀ fr, P fr → Q a { fr with calls := fr.calls ++ [⟨endpoint, kwargs⟩] })
    (herr : ∀ e, outcome = .error e → ∀ fr, P fr → E e { fr with calls := fr.calls ++ [⟨endpoint, kwargs⟩] }) :
    Block.Triple P (call endpoint kwargs outcome) Q E := fun fr hfr => by
  cases outcome with
  | ok a => exact hok a rfl fr hfr
  | error e => exact herr e rfl fr hfr

theorem Acquired.policy_append {fr : CheckFrame} (h : Acquired repr api groupName fr) {c : ApiCall}
    (hc : Endpoint.createPolicy ≠ c.endpoint) :
    fr.policy = obtainedRecord .createPolicy api.createPolicy (fr.calls ++ [c]) :=
  h.policy.trans (obtainedRecord_append (by simpa using hc) _).symm

theorem Acquired.profile_append {fr : CheckFrame} (h : Acquired repr api groupName fr) {c : ApiCall}
    (hc : Endpoint.createScriptProfile ≠ c.endpoint) :
    fr.profile = obtainedRecord .createScriptProfile api.createScriptProfile (fr.calls ++ [c]) :=
  h.profile.trans (obtainedRecord_append (by simpa using hc) _).symm

theorem Acquired.group_append {fr : CheckFrame} (h : Acquired repr api groupName fr) {c : ApiCall}
    (hcreate : Endpoint.createComputerGroup ≠ c.endpoint) (htree : Endpoint.getComputerGroupTree ≠ c.endpoint) :
    fr.group = obtainedGroup repr api groupName (fr.calls ++ [c]) :=
  h.group.trans (obtainedGroup_append (by simpa using hcreate) (by simpa using htree)).symm

theorem Acquiring.extend {fr : CheckFrame} (h : Acquiring repr api groupName fr) {c : ApiCall}
    (hd : c.endpoint.isDelete = false) (hx : Endpoint.executePolicy ≠ c.endpoint) {group profile policy : Option Dict}
    (hpolicy : policy = obtainedRecord .createPolicy api.createPolicy (fr.calls ++ [c]))
    (hprofile : profile = obtainedRecord .createScriptProfile api.createScriptProfile (fr.calls ++ [c]))
    (hgroup : group = obtainedGroup repr api groupName (fr.calls ++ [c])) :
    Acquiring repr api groupName ⟨fr.calls ++ [c], fr.stage, group, profile, policy⟩ where
  noDelete := by rw [deleteCalls_append, h.noDelete, deleteCalls_singleton hd]; rfl
  policy := hpolicy
  profile := hprofile
  group := hgroup
  notExecuted := by simpa [hx] using h.notExecuted

theorem Acquiring.createProfile (kwargs : Dict) : Block.Triple (Acquiring repr api groupName)
    (call .createScriptProfile kwargs api.createScriptProfile)
    (fun profile fr => Acquiring repr api groupName { fr with profile := some profile.val })
    (fun _ fr => Acquiring repr api groupName fr) := by
  refine triple_call (fun profile hp fr h => ?_) (fun e he fr h => ?_)
  · exact h.extend rfl (by simp) (h.policy_append (by simp)) (by simp [obtainedRecord, hp])
      (h.group_append (by simp) (by simp))
  · refine h.extend rfl (by simp) (h.policy_append (by simp)) ?_ (h.group_append (by simp) (by simp))
    rw [h.profile]
    simp [obtainedRecord, he]

theorem Acquiring.createPolicy (kwargs : Dict) : Block.Triple (Acquiring repr api groupName)
    (call .createPolicy kwargs api.createPolicy)
    (fun policy fr => Acquiring repr api groupName { fr with policy := some policy.val })
    (fun _ fr => Acquiring repr api groupName fr) := by
  refine triple_call (fun policy hp fr h => ?_) (fun e he fr h => ?_)
  · exact h.extend rfl (by simp) (by simp [obtainedRecord, hp]) (h.profile_append (by simp))
      (h.group_append (by simp) (by simp))
  · refine h.extend rfl (by simp) ?_ (h.profile_append (by simp)) (h.group_append (by simp) (by simp))
    rw [h.policy]
    simp [obtainedRecord, he]

/-- No group was asked for yet. -/
def NoGroupYet (fr : CheckFrame) : Prop := ¬ made .createComputerGroup fr.calls ∧ ¬ made .getComputerGroupTree fr.calls

theorem obtainedGroup_of_ok {group : CreatedGroup} (h : api.createComputerGroup = .ok group) (calls : List ApiCall) :
    obtainedGroup repr api groupName calls = if made .createComputerGroup calls then some group.val else none := by
  rw [obtainedGroup, h]

theorem obtainedGroup_of_error {exc : CallError} (h : api.createComputerGroup = .error exc) {calls : List ApiCall}
    (hno : exc.response.map HttpResponse.statusCode ≠ some 417 ∨ ¬ made .getComputerGroupTree calls) :
    obtainedGroup repr api groupName calls = none := by
  rw [obtainedGroup, h]
  exact if_neg (fun hc => hno.elim (absurd hc.1) (absurd hc.2.2))

theorem obtainedGroup_of_tree {exc : CallError} (h : api.createComputerGroup = .error exc)
    (h417 : exc.response.map HttpResponse.statusCode = some 417) {calls : List ApiCall}
    (hc : made .createComputerGroup calls) (ht : made .getComputerGroupTree calls) :
    obtainedGroup repr api groupName calls = match api.computerGroupTree with
      | .error _ => none
      | .ok tree => (findGroupEntry repr groupName tree).toOption.join := by
  rw [obtainedGroup, h]
  exact if_pos ⟨h417, hc, ht⟩

/-- The variables after the create was refused and before the tree is asked for. -/
structure Refused (repr : Json → String) (api : LiderApi) (groupName : String) (exc : CallError) (fr : CheckFrame) :
    Prop extends Acquiring repr api groupName fr where
  error : api.createComputerGroup = .error exc
  asked : made .createComputerGroup fr.calls
  notYet : ¬ made .getComputerGroupTree fr.calls

theorem Acquiring.refused (kwargs : Dict) : Block.Triple
    (fun fr => Acquiring repr api groupName fr ∧ NoGroupYet fr)
    (call .createComputerGroup kwargs api.createComputerGroup)
    (fun group fr => Acquiring repr api groupName { fr with group := some group.val })
    (fun exc fr => Refused repr api groupName exc fr) := by
  refine triple_call (fun group hg fr h => ?_) (fun exc he fr h => ?_)
  · refine h.1.extend rfl (by simp) (h.1.policy_append (by simp)) (h.1.profile_append (by simp)) ?_
    rw [obtainedGroup_of_ok hg, if_pos (by simp)]
  · have hno : ¬ made .getComputerGroupTree (fr.calls ++ [⟨.createComputerGroup, kwargs⟩]) := by
      simpa using h.2.2
    refine ⟨h.1.extend rfl (by simp) (h.1.policy_append (by simp)) (h.1.profile_append (by simp)) ?_, he, by simp, hno⟩
    rw [obtainedGroup_of_error he (.inr hno)]
    exact h.1.group.trans (obtainedGroup_of_error he (.inr h.2.2))

/-- The tree shows what the reconciliation obtains. -/
theorem Refused.reconcile {exc : CallError} (h417 : exc.response.map HttpResponse.statusCode = some 417) (kwargs : Dict) :
    Block.Triple (Refused repr api groupName exc) (call .getComputerGroupTree kwargs api.computerGroupTree)
      (fun tree fr => Acquiring repr api groupName
        { fr with group := (findGroupEntry repr groupName tree).toOption.join } ∧ fr.group = none)
      (fun _ fr => Acquiring repr api groupName fr) := by
  refine triple_call (fun tree ht fr h => ?_) (fun e he fr h => ?_)
  · refine ⟨h.extend rfl (by simp) (h.policy_append (by simp)) (h.profile_append (by simp)) ?_,
      h.group.trans (obtainedGroup_of_error h.error (.inr h.notYet))⟩
    rw [obtainedGroup_of_tree h.error h417 (by simp [h.asked]) (by simp), ht]
  · refine h.extend rfl (by simp) (h.policy_append (by simp)) (h.profile_append (by simp)) ?_
    rw [obtainedGroup_of_tree h.error h417 (by simp [h.asked]) (by simp), he]
    exact h.group.trans (obtainedGroup_of_error h.error (.inr h.notYet))

/-- **Creating the group obtains the group that is created or reconciled, and nothing when it raises.** -/
theorem Acquiring.createGroup (selectedOuDn : String) (entries : Json) :
    Block.Triple (fun fr => Acquiring repr api groupName fr ∧ NoGroupYet fr)
      (createComputerGroupWithReconciliation repr api selectedOuDn groupName entries)
      (fun created fr => Acquiring repr api groupName { fr with group := some created.1 })
      (fun _ fr => Acquiring repr api groupName fr) := by
  refine Block.Triple.tryExcept _ (Block.Triple.bind (Acquiring.refused _)
    (fun group => Block.Triple.pure (fun fr h => h))) (fun exc => ?_)
  cases hr : exc.response with
  | none => exact Block.Triple.raise (fun fr h => h.toAcquiring)
  | some response =>
    by_cases h417 : response.statusCode = 417
    · simp only [h417, ne_eq, not_true_eq_false, if_false]
      refine Block.Triple.bind (Refused.reconcile (by simp [hr, h417]) _) (fun tree => ?_)
      -- A tree that cannot be searched, or without the group, shows nothing: the variable stays unset.
      have hnone : ∀ fr : CheckFrame, (findGroupEntry repr groupName tree).toOption.join = none →
          Acquiring repr api groupName { fr with group := (findGroupEntry repr groupName tree).toOption.join } ∧
            fr.group = none → Acquiring repr api groupName fr := by
        intro fr hfind h
        rw [hfind, ← h.2] at h
        exact h.1
      refine Block.Triple.bind (Q := fun found fr =>
          findGroupEntry repr groupName tree = .ok found ∧ Acquiring repr api groupName { fr with group := found } ∧
            fr.group = none)
        (Block.Triple.ofExcept (fun found hf fr h => ?_) (fun e he fr h => ?_)) (fun found => ?_)
      · exact ⟨hf, by simpa [hf, Except.toOption] using h.1, h.2⟩
      · exact hnone fr (by simp [he, Except.toOption]) h
      · cases found with
        | none => exact Block.Triple.raise (fun fr h => hnone fr (by simp [h.1, Except.toOption])
            ⟨by simpa [h.1, Except.toOption] using h.2.1, h.2.2⟩)
        | some group => exact Block.Triple.pure (fun fr h => h.2.1)
    · simp only [h417, ne_eq, not_false_eq_true, if_true]
      exact Block.Triple.raise (fun fr h => h.toAcquiring)

/-! ## Up to the execution -/

/-- What does not look at the calls survives a call. -/
theorem call_keeps {α : Type} {endpoint : Endpoint} {kwargs : Dict} {outcome : Except CallError α}
    {R : CheckFrame → Prop} (hR : ∀ fr calls, R fr → R { fr with calls := calls }) :
    Block.Triple R (call endpoint kwargs outcome) (fun _ => R) (fun _ => R) :=
  triple_call (fun _ _ fr h => hR fr _ h) (fun _ _ fr h => hR fr _ h)

theorem Acquiring.executedStatus {fr : CheckFrame} (h : Acquiring repr api groupName fr) :
    executedStatus api fr.calls = none := if_neg h.notExecuted

/-- The variables after the policy was executed. -/
structure ExecutedAs (repr : Json → String) (api : LiderApi) (groupName : String) (x : Executed) (fr : CheckFrame) :
    Prop extends Acquired repr api groupName fr where
  group_eq : fr.group = some x.group
  profile_eq : fr.profile = some x.profile
  policy_eq : fr.policy = some x.policy
  status_eq : executedStatus api fr.calls = some x.statusCode

/-- The variables of a check that found no agent. -/
structure NoAgent (fr : CheckFrame) : Prop where
  group_eq : fr.group = none
  profile_eq : fr.profile = none
  policy_eq : fr.policy = none

/-- The variables when a check raises before it cleans up. -/
def Failed (repr : Json → String) (api : LiderApi) (groupName : String) (fr : CheckFrame) : Prop :=
  Acquired repr api groupName fr ∧ executedStatus api fr.calls = none

theorem Acquiring.failed {fr : CheckFrame} (h : Acquiring repr api groupName fr) : Failed repr api groupName fr :=
  ⟨h.toAcquired, h.executedStatus⟩

theorem acquiring_initial : Acquiring repr api groupName CheckFrame.initial := by
  refine ⟨⟨rfl, ?_, ?_, ?_⟩, nofun⟩
  · cases h : api.createPolicy <;> simp [obtainedRecord, CheckFrame.initial, made]
  · cases h : api.createScriptProfile <;> simp [obtainedRecord, CheckFrame.initial, made]
  · cases h : api.createComputerGroup <;> simp [obtainedGroup, CheckFrame.initial, made, h]

/-- The execution itself. -/
theorem Acquiring.execute (kwargs : Dict) {group profile policy : Dict} : Block.Triple
    (fun fr => ((Acquiring repr api groupName fr ∧ fr.group = some group) ∧ fr.profile = some profile) ∧
      fr.policy = some policy)
    (call .executePolicy kwargs api.executePolicy)
    (fun response fr => ∀ entry reconciliation, ExecutedAs repr api groupName
      ⟨entry, group, profile, policy, reconciliation, response.statusCode⟩ fr)
    (fun _ fr => Failed repr api groupName fr) := by
  refine triple_call (fun response hr fr h => ?_) (fun e he fr h => ?_)
  · obtain ⟨⟨⟨h, hg⟩, hpr⟩, hpo⟩ := h
    exact fun entry reconciliation => ⟨h.called rfl rfl, hg, hpr, hpo, by simp [Lider.executedStatus, hr, Except.toOption]⟩
  · exact ⟨h.1.1.1.called rfl rfl, by simp [Lider.executedStatus, he, Except.toOption]⟩

/-- **Up to the execution a check's variables hold what its calls obtained.** -/
theorem acquireAndExecute_spec (selectedOuDn : String) (spec : CheckSpec) :
    Block.Triple (· = CheckFrame.initial) (acquireAndExecute repr api selectedOuDn spec)
      (fun executed fr => match executed with
        | none => Failed repr api spec.groupName fr ∧ NoAgent fr
        | some x => ExecutedAs repr api spec.groupName x fr)
      (fun _ fr => Failed repr api spec.groupName fr) := by
  let Start : CheckFrame → Prop := fun fr => Acquiring repr api spec.groupName fr ∧ NoGroupYet fr ∧ NoAgent fr
  refine Block.Triple.bind (Q := fun _ => Start)
    (triple_call (fun tree _ fr h => ?_) (fun e _ fr h => ?_)) (fun tree => ?_)
  · subst h
    exact ⟨⟨acquiring_initial.called rfl rfl, by simp [CheckFrame.initial]⟩, by simp [NoGroupYet, CheckFrame.initial],
      rfl, rfl, rfl⟩
  · subst h
    exact ⟨acquiring_initial.called rfl rfl, by simp [executedStatus, CheckFrame.initial]⟩
  refine Block.Triple.bind (Q := fun _ => Start) (Block.Triple.ofExcept (fun _ _ fr h => h)
    (fun _ _ fr h => h.1.failed)) (fun entry => ?_)
  cases entry with
  | none => exact Block.Triple.pure (fun fr h => ⟨h.1.failed, h.2.2⟩)
  | some entry =>
    refine Block.Triple.bind (Q := fun _ => Start) (Block.Triple.assign (fun fr h =>
      ⟨h.1.staged _, h.2.1, ⟨h.2.2.group_eq, h.2.2.profile_eq, h.2.2.policy_eq⟩⟩)) (fun _ => ?_)
    refine Block.Triple.bind ((Acquiring.createGroup selectedOuDn _).mono (fun fr h => ⟨h.1, h.2.1⟩) (fun _ _ h => h)
      (fun _ fr h => h.failed)) (fun created => ?_)
    let WithGroup : CheckFrame → Prop := fun fr => Acquiring repr api spec.groupName fr ∧ fr.group = some created.1
    refine Block.Triple.bind (Q := fun _ => WithGroup) (Block.Triple.assign (fun fr h => ⟨h, rfl⟩)) (fun _ => ?_)
    refine Block.Triple.bind (Q := fun _ => WithGroup) (Block.Triple.assign (fun fr h => ⟨h.1.staged _, h.2⟩))
      (fun _ => ?_)
    refine Block.Triple.bind (((Acquiring.createProfile _).and (call_keeps (fun _ _ h => h))).mono (fun _ h => h)
      (fun _ _ h => h) (fun _ fr h => h.1.failed)) (fun profile => ?_)
    let WithProfile : CheckFrame → Prop := fun fr => WithGroup fr ∧ fr.profile = some profile.val
    refine Block.Triple.bind (Q := fun _ => WithProfile) (Block.Triple.assign (fun fr h => ⟨h, rfl⟩)) (fun _ => ?_)
    refine Block.Triple.bind (Q := fun _ => WithProfile)
      (Block.Triple.assign (fun fr h => ⟨⟨h.1.1.staged _, h.1.2⟩, h.2⟩)) (fun _ => ?_)
    refine Block.Triple.bind (((Acquiring.createPolicy _).and
      (call_keeps (R := fun fr => fr.group = some created.1 ∧ fr.profile = some profile.val) (fun _ _ h => h))).mono
      (fun _ h => ⟨h.1.1, h.1.2, h.2⟩) (fun _ _ h => h) (fun _ fr h => h.1.failed)) (fun policy => ?_)
    let WithPolicy : CheckFrame → Prop := fun fr => WithProfile fr ∧ fr.policy = some policy.val
    refine Block.Triple.bind (Q := fun _ => WithPolicy)
      (Block.Triple.assign (fun fr h => ⟨⟨⟨h.1, h.2.1⟩, h.2.2⟩, rfl⟩)) (fun _ => ?_)
    refine Block.Triple.bind (Q := fun _ => WithPolicy)
      (Block.Triple.assign (fun fr h => ⟨⟨⟨h.1.1.1.staged _, h.1.1.2⟩, h.1.2⟩, h.2⟩)) (fun _ => ?_)
    refine Block.Triple.bind (Q := fun _ => WithPolicy)
      (Block.Triple.ofExcept (fun _ _ fr h => h) (fun _ _ fr h => h.1.1.1.failed)) (fun policyId => ?_)
    refine Block.Triple.bind (Q := fun _ => WithPolicy)
      (Block.Triple.ofExcept (fun _ _ fr h => h) (fun _ _ fr h => h.1.1.1.failed)) (fun dn => ?_)
    exact Block.Triple.bind (Acquiring.execute _) (fun response => Block.Triple.pure (fun fr h => h entry created.2))

/-! ## Cleaning up -/

def Operation.call (o : Operation) : ApiCall := ⟨o.endpoint, o.kwargs⟩

def deleteFailed (api : LiderApi) (endpoint : Endpoint) : Bool := (api.delete endpoint).toOption.isNone

/-- One delete: it is made, and a failure is noted. -/
theorem attempt_eq (o : Operation) (fr : CheckFrame) :
    Block.tryExcept (do let _ ← call o.endpoint o.kwargs (api.delete o.endpoint); return ([] : List Operation))
      (fun _ => return [o]) fr =
        (.ok ([o].filter (fun o => deleteFailed api o.endpoint)), { fr with calls := fr.calls ++ [o.call] }) := by
  have hlast : [o].filter (fun o => deleteFailed api o.endpoint) = if deleteFailed api o.endpoint then [o] else [] := by
    cases h : deleteFailed api o.endpoint <;> simp [h]
  rw [hlast, deleteFailed]
  cases api.delete o.endpoint <;> rfl

/-- **Every operation is attempted once, in order, whatever fails.** -/
theorem runOperations_eq : ∀ (operations : List Operation) (fr : CheckFrame),
    runOperations api operations fr = (.ok (operations.filter (fun o => deleteFailed api o.endpoint)),
      { fr with calls := fr.calls ++ operations.map Operation.call })
  | [], fr => by simp only [List.map_nil, List.append_nil]; rfl
  | o :: operations, fr => by
    have ih := runOperations_eq operations { fr with calls := fr.calls ++ [o.call] }
    refine (Block.bind_of_ok (attempt_eq o fr) _).trans ((Block.bind_of_ok ih _).trans ?_)
    show (Except.ok ([o].filter _ ++ operations.filter _), _) = (Except.ok ((o :: operations).filter _), _)
    rw [← List.filter_append, List.append_assoc]
    rfl

/-- The id of a created record is a positive number, under its first key. -/
def Created (record : Option Dict) : Prop := ∀ r ∈ record, ∃ id : Nat, 0 < id ∧ r.get "id" = .int id

theorem created_obtained (endpoint : Endpoint) (outcome : Except CallError CreatedRecord) (calls : List ApiCall) :
    Created (obtainedRecord endpoint outcome calls) := by
  intro r hr
  cases outcome with
  | error e => cases hr
  | ok record =>
    have hrecord : record.val = r := by
      by_cases hm : made endpoint calls
      · simpa [obtainedRecord, hm] using hr
      · simp [obtainedRecord, hm] at hr
    exact hrecord ▸ record.property

theorem recordOperation_created (repr : Json → String) (otherInt : Json → Except CallError Int)
    (resource idKey argument : String) (endpoint : Endpoint) {record : Option Dict} (h : Created record) :
    ∃ operations, recordOperation repr otherInt resource idKey argument endpoint record = .ok operations ∧
      operations.map Operation.call = recordDelete endpoint argument record := by
  cases record with
  | none => exact ⟨[], rfl, rfl⟩
  | some r =>
    obtain ⟨id, hpos, hid⟩ := h r rfl
    have htruthy : (Json.int id).orElse (r.get idKey) = .int id :=
      if_pos (show decide ((id : Int) ≠ 0) = true by simp; omega)
    refine ⟨[⟨resource, .str (pyStr repr (.int id)), endpoint, [(argument, .int id)]⟩], ?_, ?_⟩
    · simp only [recordOperation, Option.getD_some, hid, htruthy]
      rfl
    · simp [recordDelete, Operation.call, hid]

/-- `status` of a cleanup report. -/
theorem cleanup_of_operations {otherInt : Json → Except CallError Int} {policy profile : Option Dict} {groupDn : Json}
    {operations : List Operation}
    (h : cleanupOperations repr otherInt policy profile groupDn .deleteComputerGroup = .ok operations)
    (fr : CheckFrame) :
    cleanupRoundtripArtifacts repr api otherInt policy profile groupDn .deleteComputerGroup fr =
      (.ok ⟨if operations.isEmpty then "not_required" else if (operations.filter (fun o =>
          deleteFailed api o.endpoint)).isEmpty then "completed" else "partial_failure", operations,
        operations.filter (fun o => deleteFailed api o.endpoint)⟩,
        { fr with calls := fr.calls ++ operations.map Operation.call }) := by
  have hops : Block.ofExcept (cleanupOperations repr otherInt policy profile groupDn .deleteComputerGroup) fr =
      (.ok operations, fr) := by
    rw [h]
    rfl
  exact (Block.bind_of_ok hops _).trans ((Block.bind_of_ok (runOperations_eq operations fr) _).trans rfl)

theorem cleanupOperations_created (repr : Json → String) (otherInt : Json → Except CallError Int)
    {policy profile : Option Dict} (hpolicy : Created policy) (hprofile : Created profile) (groupDn : Json) :
    ∃ operations, cleanupOperations repr otherInt policy profile groupDn .deleteComputerGroup = .ok operations ∧
      operations.map Operation.call = deletesOf policy profile groupDn := by
  obtain ⟨policies, hp, hp'⟩ := recordOperation_created repr otherInt "policy" "policyId" "policy_id"
    .deletePolicy hpolicy
  obtain ⟨profiles, hq, hq'⟩ := recordOperation_created repr otherInt "profile" "profileId" "profile_id"
    .deleteProfile hprofile
  refine ⟨policies ++ profiles ++ if groupDn.truthy then
    [⟨"group", groupDn, .deleteComputerGroup, [("dn", groupDn)]⟩] else [], ?_, ?_⟩
  · rw [cleanupOperations, hp, hq]
    rfl
  · rw [List.map_append, List.map_append, hp', hq', deletesOf, groupDelete]
    split <;> rfl

theorem cleanup_status_iff (operations : List Operation) :
    (if operations.isEmpty then "not_required" else if (operations.filter (fun o =>
        deleteFailed api o.endpoint)).isEmpty then "completed" else "partial_failure") = "completed" ↔
      operations.map Operation.call ≠ [] ∧
        ∀ c ∈ operations.map Operation.call, deleteFailed api c.endpoint = false := by
  cases operations with
  | nil => simp
  | cons o operations =>
    by_cases hf : (o :: operations).filter (fun o => deleteFailed api o.endpoint) = []
    · simpa [hf, Operation.call, -List.filter_eq_nil_iff] using List.filter_eq_nil_iff.1 hf
    · have hnot : ¬ ∀ c ∈ (o :: operations).map Operation.call, deleteFailed api c.endpoint = false := by
        intro hall
        exact hf (List.filter_eq_nil_iff.2 (fun o' ho' => by
          rw [show deleteFailed api o'.endpoint = false from hall o'.call (List.mem_map_of_mem ho')]
          decide))
      simp only [List.isEmpty_iff, hf, if_false, reduceCtorEq, hnot, and_false, iff_false]
      decide

/-- **Cleaning up returns, and makes one delete a resource.** -/
theorem cleanup_eq (repr : Json → String) (api : LiderApi) (otherInt : Json → Except CallError Int)
    {policy profile : Option Dict} (hpolicy : Created policy) (hprofile : Created profile) (groupDn : Json)
    (fr : CheckFrame) :
    ∃ report : CleanupReport,
      cleanupRoundtripArtifacts repr api otherInt policy profile groupDn .deleteComputerGroup fr =
        (.ok report, { fr with calls := fr.calls ++ deletesOf policy profile groupDn }) ∧
      (report.status = "completed" ↔ deletesOf policy profile groupDn ≠ [] ∧
        ∀ c ∈ deletesOf policy profile groupDn, deleteFailed api c.endpoint = false) := by
  obtain ⟨operations, hops, hcalls⟩ := cleanupOperations_created repr otherInt hpolicy hprofile groupDn
  rw [← hcalls]
  exact ⟨_, cleanup_of_operations hops fr, cleanup_status_iff operations⟩

theorem isDelete_of_mem_deletesOf {policy profile : Option Dict} {groupDn : Json} {c : ApiCall}
    (hc : c ∈ deletesOf policy profile groupDn) : c.endpoint.isDelete = true := by
  simp only [deletesOf, List.mem_append, recordDelete, groupDelete, Option.mem_toList,
    Option.map_eq_some_iff] at hc
  rcases hc with (⟨r, -, rfl⟩ | ⟨r, -, rfl⟩) | hc
  · rfl
  · rfl
  · by_cases hg : groupDn.truthy
    · rw [if_pos hg, List.mem_singleton] at hc
      rw [hc]
      rfl
    · simp [hg] at hc

theorem not_made_deletesOf {e : Endpoint} (he : e.isDelete = false) (policy profile : Option Dict) (groupDn : Json) :
    ¬ made e (deletesOf policy profile groupDn) := by
  intro hm
  obtain ⟨c, hc, hce⟩ := List.mem_map.1 hm
  have := isDelete_of_mem_deletesOf hc
  rw [hce, he] at this
  cases this

/-! ## The two checks -/

/-- What a cleanup leaves: the deletes made are those of what was obtained. -/
structure Released (repr : Json → String) (api : LiderApi) (groupName : String) (status : Option Int)
    (report : CleanupReport) (fr : CheckFrame) : Prop where
  deletes : deleteCalls fr.calls = deletesOfObtained repr api groupName fr.calls
  status_eq : executedStatus api fr.calls = status
  completed : report.status = "completed" ↔ deleteCalls fr.calls ≠ [] ∧
    ∀ c ∈ deleteCalls fr.calls, api.delete c.endpoint = .ok ()

theorem deleteFailed_eq_false (endpoint : Endpoint) :
    deleteFailed api endpoint = false ↔ api.delete endpoint = .ok () := by
  unfold deleteFailed
  cases api.delete endpoint <;> simp [Except.toOption]

/-- **Both cleanup sites delete what the calls obtained.** -/
theorem Acquired.cleanup (otherInt : Json → Except CallError Int) (policy profile group : Option Dict)
    (status : Option Int) :
    Block.Triple
      (fun fr => Acquired repr api groupName fr ∧ executedStatus api fr.calls = status ∧ fr.policy = policy ∧
        fr.profile = profile ∧ fr.group = group)
      (cleanupRoundtripArtifacts repr api otherInt policy profile (groupDnOf group) .deleteComputerGroup)
      (fun report fr => Released repr api groupName status report fr ∧
        deleteCalls fr.calls = deletesOf policy profile (groupDnOf group))
      (fun _ _ => False) := by
  rintro fr ⟨h, hstatus, rfl, rfl, rfl⟩
  obtain ⟨report, hrun, hreport⟩ := cleanup_eq repr api otherInt
    (h.policy ▸ created_obtained _ _ _) (h.profile ▸ created_obtained _ _ _) (groupDnOf fr.group) fr
  rw [hrun]
  have hdeletes : deleteCalls (fr.calls ++ deletesOf fr.policy fr.profile (groupDnOf fr.group)) =
      deletesOf fr.policy fr.profile (groupDnOf fr.group) := by
    rw [deleteCalls_append, h.noDelete, List.nil_append]
    exact List.filter_eq_self.2 (fun c hc => isDelete_of_mem_deletesOf hc)
  have hno : ∀ e : Endpoint, e.isDelete = false → ¬ made e (deletesOf fr.policy fr.profile (groupDnOf fr.group)) :=
    fun e he => not_made_deletesOf he _ _ _
  refine ⟨⟨?_, ?_, ?_⟩, hdeletes⟩
  · rw [hdeletes, deletesOfObtained, obtainedRecord_append (hno _ rfl), obtainedRecord_append (hno _ rfl),
      obtainedGroup_append (hno _ rfl) (hno _ rfl), ← h.policy, ← h.profile, ← h.group]
  · simp only [← hstatus, executedStatus, made_append, hno .executePolicy rfl, or_false]
  · rw [hreport, hdeletes]
    simp only [deleteFailed_eq_false]

theorem Failed.cleanup (otherInt : Json → Except CallError Int) : Block.Triple (Failed repr api groupName)
    (cleanupFrame repr api otherInt) (fun report fr => Released repr api groupName none report fr)
    (fun _ _ => False) := by
  refine Block.Triple.bind (Q := fun vars fr => Failed repr api groupName fr ∧ fr.policy = vars.policy ∧
    fr.profile = vars.profile ∧ fr.group = vars.group) (Block.Triple.frame (fun fr h => ⟨h, rfl, rfl, rfl⟩))
    (fun vars => ?_)
  exact (Acquired.cleanup otherInt _ _ _ _).mono (fun fr h => ⟨h.1.1, h.1.2, h.2.1, h.2.2.1, h.2.2.2⟩) (fun _ _ h => h.1)
    (fun _ _ h => h)

/-- What holds when a check has returned. -/
def Settled (repr : Json → String) (api : LiderApi) (groupName : String) (fr : CheckFrame) : Prop :=
  deleteCalls fr.calls = deletesOfObtained repr api groupName fr.calls

theorem Released.settled {status : Option Int} {report : CleanupReport} {fr : CheckFrame}
    (h : Released repr api groupName status report fr) : Settled repr api groupName fr := h.deletes

/-- A check that found no agent obtained nothing. -/
theorem Failed.settled {fr : CheckFrame} (h : Failed repr api groupName fr) (hno : NoAgent fr) :
    Settled repr api groupName fr := by
  rw [Settled, h.1.noDelete, deletesOfObtained, ← h.1.policy, ← h.1.profile, ← h.1.group, hno.policy_eq, hno.profile_eq,
    hno.group_eq]
  rfl

/-- The calls of a passing roundtrip. -/
def RoundtripOk (api : LiderApi) (calls : List ApiCall) : Prop :=
  executedStatus api calls = some 200 ∧ ∀ c ∈ deleteCalls calls, api.delete c.endpoint = .ok ()

theorem runPolicyRoundtripCheck_spec (lower : String → String) (selectedOuDn : String)
    (otherInt : Json → Except CallError Int) (logTail logSearch : ServiceLog) (token : String) :
    Block.Triple (· = CheckFrame.initial)
      (runPolicyRoundtripCheck repr api selectedOuDn otherInt lower logTail logSearch token)
      (fun check fr => Settled repr api (roundtripSpec token).groupName fr ∧
        (check.get "status" = .str "pass" ↔ RoundtripOk api fr.calls))
      (fun _ _ => False) := by
  have hnot : ∀ {fr : CheckFrame}, executedStatus api fr.calls = none → ¬ RoundtripOk api fr.calls := by
    intro fr hs h
    rw [RoundtripOk, hs] at h
    exact nomatch h.1
  refine Block.Triple.tryExcept _ (Block.Triple.bind (acquireAndExecute_spec selectedOuDn (roundtripSpec token))
    (fun executed => ?_)) (fun exc => ?_)
  · cases executed with
    | none =>
      refine Block.Triple.pure (fun fr h => ⟨h.1.settled h.2, ?_⟩)
      rw [buildCheck_pass_iff]
      simpa using hnot h.1.2
    | some x =>
      refine Block.Triple.bind ((Acquired.cleanup otherInt _ _ (some x.group) _).mono (fun fr h =>
        ⟨h.toAcquired, h.status_eq, h.policy_eq, h.profile_eq, h.group_eq⟩) (fun _ _ h => h)
        (fun _ _ h => h.elim)) (fun report => Block.Triple.pure (fun fr h => ⟨h.1.settled, ?_⟩))
      have hne : deleteCalls fr.calls ≠ [] := by
        rw [h.2]
        simp [deletesOf, recordDelete]
      rw [CheckSpec.check, buildCheck_pass_iff]
      simp [RoundtripOk, h.1.status_eq, h.1.completed, hne]
  · refine Block.Triple.bind (Q := fun _ => Failed repr api (roundtripSpec token).groupName)
      (Block.Triple.frame (fun _ h => h)) (fun vars => ?_)
    refine Block.Triple.bind (Failed.cleanup otherInt) (fun report => Block.Triple.pure (fun fr h => ⟨h.settled, ?_⟩))
    rw [CheckSpec.check, buildCheck_pass_iff]
    simpa using hnot h.status_eq

theorem historyEvidence_keeps (executionOk : Bool) (agentDn : Json) (x : Executed) :
    Block.Triple (ExecutedAs repr api groupName x) (historyEvidence api executionOk agentDn)
      (fun _ fr => ExecutedAs repr api groupName x fr) (fun _ _ => False) := by
  have hcalled : ∀ fr, ExecutedAs repr api groupName x fr → ExecutedAs repr api groupName x
      { fr with calls := fr.calls ++ [⟨.getCommandHistory, [("dn", agentDn)]⟩] } := fun fr h =>
    ⟨h.called rfl rfl, h.group_eq, h.profile_eq, h.policy_eq, by simpa [executedStatus] using h.status_eq⟩
  unfold historyEvidence
  split
  · refine Block.Triple.tryExcept (fun _ fr => ExecutedAs repr api groupName x fr)
      (Block.Triple.bind (triple_call (fun _ _ fr h => hcalled fr h) (fun _ _ fr h => hcalled fr h)) (fun history => ?_))
      (fun exc => Block.Triple.pure (fun fr h => h))
    exact Block.Triple.bind (Block.Triple.ofExcept (fun _ _ fr h => h) (fun _ _ fr h => h))
      (fun count => Block.Triple.pure (fun fr h => h))
  · exact Block.Triple.pure (fun fr h => h)

theorem runPolicyEffectProbeCheck_spec (selectedOuDn : String) (otherInt : Json → Except CallError Int)
    (token : String) :
    Block.Triple (· = CheckFrame.initial) (runPolicyEffectProbeCheck repr api selectedOuDn otherInt token)
      (fun _ fr => Settled repr api (effectProbeSpec token).groupName fr) (fun _ _ => False) := by
  refine Block.Triple.tryExcept _ (Block.Triple.bind (acquireAndExecute_spec selectedOuDn (effectProbeSpec token))
    (fun executed => ?_)) (fun exc => ?_)
  · cases executed with
    | none => exact Block.Triple.pure (fun fr h => h.1.settled h.2)
    | some x =>
      refine Block.Triple.bind ((historyEvidence_keeps _ _ x).mono (fun _ h => h) (fun _ _ h => h)
        (fun _ _ h => h.elim)) (fun history => ?_)
      exact Block.Triple.bind ((Acquired.cleanup otherInt _ _ (some x.group) _).mono (fun fr h =>
        ⟨h.toAcquired, h.status_eq, h.policy_eq, h.profile_eq, h.group_eq⟩) (fun _ _ h => h)
        (fun _ _ h => h.elim)) (fun report => Block.Triple.pure (fun fr h => h.1.settled))
  · exact Block.Triple.bind (Failed.cleanup otherInt) (fun report => Block.Triple.pure (fun fr h => h.settled))

end

/-- **Whatever the calls do, both checks return, and have made one delete for everything they obtained that has a name
to delete it by: the policy, the profile, the group.  The roundtrip passes iff the policy was executed with status 200
and every delete succeeded.** -/
theorem policyChecks_release (repr : Json → String) (lower : String → String) (api : LiderApi) (selectedOuDn : String)
    (otherInt : Json → Except CallError Int) (logTail logSearch : ServiceLog) (token : String) :
    (∃ check fr, runPolicyRoundtripCheck repr api selectedOuDn otherInt lower logTail logSearch token
        CheckFrame.initial = (.ok check, fr) ∧
      deleteCalls fr.calls = deletesOfObtained repr api (roundtripSpec token).groupName fr.calls ∧
      (check.get "status" = .str "pass" ↔ executedStatus api fr.calls = some 200 ∧
        ∀ c ∈ deleteCalls fr.calls, api.delete c.endpoint = .ok ())) ∧
    (∃ check fr, runPolicyEffectProbeCheck repr api selectedOuDn otherInt token CheckFrame.initial = (.ok check, fr) ∧
      deleteCalls fr.calls = deletesOfObtained repr api (effectProbeSpec token).groupName fr.calls) := by
  constructor
  · obtain ⟨check, fr, hrun, hsettled, hpass⟩ :=
      (runPolicyRoundtripCheck_spec lower selectedOuDn otherInt logTail logSearch token).returns rfl
    exact ⟨check, fr, hrun, hsettled, hpass⟩
  · exact (runPolicyEffectProbeCheck_spec selectedOuDn otherInt token).returns rfl

/-! ## A group without a name -/

/-- Every call succeeds but the create, which answers 417; the tree shows the group without its distinguished name. -/
def unnamedGroupApi : LiderApi where
  computerTree := .ok (.arr [.obj [("type", .str "AHENK"), ("distinguishedName", .str "cn=ahenk-001,ou=Ahenkler")]])
  computerGroupTree := .ok (.arr [.obj [("name", .str "rt-group-1")]])
  createComputerGroup := .error (.httpError "HTTPError" "417 Client Error" (some ⟨417, ""⟩))
  createScriptProfile := .ok ⟨[("id", .int 1)], 1, by decide, rfl⟩
  createPolicy := .ok ⟨[("id", .int 2)], 2, by decide, rfl⟩
  executePolicy := .ok ⟨200, ""⟩
  commandHistory := .ok (.arr [])
  delete := fun _ => .ok ()

/-- The calls of the roundtrip with that outcome. -/
def unnamedGroupCalls : List ApiCall :=
  (runPolicyRoundtripCheck (fun _ => "") unnamedGroupApi "ou=AgentGroups" (fun _ => .ok 0) id ⟨true, "", none⟩
    ⟨true, "", none⟩ "1" CheckFrame.initial).2.calls

/-- **The reconciled group is obtained and not deleted.** -/
theorem unnamedGroup_left : (obtainedGroup (fun _ => "") unnamedGroupApi "rt-group-1" unnamedGroupCalls).isSome = true ∧
    unnamedGroupCalls.map ApiCall.endpoint = [.getComputerTree, .createComputerGroup, .getComputerGroupTree,
      .createScriptProfile, .createPolicy, .deletePolicy, .deleteProfile] := by
  decide +kernel

end Lider
