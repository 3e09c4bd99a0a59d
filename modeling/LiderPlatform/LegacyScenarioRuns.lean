import LiderPlatform.LegacyScenarios
/-!
# LegacyScenarioRuns — what a run of the legacy engine did (`orchestrator/main.py`)

What a runner remembers is what its requests brought (`Sound`): so every policy is made of the last profile, and
executed, by the id it was given, on the last group.  A scenario passes exactly when every step succeeds, and then every
`execute_policy` of it was answered with 200.
-/
namespace Lider.LegacyScenarios

open Py Py.Block Transcripts

def isCreateGroup : Request → Bool
  | .createComputerGroup .. => true
  | _ => false

def isCreateProfile : Request → Bool
  | .createScriptProfile .. => true
  | _ => false

def isCreatePolicy : Request → Bool
  | .createPolicy .. => true
  | _ => false

section
variable (m : Setting)

/-- A policy is made of the last profile made; the last policy is executed, by its id, on the last group. -/
def Grounded (before : List Request) : Request → Prop
  | .createPolicy _ _ profile _ => lastOk m.server isCreateProfile before = some profile
  | .executePolicy policyId dn => ∃ policy group, lastOk m.server isCreatePolicy before = some policy ∧
      getItem policy "id" = .ok policyId ∧ lastOk m.server isCreateGroup before = some group ∧
      getItem group "distinguishedName" = .ok dn
  | _ => True

/-- The runner remembers what its requests brought, and has gone on from `base`. -/
structure Sound (base : List Request) (st : Runner) : Prop where
  group : st.lastGroup = lastOk m.server isCreateGroup st.requests
  profile : st.lastProfile = lastOk m.server isCreateProfile st.requests
  policy : st.lastPolicy = lastOk m.server isCreatePolicy st.requests
  grounded : Each (Grounded m) st.requests
  extends_ : base <+: st.requests

/-- The only request since `before` executed the last policy on the last group, and the answer was 200. -/
def Executed (before after : List Request) : Prop :=
  ∃ policyId dn code, after = before ++ [.executePolicy policyId dn] ∧
    Grounded m before (.executePolicy policyId dn) ∧ m.server before (.executePolicy policyId dn) = .ok code ∧
    code.pyEq (.int 200) = true

end

theorem sound_initial (m : Setting) : Sound m [] Runner.initial :=
  ⟨rfl, rfl, rfl, each_nil, List.nil_prefix⟩

section
variable {m : Setting} {base : List Request}

theorem Sound.trans {st st' : Runner} (h : Sound m base st) (h' : Sound m st.requests st') : Sound m base st' :=
  ⟨h'.group, h'.profile, h'.policy, h'.grounded, h.extends_.trans h'.extends_⟩

theorem Sound.restart {st : Runner} (h : Sound m base st) : Sound m st.requests st :=
  ⟨h.group, h.profile, h.policy, h.grounded, List.prefix_rfl⟩

/-! ## Blocks -/

/-- The block keeps the runner sound, whether it returns or raises. -/
def Keeps {α : Type} (m : Setting) (base : List Request) (b : RunnerBlock α) : Prop :=
  Triple (Sound m base) b (fun _ => Sound m base) (fun _ => Sound m base)

theorem Keeps.pure {α : Type} (a : α) : Keeps m base (Pure.pure a : RunnerBlock α) := Triple.pure (fun _ h => h)

theorem Keeps.raise {α : Type} (e : String) : Keeps m base (Block.raise e : RunnerBlock α) := Triple.raise (fun _ h => h)

theorem Keeps.ofExcept {α : Type} (r : Except String α) : Keeps m base (Block.ofExcept r : RunnerBlock α) :=
  Triple.ofExcept (fun _ _ _ h => h) (fun _ _ _ h => h)

theorem Keeps.raised {α : Type} (r : Except PyExc α) : Keeps m base (raised r) := Keeps.ofExcept _

theorem Keeps.bind {α β : Type} {b : RunnerBlock α} {next : α → RunnerBlock β} (hb : Keeps m base b)
    (hnext : ∀ a, Keeps m base (next a)) : Keeps m base (b >>= next) :=
  Triple.bind hb hnext

/-- A request that makes nothing. -/
theorem Sound.asked {st : Runner} (h : Sound m base st) {r : Request} (hgroup : isCreateGroup r = false)
    (hprofile : isCreateProfile r = false) (hpolicy : isCreatePolicy r = false) (hr : Grounded m st.requests r) :
    Sound m base { st with requests := st.requests ++ [r] } :=
  ⟨h.group.trans (lastOk_of_other hgroup).symm, h.profile.trans (lastOk_of_other hprofile).symm,
    h.policy.trans (lastOk_of_other hpolicy).symm, each_append h.grounded hr, h.extends_.trans (List.prefix_append _ _)⟩

theorem Keeps.ask {r : Request} (hgroup : isCreateGroup r = false) (hprofile : isCreateProfile r = false)
    (hpolicy : isCreatePolicy r = false) (hr : ∀ before, Grounded m before r) : Keeps m base (ask m r) :=
  Triple.of_leaves (fun _ h => h.asked hgroup hprofile hpolicy (hr _))

theorem Keeps.getComputerTree : Keeps m base (getComputerTree m) :=
  Triple.of_leaves (fun _ h => h.asked rfl rfl rfl trivial)

theorem Keeps.selectAgentEntry (agentId : Json) : Keeps m base (selectAgentEntry m agentId) := by
  refine .bind .getComputerTree (fun nodes => .bind (.ofExcept _) (fun found => ?_))
  split
  · exact .pure _
  · exact .raise _

theorem Keeps.expectedOf (params : Json) : Keeps m base (expectedOf m params) :=
  .bind (.raised _) (fun _ => .ofExcept _)

/-- Statements that neither ask nor assign. -/
theorem triple_raised {α : Type} {P : Runner → Prop} {E : String → Runner → Prop} (hE : ∀ e st, P st → E e st)
    (r : Except PyExc α) : Triple P (raised r) (fun _ => P) E :=
  Triple.ofExcept (fun _ _ _ h => h) (fun e _ st h => hE e st h)

/-- A value that is read is there. -/
theorem triple_read {α : Type} {P : Runner → Prop} {E : Runner → Prop} (hE : ∀ st, P st → E st) {r : Except PyExc α} :
    Triple P (raised r) (fun a st => P st ∧ r = .ok a) (fun _ => E) := by
  refine Triple.ofExcept (fun a ha st h => ⟨h, ?_⟩) (fun _ _ st h => hE st h)
  cases r with
  | ok b => exact congrArg Except.ok (Except.ok.inj ha)
  | error e => exact nomatch ha

theorem triple_ask {P : Runner → Prop} {r : Request} {Q : Json → Runner → Prop} {E : String → Runner → Prop}
    (hok : ∀ st v, P st → m.server st.requests r = .ok v → Q v { st with requests := st.requests ++ [r] })
    (herror : ∀ st e, P st → m.server st.requests r = .error e → E e { st with requests := st.requests ++ [r] }) :
    Triple P (ask m r) Q E := fun st h => by
  unfold ask
  cases hr : m.server st.requests r with
  | ok v => exact hok st v h hr
  | error e => exact herror st e h hr

/-- A request that fails makes nothing. -/
theorem Sound.failed {st : Runner} (h : Sound m base st) {r : Request} (hr : Grounded m st.requests r) {e : String}
    (herror : m.server st.requests r = .error e) : Sound m base { st with requests := st.requests ++ [r] } :=
  ⟨h.group.trans (lastOk_of_error herror).symm, h.profile.trans (lastOk_of_error herror).symm,
    h.policy.trans (lastOk_of_error herror).symm, each_append h.grounded hr, h.extends_.trans (List.prefix_append _ _)⟩

/-- A request whose answer is stored under its name. -/
theorem triple_make {P : Runner → Prop} {r : Request} {next : Json → RunnerBlock Dict} (store : Json → Runner → Runner)
    (hP : ∀ st, P st → Sound m base st ∧ Grounded m st.requests r)
    (hok : ∀ st v, P st → m.server st.requests r = .ok v →
      Sound m base (store v { st with requests := st.requests ++ [r] }))
    (hnext : ∀ v, Keeps m base (next v)) :
    Triple P (ask m r >>= fun v => assign (store v) >>= fun _ => next v) (fun _ => Sound m base)
      (fun _ => Sound m base) := by
  refine .bind (Q := fun v st => Sound m base (store v st)) ?_ (fun v => ?_)
  · exact triple_ask hok (fun st e h herror => (hP st h).1.failed (hP st h).2 herror)
  · exact .bind (.assign (R := fun _ => Sound m base) (fun _ h => h)) (fun _ => hnext v)

/-! ## Actions -/

theorem keeps_createComputerGroup (params : Json) : Keeps m base (createComputerGroup m params) := by
  refine .bind (.raised _) (fun groupName => .bind (.raised _) (fun agentId => .bind (.selectAgentEntry _) (fun entry =>
    .bind (.raised _) (fun selectedOuDn => ?_))))
  refine triple_make (fun group st => { st with lastGroup := some group }) (fun st h => ⟨h, trivial⟩)
    (fun st v h hv => ?_) (fun group => .bind (.raised _) (fun _ => .pure _))
  exact ⟨(lastOk_of_ok rfl hv).symm, h.profile.trans (lastOk_of_other rfl).symm, h.policy.trans (lastOk_of_other rfl).symm,
    each_append h.grounded trivial, h.extends_.trans (List.prefix_append _ _)⟩

theorem keeps_createScriptProfile (params : Json) : Keeps m base (createScriptProfile m params) := by
  refine .bind (.raised _) (fun label => .bind (.raised _) (fun description => .bind (.raised _) (fun contents =>
    .bind (.raised _) (fun type => .bind (.ofExcept _) (fun scriptType => .bind (.raised _) (fun scriptParams => ?_))))))
  refine triple_make (fun profile st => { st with lastProfile := some profile }) (fun st h => ⟨h, trivial⟩)
    (fun st v h hv => ?_) (fun profile => .bind (.raised _) (fun _ => .pure _))
  exact ⟨h.group.trans (lastOk_of_other rfl).symm, (lastOk_of_ok rfl hv).symm, h.policy.trans (lastOk_of_other rfl).symm,
    each_append h.grounded trivial, h.extends_.trans (List.prefix_append _ _)⟩

/-- A profile that is there is the one the runner remembers. -/
theorem eq_some_of_truthy {last : Option Json} (h : (last.getD .null).truthy = true) : last = some (last.getD .null) := by
  cases last with
  | none => exact nomatch h
  | some v => rfl

theorem keeps_createPolicy (params : Json) : Keeps m base (createPolicy m params) := by
  refine Triple.bind (Q := fun st₀ st => Sound m base st ∧ st = st₀) (.frame (fun st h => ⟨h, rfl⟩)) (fun st₀ => ?_)
  dsimp only
  split
  · exact Triple.pure (fun st h => h.1)
  · rename_i hprofile
    have hprofile : (st₀.lastProfile.getD .null).truthy = true := by simpa using hprofile
    have hP : ∀ st, (Sound m base st ∧ st = st₀) → Sound m base st := fun _ h => h.1
    refine Triple.bind (triple_raised (fun _ => hP) _) (fun label => Triple.bind (triple_raised (fun _ => hP) _)
      (fun description => Triple.bind (triple_raised (fun _ => hP) _) (fun active => ?_)))
    have hgrounded : ∀ st, (Sound m base st ∧ st = st₀) → Grounded m st.requests
        (.createPolicy (resolveVar m label) description (st₀.lastProfile.getD .null) active.truthy) := by
      rintro st ⟨h, rfl⟩
      exact h.profile.symm.trans (eq_some_of_truthy hprofile)
    refine triple_make (fun policy st => { st with lastPolicy := some policy })
      (fun st h => ⟨h.1, hgrounded st h⟩) (fun st v h hv => ?_) (fun policy => .bind (.raised _) (fun _ => .pure _))
    exact ⟨h.1.group.trans (lastOk_of_other rfl).symm, h.1.profile.trans (lastOk_of_other rfl).symm,
      (lastOk_of_ok rfl hv).symm, each_append h.1.grounded (hgrounded st h), h.1.extends_.trans (List.prefix_append _ _)⟩

/-- **`execute_policy` succeeds only when the last policy was executed on the last group**, with the answer 200. -/
theorem triple_executePolicy (q : List Request) :
    Triple (fun st => Sound m base st ∧ st.requests = q) (executePolicy m)
      (fun result st => Sound m base st ∧ (succeeded result = true → Executed m q st.requests))
      (fun _ => Sound m base) := by
  refine .bind (Q := fun st₀ st => (Sound m base st ∧ st.requests = q) ∧ st = st₀) (.frame (fun st h => ⟨h, rfl⟩))
    (fun st₀ => ?_)
  refine .bind (Q := fun st₁ st => (Sound m base st ∧ st.requests = q) ∧ st = st₀ ∧ st₁ = st₀)
    (.frame (fun st h => ⟨h.1, h.2, h.2⟩)) (fun st₁ => ?_)
  dsimp only
  split
  · exact .pure (fun st h => ⟨h.1.1, fun hsucceeded => nomatch hsucceeded⟩)
  · rename_i hthere
    simp only [Bool.or_eq_true, Bool.not_eq_true', not_or, Bool.not_eq_false] at hthere
    obtain ⟨hpolicy, hgroup⟩ := hthere
    refine .bind (triple_read (fun st h => h.1.1)) (fun policyId => ?_)
    refine .bind (triple_read (fun st h => h.1.1.1)) (fun dn => ?_)
    have hgrounded : ∀ st, (((Sound m base st ∧ st.requests = q) ∧ st = st₀ ∧ st₁ = st₀) ∧
        getItem (st₀.lastPolicy.getD .null) "id" = .ok policyId) ∧
          getItem (st₁.lastGroup.getD .null) "distinguishedName" = .ok dn →
        Grounded m st.requests (.executePolicy policyId dn) := by
      rintro st ⟨⟨⟨⟨h, -⟩, rfl, rfl⟩, hid⟩, hdn⟩
      exact ⟨_, _, h.policy.symm.trans (eq_some_of_truthy hpolicy), hid, h.group.symm.trans (eq_some_of_truthy hgroup), hdn⟩
    refine .bind (Q := fun code st => Sound m base st ∧ (code.pyEq (.int 200) = true → Executed m q st.requests)) ?_
      (fun code => .pure (fun st h => ⟨h.1, fun hsucceeded => h.2 (by simpa [succeeded, Json.truthy] using hsucceeded)⟩))
    refine triple_ask (fun st code h hcode => ⟨h.1.1.1.1.asked rfl rfl rfl (hgrounded st h), fun h200 => ?_⟩)
      (fun st e h herror => h.1.1.1.1.failed (hgrounded st h) herror)
    obtain rfl := h.1.1.1.2
    exact ⟨policyId, dn, code, rfl, hgrounded st h, hcode, h200⟩

theorem Keeps.pyInt (v : Json) : Keeps m base (pyInt m v) := .ofExcept _

theorem keeps_existsIn (params : Json) (flag : String) {r : Request} (hgroup : isCreateGroup r = false)
    (hprofile : isCreateProfile r = false) (hpolicy : isCreatePolicy r = false) (hr : ∀ before, Grounded m before r) :
    Keeps m base (existsIn m params flag r) := by
  refine .bind (.raised _) (fun asked => ?_)
  split
  · exact .ask hgroup hprofile hpolicy hr
  · exact .pure _

theorem keeps_checkAgentExists (params : Json) : Keeps m base (checkAgentExists m params) :=
  .bind (.raised _) (fun _ => .bind (keeps_existsIn _ _ rfl rfl rfl (fun _ => trivial)) (fun _ =>
    .bind (keeps_existsIn _ _ rfl rfl rfl (fun _ => trivial)) (fun _ => .pure _)))

theorem keeps_checkXmppAgentCount (params : Json) : Keeps m base (checkXmppAgentCount m params) := by
  refine .bind (.expectedOf _) (fun expected => .bind (.ask rfl rfl rfl (fun _ => trivial)) (fun total => ?_))
  split
  · exact .pure _
  · exact .raise _

theorem keeps_checkConnectionRate (params : Json) : Keeps m base (checkConnectionRate m params) := by
  refine .bind (.raised _) (fun minPct => .bind (.ask rfl rfl rfl (fun _ => trivial)) (fun connected => ?_))
  split
  · exact .bind (.raised _) (fun _ => .pure _)
  · exact .raise _

theorem keeps_sendTask (params : Json) : Keeps m base (sendTask m params) :=
  .bind (.raised _) (fun _ => .bind (.raised _) (fun _ => .bind (.raised _) (fun _ =>
    .bind (.selectAgentEntry _) (fun _ => .bind (.ask rfl rfl rfl (fun _ => trivial)) (fun _ => .pure _)))))

/-- A count that the platform is asked for. -/
theorem Keeps.counted {r : Request} {next : Int → Json → RunnerBlock Dict} {params : Json} (hgroup : isCreateGroup r = false)
    (hprofile : isCreateProfile r = false) (hpolicy : isCreatePolicy r = false) (hr : ∀ before, Grounded m before r)
    (hnext : ∀ expected actual, Keeps m base (next expected actual)) :
    Keeps m base (LegacyScenarios.expectedOf m params >>= fun expected => LegacyScenarios.ask m r >>= next expected) :=
  .bind (.expectedOf _) (fun expected => .bind (.ask hgroup hprofile hpolicy hr) (hnext expected))

/-- **The body of a step**: it keeps the runner sound, and `execute_policy` does what it says. -/
theorem triple_perform (action params : Json) (q : List Request) :
    Triple (fun st => Sound m base st ∧ st.requests = q) (perform m action params)
      (fun result st => Sound m base st ∧
        (action = .str "execute_policy" → succeeded result = true → Executed m q st.requests))
      (fun _ => Sound m base) := by
  have other : ∀ {action : Json} {b : RunnerBlock Dict}, Keeps m base b → action ≠ .str "execute_policy" →
      Triple (fun st => Sound m base st ∧ st.requests = q) b (fun result st => Sound m base st ∧
        (action = .str "execute_policy" → succeeded result = true → Executed m q st.requests)) (fun _ => Sound m base) :=
    fun hb hne => hb.mono (fun _ h => h.1) (fun _ _ h => ⟨h, fun heq => absurd heq hne⟩) (fun _ _ h => h)
  have simple : ∀ {r : Request} {next : Json → Dict}, isCreateGroup r = false → isCreateProfile r = false →
      isCreatePolicy r = false → (∀ before, Grounded m before r) →
      Keeps m base (ask m r >>= fun v => Pure.pure (next v)) := fun hg hpr hpo hr =>
    .bind (.ask hg hpr hpo hr) (fun _ => .pure _)
  unfold perform
  split
  · exact other (simple rfl rfl rfl (fun _ => trivial)) (by simp)
  · exact other (simple rfl rfl rfl (fun _ => trivial)) (by simp)
  · exact other (.counted rfl rfl rfl (fun _ => trivial) (fun _ _ => .pure _)) (by simp)
  · exact other (keeps_checkXmppAgentCount _) (by simp)
  · exact other (.counted rfl rfl rfl (fun _ => trivial) (fun _ _ => .pure _)) (by simp)
  · exact other (.counted rfl rfl rfl (fun _ => trivial) (fun _ _ => .bind (.raised _) (fun _ => .pure _))) (by simp)
  · exact other (.counted rfl rfl rfl (fun _ => trivial) (fun _ _ => .bind (.raised _) (fun _ => .bind (.pyInt _)
      (fun _ => .pure _)))) (by simp)
  · exact other (.bind (.expectedOf _) (fun _ => .bind .getComputerTree (fun _ => .pure _))) (by simp)
  · exact other (keeps_checkAgentExists _) (by simp)
  · exact other (keeps_checkConnectionRate _) (by simp)
  · exact other (keeps_sendTask _) (by simp)
  · exact other (keeps_createComputerGroup _) (by simp)
  · exact other (keeps_createScriptProfile _) (by simp)
  · exact other (keeps_createPolicy _) (by simp)
  · exact (triple_executePolicy q).mono (fun _ h => h) (fun _ _ h => ⟨h.1, fun _ => h.2⟩) (fun _ _ h => h)
  · exact other (.bind (.raised _) (fun _ => .bind (.raised _) (fun _ => .pure _))) (by simp)
  · exact other (.pure _) (by simp)
  · rename_i hexecute _ _
    exact other (.pure _) hexecute

/-- **One step**: an action that raises makes it fail. -/
theorem triple_executeStep (step : Json) (q : List Request) :
    Triple (fun st => Sound m base st ∧ st.requests = q) (executeStep m step)
      (fun result st => Sound m base st ∧
        (getItem step "action" = .ok (.str "execute_policy") → succeeded result = true → Executed m q st.requests))
      (fun _ => Sound m base) := by
  refine .bind (triple_read (fun _ h => h.1)) (fun action => .bind (triple_raised (fun _ _ h => h.1.1) _) (fun params => ?_))
  refine Triple.tryExcept (fun _ => Sound m base) ?_ (fun e => .pure (fun st h => ⟨h, fun _ hfail => nomatch hfail⟩))
  intro st hst
  have h := triple_perform action params q st hst.1
  cases hr : perform m action params st with
  | mk r st' =>
    rw [hr] at h
    cases r with
    | ok result => exact ⟨h.1, fun hitem => h.2 (Except.ok.inj (hst.2.symm.trans hitem))⟩
    | error e => exact h

/-! ## Runs -/

/-- The steps with their results, and the requests before and after. -/
inductive Ran (m : Setting) : List Json → List Dict → List Request → List Request → Prop
  | done {q} : Ran m [] [] q q
  | step {step result steps results q q' q''} (hle : q <+: q')
      (hexecute : getItem step "action" = .ok (.str "execute_policy") → succeeded result = true → Executed m q q')
      (hrest : Ran m steps results q' q'') : Ran m (step :: steps) (result :: results) q q''

/-- The loop over the steps. -/
theorem triple_runSteps : ∀ (steps : List Json) (results : Results) (base : List Request),
    Triple (fun st => Sound m base st ∧ st.requests = base) (runSteps m steps results)
      (fun results' st => Sound m base st ∧ ∃ done, Ran m steps done base st.requests ∧
        results' = { results with steps := results.steps ++ done, passed := results.passed && done.all succeeded })
      (fun _ => Sound m base)
  | [], results, base => .pure (fun st h => ⟨h.1, [], h.2 ▸ .done, by simp⟩)
  | step :: steps, results, base => by
    refine .bind (triple_executeStep step base) (fun result => .bind (triple_raised (fun _ _ h => h.1) _) (fun _ => ?_))
    intro st ⟨hst, hexecute⟩
    have h := triple_runSteps steps { results with
      steps := results.steps ++ [result], passed := results.passed && succeeded result } st.requests st ⟨hst.restart, rfl⟩
    revert h
    cases runSteps m steps { results with
      steps := results.steps ++ [result], passed := results.passed && succeeded result } st with
    | mk r st' =>
      cases r with
      | error e => exact hst.trans
      | ok results' =>
        rintro ⟨hst', done, hran, rfl⟩
        exact ⟨hst.trans hst', result :: done, .step hst.extends_ hexecute hran, by simp [Bool.and_assoc]⟩

/-- The assertions can only repeat the verdict on the steps. -/
theorem triple_checkAssertions {P : Runner → Prop} : ∀ (assertions : List Json) (results : Results),
    results.passed = results.steps.all succeeded →
    Triple P (checkAssertions assertions results)
      (fun results' st => P st ∧ results'.steps = results.steps ∧ results'.passed = results.steps.all succeeded)
      (fun _ => P)
  | [], results, hpassed => .pure (fun st h => ⟨h, rfl, hpassed⟩)
  | assertion :: assertions, results, hpassed => by
    refine .bind (triple_raised (fun _ _ h => h) _) (fun type => ?_)
    split
    · refine triple_checkAssertions assertions _ ?_
      show (results.passed && results.steps.all succeeded) = results.steps.all succeeded
      rw [hpassed, Bool.and_self]
    · exact triple_checkAssertions assertions _ hpassed

/-- `scenario.get("steps", [])`, as a list. -/
def stepsOf (scenario : Json) : Except PyExc (List Json) := getOr scenario "steps" (.arr []) >>= iterate

/-- **One scenario**: the verdict is that of its steps. -/
theorem triple_run (scenario : Json) (base : List Request) :
    Triple (fun st => Sound m base st ∧ st.requests = base) (run m scenario)
      (fun results st => Sound m base st ∧ ∃ steps, stepsOf scenario = .ok steps ∧
        Ran m steps results.steps base st.requests ∧ results.passed = results.steps.all succeeded)
      (fun _ => Sound m base) := by
  have hread : ∀ {α : Type} (r : Except PyExc α), Triple (fun st => Sound m base st ∧ st.requests = base) (raised r)
      (fun _ st => Sound m base st ∧ st.requests = base) (fun _ => Sound m base) :=
    fun r => triple_raised (fun _ _ h => h.1) r
  refine .bind (hread _) (fun name => .bind (hread _) (fun _ => .bind (hread _) (fun setup => .bind (hread _) (fun _ =>
    .bind (triple_read (fun _ h => h.1)) (fun document => .bind (triple_read (fun _ h => h.1.1)) (fun steps => ?_))))))
  refine .bind (Q := fun results st => Sound m base st ∧ stepsOf scenario = .ok steps ∧
    Ran m steps results.steps base st.requests ∧ results.passed = results.steps.all succeeded) ?_ (fun results => ?_)
  · intro st ⟨⟨hst, hdocument⟩, hsteps⟩
    have hstepsOf : stepsOf scenario = .ok steps := by
      rw [stepsOf, hdocument]
      exact hsteps
    refine (triple_runSteps steps ⟨name, [], true, []⟩ base).mono (fun st' (h : st' = st) => h ▸ hst) ?_
      (fun _ _ h => h) st rfl
    · rintro _ st' ⟨hst', done, hran, rfl⟩
      exact ⟨hst', hstepsOf, hran, rfl⟩
  · intro st hst
    refine Triple.bind (P := (· = st)) (triple_raised (E := fun _ => Sound m base) ?_ _) (fun document =>
      .bind (triple_raised ?_ _) (fun assertions => ?_)) st rfl
    · rintro _ _ rfl
      exact hst.1
    · rintro _ _ rfl
      exact hst.1
    · refine (triple_checkAssertions assertions results hst.2.2.2).mono (fun _ h => h) ?_ ?_
      · rintro results' _ ⟨rfl, hresults', hpassed⟩
        exact ⟨hst.1, steps, hst.2.1, hresults' ▸ hst.2.2.1, hpassed.trans (by rw [hresults'])⟩
      · rintro _ _ rfl
        exact hst.1

theorem sound_run (scenario : Json) {st : Runner} (h : Sound m base st) : Sound m base (run m scenario st).2 := by
  have hrun := (triple_run scenario st.requests).mono
    (fun st' (h : Sound m st.requests st' ∧ st'.requests = st.requests) => h) (fun _ _ h => h.1) (fun _ _ h => h)
  exact h.trans (hrun.leaves ⟨h.restart, rfl⟩)

theorem sound_runAll (scenarios : List Json) : ∀ {st : Runner}, Sound m base st → Sound m base (runAll m scenarios st) := by
  induction scenarios with
  | nil => exact fun h => h
  | cons scenario scenarios ih => exact fun h => ih (sound_run scenario h)

end

/-- **Policies are grounded** in every sequence of scenarios, whatever the platform answers and whatever the scenarios
ask for: each is made of the profile made last, and executed, by its id, on the group made last. -/
theorem runAll_grounded (m : Setting) (scenarios : List Json) :
    Each (Grounded m) (runAll m scenarios .initial).requests :=
  (sound_runAll scenarios (sound_initial m)).grounded

/-- **A verdict is about what was done**: one result for each step; the scenario passes exactly when all succeed, and
each `execute_policy` that succeeds made one request, for the last policy and the last group, answered with 200. -/
theorem run_passed (m : Setting) (prior : List Json) (scenario : Json) (results : Results) (st : Runner)
    (h : run m scenario (runAll m prior .initial) = (.ok results, st)) :
    ∃ steps, stepsOf scenario = .ok steps ∧
      Ran m steps results.steps (runAll m prior .initial).requests st.requests ∧
      results.passed = results.steps.all succeeded := by
  have hrun := triple_run scenario _ _ ⟨(sound_runAll prior (sound_initial m)).restart, rfl⟩
  rw [h] at hrun
  exact hrun.2

/-- A platform of one agent, whose answers say what was made. -/
def oneAgent : Setting where
  ahenkCount := 1
  env := fun _ => none
  repr := fun _ => ""
  ints := asciiIntText
  divide := fun _ _ => .nan
  atLeast := fun _ _ => .ok false
  percent := fun _ => ""
  server := fun _ r =>
    match r with
    | .healthCheck => .ok (.bool true)
    | .createComputerGroup groupName _ ou => .ok (.obj [("distinguishedName", .str s!"cn={groupName}"), ("ou", ou)])
    | .createScriptProfile label .. => .ok (.obj [("id", .int 3), ("label", .str label)])
    | .createPolicy label .. => .ok (.obj [("id", .int 5), ("label", .str label)])
    | .executePolicy .. => .ok (.int 200)
    | _ => .error "HTTPError"
  tree := fun _ => .ok [⟨[("type", .str "AHENK"), ("uid", .str "ahenk-001")], none, none⟩]

def step (name : String) (params : Dict) : Json :=
  .obj [("name", .str name), ("action", .str name), ("params", .obj params)]

def policyRoundtrip : Json :=
  .obj [("name", .str "policy_roundtrip"),
    ("steps", .arr [step "check_api_health" [], step "create_computer_group" [("group_name", .str "v1-script-group")],
      step "create_script_profile" [("label", .str "v1-script-profile")],
      step "create_policy" [("label", .str "v1-script-policy")], step "execute_policy" []]),
    ("assertions", .arr [.obj [("type", .str "all_steps_passed")]])]

theorem policyRoundtrip_passed : ∃ results st steps,
    run oneAgent policyRoundtrip (runAll oneAgent [policyRoundtrip] .initial) = (.ok results, st) ∧
    stepsOf policyRoundtrip = .ok steps ∧
    Ran oneAgent steps results.steps (runAll oneAgent [policyRoundtrip] .initial).requests st.requests ∧
    results.passed = true ∧ results.passed = results.steps.all succeeded := by
  have h : ∃ results st, run oneAgent policyRoundtrip (runAll oneAgent [policyRoundtrip] .initial) = (.ok results, st) ∧
      results.passed = true := ⟨_, _, rfl, rfl⟩
  obtain ⟨results, st, hrun, hpassed⟩ := h
  obtain ⟨steps, hsteps, hran, hverdict⟩ := run_passed oneAgent [policyRoundtrip] policyRoundtrip results st hrun
  exact ⟨results, st, steps, hrun, hsteps, hran, hpassed, hverdict⟩

end Lider.LegacyScenarios
