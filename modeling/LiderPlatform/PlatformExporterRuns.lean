import LiderPlatform.PlatformExporter
/-!
# PlatformExporterRuns — what the metrics say when the platform is up (`services/platform-exporter/exporter.py`)

A probe that succeeds has found a number in its reply (`Finds`), and leaves it in its gauges until its next run.  So a
round after which the exporter is healthy is one whose six replies were all good, and every gauge then comes from it,
until the next round begins.  A round may also fail unseen: two exceptions are raised by probes that record a success
(`Masked`).
-/
namespace Lider.PlatformExporter

open Py Py.Block

/-! ## Replies -/

section
variable (m : Setting) (r : Round)

/-- The reply of a probe is good, with the number that the probe finds in it. -/
inductive Finds : Probe → Int → Prop
  | login {response} {d : Dict} (hreply : r.login = .ok response) (hstatus : response.status = 200)
      (hpayload : response.payload (.obj []) = .obj d) (htoken : (d.get "token").truthy = true) : Finds .jwtLogin 0
  | dashboard {response} {d : Dict} (hreply : r.dashboard = .ok response) (hstatus : response.status = 200)
      (hpayload : response.payload (.obj []) = .obj d) (htotal : m.float (totalOf d) ≠ .error .overflowError) :
      Finds .dashboardInfo 0
  | agents {response n} (hreply : r.agents = .ok response) (hstatus : response.status = 200)
      (hn : agentsOf (response.payload (.obj [])) = .ok (some n)) : Finds .agentList n
  | tree {response nodes} (hreply : r.tree = .ok response) (hstatus : response.status = 200)
      (hnodes : nodesOf (response.json.getD .null) = .ok (.arr nodes)) : Finds .computerTree (countTreeNodes (.arr nodes))
  | users {response users} (hreply : r.users = .ok response) (hstatus : response.status = 200)
      (hpayload : response.payload (.arr []) = .arr users) : Finds .xmppRegisteredUsers (countUsers (.arr users))
  | ldap {search n} (hreply : r.ldap = .ok search) (hsuccess : search.success = true) (hentries : search.entries = .ok n)
      (hleaving : search.leaving = none) : Finds .ldapAgentCount n

/-- The reply makes its probe fail, but the probe records a success. -/
inductive Masked : Probe → Prop
  | overflow {response} {d : Dict} (hreply : r.dashboard = .ok response) (hstatus : response.status = 200)
      (hpayload : response.payload (.obj []) = .obj d) (htotal : m.float (totalOf d) = .error .overflowError) :
      Masked .dashboardInfo
  | late {search} (hreply : r.ldap = .ok search) (hsuccess : search.success = true)
      (hlate : (∃ e, search.entries = .error e) ∨ search.leaving ≠ none) : Masked .ldapAgentCount

/-- The dashboard's total as it is shown: what is no number counts as zero. -/
def DashboardTotal (total : PyFloat) : Prop :=
  ∃ response d, r.dashboard = .ok response ∧ response.payload (.obj []) = .obj d ∧
    total = match m.float (totalOf d) with
      | .ok total => total
      | .error _ => zero

/-- All six replies are good. -/
def Good : Prop := ∀ p, ∃ n, Finds m r p n

end

/-- The source whose agents a probe counts. -/
def Probe.source : Probe → Option Source
  | .agentList => some .liderapi
  | .xmppRegisteredUsers => some .xmpp
  | .ldapAgentCount => some .ldap
  | _ => none

/-- The gauge of a probe that counts shows the number. -/
def Shown (x : Metrics) (p : Probe) (n : Int) : Prop :=
  (∀ source, p.source = some source → x.agentCount source = some n) ∧ (p = .computerTree → x.treeNodes = some n)

/-- The gauge of the dashboard shows its total. -/
def TotalShown (m : Setting) (r : Round) (x : Metrics) : Prop :=
  ∃ total, DashboardTotal m r total ∧ x.totalComputers = some total

/-- The gauges of a probe's duration and of its last success were set at readings of the clock from `first` to `last`. -/
structure Timed (m : Setting) (first last : Nat) (p : Probe) (x : Metrics) : Prop where
  lastDuration : ∃ started finished, first ≤ started ∧ started < finished ∧ finished < last ∧
    x.lastDuration p = some (m.now finished - m.now started)
  lastSuccess : ∃ recorded, first ≤ recorded ∧ recorded < last ∧ x.lastSuccess p = some (m.now recorded)

/-! ## One probe -/

/-- The body of a probe records nothing, and changes no gauge of another probe. -/
structure BodyKeeps (q : Probe) (x x' : Metrics) : Prop where
  success : x'.success = x.success
  httpStatus : x'.httpStatus = x.httpStatus
  lastDuration : x'.lastDuration = x.lastDuration
  lastSuccess : x'.lastSuccess = x.lastSuccess
  total : q ≠ .dashboardInfo → x'.totalComputers = x.totalComputers
  shown : ∀ p, p ≠ q → ∀ n, Shown x p n → Shown x' p n

/-- A probe changes no metric of another. -/
structure Keeps (q : Probe) (x x' : Metrics) : Prop where
  success : ∀ p, p ≠ q → x'.success p = x.success p
  httpStatus : ∀ p, p ≠ q → x'.httpStatus p = x.httpStatus p
  lastDuration : ∀ p, p ≠ q → x'.lastDuration p = x.lastDuration p
  lastSuccess : ∀ p, p ≠ q → x'.lastSuccess p = x.lastSuccess p
  total : q ≠ .dashboardInfo → x'.totalComputers = x.totalComputers
  shown : ∀ p, p ≠ q → ∀ n, Shown x p n → Shown x' p n

/-- A probe has succeeded, at readings of the clock from `first` to `last`. -/
structure Succeeds (m : Setting) (r : Round) (q : Probe) (n : Int) (first last : Nat) (x : Metrics) : Prop where
  finds : Finds m r q n
  success : x.success q = some true
  httpStatus : x.httpStatus q = some 200
  shown : Shown x q n
  total : q = .dashboardInfo → TotalShown m r x
  timed : Timed m first last q x

structure Fails (m : Setting) (r : Round) (q : Probe) (x : Metrics) : Prop where
  nothing : ∀ n, ¬ Finds m r q n
  seen : x.success q = some false ∨ Masked m r q

/-- What a probe leaves, from the frame `fr`. -/
def ProbeLaw (m : Setting) (r : Round) (q : Probe) (fr : Frame) : Except ProbeError (Bool × Int) × Frame → Prop
  | (.ok (ok, n), fr') => Keeps q fr.metrics fr'.metrics ∧
      if ok then Succeeds m r q n fr.readings fr'.readings fr'.metrics else Fails m r q fr'.metrics
  | (.error _, fr') => Keeps q fr.metrics fr'.metrics ∧ Fails m r q fr'.metrics

/-- What the body of a probe finds and shows when it succeeds. -/
structure BodySucceeds (m : Setting) (r : Round) (q : Probe) (n : Int) (ending : Ending) (readings : Nat) (fr : Frame) :
    Prop where
  finds : Finds m r q n
  success : ending.success fr = true
  httpStatus : ending.httpStatus fr = some 200
  shown : Shown fr.metrics q n
  total : q = .dashboardInfo → TotalShown m r fr.metrics
  readings : fr.readings = readings

/-- What the body of a probe leaves, before it is recorded; it does not look at the clock. -/
def BodyLaw (m : Setting) (r : Round) (q : Probe) (ending : Ending) (x : Metrics) (readings : Nat) :
    Except ProbeError (Bool × Int) × Frame → Prop
  | (.ok (true, n), fr) => BodyKeeps q x fr.metrics ∧ BodySucceeds m r q n ending readings fr
  | (.ok (false, _), fr) | (.error _, fr) => BodyKeeps q x fr.metrics ∧ (∀ n, ¬ Finds m r q n) ∧
      (ending.success fr = false ∨ Masked m r q)

/-- What the record of a probe leaves. -/
structure Recorded (m : Setting) (q : Probe) (ok : Bool) (duration : ℚ) (status : Option Int) (fr fr' : Frame) :
    Prop where
  success : fr'.metrics.success = Function.update fr.metrics.success q (some ok)
  httpStatus : ∀ p, p ≠ q → fr'.metrics.httpStatus p = fr.metrics.httpStatus p
  status : ∀ s, status = some s → fr'.metrics.httpStatus q = some s
  lastDuration : fr'.metrics.lastDuration = Function.update fr.metrics.lastDuration q (some duration)
  lastSuccess : ∀ p, p ≠ q → fr'.metrics.lastSuccess p = fr.metrics.lastSuccess p
  stamped : ok = true → fr'.metrics.lastSuccess q = some (m.now fr.readings) ∧ fr.readings < fr'.readings
  agentCount : fr'.metrics.agentCount = fr.metrics.agentCount
  treeNodes : fr'.metrics.treeNodes = fr.metrics.treeNodes
  totalComputers : fr'.metrics.totalComputers = fr.metrics.totalComputers

section
variable {m : Setting} {r : Round}

theorem recordProbe_spec (q : Probe) (success : Bool) (duration : ℚ) (status : Option Int) (fr : Frame) :
    ∃ fr', recordProbe m q success duration status fr = (.ok (), fr') ∧ Recorded m q success duration status fr fr' := by
  cases status <;> cases success <;>
    exact ⟨_, rfl, rfl, fun p hp => by simp [Function.update_of_ne hp], by simp, rfl,
      fun p hp => by simp [Function.update_of_ne hp], by simp, rfl, rfl, rfl⟩

theorem shown_congr {x x' : Metrics} (hcount : x'.agentCount = x.agentCount) (htree : x'.treeNodes = x.treeNodes)
    {p : Probe} {n : Int} (h : Shown x p n) : Shown x' p n :=
  ⟨fun source hp => (congrFun hcount source).trans (h.1 source hp), fun hp => htree.trans (h.2 hp)⟩

theorem shown_login (x : Metrics) (n : Int) : Shown x .jwtLogin n := ⟨fun _ hp => (nomatch hp), fun hp => (nomatch hp)⟩

theorem shown_dashboard (x : Metrics) (n : Int) : Shown x .dashboardInfo n := ⟨fun _ hp => (nomatch hp), fun hp => (nomatch hp)⟩

/-- The record of a probe after its body. -/
theorem Recorded.keeps {q : Probe} {x : Metrics} {fr fr' : Frame} {success : Bool} {duration : ℚ} {status : Option Int}
    (hrecorded : Recorded m q success duration status fr fr') (h : BodyKeeps q x fr.metrics) : Keeps q x fr'.metrics where
  success p hp := by rw [hrecorded.success, Function.update_of_ne hp, h.success]
  httpStatus p hp := by rw [hrecorded.httpStatus p hp, h.httpStatus]
  lastDuration p hp := by rw [hrecorded.lastDuration, Function.update_of_ne hp, h.lastDuration]
  lastSuccess p hp := by rw [hrecorded.lastSuccess p hp, h.lastSuccess]
  total hq := hrecorded.totalComputers.trans (h.total hq)
  shown p hp n hn := shown_congr hrecorded.agentCount hrecorded.treeNodes (h.shown p hp n hn)

/-- The record of a probe whose body has succeeded: it reads the clock at its begin, at its end and once more. -/
theorem BodySucceeds.recorded {q : Probe} {n : Int} {ending : Ending} {first : Nat} {fr fr' : Frame}
    (h : BodySucceeds m r q n ending (first + 1) fr)
    (hrecorded : Recorded m q (ending.success fr) (m.now fr.readings - m.now first) (ending.httpStatus fr)
      { fr with readings := fr.readings + 1 } fr') : Succeeds m r q n first fr'.readings fr'.metrics where
  finds := h.finds
  success := by rw [hrecorded.success, Function.update_self, h.success]
  httpStatus := hrecorded.status _ h.httpStatus
  shown := shown_congr hrecorded.agentCount hrecorded.treeNodes h.shown
  total hq := by
    obtain ⟨total, htotal, hshown⟩ := h.total hq
    exact ⟨total, htotal, hrecorded.totalComputers.trans hshown⟩
  timed := by
    obtain ⟨hstamp, hlast⟩ := hrecorded.stamped h.success
    have hreadings := h.readings
    simp only at hlast
    refine ⟨⟨first, fr.readings, le_rfl, by omega, by omega, ?_⟩, fr.readings + 1, by omega, hlast, hstamp⟩
    rw [hrecorded.lastDuration, Function.update_self]

/-- **A probe obeys its law if its body does.** -/
theorem probing_law {q : Probe} {handles : ProbeError → Bool} {ending : Ending} {body : ProbeBlock (Bool × Int)} {fr : Frame}
    (hbody : ∀ readings, BodyLaw m r q ending fr.metrics readings
      (body ⟨fr.metrics, readings, fr.authorized, none, false, 0⟩)) :
    ProbeLaw m r q fr (probing m q handles ending body fr) := by
  let handler : ProbeError → ProbeBlock (Bool × Int) := fun e => do
    if handles e then return (false, (← frame).count) else Block.raise e
  let record : ProbeBlock Unit := fun fr₂ => recordProbe m q (ending.success fr₂)
    (m.now fr₂.readings - m.now fr.readings) (ending.httpStatus fr₂) { fr₂ with readings := fr₂.readings + 1 }
  have heq : probing m q handles ending body fr = Block.tryFinally (Block.tryExcept body handler) record
    ⟨fr.metrics, fr.readings + 1, fr.authorized, none, false, 0⟩ := rfl
  have h := hbody (fr.readings + 1)
  rw [heq, Block.tryFinally, Block.tryExcept]
  revert h
  cases body ⟨fr.metrics, fr.readings + 1, fr.authorized, none, false, 0⟩ with
  | mk result fr₂ =>
    intro h
    obtain ⟨fr', hrecord, hrecorded⟩ := recordProbe_spec (m := m) q (ending.success fr₂)
      (m.now fr₂.readings - m.now fr.readings) (ending.httpStatus fr₂) { fr₂ with readings := fr₂.readings + 1 }
    have hkeeps : BodyKeeps q fr.metrics fr₂.metrics → Keeps q fr.metrics fr'.metrics := hrecorded.keeps
    have hfails : (∀ n, ¬ Finds m r q n) → (ending.success fr₂ = false ∨ Masked m r q) → Fails m r q fr'.metrics :=
      fun hnone hseen => ⟨hnone, hseen.imp_left (fun hfalse => by rw [hrecorded.success, Function.update_self, hfalse])⟩
    cases result with
    | ok a =>
      obtain ⟨ok, n⟩ := a
      simp only [show record fr₂ = (.ok (), fr') from hrecord]
      cases ok with
      | true => exact ⟨hkeeps h.1, h.2.recorded hrecorded⟩
      | false => exact ⟨hkeeps h.1, hfails h.2.1 h.2.2⟩
    | error e =>
      have hleft : (handler e fr₂).2 = fr₂ := by
        simp only [handler]
        split <;> rfl
      simp only [hleft, show record fr₂ = (.ok (), fr') from hrecord]
      simp only [handler]
      split
      · exact ⟨hkeeps h.1, hfails h.2.1 h.2.2⟩
      · exact ⟨hkeeps h.1, hfails h.2.1 h.2.2⟩

/-! ## The six probes -/

theorem BodyKeeps.refl {q : Probe} (x : Metrics) : BodyKeeps q x x := ⟨rfl, rfl, rfl, rfl, fun _ => rfl, fun _ _ _ h => h⟩

/-- A body that raises before anything succeeds. -/
theorem bodyLaw_error {q : Probe} {ending : Ending} {x : Metrics} {readings : Nat} {e : ProbeError} {fr : Frame}
    (hx : fr.metrics = x) (hnone : ∀ n, ¬ Finds m r q n) (hsuccess : ending.success fr = false) :
    BodyLaw m r q ending x readings (.error e, fr) :=
  ⟨hx ▸ .refl _, hnone, .inl hsuccess⟩

theorem bind_apply {α β : Type} (b : ProbeBlock α) (next : α → ProbeBlock β) (fr : Frame) :
    (b >>= next) fr = Block.bind b next fr := rfl

theorem pure_apply {α : Type} (a : α) (fr : Frame) : (Pure.pure a : ProbeBlock α) fr = (.ok a, fr) := rfl

theorem post_apply (response : Response) (fr : Frame) :
    post (.ok response) fr = (.ok response, { fr with response := some response }) := rfl

theorem raised_apply {α : Type} (result : Except PyExc α) (fr : Frame) :
    raised result fr = (result.mapError (fun e => .other e.text), fr) := rfl

theorem ofExcept_apply {α : Type} (result : Except ProbeError α) (fr : Frame) :
    (Block.ofExcept result : ProbeBlock α) fr = (result, fr) := rfl

theorem dict_or (v : Json) : (∃ d : Dict, v = .obj d) ∨ isDict v = false := by
  cases v with
  | obj d => exact .inl ⟨d, rfl⟩
  | _ => exact .inr rfl

theorem list_or (v : Json) : (∃ xs, v = .arr xs) ∨ isList v = false := by
  cases v with
  | arr xs => exact .inl ⟨xs, rfl⟩
  | _ => exact .inr rfl

theorem getOr_null (d : Dict) (key : String) : getOr (.obj d) key .null = .ok (d.get key) := rfl

theorem getOr_other {v : Json} (h : isDict v = false) (key : String) (default : Json) :
    getOr v key default = .error .attributeError := by
  cases v with
  | obj d => exact nomatch h
  | _ => rfl

theorem probeLogin_law (fr : Frame) (hfresh : fr.authorized = false) :
    ProbeLaw m r .jwtLogin fr (probeLogin m r.login fr) := by
  refine probing_law (fun readings => ?_)
  rw [hfresh]
  cases hreply : r.login with
  | error e =>
    refine bodyLaw_error rfl (fun n h => ?_) rfl
    cases h
    simp_all
  | ok response =>
    simp only [bind_apply, Block.bind, post_apply, raised_apply]
    rcases dict_or (response.payload (.obj [])) with ⟨d, hpayload⟩ | hpayload
    · simp only [hpayload, getOr_null, Except.mapError]
      by_cases hgood : response.status = 200 ∧ (d.get "token").truthy = true
      · have hcond : (decide (response.status = 200) && (d.get "token").truthy) = true := by simpa using hgood
        rw [hcond, if_pos rfl]
        exact ⟨.refl _, .login hreply hgood.1 hpayload hgood.2, by simp [sawResponse, hgood.1],
          by simp [sawResponse, hgood.1], shown_login _ _, by simp, rfl⟩
      · have hcond : (decide (response.status = 200) && (d.get "token").truthy) = false := by simpa using hgood
        rw [hcond, if_neg Bool.false_ne_true]
        refine ⟨.refl _, fun n h => ?_, .inl (by simp [sawResponse])⟩
        cases h
        simp_all
    · rw [getOr_other hpayload]
      refine bodyLaw_error rfl (fun n h => ?_) (by simp [sawResponse])
      cases h
      simp_all [isDict]

theorem probeDashboardInfo_law (fr : Frame) : ProbeLaw m r .dashboardInfo fr (probeDashboardInfo m r.dashboard fr) := by
  refine probing_law (fun readings => ?_)
  cases hreply : r.dashboard with
  | error e =>
    refine bodyLaw_error rfl (fun n h => ?_) rfl
    cases h
    simp_all
  | ok response =>
    simp only [bind_apply, Block.bind, post_apply, setSuccess, Block.assign]
    rcases dict_or (response.payload (.obj [])) with ⟨d, hpayload⟩ | hpayload
    · by_cases hstatus : response.status = 200
      · simp only [hpayload, hstatus, isDict, decide_true, Bool.and_self]
        have hkeeps : ∀ total, BodyKeeps .dashboardInfo fr.metrics { fr.metrics with totalComputers := total } :=
          fun _ => ⟨rfl, rfl, rfl, rfl, fun hq => absurd rfl hq, fun _ _ _ h => shown_congr rfl rfl h⟩
        have hfinds : m.float (totalOf d) ≠ .error .overflowError → Finds m r .dashboardInfo 0 :=
          .dashboard hreply hstatus hpayload
        cases htotal : m.float (totalOf d) with
        | ok total => exact ⟨hkeeps _, hfinds (by simp [htotal]), rfl, by simp [sawResponse, hstatus], shown_dashboard _ _,
            fun _ => ⟨total, ⟨response, d, hreply, hpayload, by rw [htotal]⟩, rfl⟩, rfl⟩
        | error e =>
          cases e with
          | overflowError =>
            refine ⟨.refl _, fun n h => ?_, .inr (.overflow hreply hstatus hpayload htotal)⟩
            cases h
            simp_all
          | _ => exact ⟨hkeeps _, hfinds (by simp [htotal]), rfl, by simp [sawResponse, hstatus], shown_dashboard _ _,
              fun _ => ⟨zero, ⟨response, d, hreply, hpayload, by rw [htotal]⟩, rfl⟩, rfl⟩
      · simp only [hpayload, hstatus, decide_false, Bool.false_and]
        refine ⟨.refl _, fun n h => ?_, .inl rfl⟩
        cases h
        simp_all
    · simp only [hpayload, Bool.and_false]
      refine ⟨.refl _, fun n h => ?_, .inl rfl⟩
      cases h
      simp_all [isDict]

def Metrics.setAgentCount (x : Metrics) (source : Source) (n : Int) : Metrics :=
  { x with agentCount := Function.update x.agentCount source (some n) }

theorem source_inj {p q : Probe} {source : Source} (hp : p.source = some source) (hq : q.source = some source) : p = q := by
  cases p <;> cases q <;> cases hp <;> first | rfl | cases hq

/-- No other probe counts the agents of a source. -/
theorem bodyKeeps_agentCount {q : Probe} {source : Source} (hq : q.source = some source) (x : Metrics) (n : Int) :
    BodyKeeps q x (x.setAgentCount source n) := by
  refine ⟨rfl, rfl, rfl, rfl, fun _ => rfl, fun p hp k hk => ⟨fun source' hsource => ?_, hk.2⟩⟩
  have hne : source' ≠ source := fun heq => hp (source_inj hsource (heq ▸ hq))
  exact (Function.update_of_ne hne _ _).trans (hk.1 source' hsource)

theorem shown_setAgentCount {q : Probe} {source : Source} (hq : q.source = some source) (x : Metrics) (n : Int) :
    Shown (x.setAgentCount source n) q n := by
  refine ⟨fun source' hsource => ?_, fun htree => ?_⟩
  · obtain rfl := Option.some.inj (hq.symm.trans hsource)
    exact Function.update_self ..
  · subst htree
    exact nomatch hq

theorem publish_apply (source : Source) (fr : Frame) : publish source fr = (.ok (fr.success, fr.count),
    { fr with metrics := fr.metrics.setAgentCount source fr.count }) := rfl

theorem probeAgentList_law (fr : Frame) : ProbeLaw m r .agentList fr (probeAgentList m r.agents fr) := by
  refine probing_law (fun readings => ?_)
  have hkeeps : ∀ n, BodyKeeps .agentList fr.metrics (fr.metrics.setAgentCount .liderapi n) := bodyKeeps_agentCount rfl _
  cases hreply : r.agents with
  | error e =>
    refine bodyLaw_error rfl (fun n h => ?_) rfl
    cases h
    simp_all
  | ok response =>
    simp only [bind_apply, Block.bind, post_apply, raised_apply]
    cases hn : agentsOf (response.payload (.obj [])) with
    | error e =>
      refine bodyLaw_error rfl (fun n h => ?_) rfl
      cases h
      simp_all
    | ok found =>
      cases found with
      | none =>
        refine ⟨hkeeps _, fun n h => ?_, .inl rfl⟩
        cases h
        simp_all
      | some count =>
        by_cases hstatus : response.status = 200
        · simp only [Except.mapError, bind_apply, Block.bind, setCount, setSuccess, Block.assign, hstatus, decide_true,
            publish_apply]
          exact ⟨hkeeps _, .agents hreply hstatus hn, rfl, by simp [sawResponse, hstatus], shown_setAgentCount rfl _ _,
            by simp, rfl⟩
        · simp only [Except.mapError, bind_apply, Block.bind, setCount, setSuccess, Block.assign, hstatus, decide_false,
            publish_apply]
          refine ⟨hkeeps _, fun n h => ?_, .inl rfl⟩
          cases h
          simp_all

theorem probeComputerTree_law (fr : Frame) : ProbeLaw m r .computerTree fr (probeComputerTree m r.tree fr) := by
  refine probing_law (fun readings => ?_)
  have hkeeps : ∀ n, BodyKeeps .computerTree fr.metrics { fr.metrics with treeNodes := n } := fun n =>
    ⟨rfl, rfl, rfl, rfl, fun _ => rfl, fun p hp k hk => ⟨hk.1, fun htree => absurd htree hp⟩⟩
  cases hreply : r.tree with
  | error e =>
    refine bodyLaw_error rfl (fun n h => ?_) rfl
    cases h
    simp_all
  | ok response =>
    simp only [bind_apply, Block.bind, post_apply, raised_apply]
    cases hnodes : nodesOf (response.json.getD .null) with
    | error e =>
      refine bodyLaw_error rfl (fun n h => ?_) rfl
      cases h
      simp_all
    | ok nodes =>
      simp only [Except.mapError, setCount, setSuccess, setMetrics, Block.assign, pure_apply]
      rcases list_or nodes with ⟨xs, rfl⟩ | hlist
      · by_cases hstatus : response.status = 200
        · simp only [hstatus, decide_true, isList, Bool.and_self]
          exact ⟨hkeeps _, .tree hreply hstatus hnodes, rfl, by simp [sawResponse, hstatus],
            ⟨fun _ hsource => (by cases hsource), fun _ => rfl⟩, by simp, rfl⟩
        · simp only [hstatus, decide_false, Bool.false_and]
          refine ⟨hkeeps _, fun n h => ?_, .inl rfl⟩
          cases h
          simp_all
      · simp only [hlist, Bool.and_false]
        refine ⟨hkeeps _, fun n h => ?_, .inl rfl⟩
        cases h
        simp_all [isList]

theorem probeEjabberdRegisteredUsers_law (fr : Frame) :
    ProbeLaw m r .xmppRegisteredUsers fr (probeEjabberdRegisteredUsers m r.users fr) := by
  refine probing_law (fun readings => ?_)
  have hkeeps : ∀ n, BodyKeeps .xmppRegisteredUsers fr.metrics (fr.metrics.setAgentCount .xmpp n) := bodyKeeps_agentCount rfl _
  cases hreply : r.users with
  | error e =>
    refine bodyLaw_error rfl (fun n h => ?_) rfl
    cases h
    simp_all
  | ok response =>
    simp only [bind_apply, Block.bind, post_apply, setCount, setSuccess, Block.assign, publish_apply]
    rcases list_or (response.payload (.arr [])) with ⟨users, hpayload⟩ | hlist
    · by_cases hstatus : response.status = 200
      · simp only [hpayload, hstatus, decide_true, isList, Bool.and_self]
        exact ⟨hkeeps _, .users hreply hstatus hpayload, rfl, by simp [sawResponse, hstatus], shown_setAgentCount rfl _ _,
          by simp, rfl⟩
      · simp only [hstatus, decide_false, Bool.false_and]
        refine ⟨hkeeps _, fun n h => ?_, .inl rfl⟩
        cases h
        simp_all
    · simp only [hlist, Bool.and_false]
      refine ⟨hkeeps _, fun n h => ?_, .inl rfl⟩
      cases h
      simp_all [isList]

theorem probeLdapAgentCount_law (fr : Frame) : ProbeLaw m r .ldapAgentCount fr (probeLdapAgentCount m r.ldap fr) := by
  refine probing_law (fun readings => ?_)
  have hkeeps : ∀ n, BodyKeeps .ldapAgentCount fr.metrics (fr.metrics.setAgentCount .ldap n) := bodyKeeps_agentCount rfl _
  cases hreply : r.ldap with
  | error e =>
    refine bodyLaw_error rfl (fun n h => ?_) rfl
    cases h
    simp_all
  | ok search =>
    have hlate : (∃ e, search.entries = .error e) ∨ search.leaving ≠ none →
        search.success = false ∨ Masked m r .ldapAgentCount :=
      fun hlate => by
        cases hsuccess : search.success with
        | false => exact .inl rfl
        | true => exact .inr (.late hreply hsuccess hlate)
    simp only [bind_apply, Block.bind, ofExcept_apply, Except.mapError, setCount, setSuccess, Block.assign]
    cases hentries : search.entries with
    | error e =>
      refine ⟨.refl _, fun n h => ?_, hlate (.inl ⟨e, hentries⟩)⟩
      cases h
      simp_all
    | ok n =>
      simp only
      cases hleaving : search.leaving with
      | some e =>
        refine ⟨.refl _, fun n h => ?_, hlate (.inr (by simp [hleaving]))⟩
        cases h
        simp_all
      | none =>
        simp only [publish_apply]
        cases hsuccess : search.success with
        | true => exact ⟨hkeeps _, .ldap hreply hsuccess hentries hleaving, rfl, rfl, shown_setAgentCount rfl _ _, by simp, rfl⟩
        | false =>
          refine ⟨hkeeps _, fun n h => ?_, .inl rfl⟩
          cases h
          simp_all

/-! ## A round -/

theorem Timed.keeps {p q : Probe} {first last : Nat} {x x' : Metrics} (h : Timed m first last p x) (hkeeps : Keeps q x x')
    (hp : p ≠ q) : Timed m first last p x' := by
  obtain ⟨⟨started, finished, hfirst, hlt, hfinished, hduration⟩, recorded, hrecorded, hstamped, hsuccess⟩ := h
  exact ⟨⟨started, finished, hfirst, hlt, hfinished, (hkeeps.lastDuration p hp).trans hduration⟩,
    recorded, hrecorded, hstamped, (hkeeps.lastSuccess p hp).trans hsuccess⟩

/-- The clock may be read before and after. -/
theorem Timed.widen {p : Probe} {first first' last last' : Nat} {x : Metrics} (h : Timed m first last p x)
    (hfirst : first' ≤ first) (hlast : last ≤ last') : Timed m first' last' p x := by
  obtain ⟨⟨started, finished, hstarted, hlt, hfinished, hduration⟩, recorded, hrecorded, hstamped, hsuccess⟩ := h
  exact ⟨⟨started, finished, hfirst.trans hstarted, hlt, hfinished.trans_le hlast, hduration⟩,
    recorded, hfirst.trans hrecorded, hstamped.trans_le hlast, hsuccess⟩

theorem Timed.lt {p : Probe} {first last : Nat} {x : Metrics} (h : Timed m first last p x) : first < last := by
  obtain ⟨-, recorded, hfirst, hlast, -⟩ := h
  omega

theorem Succeeds.keeps {p q : Probe} {n : Int} {first last last' : Nat} {x x' : Metrics}
    (h : Succeeds m r p n first last x) (hkeeps : Keeps q x x') (hp : p ≠ q) (hlast : last ≤ last') :
    Succeeds m r p n first last' x' where
  finds := h.finds
  success := (hkeeps.success p hp).trans h.success
  httpStatus := (hkeeps.httpStatus p hp).trans h.httpStatus
  shown := hkeeps.shown p hp n h.shown
  total hdashboard := by
    obtain ⟨total, htotal, hshown⟩ := h.total hdashboard
    exact ⟨total, htotal, (hkeeps.total (fun hq => hp (hdashboard.trans hq.symm))).trans hshown⟩
  timed := (h.timed.keeps hkeeps hp).widen le_rfl hlast

theorem Fails.keeps {p q : Probe} {x x' : Metrics} (h : Fails m r p x) (hkeeps : Keeps q x x') (hp : p ≠ q) :
    Fails m r p x' :=
  ⟨h.nothing, h.seen.imp_left (hkeeps.success p hp).trans⟩

/-- The probes that have run since the reading `first`, with the numbers they returned: all have succeeded, or one has
failed. -/
def Progress (m : Setting) (r : Round) (first : Nat) (done : List (Probe × Int)) (ok : Bool) (fr : Frame) : Prop :=
  if ok then first ≤ fr.readings ∧ ∀ e ∈ done, Succeeds m r e.1 e.2 first fr.readings fr.metrics
  else ∃ e ∈ done, Fails m r e.1 fr.metrics

/-- **The next probe** adds its result to those of the round. -/
theorem triple_probe {first : Nat} (done : List (Probe × Int)) (ok : Bool) {q : Probe} {P : Frame → Prop}
    {b : ProbeBlock (Bool × Int)} (hlaw : ∀ fr, P fr → ProbeLaw m r q fr (b fr))
    (hP : ∀ fr, P fr → Progress m r first done ok fr) (hq : ∀ e ∈ done, e.1 ≠ q) :
    Triple P b (fun a fr => Progress m r first ((q, a.2) :: done) (ok && a.1) fr)
      (fun _ fr => ∃ q, Fails m r q fr.metrics) := by
  intro fr hfr
  have h := hlaw fr hfr
  have hdone := hP fr hfr
  revert h
  cases b fr with
  | mk result fr' =>
    cases result with
    | error e => exact fun h => ⟨q, h.2⟩
    | ok a =>
      obtain ⟨ok', n⟩ := a
      rintro ⟨hkeeps, h⟩
      cases ok with
      | false =>
        obtain ⟨e, he, hfails⟩ := hdone
        exact ⟨e, List.mem_cons_of_mem _ he, hfails.keeps hkeeps (hq e he)⟩
      | true =>
        cases ok' with
        | false => exact ⟨(q, n), List.mem_cons_self, h⟩
        | true =>
          obtain ⟨hfirst, hdone⟩ := hdone
          have hsucceeds : Succeeds m r q n fr.readings fr'.readings fr'.metrics := h
          have hlast : fr.readings ≤ fr'.readings := hsucceeds.timed.lt.le
          refine ⟨hfirst.trans hlast, List.forall_mem_cons.2 ⟨{ hsucceeds with timed := hsucceeds.timed.widen hfirst le_rfl },
            fun e he => (hdone e he).keeps hkeeps (hq e he) hlast⟩⟩

/-- What the probes found is still there when the deltas and the verdict are set. -/
theorem Progress.set {first : Nat} {done : List (Probe × Int)} {ok : Bool} {fr : Frame} (h : Progress m r first done ok fr)
    (delta : Source × Source → Option Int) (up : Option Bool) :
    Progress m r first done ok { fr with metrics := { fr.metrics with delta := delta, platformUp := up } } := by
  cases ok with
  | false =>
    obtain ⟨e, he, hfails⟩ := h
    exact ⟨e, he, hfails.nothing, hfails.seen⟩
  | true =>
    refine ⟨h.1, fun e he => ?_⟩
    have hsucceeds := h.2 e he
    exact ⟨hsucceeds.finds, hsucceeds.success, hsucceeds.httpStatus, shown_congr rfl rfl hsucceeds.shown,
      hsucceeds.total, hsucceeds.timed.lastDuration, hsucceeds.timed.lastSuccess⟩

/-- The pairs of sources that are compared. -/
def comparedSources : List (Source × Source) := [(.liderapi, .ldap), (.liderapi, .xmpp), (.ldap, .xmpp)]

/-- The end of a round. -/
theorem triple_verdict {first : Nat} {done : List (Probe × Int)} {E : ProbeError → Frame → Prop} (counts : Source → Int)
    (ok : Bool) : Triple (fun fr => Progress m r first done ok fr)
      (updateDeltas counts >>= fun _ => setMetrics (fun x => { x with platformUp := some ok }) >>= fun _ => Pure.pure ok)
      (fun ok' fr => ok' = ok ∧ Progress m r first done ok fr ∧ fr.metrics.platformUp = some ok ∧
        ∀ e ∈ comparedSources, fr.metrics.delta e = some |counts e.1 - counts e.2|) E := by
  intro fr h
  refine ⟨rfl, h.set _ _, rfl, ?_⟩
  intro e he
  simp only [comparedSources, List.mem_cons, List.not_mem_nil, or_false] at he
  rcases he with rfl | rfl | rfl <;> simp [Function.update]

/-- **Every gauge comes from the round**, which reads the clock from `first` to `last`: all probes succeeded on what they
found in their replies, the gauges show it, with the durations and the time of the successes, and the deltas are the
distances of the counts. -/
structure Coherent (m : Setting) (r : Round) (first last : Nat) (x : Metrics) : Prop where
  platformUp : x.platformUp = some true
  succeeds : ∀ p, ∃ n, Succeeds m r p n first last x
  delta : ∀ e ∈ comparedSources, ∃ a b, x.agentCount e.1 = some a ∧ x.agentCount e.2 = some b ∧ x.delta e = some |a - b|

/-- The clock may be read once more. -/
theorem Coherent.until {first last last' : Nat} {x : Metrics} (h : Coherent m r first last x) (hlast : last ≤ last') :
    Coherent m r first last' x where
  platformUp := h.platformUp
  succeeds p := by
    obtain ⟨n, hn⟩ := h.succeeds p
    exact ⟨n, { hn with timed := hn.timed.widen le_rfl hlast }⟩
  delta := h.delta

/-- What the probes of a round leave. -/
theorem triple_probes (first : Nat) : Triple (fun fr => fr.authorized = false ∧ fr.readings = first) (probes m r)
    (fun ok fr => if ok then Coherent m r first fr.readings fr.metrics
      else fr.metrics.platformUp = some false ∧ ∃ q, Fails m r q fr.metrics)
    (fun _ fr => ∃ q, Fails m r q fr.metrics) := by
  refine .bind (triple_probe [] true (fun fr hfr => probeLogin_law fr hfr.1)
      (fun fr hfr => ⟨hfr.2.ge, by simp⟩) (by simp)) (fun login =>
    .bind (triple_probe _ _ (fun fr _ => probeDashboardInfo_law fr) (fun _ h => h) (by simp)) (fun dashboard =>
    .bind (triple_probe _ _ (fun fr _ => probeAgentList_law fr) (fun _ h => h) (by simp)) (fun agents =>
    .bind (triple_probe _ _ (fun fr _ => probeComputerTree_law fr) (fun _ h => h) (by simp)) (fun tree =>
    .bind (triple_probe _ _ (fun fr _ => probeEjabberdRegisteredUsers_law fr) (fun _ h => h) (by simp)) (fun users =>
    .bind (triple_probe _ _ (fun fr _ => probeLdapAgentCount_law fr) (fun _ h => h) (by simp)) (fun ldap => ?_))))))
  rw [Bool.true_and]
  refine (triple_verdict _ _).mono (fun _ h => h) (fun ok fr => ?_) (fun _ _ h => h)
  rintro ⟨rfl, hprogress, hup, hdelta⟩
  revert hprogress hup
  cases login.1 && dashboard.1 && agents.1 && tree.1 && users.1 && ldap.1 with
  | false => exact fun ⟨e, _, hfails⟩ hup => ⟨hup, e.1, hfails⟩
  | true =>
    rintro ⟨-, hall⟩ hup
    simp only [List.forall_mem_cons, List.not_mem_nil, false_implies, implies_true, and_true] at hall
    obtain ⟨hldap, husers, htree, hagents, hdashboard, hlogin⟩ := hall
    refine ⟨hup, fun p => ?_, ?_⟩
    · cases p with
      | jwtLogin => exact ⟨_, hlogin⟩
      | dashboardInfo => exact ⟨_, hdashboard⟩
      | agentList => exact ⟨_, hagents⟩
      | computerTree => exact ⟨_, htree⟩
      | xmppRegisteredUsers => exact ⟨_, husers⟩
      | ldapAgentCount => exact ⟨_, hldap⟩
    · have hl := hagents.shown.1 .liderapi rfl
      have hd := hldap.shown.1 .ldap rfl
      have hx := husers.shown.1 .xmpp rfl
      simp only [comparedSources, List.forall_mem_cons, List.not_mem_nil, false_implies, implies_true, and_true] at hdelta ⊢
      exact ⟨⟨_, _, hl, hd, hdelta.1⟩, ⟨_, _, hl, hx, hdelta.2.1⟩, ⟨_, _, hd, hx, hdelta.2.2⟩⟩

end

/-! ## Runs -/

section
variable (m : Setting)

/-- **One round**: the exporter is healthy with gauges that come from it, or not healthy with a probe that failed. -/
theorem round_law (s : Exporter) (r : Round) :
    (s.round m r).metrics.platformUp = some (s.round m r).health.healthy ∧
      if (s.round m r).health.healthy then Coherent m r s.readings (s.round m r).readings (s.round m r).metrics
      else ∃ q, Fails m r q (s.round m r).metrics := by
  have h := triple_probes (m := m) (r := r) s.readings ⟨s.metrics, s.readings, false, none, false, 0⟩ ⟨rfl, rfl⟩
  unfold Exporter.round
  revert h
  cases probes m r ⟨s.metrics, s.readings, false, none, false, 0⟩ with
  | mk result fr =>
    cases result with
    | error e => exact fun ⟨q, hfails⟩ => ⟨rfl, q, hfails.nothing, hfails.seen⟩
    | ok ok =>
      cases ok with
      | false => exact fun ⟨hup, hfails⟩ => ⟨hup, hfails⟩
      | true => exact fun hcoherent => ⟨hcoherent.platformUp, hcoherent.until (Nat.le_succ _)⟩

theorem run_append (rounds : List Round) (r : Round) : run m (rounds ++ [r]) = (run m rounds).round m r := by
  rw [run, List.foldl_append]
  rfl

theorem Good.not_fails {m : Setting} {r : Round} (h : Good m r) {q : Probe} {x : Metrics} : ¬ Fails m r q x := fun hfails => by
  obtain ⟨n, hn⟩ := h q
  exact hfails.nothing n hn

/-- **Healthy exactly when the last round was good**, whatever the rounds before it were: so say `/health` and the gauge. -/
theorem healthy_iff (rounds : List Round) (r : Round) :
    ((run m (rounds ++ [r])).healthStatus = 200 ↔ Good m r) ∧
      ((run m (rounds ++ [r])).metrics.platformUp = some true ↔ Good m r) := by
  rw [run_append]
  obtain ⟨hup, hlaw⟩ := round_law m (run m rounds) r
  rw [hup, Exporter.healthStatus]
  cases hhealthy : ((run m rounds).round m r).health.healthy with
  | true =>
    rw [hhealthy] at hlaw
    have hgood : Good m r := fun p => (hlaw.succeeds p).imp (fun _ h => h.finds)
    simp [hgood]
  | false =>
    rw [hhealthy] at hlaw
    obtain ⟨q, hfails⟩ := hlaw
    have hbad : ¬ Good m r := fun hgood => hgood.not_fails hfails
    simp [hbad]

/-- **An exporter that ends a round healthy shows that round**, the last, in every gauge. -/
theorem healthy_coherent (rounds : List Round) (h : (run m rounds).healthStatus = 200) :
    ∃ before r, rounds = before ++ [r] ∧
      Coherent m r (run m before).readings (run m rounds).readings (run m rounds).metrics := by
  rcases List.eq_nil_or_concat rounds with rfl | ⟨before, r, rfl⟩
  · exact absurd h (by simp [run, Exporter.healthStatus, Exporter.initial])
  · rw [List.concat_eq_append] at h ⊢
    refine ⟨before, r, rfl, ?_⟩
    rw [run_append] at h ⊢
    obtain ⟨-, hlaw⟩ := round_law m (run m before) r
    cases hhealthy : ((run m before).round m r).health.healthy with
    | true =>
      rw [hhealthy] at hlaw
      exact hlaw
    | false => simp [Exporter.healthStatus, hhealthy] at h

/-- **A failure is shown** by the gauge of a probe that failed, unless its reply is one of two kinds. -/
theorem failure_shown (rounds : List Round) (r : Round) (h : (run m (rounds ++ [r])).healthStatus ≠ 200) :
    ∃ q, (∀ n, ¬ Finds m r q n) ∧ ((run m (rounds ++ [r])).metrics.success q = some false ∨ Masked m r q) := by
  rw [run_append] at h ⊢
  obtain ⟨-, hlaw⟩ := round_law m (run m rounds) r
  cases hhealthy : ((run m rounds).round m r).health.healthy with
  | true => simp [Exporter.healthStatus, hhealthy] at h
  | false =>
    rw [hhealthy] at hlaw
    obtain ⟨q, hfails⟩ := hlaw
    exact ⟨q, hfails.nothing, hfails.seen⟩

end

def plainSetting : Setting := ⟨fun reading => reading, fun _ => .ok zero⟩

def answered (json : Json) : Reply := .ok ⟨200, some json⟩

/-- Three agents on every surface. -/
def goodRound : Round where
  login := answered (.obj [("token", .str "t")])
  dashboard := answered (.obj [("totalComputers", .int 3)])
  agents := answered (.obj [("content", .arr [.null, .null, .null])])
  tree := answered (.arr [.obj [("childEntries", .arr [.null, .null])]])
  users := answered (.arr [.str "ahenk-001", .str "ahenk-002", .str "ahenk-003", .str "lider_sunucu"])
  ldap := .ok ⟨true, .ok 3, none⟩

/-- The list of agents is no document. -/
def badRound : Round := { goodRound with agents := .ok ⟨502, none⟩ }

theorem goodRound_coherent : ∃ before r, [badRound, goodRound] = before ++ [r] ∧
    Coherent plainSetting r (run plainSetting before).readings (run plainSetting [badRound, goodRound]).readings
      (run plainSetting [badRound, goodRound]).metrics :=
  healthy_coherent plainSetting [badRound, goodRound] (by rfl)

theorem badRound_shown : (run plainSetting ([goodRound] ++ [badRound])).healthStatus = 503 ∧
    ∃ q, (∀ n, ¬ Finds plainSetting badRound q n) ∧
      ((run plainSetting ([goodRound] ++ [badRound])).metrics.success q = some false ∨ Masked plainSetting badRound q) :=
  have h : (run plainSetting ([goodRound] ++ [badRound])).healthStatus = 503 := by rfl
  ⟨h, failure_shown plainSetting [goodRound] badRound (by rw [h]; decide)⟩

end Lider.PlatformExporter
