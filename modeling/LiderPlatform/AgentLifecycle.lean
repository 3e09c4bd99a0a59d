import LiderPlatform.AgentInventory
/-!
# AgentLifecycle — the status of the agents, day by day (`LiderCronJob.dailyCronJob`)

Two components set the status of an agent: the reconciler, by its presence, and the daily job, which leaves an agent
that is online and judges one that is not by the age of its last event.  Neither loses a row or moves an event date,
so a whole run of the job says how old the last event is whatever ran before (`dailyCronJob_decides`), and an agent that
has become too old stays passive until one of the two finds it online (`stale_stays_passive`).  That the reconciler keeps
a jid rests on the column of the jids comparing them exactly, as `Inventory.findByJid` does.
-/
namespace Lider.AgentLifecycle

open Java KeyedTable LdapInventory

/-! ## `dailyCronJob` -/

/-- What the services answer while the loop is at an agent: the presence service, the XMPP service, if that is what
delivers the messages, the messaging service, and the configuration. -/
structure Services where
  isOnline : JString → Bool
  getOnlineUsers : Option (Option (List JString))
  isRecipientOnline : JString → Bool
  getMachineEventDay : Option Int32

/-- A run of the job, which gets through `reached` agents before a call throws. -/
structure CronContext where
  getMachineEventStatus : Option Bool
  today : Int
  services : Nat → Services
  reached : Nat

def Services.isAgentOnline (s : Services) (recipient : Option JString) : Bool :=
  match nonBlank recipient with
  | none => false
  | some recipient =>
    s.isOnline recipient ||
    (match s.getOnlineUsers with
      | some (some onlineUsers) =>
        onlineUsers.contains recipient || onlineUsers.contains (recipient.takeWhile (· ≠ '@'.toNat.toUInt16))
      | _ => false) ||
    s.isRecipientOnline recipient

variable (toLocalDate : Int → Int)

namespace CronContext

variable (c : CronContext)

/-- The days since the last event are counted in the time zone of the system. -/
def statusOf (eventDate : Int) (machineEventDay : Int32) : AgentStatus :=
  if (-machineEventDay).toInt < toLocalDate eventDate - toLocalDate c.today then .Active else .Passive

/-- The loop; where the number of days is not configured, asking for it ends the run. -/
def visit : List ((Nat × AgentImpl) × Nat) → Table AgentImpl → Table AgentImpl
  | [], t => t
  | ((id, agent), n) :: agents, t =>
    if (c.services n).isAgentOnline agent.jid then visit agents t
    else
      match agent.eventDate, (c.services n).getMachineEventDay with
      | none, _ => visit agents t
      | some _, none => t
      | some eventDate, some day =>
        visit agents (t.save (some id) { agent with agentStatus := some (c.statusOf toLocalDate eventDate day) })

def dailyCronJob (t : Table AgentImpl) : Table AgentImpl :=
  if c.getMachineEventStatus = some true then c.visit toLocalDate (t.rows.take c.reached).zipIdx t else t

end CronContext

/-! ## Runs -/

inductive Run where
  | reconcile (c : ReconcileContext) (ldapAgents : Except String (List (Option LdapEntry)))
  | cron (c : CronContext)

def Run.apply (t : Table AgentImpl) : Run → Table AgentImpl
  | .reconcile c ldapAgents => (c.reconcileFromLdap t ldapAgents).agents
  | .cron c => c.dailyCronJob toLocalDate t

def runAll (t : Table AgentImpl) (runs : List Run) : Table AgentImpl := runs.foldl (Run.apply toLocalDate) t

/-- What a run may make of an agent is as before. -/
def Run.Keeps (P : AgentImpl → Prop) : Run → Prop
  | .reconcile c _ => ∀ agent jid ldapAgent now, P agent → agent.jid = some jid →
      P (target jid ldapAgent (c.isOnline jid) now agent)
  | .cron c => ∀ agent n eventDate day, P agent → (c.services n).isAgentOnline agent.jid = false →
      agent.eventDate = some eventDate → (c.services n).getMachineEventDay = some day →
      P { agent with agentStatus := some (c.statusOf toLocalDate eventDate day) }

section
variable {toLocalDate} {c : CronContext} {P : AgentImpl → Prop} {id : Nat} {agent : AgentImpl}

/-! ## What a run keeps -/

/-- The loop leaves a row as it is, or as one of the visits of it makes it. -/
theorem row_visit : ∀ (agents : List ((Nat × AgentImpl) × Nat)) (t : Table AgentImpl) (agent : AgentImpl),
    (∀ v ∈ agents, v.1.1 = id → ∀ eventDate day, (c.services v.2).isAgentOnline v.1.2.jid = false →
      v.1.2.eventDate = some eventDate → (c.services v.2).getMachineEventDay = some day →
      P { v.1.2 with agentStatus := some (c.statusOf toLocalDate eventDate day) }) →
    (id, agent) ∈ t.rows → P agent → ∃ new, (id, new) ∈ (c.visit toLocalDate agents t).rows ∧ P new
  | [], _, agent, _, hrow, hP => ⟨agent, hrow, hP⟩
  | ((i, visited), n) :: agents, t, agent, hjudged, hrow, hP => by
    have hrest := fun v (hv : v ∈ agents) => hjudged v (List.mem_cons_of_mem _ hv)
    rw [CronContext.visit]
    split
    · exact row_visit agents t agent hrest hrow hP
    rename_i honline
    split
    · exact row_visit agents t agent hrest hrow hP
    · exact ⟨agent, hrow, hP⟩
    · rename_i eventDate day hdate hday
      refine row_visit agents _ _ hrest (t.mem_save i _ hrow) ?_
      split
      · rename_i hid
        exact hjudged _ List.mem_cons_self hid.symm eventDate day (Bool.eq_false_iff.2 honline) hdate hday
      · exact hP

/-- **A run keeps the rows**, and what it keeps of any agent. -/
theorem row_apply {r : Run} (hkeeps : r.Keeps toLocalDate P) {t : Table AgentImpl} (hrow : (id, agent) ∈ t.rows)
    (hP : P agent) : ∃ new, (id, new) ∈ (r.apply toLocalDate t).rows ∧ P new := by
  cases r with
  | reconcile c ldapAgents =>
    cases ldapAgents with
    | error => exact ⟨agent, hrow, hP⟩
    | ok ldapAgents =>
      rw [Run.apply, ReconcileContext.reconcileFromLdap, c.agents_foldl]
      refine Table.row_upsertAll _ t (fun u hu old new hold htarget hchange => ?_) id agent hrow hP
      obtain ⟨visit, -, hvisit⟩ := List.mem_filterMap.1 hu
      obtain ⟨a, -, rfl⟩ := Option.map_eq_some_iff.1 hvisit
      rw [ReconcileContext.changeOf_eq_some hchange]
      exact hkeeps old a.1 a.2 _ hold htarget
  | cron c =>
    rw [Run.apply, CronContext.dailyCronJob]
    split
    · refine row_visit _ t agent (fun v hv hid eventDate day honline hdate hday => ?_) hrow hP
      -- the loop reads the row that it saves: there is one of its id
      have hread : v.1 ∈ t.rows := by
        have hmem := List.mem_map_of_mem (f := Prod.fst) hv
        rw [List.zipIdx_map_fst] at hmem
        exact List.mem_of_mem_take hmem
      obtain hv : v.1 = (id, agent) := t.eq_of_fst_eq hread hrow hid
      rw [hv] at honline hdate ⊢
      exact hkeeps agent v.2 eventDate day hP honline hdate hday
    · exact ⟨agent, hrow, hP⟩

theorem row_runAll : ∀ (runs : List Run) (t : Table AgentImpl) (agent : AgentImpl),
    (∀ r ∈ runs, r.Keeps toLocalDate P) → (id, agent) ∈ t.rows → P agent →
    ∃ new, (id, new) ∈ (runAll toLocalDate t runs).rows ∧ P new
  | [], _, agent, _, hrow, hP => ⟨agent, hrow, hP⟩
  | r :: runs, t, agent, hkeeps, hrow, hP => by
    obtain ⟨new, hnew, hPnew⟩ := row_apply (hkeeps r List.mem_cons_self) hrow hP
    rw [runAll, List.foldl_cons]
    exact row_runAll runs _ new (fun s hs => hkeeps s (List.mem_cons_of_mem _ hs)) hnew hPnew

/-- An agent is the one it was: its jid, and its event date once there is one. -/
def SameAgent (agent new : AgentImpl) : Prop :=
  new.jid = agent.jid ∧ ∀ eventDate, agent.eventDate = some eventDate → new.eventDate = some eventDate

/-- Neither job changes the jid of a row, or an event date once there is one. -/
theorem keeps_sameAgent (first : AgentImpl) (r : Run) : r.Keeps toLocalDate (SameAgent first) := by
  cases r with
  | reconcile c _ =>
    rintro agent own ldapAgent now ⟨hjid, hdate⟩ hown
    refine ⟨hown.symm.trans hjid, fun eventDate hfirst => ?_⟩
    rw [target, hdate eventDate hfirst, Option.getD_some]
  | cron c =>
    rintro agent n date day hsame - - -
    exact hsame

/-- **No run loses a row, or makes it another agent's.** -/
theorem sameAgent_runAll {t : Table AgentImpl} (hrow : (id, agent) ∈ t.rows) (runs : List Run) :
    ∃ new, (id, new) ∈ (runAll toLocalDate t runs).rows ∧ SameAgent agent new :=
  row_runAll runs t agent (fun r _ => keeps_sameAgent agent r) hrow ⟨rfl, fun _ h => h⟩

/-! ## A whole run of the job -/

/-- A run with nothing to stop it: it is switched on, gets through every agent, and knows the number of days. -/
structure CronContext.Complete (c : CronContext) (day : Int32) (t : Table AgentImpl) : Prop where
  status : c.getMachineEventStatus = some true
  day : ∀ n, (c.services n).getMachineEventDay = some day
  reached : t.rows.length ≤ c.reached

theorem visit_append {day : Int32} (hday : ∀ n, (c.services n).getMachineEventDay = some day)
    (rest : List ((Nat × AgentImpl) × Nat)) : ∀ (agents : List ((Nat × AgentImpl) × Nat)) (t : Table AgentImpl),
    c.visit toLocalDate (agents ++ rest) t = c.visit toLocalDate rest (c.visit toLocalDate agents t)
  | [], _ => rfl
  | ((i, visited), n) :: agents, t => by
    rw [List.cons_append, CronContext.visit, CronContext.visit, hday]
    split
    · exact visit_append hday rest agents t
    · cases visited.eventDate with
      | none => exact visit_append hday rest agents t
      | some eventDate => exact visit_append hday rest agents _

theorem visit_cons {n : Nat} {day : Int32} {eventDate : Int} (honline : (c.services n).isAgentOnline agent.jid = false)
    (hdate : agent.eventDate = some eventDate) (hday : (c.services n).getMachineEventDay = some day)
    (agents : List ((Nat × AgentImpl) × Nat)) (t : Table AgentImpl) :
    c.visit toLocalDate (((id, agent), n) :: agents) t = c.visit toLocalDate agents
      (t.save (some id) { agent with agentStatus := some (c.statusOf toLocalDate eventDate day) }) := by
  rw [CronContext.visit, honline, hday]
  cases agent
  obtain rfl := hdate
  rfl

/-- **A whole run judges every agent that is offline**: no later visit of the loop is to the row. -/
theorem row_dailyCronJob {t : Table AgentImpl} {day : Int32} {eventDate : Int} (hc : c.Complete day t)
    (hrow : (id, agent) ∈ t.rows) (hdate : agent.eventDate = some eventDate)
    (hoff : ∀ n, (c.services n).isAgentOnline agent.jid = false) :
    (id, { agent with agentStatus := some (c.statusOf toLocalDate eventDate day) }) ∈
      (c.dailyCronJob toLocalDate t).rows := by
  rw [CronContext.dailyCronJob, if_pos hc.status, List.take_of_length_le hc.reached]
  have hvisit := hrow
  rw [← List.zipIdx_map_fst 0 t.rows] at hvisit
  obtain ⟨⟨_, n⟩, hvisit, rfl⟩ := List.mem_map.1 hvisit
  obtain ⟨before, after, hsplit⟩ := List.append_of_mem hvisit
  have hnodup := t.nodup
  rw [← List.zipIdx_map_fst 0 t.rows, hsplit, List.map_append, List.map_append, List.map_cons, List.map_cons] at hnodup
  have hother : ∀ v ∈ after, v.1.1 ≠ id := fun v hv heq =>
    (List.nodup_cons.1 hnodup.of_append_right).1
      (List.mem_map.2 ⟨v.1, List.mem_map_of_mem hv, heq⟩)
  obtain ⟨_, hread, -⟩ := row_visit (P := fun _ => True) (c := c) before t agent
    (fun _ _ _ _ _ _ _ _ => trivial) hrow trivial
  rw [hsplit, visit_append hc.day, visit_cons (hoff n) hdate (hc.day n)]
  have hsaved := Table.mem_save _ id { agent with agentStatus := some (c.statusOf toLocalDate eventDate day) } hread
  rw [if_pos rfl] at hsaved
  obtain ⟨new, hnew, rfl⟩ := row_visit (P := fun a => a = _) (c := c) after _ _
    (fun v hv hid => absurd hid (hother v hv)) hsaved rfl
  exact hnew

/-- **No run loses a row, its jid or its event date**; so a whole run of the job decides the status of an agent that is
offline, by the age of its last event, whatever the jobs did before it. -/
theorem dailyCronJob_decides (t : Table AgentImpl) (runs : List Run) :
    (∀ id agent, (id, agent) ∈ t.rows →
      ∃ new, (id, new) ∈ (runAll toLocalDate t runs).rows ∧ SameAgent agent new) ∧
    ∀ (c : CronContext) (day : Int32), c.Complete day (runAll toLocalDate t runs) → ∀ id agent eventDate,
      (id, agent) ∈ t.rows → agent.eventDate = some eventDate →
      (∀ n, (c.services n).isAgentOnline agent.jid = false) →
      ∃ new, (id, new) ∈ (runAll toLocalDate t (runs ++ [.cron c])).rows ∧ SameAgent agent new ∧
        new.agentStatus = some (c.statusOf toLocalDate eventDate day) := by
  refine ⟨fun id agent hrow => sameAgent_runAll hrow runs, fun c day hc id agent eventDate hrow hdate hoff => ?_⟩
  obtain ⟨old, hold, hjid, hkept⟩ : ∃ old, (id, old) ∈ (runAll toLocalDate t runs).rows ∧ SameAgent agent old :=
    sameAgent_runAll hrow runs
  refine ⟨{ old with agentStatus := some (c.statusOf toLocalDate eventDate day) }, ?_, ⟨hjid, hkept⟩, rfl⟩
  rw [runAll, List.foldl_append]
  exact row_dailyCronJob hc hold (hkept eventDate hdate) (fun n => hjid ▸ hoff n)

/-! A machine with its last event on day 0, which the reconciler finds offline, in a run of the job on day 40; and one
without a date. -/

def sampleAgent : AgentImpl :=
  ⟨some (utf16 "pc1".toList), none, none, none, none, none, some false, some 0, some 0, some 0, none, some .Active⟩

/-- A machine that has never been heard of. -/
def silentAgent : AgentImpl := { sampleAgent with jid := some (utf16 "pc2".toList), eventDate := none }

def sampleAgents : Table AgentImpl := (Table.empty.save none sampleAgent).save none silentAgent

def sampleReconcile : Run :=
  .reconcile ⟨sampleAgent, fun _ => false, fun _ => 0⟩ (.ok [some ⟨some (utf16 "pc1".toList), none, none, none⟩])

def sampleCron (today : Int) (day : Int32) : CronContext :=
  ⟨some true, today, fun _ => ⟨fun _ => false, some (some []), fun _ => false, some day⟩, 10⟩

theorem sampleCron_complete (today : Int) (day : Int32) :
    (sampleCron today day).Complete day (runAll (· / 86400000) sampleAgents [sampleReconcile]) :=
  ⟨rfl, fun _ => rfl, show (runAll (· / 86400000) sampleAgents [sampleReconcile]).rows.length ≤ 10 by decide⟩

theorem sampleCron_decides :
    (∃ new, (1, new) ∈ (runAll (· / 86400000) sampleAgents [sampleReconcile]).rows ∧ SameAgent silentAgent new) ∧
    ∃ new, (0, new) ∈ (runAll (· / 86400000) sampleAgents ([sampleReconcile] ++ [.cron (sampleCron 3456000000 60)])).rows ∧
      SameAgent sampleAgent new ∧ new.agentStatus = some .Active := by
  obtain ⟨hkept, hdecided⟩ := @dailyCronJob_decides (· / 86400000) sampleAgents [sampleReconcile]
  refine ⟨hkept 1 silentAgent (by simp [sampleAgents, Table.save, Table.empty]), ?_⟩
  exact hdecided (sampleCron 3456000000 60) 60 (sampleCron_complete 3456000000 60) 0 sampleAgent 0
    List.mem_cons_self rfl (fun _ => rfl)

/-! ## An agent that has become too old -/

/-- A run that comes later, and asks for no longer a silence; the reconciler finds the agent offline. -/
def Run.Later (toLocalDate : Int → Int) (today : Int) (machineEventDay : Int32) (jid : Option JString) : Run → Prop
  | .reconcile c _ => ∀ j, jid = some j → c.isOnline j = false
  | .cron c => toLocalDate today ≤ toLocalDate c.today ∧
      ∀ n day, (c.services n).getMachineEventDay = some day → (-machineEventDay).toInt ≤ (-day).toInt

theorem statusOf_later {c' : CronContext} {day day' : Int32} {eventDate : Int}
    (hstale : c.statusOf toLocalDate eventDate day = .Passive)
    (htoday : toLocalDate c.today ≤ toLocalDate c'.today) (hday : (-day).toInt ≤ (-day').toInt) :
    c'.statusOf toLocalDate eventDate day' = .Passive := by
  have hold : ¬ (-day).toInt < toLocalDate eventDate - toLocalDate c.today := by
    intro hyoung
    rw [CronContext.statusOf, if_pos hyoung] at hstale
    cases hstale
  rw [CronContext.statusOf, if_neg (by omega)]

theorem keeps_passive {day : Int32} {eventDate : Int} (hstale : c.statusOf toLocalDate eventDate day = .Passive)
    {first : AgentImpl} (hdate : first.eventDate = some eventDate) {r : Run}
    (hlater : r.Later toLocalDate c.today day first.jid) :
    r.Keeps toLocalDate (fun agent => SameAgent first agent ∧ agent.agentStatus = some .Passive) := by
  cases r with
  | reconcile c' ldapAgents =>
    rintro agent own ldapAgent now ⟨hkept, -⟩ hown
    have hreconcile : Run.Keeps toLocalDate _ (.reconcile c' ldapAgents) := keeps_sameAgent first _
    refine ⟨hreconcile agent own ldapAgent now hkept hown, ?_⟩
    rw [target, hlater own (hkept.1.symm.trans hown)]
    rfl
  | cron c' =>
    rintro agent n date day' ⟨hkept, -⟩ - hagent hday
    obtain rfl := Option.some.inj ((hkept.2 eventDate hdate).symm.trans hagent)
    exact ⟨hkept, congrArg some (statusOf_later hstale hlater.1 (hlater.2 n day' hday))⟩

/-- **An agent that the job found too old stays passive** through all later runs, until the reconciler finds it
online: its event date is never moved. -/
theorem stale_stays_passive {t : Table AgentImpl} {runs later : List Run} {day : Int32} {eventDate : Int}
    (hrow : (id, agent) ∈ t.rows) (hdate : agent.eventDate = some eventDate)
    (hc : c.Complete day (runAll toLocalDate t runs))
    (hoff : ∀ n, (c.services n).isAgentOnline agent.jid = false)
    (hstale : c.statusOf toLocalDate eventDate day = .Passive)
    (hlater : ∀ r ∈ later, r.Later toLocalDate c.today day agent.jid) :
    ∃ new, (id, new) ∈ (runAll toLocalDate t (runs ++ .cron c :: later)).rows ∧ new.jid = agent.jid ∧
      new.eventDate = some eventDate ∧ new.agentStatus = some .Passive := by
  obtain ⟨old, hold, hjid, hkept⟩ : ∃ old, (id, old) ∈ (runAll toLocalDate t runs).rows ∧ SameAgent agent old :=
    sameAgent_runAll hrow runs
  have hjudged : (id, { old with agentStatus := some .Passive }) ∈ (c.dailyCronJob toLocalDate _).rows :=
    hstale ▸ row_dailyCronJob hc hold (hkept eventDate hdate) (fun n => hjid ▸ hoff n)
  obtain ⟨new, hnew, hsame, hpassive⟩ := row_runAll later _ _ (fun r hr => keeps_passive hstale hdate (hlater r hr))
    hjudged ⟨⟨hjid, hkept⟩, rfl⟩
  refine ⟨new, ?_, hsame.1, hsame.2 eventDate hdate, hpassive⟩
  rw [runAll, List.foldl_append, List.foldl_cons]
  exact hnew

theorem sampleCron_stale : ∃ new,
    (0, new) ∈ (runAll (· / 86400000) sampleAgents
      ([sampleReconcile] ++ .cron (sampleCron 3456000000 30) ::
        [sampleReconcile, .cron (sampleCron 3542400000 20)])).rows ∧
      new.jid = sampleAgent.jid ∧ new.eventDate = some 0 ∧ new.agentStatus = some .Passive :=
  stale_stays_passive (show (0, sampleAgent) ∈ sampleAgents.rows from List.mem_cons_self) rfl
    (sampleCron_complete 3456000000 30) (fun _ => rfl) (by decide) (by
      intro r hr
      rcases List.mem_cons.1 hr with rfl | hr
      · exact fun _ _ => rfl
      · obtain rfl := List.mem_singleton.1 hr
        refine ⟨by decide, fun n day hday => ?_⟩
        obtain rfl := Option.some.inj hday
        decide)

end

end Lider.AgentLifecycle
