import LiderPlatform.JavaText
import LiderPlatform.KeyedTable
/-!
# AgentInventory — the agents of LDAP as rows (`LdapAgentInventoryReconciler.reconcileFromLdap`)

Every entry with a uid becomes the row of the trimmed uid: `draft` sets the fields and remembers whether one changed,
and only then the row is saved.  A run is one upsert an entry (`agents_foldl`), so entries of distinct uids leave one
row each and nothing else changes; the row of an agent that was offline is settled, and a second run while no agent is
online saves nothing (`reconcileFromLdap_reconciles`).
-/
namespace Lider.LdapInventory

open Java KeyedTable

/-! ## Data -/

inductive AgentStatus
  | Active
  | Passive
  | other (name : String)
  deriving DecidableEq

/-- The fields of `AgentImpl` that the reconciler reads or sets; dates are in milliseconds. -/
structure AgentImpl where
  jid : Option JString
  dn : Option JString
  password : Option JString
  hostname : Option JString
  ipAddresses : Option JString
  macAddresses : Option JString
  deleted : Option Bool
  createDate : Option Int
  modifyDate : Option Int
  eventDate : Option Int
  lastLoginDate : Option Int
  agentStatus : Option AgentStatus

structure LdapEntry where
  uid : Option JString
  cn : Option JString
  distinguishedName : Option JString
  userPassword : Option JString
  deriving DecidableEq

/-- The repository, with the agents given to `save` (and the id of the row each was read from) and the two counters. -/
structure Inventory where
  agents : Table AgentImpl
  saves : List (Option Nat × AgentImpl)
  created : Nat
  updated : Nat

/-! ## Defaults -/

def hostSuffix : JString := utf16 "-host".toList

def withHostSuffix (text : JString) : JString := if hostSuffix <:+ text then text else text ++ hostSuffix

def nonBlank (text : Option JString) : Option JString := text.filter (fun t => !isBlank t)

def deriveHostname (ldapAgent : LdapEntry) : JString :=
  match nonBlank ldapAgent.cn with
  | some cn => withHostSuffix cn
  | none =>
    match nonBlank ldapAgent.uid with
    | some uid => withHostSuffix uid
    | none => utf16 "unknown-host".toList

def defaultPassword (ldapAgent : LdapEntry) : JString := (nonBlank ldapAgent.userPassword).getD (utf16 "secret".toList)

def defaultIpAddresses (currentValue : Option JString) : JString :=
  (nonBlank currentValue).getD (utf16 "127.0.0.1".toList)

def defaultMacAddresses (currentValue : Option JString) : JString :=
  (nonBlank currentValue).getD (utf16 "00:00:00:00:00:00".toList)

/-! ## One agent -/

/-- The agent at hand, and whether a field changed. -/
structure Draft where
  agent : AgentImpl
  dirty : Bool

def Draft.setIfChanged {T : Type} [DecidableEq T] (d : Draft) (currentValue : AgentImpl → T) (desiredValue : T)
    (setter : AgentImpl → T → AgentImpl) : Draft :=
  if currentValue d.agent = desiredValue then d else ⟨setter d.agent desiredValue, true⟩

/-- `if (changed) { …; dirty = true; }`. -/
def Draft.setWhen (d : Draft) (changed : Prop) [Decidable changed] (setter : AgentImpl → AgentImpl) : Draft :=
  if changed then ⟨setter d.agent, true⟩ else d

/-- The agent of an entry, from the row found, if any. -/
def draft (newAgent : AgentImpl) (jid : JString) (ldapAgent : LdapEntry) (online : Bool) (now : Int)
    (existing : Option AgentImpl) : Draft :=
  let d : Draft := ⟨existing.getD newAgent, existing.isNone⟩
  let d := d.setIfChanged (·.jid) (some jid) (fun a v => { a with jid := v })
  let d := d.setIfChanged (·.dn) ldapAgent.distinguishedName (fun a v => { a with dn := v })
  let d := d.setIfChanged (·.password) (some (defaultPassword ldapAgent)) (fun a v => { a with password := v })
  let d := d.setIfChanged (·.hostname) (some (deriveHostname ldapAgent)) (fun a v => { a with hostname := v })
  let d := d.setIfChanged (·.ipAddresses) (some (defaultIpAddresses d.agent.ipAddresses))
    (fun a v => { a with ipAddresses := v })
  let d := d.setIfChanged (·.macAddresses) (some (defaultMacAddresses d.agent.macAddresses))
    (fun a v => { a with macAddresses := v })
  let d := d.setIfChanged (·.deleted) (some false) (fun a v => { a with deleted := v })
  let d := d.setWhen (d.agent.createDate = none) (fun a => { a with createDate := some now })
  let d := { d with agent := { d.agent with modifyDate := some now } }
  let d := d.setWhen (d.agent.eventDate = none) (fun a => { a with eventDate := some now })
  let d := d.setWhen (online = true) (fun a => { a with lastLoginDate := some now })
  let desiredStatus := if online then AgentStatus.Active else AgentStatus.Passive
  d.setWhen (d.agent.agentStatus ≠ some desiredStatus) (fun a => { a with agentStatus := some desiredStatus })

/-! ## The run -/

/-- The column of the jids compares them exactly, as a binary collation does. -/
def Inventory.findByJid (s : Inventory) (jid : JString) : List (Nat × AgentImpl) :=
  s.agents.withKey AgentImpl.jid (some jid)

def Inventory.save (s : Inventory) (existing : Option Nat) (agent : AgentImpl) : Inventory where
  agents := s.agents.save existing agent
  saves := s.saves ++ [(existing, agent)]
  created := if existing.isNone then s.created + 1 else s.created
  updated := if existing.isNone then s.updated else s.updated + 1

/-- What the reconciler is run with: `new AgentImpl()`, the presence provider, and `new Date()` at the n-th entry. -/
structure ReconcileContext where
  newAgent : AgentImpl
  isOnline : JString → Bool
  newDate : Nat → Int

namespace ReconcileContext

variable (c : ReconcileContext)

def reconcileEntry (s : Inventory) (visit : Option LdapEntry × Nat) : Inventory :=
  match visit.1 with
  | none => s
  | some ldapAgent =>
    match nonBlank ldapAgent.uid with
    | none => s
    | some uid =>
      let jid := trim uid
      let existingAgents := s.findByJid jid
      let d := draft c.newAgent jid ldapAgent (c.isOnline jid) (c.newDate visit.2) (existingAgents.head?.map Prod.snd)
      if !d.dirty then s else s.save (existingAgents.head?.map Prod.fst) d.agent

/-- A run; when the search in LDAP fails, nothing happens. -/
def reconcileFromLdap (agents : Table AgentImpl) (ldapAgents : Except String (List (Option LdapEntry))) : Inventory :=
  match ldapAgents with
  | .ok ldapAgents => ldapAgents.zipIdx.foldl c.reconcileEntry ⟨agents, [], 0, 0⟩
  | .error _ => ⟨agents, [], 0, 0⟩

end ReconcileContext

/-- The jid that an entry with a uid is stored under. -/
def agentOf (ldapAgent : Option LdapEntry) : Option (JString × LdapEntry) :=
  ldapAgent.bind (fun ldapAgent => (nonBlank ldapAgent.uid).map (fun uid => (trim uid, ldapAgent)))

def agentsOf (ldapAgents : List (Option LdapEntry)) : List (JString × LdapEntry) := ldapAgents.filterMap agentOf

/-- The row of an entry, after a run that found the agent online or not. -/
structure Reconciled (jid : JString) (ldapAgent : LdapEntry) (online : Bool) (agent : AgentImpl) : Prop where
  jid : agent.jid = some jid
  dn : agent.dn = ldapAgent.distinguishedName
  hostname : agent.hostname = some (deriveHostname ldapAgent)
  password : agent.password = some (defaultPassword ldapAgent)
  deleted : agent.deleted = some false
  agentStatus : agent.agentStatus = some (if online then .Active else .Passive)

/-! ## What a draft is -/

section
variable {newAgent : AgentImpl} {jid : JString} {ldapAgent : LdapEntry} {online : Bool} {now : Int}

def target (jid : JString) (ldapAgent : LdapEntry) (online : Bool) (now : Int) (base : AgentImpl) : AgentImpl where
  jid := some jid
  dn := ldapAgent.distinguishedName
  password := some (defaultPassword ldapAgent)
  hostname := some (deriveHostname ldapAgent)
  ipAddresses := some (defaultIpAddresses base.ipAddresses)
  macAddresses := some (defaultMacAddresses base.macAddresses)
  deleted := some false
  createDate := some (base.createDate.getD now)
  modifyDate := some now
  eventDate := some (base.eventDate.getD now)
  lastLoginDate := if online then some now else base.lastLoginDate
  agentStatus := some (if online then .Active else .Passive)

theorem Draft.agent_setIfChanged {T : Type} [DecidableEq T] (d : Draft) {currentValue : AgentImpl → T}
    {setter : AgentImpl → T → AgentImpl} (hset : ∀ a, setter a (currentValue a) = a) (desiredValue : T) :
    (d.setIfChanged currentValue desiredValue setter).agent = setter d.agent desiredValue := by
  unfold Draft.setIfChanged
  split
  · rename_i h
    rw [← h, hset]
  · rfl

theorem Draft.dirty_setIfChanged {T : Type} [DecidableEq T] (d : Draft) (currentValue : AgentImpl → T)
    (setter : AgentImpl → T → AgentImpl) (desiredValue : T) :
    (d.setIfChanged currentValue desiredValue setter).dirty = false ↔
      d.dirty = false ∧ currentValue d.agent = desiredValue := by
  unfold Draft.setIfChanged
  split <;> simp [*]

theorem Draft.agent_setWhen (d : Draft) (changed : Prop) [Decidable changed] (setter : AgentImpl → AgentImpl) :
    (d.setWhen changed setter).agent = if changed then setter d.agent else d.agent := by
  unfold Draft.setWhen
  split <;> rfl

theorem Draft.dirty_setWhen (d : Draft) (changed : Prop) [Decidable changed] (setter : AgentImpl → AgentImpl) :
    (d.setWhen changed setter).dirty = false ↔ d.dirty = false ∧ ¬ changed := by
  unfold Draft.setWhen
  split <;> simp [*]

theorem Draft.agent_setWhen_createDate (d : Draft) :
    (d.setWhen (d.agent.createDate = none) (fun a => { a with createDate := some now })).agent =
      { d.agent with createDate := some (d.agent.createDate.getD now) } := by
  obtain ⟨⟨_, _, _, _, _, _, _, createDate, _, _, _, _⟩, _⟩ := d
  cases createDate <;> rfl

theorem Draft.agent_setWhen_eventDate (d : Draft) :
    (d.setWhen (d.agent.eventDate = none) (fun a => { a with eventDate := some now })).agent =
      { d.agent with eventDate := some (d.agent.eventDate.getD now) } := by
  obtain ⟨⟨_, _, _, _, _, _, _, _, _, eventDate, _, _⟩, _⟩ := d
  cases eventDate <;> rfl

theorem Draft.agent_setWhen_agentStatus (d : Draft) (status : AgentStatus) :
    (d.setWhen (d.agent.agentStatus ≠ some status) (fun a => { a with agentStatus := some status })).agent =
      { d.agent with agentStatus := some status } := by
  rw [Draft.agent_setWhen]
  split
  · rfl
  · rename_i h
    rw [← not_not.1 h]

/-- **A draft sets every field it checks**, whether it was as desired or not. -/
theorem agent_draft (existing : Option AgentImpl) : (draft newAgent jid ldapAgent online now existing).agent =
    target jid ldapAgent online now (existing.getD newAgent) := by
  dsimp only [draft]
  rw [Draft.agent_setWhen_agentStatus, Draft.agent_setWhen, Draft.agent_setWhen_eventDate]
  dsimp only
  rw [Draft.agent_setWhen_createDate]
  simp (disch := exact fun _ => rfl) only [Draft.agent_setIfChanged]
  cases online <;> rfl

/-- **A draft is clean when the row is as desired** and the agent is offline. -/
theorem dirty_draft (newAgent : AgentImpl) (existing : Option AgentImpl) :
    (draft newAgent jid ldapAgent online now existing).dirty = false ↔
      online = false ∧ ∃ agent, existing = some agent ∧
        target jid ldapAgent online now agent = { agent with modifyDate := some now } := by
  simp (disch := exact fun _ => rfl) only [draft, Draft.agent_setWhen, Draft.agent_setIfChanged, Draft.dirty_setWhen,
    Draft.dirty_setIfChanged]
  cases existing with
  | none => simp
  | some base =>
    obtain ⟨_, _, _, _, _, _, _, createDate, _, eventDate, _, agentStatus⟩ := base
    cases online with
    | true => simp
    | false => cases createDate <;> cases eventDate <;> simp [target, eq_comm, and_assoc]

theorem nonBlank_some_nonBlank_getD (text : Option JString) {value : JString} (h : isBlank value = false) :
    nonBlank (some ((nonBlank text).getD value)) = some ((nonBlank text).getD value) := by
  cases htext : nonBlank text with
  | none => simp [nonBlank, h]
  | some t =>
    have hblank : isBlank t = false := by simpa using (Option.filter_eq_some_iff.1 htext).2
    simp [nonBlank, hblank]

end

/-! ## What a run leaves -/

section
variable {jid : JString} {ldapAgent : LdapEntry} {online : Bool} {now : Int}

/-- Nothing is left to set while the agent is offline. -/
def Settled (jid : JString) (ldapAgent : LdapEntry) (agent : AgentImpl) : Prop :=
  ∀ now, target jid ldapAgent false now agent = { agent with modifyDate := some now }

/-- A draft of an agent that is offline is settled: a default is not replaced by a default. -/
theorem settled_target (base : AgentImpl) : Settled jid ldapAgent (target jid ldapAgent false now base) := by
  intro later
  have hip : defaultIpAddresses (some (defaultIpAddresses base.ipAddresses)) = defaultIpAddresses base.ipAddresses := by
    rw [defaultIpAddresses, defaultIpAddresses, nonBlank_some_nonBlank_getD _ (by decide), Option.getD_some]
  have hmac : defaultMacAddresses (some (defaultMacAddresses base.macAddresses)) =
      defaultMacAddresses base.macAddresses := by
    rw [defaultMacAddresses, defaultMacAddresses, nonBlank_some_nonBlank_getD _ (by decide), Option.getD_some]
  simp [target, hip, hmac]

theorem settled_of_eq {agent : AgentImpl}
    (h : target jid ldapAgent false now agent = { agent with modifyDate := some now }) :
    Settled jid ldapAgent agent := by
  intro later
  obtain ⟨_, _, _, _, _, _, _, createDate, _, eventDate, _, _⟩ := agent
  cases createDate <;> cases eventDate <;> simp_all [target]

theorem reconciled_target (base : AgentImpl) : Reconciled jid ldapAgent online (target jid ldapAgent online now base) :=
  ⟨rfl, rfl, rfl, rfl, rfl, rfl⟩

namespace ReconcileContext

variable (c : ReconcileContext)

def changeOf (a : JString × LdapEntry) (index : Nat) (existing : Option AgentImpl) : Option AgentImpl :=
  let d := draft c.newAgent a.1 a.2 (c.isOnline a.1) (c.newDate index) existing
  if d.dirty then some d.agent else none

variable {c} {a : JString × LdapEntry} {index : Nat}

theorem changeOf_eq_some {existing : Option AgentImpl} {agent : AgentImpl}
    (h : c.changeOf a index existing = some agent) :
    agent = target a.1 a.2 (c.isOnline a.1) (c.newDate index) (existing.getD c.newAgent) := by
  obtain ⟨-, hagent⟩ := Option.ite_none_right_eq_some.1 h
  exact (Option.some.inj hagent).symm.trans (agent_draft existing)

theorem changeOf_eq_none {existing : Option AgentImpl} : c.changeOf a index existing = none ↔
    c.isOnline a.1 = false ∧ ∃ agent, existing = some agent ∧ target a.1 a.2 (c.isOnline a.1) (c.newDate index) agent =
      { agent with modifyDate := some (c.newDate index) } := by
  rw [← dirty_draft c.newAgent, changeOf]
  simp

variable (c)

/-- What the loop does for an entry, as an upsert of its jid. -/
def upsertOf (a : JString × LdapEntry) (index : Nat) : Upsert AgentImpl.jid where
  target := some a.1
  change := c.changeOf a index
  keyed existing agent h := by
    rw [changeOf_eq_some h]
    rfl
  creates h := by
    obtain ⟨-, _, hnone, -⟩ := changeOf_eq_none.1 h
    cases hnone

def upsertsOf (visits : List (Option LdapEntry × Nat)) : List (Upsert AgentImpl.jid) :=
  visits.filterMap (fun visit => (agentOf visit.1).map (fun a => c.upsertOf a visit.2))

variable {c}

/-- **What an upsert gives is reconciled**; and settled, when the agent is offline. -/
theorem gives_upsertOf {old : Option AgentImpl} {new : AgentImpl} (h : (c.upsertOf a index).Gives old new) :
    Reconciled a.1 a.2 (c.isOnline a.1) new ∧ (c.isOnline a.1 = false → Settled a.1 a.2 new) := by
  rcases h with h | ⟨h, rfl⟩
  · rw [changeOf_eq_some h]
    refine ⟨reconciled_target _, fun hoff => ?_⟩
    rw [hoff]
    exact settled_target _
  · obtain ⟨hoff, agent, hagent, htarget⟩ := changeOf_eq_none.1 h
    obtain rfl := Option.some.inj hagent
    have hrec : Reconciled a.1 a.2 (c.isOnline a.1) (target a.1 a.2 (c.isOnline a.1) (c.newDate index) new) :=
      reconciled_target new
    rw [htarget] at hrec
    rw [hoff] at htarget
    exact ⟨⟨hrec.jid, hrec.dn, hrec.hostname, hrec.password, hrec.deleted, hrec.agentStatus⟩,
      fun _ => settled_of_eq htarget⟩

/-- A settled row of an agent that is offline is not saved. -/
theorem changeOf_of_settled {agent : AgentImpl} (hoff : c.isOnline a.1 = false) (h : Settled a.1 a.2 agent) :
    c.changeOf a index (some agent) = none := by
  refine changeOf_eq_none.2 ⟨hoff, agent, rfl, ?_⟩
  rw [hoff]
  exact h _

variable (c)

/-- The loop skips what has no uid, and saves what changed. -/
theorem reconcileEntry_eq (s : Inventory) (visit : Option LdapEntry × Nat) :
    c.reconcileEntry s visit = match agentOf visit.1 with
      | none => s
      | some a =>
        match c.changeOf a visit.2 ((s.findByJid a.1).head?.map Prod.snd) with
        | none => s
        | some agent => s.save ((s.findByJid a.1).head?.map Prod.fst) agent := by
  unfold reconcileEntry agentOf changeOf
  cases visit.1 with
  | none => rfl
  | some ldapAgent =>
    cases huid : nonBlank ldapAgent.uid with
    | none => simp [huid]
    | some uid =>
      simp only [huid, Option.bind_some, Option.map_some]
      cases (draft _ _ _ _ _ _).dirty <;> rfl

/-- **A run is one upsert an entry.** -/
theorem agents_foldl : ∀ (visits : List (Option LdapEntry × Nat)) (s : Inventory),
    (visits.foldl c.reconcileEntry s).agents = s.agents.upsertAll AgentImpl.jid (c.upsertsOf visits)
  | [], _ => rfl
  | visit :: visits, s => by
    rw [List.foldl_cons, agents_foldl visits, reconcileEntry_eq]
    cases hagent : agentOf visit.1 with
    | none =>
      rw [show c.upsertsOf (visit :: visits) = c.upsertsOf visits from List.filterMap_cons_none (by rw [hagent]; rfl)]
    | some a =>
      rw [show c.upsertsOf (visit :: visits) = c.upsertOf a visit.2 :: c.upsertsOf visits from
        List.filterMap_cons_some (by rw [hagent]; rfl), Table.upsertAll, Table.upsertAll, List.foldl_cons]
      congr 1
      simp only [Table.upsert, upsertOf, Inventory.findByJid]
      cases c.changeOf a visit.2 _ <;> rfl

/-- An entry whose row is settled leaves the run as it is. -/
theorem reconcileEntry_of_settled {s : Inventory} {visit : Option LdapEntry × Nat}
    (hsettled : ∀ a ∈ agentOf visit.1,
      c.isOnline a.1 = false ∧ ∃ row, s.findByJid a.1 = [row] ∧ Settled a.1 a.2 row.2) :
    c.reconcileEntry s visit = s := by
  rw [reconcileEntry_eq]
  cases hagent : agentOf visit.1 with
  | none => rfl
  | some a =>
    obtain ⟨hoff, row, hrow, h⟩ := hsettled a hagent
    simp only [hrow, List.head?_cons, Option.map_some, changeOf_of_settled hoff h]

theorem foldl_of_settled {s : Inventory} : ∀ visits : List (Option LdapEntry × Nat),
    (∀ visit ∈ visits, ∀ a ∈ agentOf visit.1,
      c.isOnline a.1 = false ∧ ∃ row, s.findByJid a.1 = [row] ∧ Settled a.1 a.2 row.2) →
    visits.foldl c.reconcileEntry s = s
  | [], _ => rfl
  | visit :: visits, h => by
    rw [List.foldl_cons, c.reconcileEntry_of_settled (h visit List.mem_cons_self)]
    exact foldl_of_settled visits (fun v hv => h v (List.mem_cons_of_mem _ hv))

/-- The counters of a run add up to what it saved. -/
theorem counters_reconcileFromLdap (agents : Table AgentImpl) (ldapAgents : Except String (List (Option LdapEntry))) :
    (c.reconcileFromLdap agents ldapAgents).created + (c.reconcileFromLdap agents ldapAgents).updated =
      (c.reconcileFromLdap agents ldapAgents).saves.length := by
  have hentry : ∀ (s : Inventory) (visit : Option LdapEntry × Nat), s.created + s.updated = s.saves.length →
      (c.reconcileEntry s visit).created + (c.reconcileEntry s visit).updated =
        (c.reconcileEntry s visit).saves.length := by
    intro s visit h
    rw [reconcileEntry_eq]
    split
    · exact h
    split
    · exact h
    · rw [Inventory.save, List.length_append, List.length_singleton, ← h]
      cases ((s.findByJid _).head?.map Prod.fst).isNone <;> simp <;> omega
  cases ldapAgents with
  | error _ => rfl
  | ok ldapAgents =>
    exact List.foldlRecOn ldapAgents.zipIdx c.reconcileEntry (b := ⟨agents, [], 0, 0⟩)
      (motive := fun s => s.created + s.updated = s.saves.length) rfl (fun s h visit _ => hentry s visit h)

theorem target_upsertsOf (ldapAgents : List (Option LdapEntry)) :
    (c.upsertsOf ldapAgents.zipIdx).map (·.target) = (agentsOf ldapAgents).map (fun a => some a.1) := by
  have hfst : agentsOf ldapAgents = ldapAgents.zipIdx.filterMap (fun visit => agentOf visit.1) := by
    rw [agentsOf]
    conv_lhs => rw [← List.zipIdx_map_fst 0 ldapAgents, List.filterMap_map]
    rfl
  rw [hfst, upsertsOf, List.map_filterMap, List.map_filterMap]
  refine List.filterMap_congr (fun visit _ => ?_)
  cases agentOf visit.1 <;> rfl

theorem exists_target_eq {ldapAgents : List (Option LdapEntry)} {u : Upsert AgentImpl.jid}
    (hu : u ∈ c.upsertsOf ldapAgents.zipIdx) : ∃ a ∈ agentsOf ldapAgents, some a.1 = u.target := by
  have htarget := List.mem_map_of_mem (f := Upsert.target) hu
  rw [target_upsertsOf] at htarget
  exact List.mem_map.1 htarget

theorem exists_upsertOf_mem {ldapAgents : List (Option LdapEntry)} {a : JString × LdapEntry}
    (h : a ∈ agentsOf ldapAgents) : ∃ index, c.upsertOf a index ∈ c.upsertsOf ldapAgents.zipIdx := by
  obtain ⟨ldapAgent, hmem, hagent⟩ := List.mem_filterMap.1 h
  rw [← List.zipIdx_map_fst 0 ldapAgents] at hmem
  obtain ⟨visit, hvisit, rfl⟩ := List.mem_map.1 hmem
  exact ⟨visit.2, List.mem_filterMap.2 ⟨visit, hvisit, by rw [hagent]; rfl⟩⟩

/-- **A run reconciles the rows of its agents**, and settles those that are offline. -/
theorem reconcileFromLdap_row {agents : Table AgentImpl} {ldapAgents : List (Option LdapEntry)}
    (huids : ((agentsOf ldapAgents).map Prod.fst).Nodup)
    (hone : ∀ jid, (agents.withKey AgentImpl.jid (some jid)).length ≤ 1) {a : JString × LdapEntry}
    (ha : a ∈ agentsOf ldapAgents) :
    ∃ row, (c.reconcileFromLdap agents (.ok ldapAgents)).findByJid a.1 = [row] ∧
      Reconciled a.1 a.2 (c.isOnline a.1) row.2 ∧ (c.isOnline a.1 = false → Settled a.1 a.2 row.2) := by
  obtain ⟨index, hmem⟩ := c.exists_upsertOf_mem ha
  have hnodup : ((c.upsertsOf ldapAgents.zipIdx).map (·.target)).Nodup := by
    have hsome := huids.map (fun _ _ => Option.some.inj)
    rw [List.map_map] at hsome
    rw [target_upsertsOf]
    exact hsome
  have hrow := Table.withKey_upsertAll (c.upsertsOf ldapAgents.zipIdx) agents hnodup (fun u hu => by
    obtain ⟨b, -, hb⟩ := c.exists_target_eq hu
    rw [← hb]
    exact hone b.1) _ hmem
  obtain ⟨row, hrow, hgives⟩ := hrow
  refine ⟨row, ?_, gives_upsertOf hgives⟩
  rw [reconcileFromLdap, Inventory.findByJid, agents_foldl]
  exact hrow

end ReconcileContext

end

/-- **A run reconciles the rows of the LDAP agents and nothing else, and a second one while all are offline saves
nothing.** -/
theorem reconcileFromLdap_reconciles (c : ReconcileContext) (agents : Table AgentImpl)
    (ldapAgents : List (Option LdapEntry)) (huids : ((agentsOf ldapAgents).map Prod.fst).Nodup)
    (hone : ∀ jid, (agents.withKey AgentImpl.jid (some jid)).length ≤ 1) :
    (∀ a ∈ agentsOf ldapAgents, ∃ row, (c.reconcileFromLdap agents (.ok ldapAgents)).findByJid a.1 = [row] ∧
        Reconciled a.1 a.2 (c.isOnline a.1) row.2) ∧
      (c.reconcileFromLdap agents (.ok ldapAgents)).agents.rows.filter
          (fun row => row.2.jid ∉ (agentsOf ldapAgents).map (fun a => some a.1)) =
        agents.rows.filter (fun row => row.2.jid ∉ (agentsOf ldapAgents).map (fun a => some a.1)) ∧
      ∀ again : ReconcileContext, (∀ a ∈ agentsOf ldapAgents, c.isOnline a.1 = false ∧ again.isOnline a.1 = false) →
        (again.reconcileFromLdap (c.reconcileFromLdap agents (.ok ldapAgents)).agents (.ok ldapAgents)).saves = [] := by
  refine ⟨fun a ha => ?_, ?_, fun again hoff => ?_⟩
  · obtain ⟨row, hrow, hrec, -⟩ := c.reconcileFromLdap_row huids hone ha
    exact ⟨row, hrow, hrec⟩
  · rw [ReconcileContext.reconcileFromLdap, ReconcileContext.agents_foldl]
    refine Table.filter_upsertAll (p := fun k => decide (k ∉ (agentsOf ldapAgents).map (fun a => some a.1))) _ _
      (fun u hu => ?_)
    obtain ⟨a, ha, htarget⟩ := c.exists_target_eq hu
    exact decide_eq_false (not_not_intro (htarget ▸ List.mem_map_of_mem ha))
  · have hsame := again.foldl_of_settled (s := ⟨(c.reconcileFromLdap agents (.ok ldapAgents)).agents, [], 0, 0⟩)
      ldapAgents.zipIdx (fun visit hvisit a hagent => by
        have ha : a ∈ agentsOf ldapAgents := List.mem_filterMap.2 ⟨_, List.fst_mem_of_mem_zipIdx hvisit, hagent⟩
        obtain ⟨row, hrow, -, hsettled⟩ := c.reconcileFromLdap_row huids hone ha
        exact ⟨(hoff a ha).2, row, hrow, hsettled (hoff a ha).1⟩)
    exact congrArg Inventory.saves hsame

def sampleContext : ReconcileContext where
  newAgent := ⟨none, none, none, none, none, none, none, none, none, none, none, none⟩
  isOnline _ := false
  newDate index := index

def sampleAgents : Table AgentImpl :=
  Table.empty.save none ⟨some (utf16 "ahenk-001".toList), none, none, none, some (utf16 " ".toList), none, some true,
    none, none, none, none, some .Active⟩

def sampleEntry : LdapEntry :=
  ⟨some (utf16 " ahenk-001 ".toList), none, some (utf16 "cn=ahenk-001,ou=Ahenkler".toList), none⟩

theorem sampleAgents_reconciled : ∃ row,
    (sampleContext.reconcileFromLdap sampleAgents (.ok [none, some sampleEntry])).findByJid
      (utf16 "ahenk-001".toList) = [row] ∧ Reconciled (utf16 "ahenk-001".toList) sampleEntry false row.2 :=
  (reconcileFromLdap_reconciles sampleContext sampleAgents [none, some sampleEntry] (by decide)
    (fun _ => List.length_filter_le _ _)).1 (utf16 "ahenk-001".toList, sampleEntry) (by decide)

end Lider.LdapInventory
