import LiderPlatform.Admission
import LiderPlatform.JavaText
/-!
# TaskDispatch — tasks sent to agents (`tr.org.lider.services.TaskService`)

`execute` collects the entries a task request names, the agents listed in it and the members of its groups, and sends
each of them the task.  A group member is looked for among the entries collected so far before it is added; an agent
listed in the request is not.  `execute_atMostOnce_iff` says for which requests no agent gets the task twice.
-/
namespace Lider.TaskService

open Java Admission

/-! ## The entries and the services -/

/-- The kinds of entries the code tells apart, and any other. -/
inductive DNType where
  | ahenk
  | group
  | organizationalUnit
  | other (name : JString)
deriving DecidableEq, Repr

/-- The statuses the code tells apart, and any other. -/
inductive AgentStatus where
  | active
  | passive
  | other (name : JString)
deriving DecidableEq, Repr

structure LdapEntry where
  distinguishedName : Option JString
  type : Option DNType
  uid : Option JString
  attributes : Option (List (JString × JString))
  attributesMultiValues : Option (List (JString × List JString))
deriving DecidableEq, Repr

structure AgentImpl where
  agentStatus : Option AgentStatus
deriving DecidableEq, Repr

structure PluginImpl where
  usesFileTransfer : Bool
deriving DecidableEq, Repr

structure PluginTask where
  plugin : Option PluginImpl
  commandId : Option JString
  taskParts : Bool
  entryList : List LdapEntry
  dnList : List JString
  dnType : Option DNType
deriving DecidableEq, Repr

structure TaskImpl where
  plugin : Option PluginImpl
  commandClsId : Option JString
  taskParts : Bool
deriving DecidableEq, Repr

structure CommandImpl where
  task : TaskImpl
  dnList : List JString
  dnType : Option DNType
  uidList : List JString
  commandOwnerUid : Option JString
deriving DecidableEq, Repr

structure CommandExecutionImpl where
  uid : Option JString
  dnType : Option DNType
  dn : Option JString
  online : Bool
  commandSend : Bool
deriving DecidableEq, Repr

/-- `fileServerConf`: whether a file server configuration goes with the message. -/
structure ExecuteTaskMessageImpl where
  task : Option JString
  uid : JString
  fileServerConf : Bool
deriving DecidableEq, Repr

inductive LdapException where
  | ldapException
deriving DecidableEq, Repr

inductive SearchScope where
  | object
  | oneLevel
  | subtree
deriving DecidableEq, Repr

inductive Failure where
  | runtimeException
  | nullPointerException
  | indexOutOfBoundsException
deriving DecidableEq, Repr

/-- The services behind `TaskService`.  They answer one question in one way throughout a request; `none` is `null`. -/
structure Services where
  agentLdapJidAttribute : Option JString
  xmppServiceName : JString
  getEntry : Option JString → List JString → Except LdapException (Option LdapEntry)
  search : Option JString → JString → List (Option JString) → Except LdapException (List LdapEntry)
  findSubEntries : JString → JString → List JString → SearchScope → Except LdapException (Option (List LdapEntry))
  getGroupInGroupsTask : LdapEntry → List JString
  getLdapDnStringToEntry : List JString → List LdapEntry
  isExistInLdapEntry : List LdapEntry → LdapEntry → Bool
  isAhenk : LdapEntry → Bool
  findByJid : Option JString → Option (List AgentImpl)
  isRecipientOnline : JString → Bool
  /-- `taskRepository.save`. -/
  save : TaskImpl → TaskImpl
  toJson : TaskImpl → Option JString
  /-- The names of the plugin tasks of a command id. -/
  findPluginTaskByCommandID : Option JString → Option (List (Option JString))
  /-- Whether `new CommandImpl(..)` can write its lists as JSON. -/
  commandJson : CommandImpl → Bool
  loggedUser : Option JString

variable (S : Services)

def text (s : String) : JString := utf16 s.toList

/-- A reference in a string concatenation. -/
def shown (s : Option JString) : JString := s.getD (text "null")

/-! ## The source -/

def LdapEntry.get (entry : LdapEntry) (name : JString) : Option JString :=
  entry.attributes.bind (fun attributes => attributes.lookup name)

/-- The uid of an entry itself, or its attribute for the uid. -/
def ownUid (entry : LdapEntry) : Option JString :=
  match entry.uid.filter (fun uid => !isBlank uid) with
  | some uid => some (trim uid)
  | none => ((S.agentLdapJidAttribute.bind entry.get).filter (fun uid => !isBlank uid)).map trim

def resolveAgentUid (entry : LdapEntry) : Option JString :=
  match ownUid S entry with
  | some uid => some uid
  | none =>
    match entry.distinguishedName with
    | none => none
    | some dn =>
      if isBlank dn then none
      else
        match S.getEntry (some dn) [text "*"] with
        | .error _ => none
        | .ok none => none
        | .ok (some fullEntry) => ownUid S fullEntry

def selectAgent (targetEntries : List LdapEntry) (ldapEntry : LdapEntry) : Except Failure (List LdapEntry) :=
  match (resolveAgentUid S ldapEntry).filter (fun uid => !isBlank uid) with
  | none => .ok targetEntries
  | some selectedUid =>
    match S.findByJid (some selectedUid) with
    | none => .ok targetEntries
    | some [] => .ok targetEntries
    | some (agent :: _) =>
      if agent.agentStatus = some .active then
        match S.getEntry ldapEntry.distinguishedName [] with
        | .error _ => .error .runtimeException
        | .ok none => .ok targetEntries
        | .ok (some _) =>
          match S.search S.agentLdapJidAttribute selectedUid [S.agentLdapJidAttribute] with
          | .error _ => .error .runtimeException
          | .ok [] => .ok targetEntries
          | .ok (_ :: _) => .ok (targetEntries ++ [ldapEntry])
      else .ok targetEntries

/-- `findSubEntries(dn, "(objectclass=pardusDevice)", {"*"}, SearchScope.OBJECT)`. -/
def findDevice (dn : JString) : Except LdapException (Option (List LdapEntry)) :=
  S.findSubEntries dn (text "(objectclass=pardusDevice)") [text "*"] .object

/-- One turn of the loop over the members of a group. -/
def selectMember (targetEntries : List LdapEntry) (dn : JString) : Except Failure (List LdapEntry) :=
  match findDevice S dn with
  | .error _ => .ok targetEntries
  | .ok none => .ok targetEntries
  | .ok (some []) => .ok targetEntries
  | .ok (some (member :: _)) =>
    if S.isExistInLdapEntry targetEntries member then .ok targetEntries
    else
      match S.findByJid member.uid with
      | none => .error .nullPointerException
      | some [] => .error .indexOutOfBoundsException
      | some (agent :: _) =>
        match agent.agentStatus with
        | none => .error .nullPointerException
        | some status => if status = .passive then .ok targetEntries else .ok (targetEntries ++ [member])

def LdapEntry.members (entry : LdapEntry) : Option (List JString) :=
  entry.attributesMultiValues.bind (fun attributes => attributes.lookup (text "member"))

/-- One turn of the loop over the groups of a group entry; the entry looked up is the one of the request. -/
def selectGroup (ldapEntry : LdapEntry) (targetEntries : List LdapEntry) (ldapEntryGroup : LdapEntry) :
    Except Failure (List LdapEntry) :=
  match S.getEntry ldapEntry.distinguishedName [] with
  | .error _ => .error .runtimeException
  | .ok none => .ok targetEntries
  | .ok (some _) =>
    match ldapEntryGroup.members with
    | none => .error .nullPointerException
    | some members => members.foldlM (selectMember S) targetEntries

def ldapEntryGroups (ldapEntry : LdapEntry) : List LdapEntry :=
  S.getLdapDnStringToEntry (S.getGroupInGroupsTask ldapEntry)

def selectEntry (targetEntries : List LdapEntry) (ldapEntry : LdapEntry) : Except Failure (List LdapEntry) :=
  match ldapEntry.type with
  | none => .error .nullPointerException
  | some .ahenk => selectAgent S targetEntries ldapEntry
  | some .group => (ldapEntryGroups S ldapEntry).foldlM (selectGroup S ldapEntry) targetEntries
  | some .organizationalUnit => .ok targetEntries
  | some (.other _) => .ok targetEntries

def getTargetList (request : PluginTask) : Except Failure (List LdapEntry) :=
  request.entryList.foldlM (selectEntry S) []

def getFullJid (jid : JString) : JString :=
  if isBlank jid then jid
  else if (0x40 : UInt16) ∈ jid then jid
  else jid ++ text "@" ++ S.xmppServiceName

def logMessage (request : PluginTask) (task : TaskImpl) : JString :=
  let commandIdForLog :=
    match S.findPluginTaskByCommandID task.commandClsId with
    | some (name :: _) => name
    | _ => task.commandClsId
  match request.entryList with
  | [] => []  -- there is a first entry, since there is a target
  | first :: _ =>
    if first.type = some .group ∧ task.taskParts = true then
      text "[ " ++ shown commandIdForLog ++ text " ] task was sent to the  [ " ++ shown first.distinguishedName ++
        text " ] client group in parts."
    else if task.taskParts = true then []  -- the text for a task in parts stays empty
    else
      text "[ " ++ shown commandIdForLog ++ text " ] task sent to  [ " ++ shown first.distinguishedName ++
        text " ] client group."

/-- What a request leaves behind: the log, the commands, the messages handed to the messaging service, the executions
handed to the command service and those put on the command. -/
structure Dispatched where
  log : List JString
  commands : List CommandImpl
  messages : List ExecuteTaskMessageImpl
  executions : List CommandExecutionImpl
  commandExecutions : List CommandExecutionImpl
deriving DecidableEq, Repr

def Dispatched.nothing : Dispatched := ⟨[], [], [], [], []⟩

def targetUid (entry : LdapEntry) : Option JString :=
  (if S.isAhenk entry then resolveAgentUid S entry else none).map trim

def executionFor (task : TaskImpl) (entry : LdapEntry) : CommandExecutionImpl where
  uid := targetUid S entry
  dnType := entry.type
  dn := entry.distinguishedName
  online := (targetUid S entry).any (fun uid => S.isRecipientOnline (getFullJid S uid))
  commandSend := !task.taskParts

/-- `command.addCommandExecution(execution)`. -/
def Dispatched.onCommand (d : Dispatched) (execution : CommandExecutionImpl) : Dispatched :=
  { d with commandExecutions := d.commandExecutions ++ [execution] }

/-- `commandService.addCommandExecution(execution)`. -/
def Dispatched.addExecution (d : Dispatched) (execution : CommandExecutionImpl) : Dispatched :=
  { d with executions := d.executions ++ [execution] }

/-- `messagingService.sendMessage(message)`; the exceptions it declares are printed and nothing more. -/
def Dispatched.sendMessage (d : Dispatched) (message : ExecuteTaskMessageImpl) : Dispatched :=
  { d with messages := d.messages ++ [message] }

def dispatchTarget (request : PluginTask) (task : TaskImpl) (command : Option CommandImpl) (d : Dispatched)
    (entry : LdapEntry) : Except Failure Unit × Dispatched :=
  match entry.type, command with
  | none, _ => (.error .nullPointerException, d)
  | some _, none => (.error .nullPointerException, d)
  | some _, some _ =>
    let execution := executionFor S task entry
    let d := d.onCommand execution
    if S.isAhenk entry then
      match (targetUid S entry).filter (fun uid => !uid.isEmpty) with
      | none => (.ok (), d)  -- `continue`
      | some uid =>
        match request.plugin with
        | none => (.error .nullPointerException, d)
        | some plugin =>
          let d := if task.taskParts then d else d.sendMessage ⟨S.toJson task, uid, plugin.usesFileTransfer⟩
          (.ok (), d.addExecution execution)
    else (.ok (), d.addExecution execution)

def dispatchAll (request : PluginTask) (task : TaskImpl) (command : Option CommandImpl) (d : Dispatched) :
    List LdapEntry → Except Failure Unit × Dispatched
  | [] => (.ok (), d)
  | entry :: entries =>
    match dispatchTarget S request task command d entry with
    | (.error e, d) => (.error e, d)
    | (.ok (), d) => dispatchAll request task command d entries

def uidList (targetEntries : List LdapEntry) : List JString :=
  targetEntries.filterMap fun entry =>
    if S.isAhenk entry then (resolveAgentUid S entry).filter (fun uid => !isBlank uid) else none

/-- The command, or `null` when its constructor throws. -/
def newCommand (request : PluginTask) (task : TaskImpl) (targetEntries : List LdapEntry) : Option CommandImpl :=
  let command : CommandImpl := ⟨task, request.dnList, request.dnType, uidList S targetEntries, S.loggedUser⟩
  if S.commandJson command then some command else none

inductive RestResponseStatus where
  | ok
  | error
deriving DecidableEq, Repr

structure RestResponse where
  status : RestResponseStatus
  message : String
deriving DecidableEq, Repr

def execute (request : PluginTask) : Except Failure RestResponse × Dispatched :=
  match getTargetList S request with
  | .error e => (.error e, .nothing)
  | .ok [] =>
    (.ok ⟨.error, "Yetkili olmadığınız bir hedefe görev gönderemezsiniz. İstemci bulunamadı."⟩, .nothing)
  | .ok (target :: targets) =>
    let task := S.save ⟨request.plugin, request.commandId, request.taskParts⟩
    let command := newCommand S request task (target :: targets)
    let d : Dispatched := ⟨[logMessage S request task], command.toList, [], [], []⟩
    match dispatchAll S request task command d (target :: targets) with
    | (.error e, d) => (.error e, d)
    | (.ok (), d) => (.ok ⟨.ok, "Task Basarı ile Gonderildi."⟩, d)

/-! ## What a request names -/

/-- The uid under which an entry gets the task. -/
def agentUid (entry : LdapEntry) : Option JString := (targetUid S entry).filter (fun uid => !uid.isEmpty)

def known (entry : LdapEntry) : Bool :=
  match S.getEntry entry.distinguishedName [] with
  | .ok (some _) => true
  | _ => false

def searched (uid : JString) : Bool :=
  match S.search S.agentLdapJidAttribute uid [S.agentLdapJidAttribute] with
  | .ok (_ :: _) => true
  | _ => false

def statusOf (uid : Option JString) : Option AgentStatus :=
  ((S.findByJid uid).bind List.head?).bind AgentImpl.agentStatus

/-- Whether an agent listed in a request becomes a target: it has a uid, is active, and the directory knows both. -/
def selectable (entry : LdapEntry) : Bool :=
  match (resolveAgentUid S entry).filter (fun uid => !isBlank uid) with
  | none => false
  | some uid =>
    statusOf S (some uid) = some .active && known S entry && searched S uid

/-- The device behind a member of a group, unless it is passive. -/
def memberOffers (dn : JString) : List (Offer LdapEntry) :=
  match findDevice S dn with
  | .ok (some (member :: _)) => if statusOf S member.uid = some .passive then [] else [⟨member, false⟩]
  | _ => []

/-- The entries one entry of a request offers: itself, or the members of its groups; only these are looked for. -/
def offersOf (entry : LdapEntry) : List (Offer LdapEntry) :=
  match entry.type with
  | some .ahenk => if selectable S entry then [⟨entry, true⟩] else []
  | some .group =>
    if known S entry then
      (ldapEntryGroups S entry).flatMap fun ldapEntryGroup => (ldapEntryGroup.members.getD []).flatMap (memberOffers S)
    else []
  | _ => []

def offers (request : PluginTask) : List (Offer LdapEntry) := request.entryList.flatMap (offersOf S)

/-- **The services answer consistently**: the directory answers for the entries of the request, its groups have their
members, every device among these has a type and an agent record with a status, `isExistInLdapEntry` looks for an entry
by its identity, and the lists of a command can be written as JSON. -/
structure Consistent {ι : Type} (identity : LdapEntry → ι) (request : PluginTask) : Prop where
  entry : ∀ e ∈ request.entryList, ∃ found, S.getEntry e.distinguishedName [] = .ok found
  search : ∀ uid, ∃ found, S.search S.agentLdapJidAttribute uid [S.agentLdapJidAttribute] = .ok found
  group : ∀ e ∈ request.entryList, e.type = some .group → ∀ g ∈ ldapEntryGroups S e, ∃ dns, g.members = some dns ∧
    ∀ dn ∈ dns, ∀ member rest, findDevice S dn = .ok (some (member :: rest)) →
      member.type ≠ none ∧ ∃ agent agents, S.findByJid member.uid = some (agent :: agents) ∧ agent.agentStatus ≠ none
  exist : ∀ targets e, S.isExistInLdapEntry targets e = true ↔ ∃ t ∈ targets, identity t = identity e
  command : ∀ command, S.commandJson command = true

/-! ## The target list -/

section
variable {S} {ι : Type} [DecidableEq ι] {identity : LdapEntry → ι}

theorem selectAgent_eq {entry : LdapEntry} (hentry : ∃ found, S.getEntry entry.distinguishedName [] = .ok found)
    (hsearch : ∀ uid, ∃ found, S.search S.agentLdapJidAttribute uid [S.agentLdapJidAttribute] = .ok found)
    (targets : List LdapEntry) :
    selectAgent S targets entry =
      .ok (acceptAll identity targets (if selectable S entry then [⟨entry, true⟩] else [])) := by
  obtain ⟨found, hfound⟩ := hentry
  rw [selectAgent, selectable]
  cases (resolveAgentUid S entry).filter (fun uid => !isBlank uid) with
  | none => rfl
  | some uid =>
    obtain ⟨answer, hanswer⟩ := hsearch uid
    rcases hfind : S.findByJid (some uid) with _ | _ | ⟨agent, agents⟩
    · simp [statusOf, hfind]
    · simp [statusOf, hfind]
    · by_cases hactive : agent.agentStatus = some .active
      · cases found with
        | none => simp [statusOf, known, hfind, hactive, hfound]
        | some full => cases answer <;> simp [statusOf, known, searched, hfind, hactive, hfound, hanswer, accept_always]
      · simp [statusOf, hfind, hactive]

theorem selectMember_eq
    (hexist : ∀ targets e, S.isExistInLdapEntry targets e = true ↔ ∃ t ∈ targets, identity t = identity e)
    {dn : JString} (hdevice : ∀ member rest, findDevice S dn = .ok (some (member :: rest)) →
      ∃ agent agents, S.findByJid member.uid = some (agent :: agents) ∧ agent.agentStatus ≠ none)
    (targets : List LdapEntry) : selectMember S targets dn = .ok (acceptAll identity targets (memberOffers S dn)) := by
  rw [selectMember, memberOffers]
  rcases hfound : findDevice S dn with _ | _ | _ | ⟨member, rest⟩
  · rfl
  · rfl
  · rfl
  · obtain ⟨agent, agents, hagent, hstatus⟩ := hdevice member rest hfound
    obtain ⟨status, hstatus⟩ := Option.ne_none_iff_exists'.1 hstatus
    have hany : targets.any (fun t => identity t = identity member) = S.isExistInLdapEntry targets member := by
      rw [Bool.eq_iff_iff, hexist]
      simp
    simp only [statusOf, hagent, Option.bind_some, List.head?_cons, hstatus, Option.some.injEq]
    by_cases hpassive : status = .passive
    · simp [hpassive]
    · rw [if_neg hpassive, if_neg hpassive, acceptAll_cons, acceptAll_nil, accept, hany]
      split <;> simp_all

theorem selectEntry_eq {request : PluginTask} (h : Consistent S identity request) {entry : LdapEntry}
    (hmem : entry ∈ request.entryList) (htype : entry.type ≠ none) (targets : List LdapEntry) :
    selectEntry S targets entry = .ok (acceptAll identity targets (offersOf S entry)) := by
  obtain ⟨type, htype⟩ := Option.ne_none_iff_exists'.1 htype
  rw [selectEntry, offersOf, htype]
  cases type with
  | ahenk => exact selectAgent_eq (h.entry entry hmem) h.search targets
  | organizationalUnit => rfl
  | other name => rfl
  | group =>
    have hgroup : ∀ g ∈ ldapEntryGroups S entry, ∀ kept, selectGroup S entry kept g =
        .ok (acceptAll identity kept (if known S entry then (g.members.getD []).flatMap (memberOffers S) else [])) := by
      intro g hg kept
      obtain ⟨found, hfound⟩ := h.entry entry hmem
      obtain ⟨dns, hdns, hdevice⟩ := h.group entry hmem htype g hg
      rw [selectGroup, known, hfound, hdns]
      cases found with
      | none => rfl
      | some full =>
        exact foldlM_acceptAll identity dns (fun dn hdn kept => selectMember_eq h.exist
          (fun member rest hmember => (hdevice dn hdn member rest hmember).2) kept) kept
    have hrun := foldlM_acceptAll identity (ldapEntryGroups S entry) hgroup targets
    cases hknown : known S entry with
    | true => simpa only [hknown, if_true] using hrun
    | false =>
      have hnil : (ldapEntryGroups S entry).flatMap (fun _ => ([] : List (Offer LdapEntry))) = [] :=
        List.flatMap_eq_nil_iff.2 (fun _ _ => rfl)
      simpa [hknown, hnil] using hrun

/-- **The target list is what the offers leave.** -/
theorem getTargetList_eq {request : PluginTask} (h : Consistent S identity request)
    (htypes : ∀ e ∈ request.entryList, e.type ≠ none) :
    getTargetList S request = .ok (acceptAll identity [] (offers S request)) :=
  foldlM_acceptAll identity request.entryList (fun entry hentry => selectEntry_eq h hentry (htypes entry hentry)) []

theorem getTargetList_untyped {request : PluginTask} {entry : LdapEntry} (hmem : entry ∈ request.entryList)
    (htype : entry.type = none) : ∃ failure, getTargetList S request = .error failure := by
  obtain ⟨before, after, hsplit⟩ := List.append_of_mem hmem
  have hfail : ∀ targets, selectEntry S targets entry = .error .nullPointerException := fun targets => by
    rw [selectEntry, htype]
  rw [getTargetList, hsplit, List.foldlM_append]
  cases hbefore : before.foldlM (selectEntry S) [] with
  | error failure => exact ⟨failure, rfl⟩
  | ok targets =>
    refine ⟨.nullPointerException, ?_⟩
    change (entry :: after).foldlM (selectEntry S) targets = _
    rw [List.foldlM_cons, hfail]
    rfl

theorem type_of_mem_memberOffers {dn : JString} (hdevice : ∀ member rest,
    findDevice S dn = .ok (some (member :: rest)) → member.type ≠ none) {o : Offer LdapEntry}
    (ho : o ∈ memberOffers S dn) : o.value.type ≠ none := by
  rw [memberOffers] at ho
  split at ho
  · rename_i member rest hfound
    split at ho
    · cases ho
    · rw [List.mem_singleton.1 ho]
      exact hdevice member rest hfound
  · cases ho

omit [DecidableEq ι] in
theorem type_of_mem_offers {request : PluginTask} (h : Consistent S identity request)
    {o : Offer LdapEntry} (ho : o ∈ offers S request) : o.value.type ≠ none := by
  obtain ⟨entry, hentry, ho⟩ := List.mem_flatMap.1 ho
  rw [offersOf] at ho
  split at ho
  · rename_i htype
    split at ho
    · rw [List.mem_singleton.1 ho, htype]
      simp
    · cases ho
  · rename_i htype
    split at ho
    · obtain ⟨g, hg, ho⟩ := List.mem_flatMap.1 ho
      obtain ⟨dns, hdns, hdevice⟩ := h.group entry hentry htype g hg
      rw [hdns] at ho
      obtain ⟨dn, hdn, ho⟩ := List.mem_flatMap.1 ho
      exact type_of_mem_memberOffers (fun member rest hmember => (hdevice dn hdn member rest hmember).1) ho
    · cases ho
  · cases ho

end

/-! ## The dispatch -/

namespace Dispatched

variable (d : Dispatched) (uid : JString)

def messagesTo : Nat := d.messages.countP (fun message => message.uid = uid)

def executionsOf : Nat := d.executions.countP (fun execution => execution.uid = some uid)

def commandExecutionsOf : Nat := d.commandExecutions.countP (fun execution => execution.uid = some uid)

/-- **No agent gets the task twice**: one message and one execution at most for each uid. -/
def AtMostOnce : Prop :=
  ∀ uid, uid ≠ [] → d.messagesTo uid ≤ 1 ∧ d.executionsOf uid ≤ 1 ∧ d.commandExecutionsOf uid ≤ 1

@[simp] theorem messagesTo_onCommand (x : CommandExecutionImpl) :
    (d.onCommand x).messagesTo uid = d.messagesTo uid := rfl

@[simp] theorem messagesTo_addExecution (x : CommandExecutionImpl) :
    (d.addExecution x).messagesTo uid = d.messagesTo uid := rfl

@[simp] theorem messagesTo_sendMessage (m : ExecuteTaskMessageImpl) :
    (d.sendMessage m).messagesTo uid = d.messagesTo uid + if m.uid = uid then 1 else 0 := by
  simp [messagesTo, sendMessage, List.countP_cons]

@[simp] theorem executionsOf_onCommand (x : CommandExecutionImpl) :
    (d.onCommand x).executionsOf uid = d.executionsOf uid := rfl

@[simp] theorem executionsOf_addExecution (x : CommandExecutionImpl) :
    (d.addExecution x).executionsOf uid = d.executionsOf uid + if x.uid = some uid then 1 else 0 := by
  simp [executionsOf, addExecution, List.countP_cons]

@[simp] theorem executionsOf_sendMessage (m : ExecuteTaskMessageImpl) :
    (d.sendMessage m).executionsOf uid = d.executionsOf uid := rfl

@[simp] theorem commandExecutionsOf_onCommand (x : CommandExecutionImpl) :
    (d.onCommand x).commandExecutionsOf uid = d.commandExecutionsOf uid + if x.uid = some uid then 1 else 0 := by
  simp [commandExecutionsOf, onCommand, List.countP_cons]

@[simp] theorem commandExecutionsOf_addExecution (x : CommandExecutionImpl) :
    (d.addExecution x).commandExecutionsOf uid = d.commandExecutionsOf uid := rfl

@[simp] theorem commandExecutionsOf_sendMessage (m : ExecuteTaskMessageImpl) :
    (d.sendMessage m).commandExecutionsOf uid = d.commandExecutionsOf uid := rfl

end Dispatched

section
variable {request : PluginTask} (task : TaskImpl)

theorem executionFor_uid_iff (entry : LdapEntry) {uid : JString} (huid : uid ≠ []) :
    (executionFor S task entry).uid = some uid ↔ agentUid S entry = some uid := by
  rw [executionFor, agentUid, Option.filter_eq_some_iff]
  simp [huid]

variable {S} in
theorem agentUid_eq_none {entry : LdapEntry} (h : S.isAhenk entry = false) : agentUid S entry = none := by
  simp [agentUid, targetUid, h]

/-- **One target**: one more execution for its uid, and one more message at most. -/
theorem dispatchTarget_counts {plugin : PluginImpl} (hplugin : request.plugin = some plugin) (command : CommandImpl)
    (d : Dispatched) {entry : LdapEntry} (htype : entry.type ≠ none) :
    ∃ d', dispatchTarget S request task (some command) d entry = (.ok (), d') ∧ ∀ uid, uid ≠ [] →
      d'.messagesTo uid ≤ d.messagesTo uid + (if agentUid S entry = some uid then 1 else 0) ∧
      d'.executionsOf uid = d.executionsOf uid + (if agentUid S entry = some uid then 1 else 0) ∧
      d'.commandExecutionsOf uid = d.commandExecutionsOf uid + (if agentUid S entry = some uid then 1 else 0) := by
  obtain ⟨type, htype⟩ := Option.ne_none_iff_exists'.1 htype
  simp only [dispatchTarget, htype]
  cases hahenk : S.isAhenk entry with
  | false =>
    refine ⟨_, rfl, fun uid huid => ?_⟩
    have hexecution := executionFor_uid_iff S task entry huid
    simp [hexecution, agentUid_eq_none hahenk]
  | true =>
    cases hfilter : (targetUid S entry).filter (fun uid => !uid.isEmpty) with
    | none =>
      -- the execution stays on the command, under no agent's uid
      refine ⟨_, rfl, fun uid huid => ?_⟩
      have hnone : agentUid S entry = none := hfilter
      have hexecution := executionFor_uid_iff S task entry huid
      simp [hexecution, hnone]
    | some agent =>
      have hsome : agentUid S entry = some agent := hfilter
      rw [hplugin]
      refine ⟨_, rfl, fun uid huid => ?_⟩
      have hexecution := executionFor_uid_iff S task entry huid
      cases task.taskParts <;> simp [hexecution, hsome]

/-- **All targets**: as many executions for a uid as targets have it. -/
theorem dispatchAll_counts {plugin : PluginImpl} (hplugin : request.plugin = some plugin) (command : CommandImpl)
    (entries : List LdapEntry) : ∀ d : Dispatched, (∀ entry ∈ entries, entry.type ≠ none) →
      ∃ d', dispatchAll S request task (some command) d entries = (.ok (), d') ∧ ∀ uid, uid ≠ [] →
        d'.messagesTo uid ≤ d.messagesTo uid + (entries.filterMap (agentUid S)).count uid ∧
        d'.executionsOf uid = d.executionsOf uid + (entries.filterMap (agentUid S)).count uid ∧
        d'.commandExecutionsOf uid = d.commandExecutionsOf uid + (entries.filterMap (agentUid S)).count uid := by
  induction entries with
  | nil => exact fun d _ => ⟨d, rfl, fun uid _ => by simp⟩
  | cons entry entries ih =>
    intro d htypes
    obtain ⟨d₁, hturn, hcounts₁⟩ := dispatchTarget_counts S task hplugin command d
      (htypes entry List.mem_cons_self)
    obtain ⟨d₂, hrest, hcounts₂⟩ := ih d₁ (fun e he => htypes e (List.mem_cons_of_mem _ he))
    refine ⟨d₂, ?_, fun uid huid => ?_⟩
    · rw [dispatchAll, hturn]
      exact hrest
    · obtain ⟨hm₁, he₁, hc₁⟩ := hcounts₁ uid huid
      obtain ⟨hm₂, he₂, hc₂⟩ := hcounts₂ uid huid
      have hcount : ((entry :: entries).filterMap (agentUid S)).count uid =
          (if agentUid S entry = some uid then 1 else 0) + (entries.filterMap (agentUid S)).count uid := by
        rw [List.filterMap_cons]
        cases agentUid S entry with
        | none => simp
        | some agent => simp [List.count_cons, Nat.add_comm]
      omega

/-- Without a plugin a target adds nothing to what is sent and recorded; an agent's execution is put on the command, and
the loop stops. -/
theorem dispatchTarget_noPlugin (hplugin : request.plugin = none) (command : Option CommandImpl) (d : Dispatched)
    (entry : LdapEntry) {uid : JString} (huid : uid ≠ []) :
    ∃ result d', dispatchTarget S request task command d entry = (result, d') ∧ d'.messagesTo uid = d.messagesTo uid ∧
      d'.executionsOf uid = d.executionsOf uid ∧
      ((∃ failure, result = .error failure ∧ d'.commandExecutionsOf uid ≤ d.commandExecutionsOf uid + 1) ∨
        (result = .ok () ∧ d'.commandExecutionsOf uid = d.commandExecutionsOf uid)) := by
  have hexecution := executionFor_uid_iff S task entry huid
  unfold dispatchTarget
  split
  · exact ⟨_, d, rfl, rfl, rfl, .inl ⟨_, rfl, by omega⟩⟩
  · exact ⟨_, d, rfl, rfl, rfl, .inl ⟨_, rfl, by omega⟩⟩
  · cases hahenk : S.isAhenk entry with
    | false => exact ⟨_, _, rfl, rfl, by simp [hexecution, agentUid_eq_none hahenk], .inr ⟨rfl, by
        simp [hexecution, agentUid_eq_none hahenk]⟩⟩
    | true =>
      cases hfilter : (targetUid S entry).filter (fun uid => !uid.isEmpty) with
      | none =>
        have hnone : agentUid S entry = none := hfilter
        exact ⟨_, _, rfl, rfl, rfl, .inr ⟨rfl, by simp [hexecution, hnone]⟩⟩
      | some agent =>
        rw [hplugin]
        refine ⟨_, _, rfl, rfl, rfl, .inl ⟨_, rfl, ?_⟩⟩
        rw [Dispatched.commandExecutionsOf_onCommand]
        split <;> omega

theorem dispatchAll_noPlugin (hplugin : request.plugin = none) (command : Option CommandImpl) {uid : JString}
    (huid : uid ≠ []) (entries : List LdapEntry) : ∀ d : Dispatched,
      (dispatchAll S request task command d entries).2.messagesTo uid = d.messagesTo uid ∧
      (dispatchAll S request task command d entries).2.executionsOf uid = d.executionsOf uid ∧
      (dispatchAll S request task command d entries).2.commandExecutionsOf uid ≤ d.commandExecutionsOf uid + 1 := by
  induction entries with
  | nil => exact fun d => ⟨rfl, rfl, Nat.le_succ _⟩
  | cons entry entries ih =>
    intro d
    obtain ⟨result, d', hturn, hmessages, hexecutions, hcommand⟩ :=
      dispatchTarget_noPlugin S task hplugin command d entry huid
    rw [dispatchAll, hturn, ← hmessages, ← hexecutions]
    rcases hcommand with ⟨failure, rfl, hle⟩ | ⟨rfl, heq⟩
    · exact ⟨rfl, rfl, hle⟩
    · rw [← heq]
      exact ih d'

end

/-! ## An office with two agents and two groups -/

def agentEntry (uid : JString) : LdapEntry where
  distinguishedName := some (0x3D :: uid)
  type := some .ahenk
  uid := some uid
  attributes := none
  attributesMultiValues := none

def groupEntry (name : JString) (members : List JString) : LdapEntry where
  distinguishedName := some name
  type := some .group
  uid := none
  attributes := none
  attributesMultiValues := some [(text "member", members.map (0x3D :: ·))]

def directory : List LdapEntry :=
  [agentEntry [0x61], agentEntry [0x62], groupEntry [0x67] [[0x61], [0x62]], groupEntry [0x68] [[0x61]]]

def office : Services where
  agentLdapJidAttribute := some (text "uid")
  xmppServiceName := text "im.example"
  getEntry := fun dn _ => .ok (directory.find? (fun e => e.distinguishedName = dn))
  search := fun _ uid _ => .ok (directory.filter (fun e => e.uid = some uid))
  findSubEntries := fun dn _ _ _ =>
    .ok (some (directory.filter (fun e => e.distinguishedName = some dn ∧ e.type = some .ahenk)))
  getGroupInGroupsTask := fun e => e.distinguishedName.toList
  getLdapDnStringToEntry := fun dns => directory.filter (fun e => e.distinguishedName.any (fun dn => dn ∈ dns))
  isExistInLdapEntry := fun targets e => targets.any (fun t => t.distinguishedName = e.distinguishedName)
  isAhenk := fun e => e.type = some .ahenk
  findByJid := fun uid => some (if uid = some [0x61] ∨ uid = some [0x62] then [⟨some .active⟩] else [])
  isRecipientOnline := fun _ => true
  save := id
  toJson := fun _ => some (text "\x7b\x7d")
  findPluginTaskByCommandID := fun _ => some []
  commandJson := fun _ => true
  loggedUser := none

def requestFor (entries : List LdapEntry) : PluginTask := ⟨some ⟨false⟩, none, false, entries, [], none⟩

theorem office_consistent {entries : List LdapEntry} (h : ∀ e ∈ entries, e ∈ directory) :
    Consistent office LdapEntry.distinguishedName (requestFor entries) where
  entry := fun _ _ => ⟨_, rfl⟩
  search := fun _ => ⟨_, rfl⟩
  exist := fun targets e => by simp [office]
  command := fun _ => rfl
  group := by
    intro e he htype g hg
    have hmembers : ∀ e ∈ directory, e.type = some .group → ∀ g ∈ ldapEntryGroups office e, g.members ≠ none := by
      decide
    have hagents : ∀ m ∈ directory, m.type = some .ahenk → m.type ≠ none ∧
        office.findByJid m.uid = some [⟨some .active⟩] := by decide
    obtain ⟨dns, hdns⟩ := Option.ne_none_iff_exists'.1 (hmembers e (h e he) htype g hg)
    refine ⟨dns, hdns, fun dn _ member rest hfound => ?_⟩
    have hmember : member ∈ directory.filter (fun e => e.distinguishedName = some dn ∧ e.type = some .ahenk) := by
      have hlist : some (directory.filter (fun e => e.distinguishedName = some dn ∧ e.type = some .ahenk)) =
          some (member :: rest) := Except.ok.inj hfound
      rw [Option.some.inj hlist]
      exact List.mem_cons_self
    obtain ⟨hdirectory, hfields⟩ := List.mem_filter.1 hmember
    obtain ⟨htyped, hagent⟩ := hagents member hdirectory (of_decide_eq_true hfields).2
    exact ⟨htyped, _, _, hagent, by decide⟩

/-! ## At most once -/

section
variable {S} {ι : Type} [DecidableEq ι] {identity : LdapEntry → ι} {request : PluginTask}

theorem atMostOnce_nothing : Dispatched.nothing.AtMostOnce := fun _ _ => ⟨Nat.zero_le _, Nat.zero_le _, Nat.zero_le _⟩

theorem execute_dispatches {targets : List LdapEntry} (htargets : getTargetList S request = .ok targets)
    (hne : targets ≠ []) : ∃ task start,
      (execute S request).2 = (dispatchAll S request task (newCommand S request task targets) start targets).2 ∧
        ∀ uid, start.messagesTo uid = 0 ∧ start.executionsOf uid = 0 ∧ start.commandExecutionsOf uid = 0 := by
  cases targets with
  | nil => exact absurd rfl hne
  | cons target rest =>
    let task := S.save ⟨request.plugin, request.commandId, request.taskParts⟩
    let start : Dispatched :=
      ⟨[logMessage S request task], (newCommand S request task (target :: rest)).toList, [], [], []⟩
    refine ⟨task, start, ?_, fun uid => ⟨rfl, rfl, rfl⟩⟩
    rw [execute, htargets]
    simp only
    split <;> rename_i hrun <;> rw [hrun]

/-- **The executions are those of the targets**, when the request has a plugin and every target a type. -/
theorem execute_atMostOnce {plugin : PluginImpl} (hplugin : request.plugin = some plugin)
    (hcommand : ∀ command, S.commandJson command = true) {targets : List LdapEntry}
    (htargets : getTargetList S request = .ok targets) (htypes : ∀ entry ∈ targets, entry.type ≠ none) :
    (execute S request).2.AtMostOnce ↔ (targets.filterMap (agentUid S)).Nodup := by
  by_cases hne : targets = []
  · rw [execute, htargets, hne]
    exact iff_of_true atMostOnce_nothing List.nodup_nil
  · obtain ⟨task, start, hexecute, hzero⟩ := execute_dispatches htargets hne
    rw [newCommand, if_pos (hcommand _)] at hexecute
    obtain ⟨d, hrun, hcounts⟩ := dispatchAll_counts S task hplugin _ targets start htypes
    rw [hexecute, hrun, List.nodup_iff_count_le_one]
    constructor
    · intro honce uid
      by_cases huid : uid = []
      · -- no agent has the empty uid
        have hnot : uid ∉ targets.filterMap (agentUid S) := by
          simp [agentUid, Option.filter_eq_some_iff, huid]
        rw [List.count_eq_zero_of_not_mem hnot]
        exact Nat.zero_le 1
      · have hexecutions : d.executionsOf uid = _ := (hcounts uid huid).2.1
        have hle : d.executionsOf uid ≤ 1 := (honce uid huid).2.1
        have hstart := hzero uid
        omega
    · intro hcount uid huid
      obtain ⟨hmessages, hexecutions, hcommandExecutions⟩ := hcounts uid huid
      have hle := hcount uid
      have hstart := hzero uid
      refine ⟨?_, ?_, ?_⟩
      · change d.messagesTo uid ≤ 1
        omega
      · change d.executionsOf uid ≤ 1
        omega
      · change d.commandExecutionsOf uid ≤ 1
        omega

theorem execute_atMostOnce_noPlugin (hplugin : request.plugin = none) : (execute S request).2.AtMostOnce := by
  cases htargets : getTargetList S request with
  | error failure =>
    rw [execute, htargets]
    exact atMostOnce_nothing
  | ok targets =>
    by_cases hne : targets = []
    · rw [execute, htargets, hne]
      exact atMostOnce_nothing
    · obtain ⟨task, start, hexecute, hzero⟩ := execute_dispatches htargets hne
      intro uid huid
      obtain ⟨hmessages, hexecutions, hcommand⟩ :=
        dispatchAll_noPlugin S task hplugin (newCommand S request task targets) huid targets start
      have hstart := hzero uid
      rw [hexecute]
      omega

/-- **No agent gets the task twice** iff of two entries that are offered with one uid, one is a group member whose
identity came before.  A request without a plugin, or with an entry without a type, ends in an exception before. -/
theorem execute_atMostOnce_iff (h : Consistent S identity request) :
    (execute S request).2.AtMostOnce ↔
      request.plugin = none ∨ (∃ e ∈ request.entryList, e.type = none) ∨
        Clear identity (agentUid S) (offers S request) := by
  cases hplugin : request.plugin with
  | none => exact iff_of_true (execute_atMostOnce_noPlugin hplugin) (.inl rfl)
  | some plugin =>
    by_cases huntyped : ∃ e ∈ request.entryList, e.type = none
    · obtain ⟨e, hmem, htype⟩ := huntyped
      obtain ⟨failure, hfails⟩ := getTargetList_untyped (S := S) hmem htype
      refine iff_of_true ?_ (.inr (.inl ⟨e, hmem, htype⟩))
      rw [execute, hfails]
      exact atMostOnce_nothing
    · have htypes : ∀ e ∈ request.entryList, e.type ≠ none := fun e hmem htype => huntyped ⟨e, hmem, htype⟩
      have htargetTypes : ∀ t ∈ acceptAll identity [] (offers S request), t.type ≠ none := by
        intro t ht
        rcases mem_acceptAll identity _ ht with hnil | ⟨o, ho, rfl⟩
        · cases hnil
        · exact type_of_mem_offers h ho
      rw [execute_atMostOnce hplugin h.command (getTargetList_eq h htypes) htargetTypes, nodup_labels_iff]
      simp [huntyped]

/-- A listed agent that its groups have again, one of them twice. -/
theorem execute_atMostOnce_overlap : (execute office (requestFor
    [agentEntry [0x62], groupEntry [0x67] [[0x61], [0x62]], groupEntry [0x68] [[0x61]],
      groupEntry [0x67] [[0x61], [0x62]]])).2.AtMostOnce :=
  (execute_atMostOnce_iff (office_consistent (by decide))).2 (.inr (.inr (by decide)))

/-- An agent listed twice gets the task twice. -/
theorem execute_listedTwice :
    Consistent office LdapEntry.distinguishedName (requestFor [agentEntry [0x61], agentEntry [0x61]]) ∧
      ¬ (execute office (requestFor [agentEntry [0x61], agentEntry [0x61]])).2.AtMostOnce := by
  refine ⟨office_consistent (by decide), fun honce => ?_⟩
  have hmessages := (honce [0x61] (by decide)).1
  revert hmessages
  decide

/-- **Where `isExistInLdapEntry` knows an entry by its agent's uid**, no agent gets the task twice iff no agent listed in
the request comes after another entry of its uid. -/
theorem execute_atMostOnce_sameUid {plugin : PluginImpl} (h : Consistent S (agentUid S) request)
    (hplugin : request.plugin = some plugin) (htypes : ∀ e ∈ request.entryList, e.type ≠ none)
    (huids : ∀ o ∈ offers S request, agentUid S o.value ≠ none) :
    (execute S request).2.AtMostOnce ↔
      (offers S request).Pairwise fun a b => b.always = true → agentUid S a.value ≠ agentUid S b.value := by
  have htargets : ∀ t ∈ acceptAll (agentUid S) [] (offers S request), t.type ≠ none ∧ agentUid S t ≠ none := by
    intro t ht
    rcases mem_acceptAll (agentUid S) _ ht with hnil | ⟨o, ho, rfl⟩
    · cases hnil
    · exact ⟨type_of_mem_offers h ho, huids o ho⟩
  rw [execute_atMostOnce hplugin h.command (getTargetList_eq h htypes) (fun t ht => (htargets t ht).1),
    ← nodup_map_iff_filterMap (fun t ht => (htargets t ht).2), nodup_keys_iff]
  simp

end

end Lider.TaskService
