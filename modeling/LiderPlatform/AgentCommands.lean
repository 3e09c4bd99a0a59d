import LiderPlatform.FirewallRuns
/-!
# AgentCommands — the commands of an agent in its container (`services/ahenk/hooks/system.py`)

`patched_execute` stands before the shell: `iptables` commands go to the shadow firewall, commands that a container
cannot run are answered as if they had run, and the others go to the shell, as root.  Over a run of any commands, the
shell sees none of the first two kinds (`run_contained`).  As long as it leaves the policy file alone, the file is a set
of ports for each chain to which each command that asks for it adds one, or takes one away (`run_refines`), so a command
raises only where it cannot be read or adds what is no number (`raised_iff`).
-/
namespace Lider.AgentCommands

open Py Firewall

/-! ## `patched_execute` -/

/-- The agent, and the two environment variables that are read. -/
structure Setting where
  agentId : Text
  agentHostname : Text
  ahenkVersion : Option Text
  ahenkRunAsRoot : Option Text

def env (value : Option Text) (default : Text) : Text := (value.filter (· ≠ [])).getD default

/-- A call of `Util.execute`; the arguments besides the command and the user are handed on. -/
structure Request (ρ : Type) where
  command : Text
  asUser : Option Text
  arguments : ρ

/-- What becomes of a call: an exception, an answer, or a call of the function that was patched. -/
inductive Outcome (ρ : Type) where
  | raised (message : String)
  | answered (answer : Int × Text × Text)
  | executed (request : Request ρ)

def skipped (cmd : Text) : Int × Text × Text := (0, "container-mode skipped: ".toList ++ cmd, [])

/-- What a command prints when it succeeds. -/
def printed (output : Text) : Int × Text × Text := (0, output, [])

def newline : Text := ['\n']

/-- The body of `dmidecode -t system`. -/
def systemInformation (agentHostname : Text) : Text :=
  newline.intercalate ["System Information".toList, "Manufacturer: Container Vendor".toList,
    "Product Name: ".toList ++ agentHostname, "Version: container-1.0".toList] ++ newline

/-- The commands that are answered here, in the order in which they are looked for, with their answers. -/
def simulations (s : Setting) (cmd lower : Text) : List (Bool × (Int × Text × Text)) :=
  [("systemctl ".toList <+: lower ∨ " systemctl ".toList <:+: lower, skipped cmd),
    ("pam-auth-update".toList <+: lower, skipped cmd),
    ((lower = "reboot".toList ∨ lower = "shutdown -h now".toList) ∨ "shutdown ".toList <+: lower, skipped cmd),
    ("dpkg -s ahenk".toList <:+: lower,
      printed ("Version: ".toList ++ env s.ahenkVersion "2.0.1".toList ++ newline)),
    ("dmidecode --string bios-vendor".toList <:+: lower, printed ("Container Vendor".toList ++ newline)),
    ("dmidecode --string bios-release-date".toList <:+: lower, printed ("2026-02-23".toList ++ newline)),
    ("dmidecode --string bios-version".toList <:+: lower, printed ("container-bios-1.0".toList ++ newline)),
    ("dmidecode --string baseboard-manufacturer".toList <:+: lower, printed ("Container Vendor".toList ++ newline)),
    ("dmidecode --string baseboard-product-name".toList <:+: lower, printed ("Container Board".toList ++ newline)),
    ("dmidecode --string baseboard-version".toList <:+: lower, printed ("1.0".toList ++ newline)),
    ("dmidecode --string baseboard-serial-number".toList <:+: lower,
      printed (s.agentId ++ "-board".toList ++ newline)),
    ("dmidecode --string baseboard-asset-tag".toList <:+: lower, printed ("container-asset-tag".toList ++ newline)),
    ("dmidecode -t system".toList <:+: lower, printed (systemInformation s.agentHostname)),
    ("dmidecode --string system-version".toList <:+: lower, printed (s.agentHostname ++ newline)),
    ("xrandr".toList <+: lower, printed []),
    ("lsusb".toList <+: lower, printed []),
    ("lpstat -a".toList <+: lower, printed []),
    ("parse-edid".toList <:+: lower, (1, [], "parse-edid unavailable in container-mode".toList))]

section
variable {ρ : Type} (py : Interpreter) (s : Setting)

def isFirewallCommand (command : Text) : Bool :=
  let lower := py.lower (strip command)
  "sudo iptables ".toList <+: lower ∨ "iptables ".toList <+: lower

/-- The rest of `patched_execute`, behind the firewall: a command is answered, or handed on. -/
def simulateOrExecute (r : Request ρ) : Outcome ρ :=
  let cmd := strip r.command
  match (simulations s cmd (py.lower cmd)).find? Prod.fst with
  | some (_, answer) => .answered answer
  | none => .executed { r with asUser := if env s.ahenkRunAsRoot ['1'] = ['1'] then none else r.asUser }

/-- `patched_execute`, with what it makes of the policy file. -/
def patchedExecute (file : PolicyFile) (r : Request ρ) : Outcome ρ × PolicyFile :=
  match if isFirewallCommand py r.command then handleIptablesCommand py file (strip r.command) else (.ok none, file) with
  | (.error message, file) => (.raised message, file)
  | (.ok (some answer), file) => (.answered answer, file)
  | (.ok none, file) => (simulateOrExecute py s r, file)

/-! ## Runs -/

/-- The policy file and the calls that went to the shell. -/
structure Container (ρ : Type) where
  file : PolicyFile
  executed : List (Request ρ)

/-- What a call makes of the policy file when the shell runs it. -/
abbrev Shell (ρ : Type) := Request ρ → PolicyFile → PolicyFile

variable (shell : Shell ρ)

def Container.execute (w : Container ρ) (r : Request ρ) : Container ρ :=
  match patchedExecute py s w.file r with
  | (.executed r, file) => ⟨shell r file, w.executed ++ [r]⟩
  | (_, file) => ⟨file, w.executed⟩

def runFrom (start : PolicyFile) (requests : List (Request ρ)) : Container ρ :=
  requests.foldl (Container.execute py s shell) ⟨start, []⟩

/-- On the shell the calls leave the policy file alone, whoever runs them. -/
def SparesPolicy (requests : List (Request ρ)) : Prop :=
  ∀ r ∈ requests, ∀ user file, shell { r with asUser := user } file = file

end

/-! ## What a firewall command asks for -/

/-- One more port that is blocked, or one less. -/
structure Update where
  action : Action
  direction : Direction
  port : Text

section
variable {ρ : Type} {py : Interpreter} {s : Setting} {shell : Shell ρ}

def withoutSudo (parts : List Text) : List Text := if parts.head? = some "sudo".toList then parts.tail else parts

variable (py) in
/-- The update that a call of `iptables` asks for, if any. -/
def updateOf (parts : List Text) : Option Update :=
  if parts.head? ≠ some "iptables".toList ∨ parts.contains "-L".toList then none
  else
    match findAction parts, (extractPortFromIptables parts).filter (· ≠ []) with
    | some (action, chain), some port =>
      (directionOf py chain).map (fun direction => ⟨if action = "-A".toList then .append else .delete, direction, port⟩)
    | _, _ => none

/-- What a command answers that asks for no update. -/
def replyTo (file : PolicyFile) (parts : List Text) : Answer :=
  if parts.head? = some "iptables".toList then
    some (0, if parts.contains "-L".toList then renderIptablesList file else [], [])
  else if parts.head? = some "iptables-save".toList then some (0, [], [])
  else none

theorem findAction_mem {action chain : Text} : ∀ {parts : List Text}, findAction parts = some (action, chain) →
    action = "-A".toList ∨ action = "-D".toList
  | [], h => by cases h
  | [_], h => by cases h
  | part :: next :: parts, h => by
    rw [findAction] at h
    split at h
    · rename_i hmem
      obtain ⟨rfl, -⟩ := Prod.mk.inj (Option.some.inj h)
      simpa using hmem
    · exact findAction_mem h

/-- **What the handler does with a command that it can read**: an update of the policy, or an answer. -/
theorem handle_eq (file : PolicyFile) {command : Text} {parts : List Text} (hparts : shlexSplit command = .ok parts) :
    handleIptablesCommand py file command =
      match updateOf py (withoutSudo parts) with
      | some u => updatePolicy py file u.action.text u.direction u.port
      | none => (.ok (replyTo file (withoutSudo parts)), file) := by
  rw [handleIptablesCommand, hparts]
  simp only [← withoutSudo.eq_1]
  generalize withoutSudo parts = words
  cases words with
  | nil => rfl
  | cons program rest =>
    have hhead : (program :: rest).head? = some program := rfl
    by_cases hiptables : program = "iptables".toList
    · obtain rfl := hiptables
      by_cases hlist : "-L".toList ∈ "iptables".toList :: rest
      · have hupdate : updateOf py ("iptables".toList :: rest) = none := if_pos (Or.inr (List.contains_iff_mem.2 hlist))
        simp only [hupdate, replyTo, hhead, hlist, List.contains_iff_mem, if_true, ne_eq, not_true_eq_false, if_false]
        rfl
      have hupdate : updateOf py ("iptables".toList :: rest) = _ :=
        if_neg (not_or.2 ⟨not_not.2 hhead, fun h => hlist (List.contains_iff_mem.1 h)⟩)
      simp only [hupdate, replyTo, hhead, hlist, List.contains_iff_mem, if_true, if_false]
      cases haction : findAction ("iptables".toList :: rest) with
      | none => rfl
      | some found =>
        cases hport : (extractPortFromIptables ("iptables".toList :: rest)).filter (· ≠ []) with
        | none => rfl
        | some port =>
          cases hdirection : directionOf py found.2 with
          | none =>
            simp only [hdirection, Option.map_none]
            rfl
          | some direction =>
            simp only [hdirection, Option.map_some]
            rcases findAction_mem haction with h | h <;> rw [h] <;> rfl
    · have hne : ¬ (program :: rest).head? = some "iptables".toList := fun h => hiptables (Option.some.inj h)
      have hupdate : updateOf py (program :: rest) = none := if_pos (Or.inl hne)
      simp only [hupdate, replyTo, hhead, Option.some.injEq, ne_eq, hiptables, not_false_eq_true, if_true]
      split <;> rfl

/-! ## What an update does -/

variable (py) in
/-- A deletion is carried out, and the addition of a number. -/
def Update.Accepted (u : Update) : Prop := u.action = .append → ∃ number, parseInt py.ints u.port = some number

/-- The ports that are blocked in a chain. -/
abbrev Blocked := Direction → Finset Text

def blockedOf (policy : NetworkPolicy) : Blocked := fun direction => (policy.blocked direction).toFinset

open Classical in
variable (py) in
/-- What an update is for. -/
noncomputable def Update.apply (u : Update) (blocked : Blocked) : Blocked :=
  if u.Accepted py then
    Function.update blocked u.direction
      (if u.action = .append then insert u.port (blocked u.direction) else (blocked u.direction).erase u.port)
  else blocked

theorem Update.apply_of_accepted {u : Update} (h : u.Accepted py) (blocked : Blocked) : u.apply py blocked =
    Function.update blocked u.direction
      (if u.action = .append then insert u.port (blocked u.direction) else (blocked u.direction).erase u.port) :=
  if_pos h

theorem Update.apply_of_refused {u : Update} (h : ¬ u.Accepted py) (blocked : Blocked) : u.apply py blocked = blocked :=
  if_neg h

variable (py) in
/-- The lists in the file are numbers in their order. -/
def Numbered (policy : NetworkPolicy) : Prop :=
  ∀ direction, (∀ item ∈ policy.blocked direction, ∃ number, parseInt py.ints item = some number) ∧
    (policy.blocked direction).Pairwise (fun item item' => ∀ number number',
      parseInt py.ints item = some number → parseInt py.ints item' = some number' → number ≤ number')

theorem forall_of_mapM {α β ε : Type} {f : α → Except ε β} {P : β → Prop} (hf : ∀ a b, f a = .ok b → P b) :
    ∀ {xs : List α} {ys : List β}, xs.mapM f = .ok ys → ∀ y ∈ ys, P y
  | [], ys, h, y, hy => by
    cases h
    cases hy
  | x :: xs, ys, h, y, hy => by
    rw [List.mapM_cons] at h
    cases hx : f x with
    | error e =>
      rw [hx] at h
      cases h
    | ok b =>
      cases hxs : xs.mapM f with
      | error e =>
        rw [hx, hxs] at h
        cases h
      | ok bs =>
        rw [hx, hxs] at h
        cases h
        rcases List.mem_cons.1 hy with rfl | hy
        · exact hf x y hx
        · exact forall_of_mapM hf hxs y hy

/-- A list that is sorted by its numbers holds the items in the order of their numbers. -/
theorem sortedByInt_numbered {items ports : List Text} (h : sortedByInt py items = .ok ports) :
    (∀ item ∈ ports, ∃ number, parseInt py.ints item = some number) ∧
      ports.Pairwise (fun item item' => ∀ number number',
        parseInt py.ints item = some number → parseInt py.ints item' = some number' → number ≤ number') := by
  rw [sortedByInt] at h
  generalize hkeyed : (List.mapM _ items : Except String (List (Int × Text))) = keyed at h
  cases keyed with
  | error message => cases h
  | ok keyed =>
    cases h
    have hnumber : ∀ p ∈ sortedBy Prod.fst keyed, parseInt py.ints p.2 = some p.1 := by
      intro p hp
      refine forall_of_mapM (P := fun p : Int × Text => parseInt py.ints p.2 = some p.1) (fun item p hitem => ?_)
        hkeyed p (by simpa [sortedBy] using hp)
      split at hitem
      · rename_i number hnumber
        cases hitem
        exact hnumber
      · cases hitem
    refine ⟨fun item hitem => ?_, List.pairwise_map.2 ?_⟩
    · obtain ⟨p, hp, rfl⟩ := List.mem_map.1 hitem
      exact ⟨p.1, hnumber p hp⟩
    · refine (sortedBy_pairwise Prod.fst keyed).imp_of_mem (fun hp hq hle number number' h h' => ?_)
      rw [hnumber _ hp] at h
      rw [hnumber _ hq] at h'
      obtain rfl := Option.some.inj h
      obtain rfl := Option.some.inj h'
      exact hle

/-- **An update is carried out when it is accepted**; otherwise the handler raises, and the file is as before. -/
theorem updatePolicy_spec {file : PolicyFile} (hfile : Numbered py (loadNetworkPolicy file)) (u : Update) :
    (u.Accepted py ∧ ∃ policy, updatePolicy py file u.action.text u.direction u.port =
        (.ok (some (0, [], [])), saveNetworkPolicy policy) ∧ Numbered py policy ∧
      blockedOf policy = u.apply py (blockedOf (loadNetworkPolicy file))) ∨
    (¬ u.Accepted py ∧ ∃ message, updatePolicy py file u.action.text u.direction u.port = (.error message, file)) := by
  have hmem : ∀ item, item ∈ py.iterate (if u.action.text = "-A".toList then
      insert u.port (blockedOf (loadNetworkPolicy file) u.direction)
      else (blockedOf (loadNetworkPolicy file) u.direction).erase u.port) ↔
        if item = u.port then u.action = .append else item ∈ (loadNetworkPolicy file).blocked u.direction := by
    intro item
    rw [py.mem_iterate]
    cases u.action <;> by_cases h : item = u.port <;> simp [Action.text, blockedOf, h]
  by_cases haccepted : u.Accepted py
  · left
    obtain ⟨ports, hsorted, hports⟩ := sortedByInt_ok py (fun item hitem => by
      rw [hmem] at hitem
      split at hitem
      · rename_i hport
        exact hport ▸ haccepted hitem
      · exact (hfile u.direction).1 item hitem)
    refine ⟨haccepted, (loadNetworkPolicy file).setBlocked u.direction ports,
      by simp only [updatePolicy, ← blockedOf.eq_1, hsorted], fun direction => ?_, ?_⟩
    · rw [blocked_setBlocked]
      split
      · exact sortedByInt_numbered hsorted
      · exact hfile direction
    · rw [u.apply_of_accepted haccepted]
      funext direction
      ext item
      rw [blockedOf, blocked_setBlocked, Function.update_apply]
      by_cases hdirection : direction = u.direction
      · rw [if_pos hdirection, if_pos hdirection, List.mem_toFinset, hports, py.mem_iterate]
        cases u.action <;> rfl
      · rw [if_neg hdirection, if_neg hdirection]
        rfl
  · right
    obtain ⟨happend, hport⟩ := Classical.not_imp.1 haccepted
    obtain ⟨message, hmessage⟩ := sortedByInt_error py ((hmem u.port).2 (by rw [if_pos rfl]; exact happend))
      (Option.eq_none_iff_forall_ne_some.2 (fun number h => hport ⟨number, h⟩))
    exact ⟨haccepted, message, by simp only [updatePolicy, ← blockedOf.eq_1, hmessage]⟩

variable (py) in
/-- The update that a call asks for: it is a command of the firewall, and can be read. -/
def requested (command : Text) : Option Update :=
  if isFirewallCommand py command then
    match shlexSplit (strip command) with
    | .ok parts => updateOf py (withoutSudo parts)
    | .error _ => none
  else none

variable (py) in
/-- A command of the firewall that `shlex` does not split. -/
def Unreadable (command : Text) : Prop :=
  isFirewallCommand py command = true ∧ ∃ message, shlexSplit (strip command) = .error message

theorem simulateOrExecute_ne_raised (r : Request ρ) (message : String) :
    simulateOrExecute py s r ≠ .raised message := by
  intro h
  rw [simulateOrExecute] at h
  split at h <;> cases h

/-- **What a call does to the policy**: an update that is accepted is carried out, one that is not raises, and
nothing else touches the file. -/
theorem patchedExecute_cases {file : PolicyFile} (hfile : Numbered py (loadNetworkPolicy file)) (r : Request ρ) :
    (∃ u, requested py r.command = some u ∧ u.Accepted py ∧ ∃ policy,
      patchedExecute py s file r = (.answered (0, [], []), saveNetworkPolicy policy) ∧ Numbered py policy ∧
        blockedOf policy = u.apply py (blockedOf (loadNetworkPolicy file))) ∨
    (∃ u, requested py r.command = some u ∧ ¬ u.Accepted py ∧
      ∃ message, patchedExecute py s file r = (.raised message, file)) ∨
    (requested py r.command = none ∧ (patchedExecute py s file r).2 = file ∧
      ((∃ message, (patchedExecute py s file r).1 = .raised message) ↔ Unreadable py r.command)) := by
  rw [requested, Unreadable]
  cases hfirewall : isFirewallCommand py r.command with
  | false =>
    have hexecute : patchedExecute py s file r = (simulateOrExecute py s r, file) := by
      rw [patchedExecute, hfirewall]
      rfl
    refine .inr (.inr ⟨rfl, by rw [hexecute], ?_⟩)
    rw [hexecute]
    simp [simulateOrExecute_ne_raised]
  | true =>
    cases hparts : shlexSplit (strip r.command) with
    | error message =>
      have hraised : patchedExecute py s file r = (.raised message, file) := by
        rw [patchedExecute, hfirewall, if_pos rfl, handleIptablesCommand, hparts]
      refine .inr (.inr ⟨rfl, by rw [hraised], ?_⟩)
      rw [hraised]
      exact iff_of_true ⟨message, rfl⟩ ⟨rfl, message, rfl⟩
    | ok parts =>
      rw [patchedExecute, hfirewall, if_pos rfl, handle_eq file hparts, if_pos rfl]
      cases hupdate : updateOf py (withoutSudo parts) with
      | some u =>
        rcases updatePolicy_spec hfile u with ⟨haccepted, policy, hcarried, hnumbered, hblocked⟩ |
          ⟨haccepted, message, hrefused⟩
        · exact .inl ⟨u, hupdate, haccepted, policy, by simp only [hcarried], hnumbered, hblocked⟩
        · exact .inr (.inl ⟨u, hupdate, haccepted, message, by simp only [hrefused]⟩)
      | none =>
        refine .inr (.inr ⟨hupdate, ?_, ?_⟩)
        · cases replyTo file (withoutSudo parts) <;> rfl
        · refine iff_of_false ?_ (by simp)
          rintro ⟨message, hraised⟩
          cases hreply : replyTo file (withoutSudo parts) with
          | none =>
            rw [hreply] at hraised
            exact simulateOrExecute_ne_raised r message hraised
          | some answer =>
            rw [hreply] at hraised
            cases hraised

/-! ## What a run does -/

/-- A call that goes to the shell is the agent's but for the user. -/
theorem executed_eq {file : PolicyFile} {r executed : Request ρ}
    (h : (patchedExecute py s file r).1 = .executed executed) : ∃ user, executed = { r with asUser := user } := by
  rw [patchedExecute] at h
  split at h
  · cases h
  · cases h
  simp only [simulateOrExecute] at h
  split at h
  · cases h
  · exact ⟨_, (Outcome.executed.inj h).symm⟩

theorem runFrom_append (start : PolicyFile) (done : List (Request ρ)) (r : Request ρ) :
    runFrom py s shell start (done ++ [r]) = (runFrom py s shell start done).execute py s shell r := by
  rw [runFrom, List.foldl_append]
  rfl

variable (py s shell) in
/-- The shell has the last word on the file, where it is handed the call. -/
theorem file_execute (w : Container ρ) (r : Request ρ) :
    (w.execute py s shell r).file = (patchedExecute py s w.file r).2 ∨
      ∃ user, (w.execute py s shell r).file = shell { r with asUser := user } (patchedExecute py s w.file r).2 := by
  rw [Container.execute]
  split
  · rename_i executed file hexecuted
    obtain ⟨user, rfl⟩ := executed_eq (congrArg Prod.fst hexecuted)
    exact .inr ⟨user, by rw [hexecuted]⟩
  · rename_i hpatched
    exact .inl (by rw [hpatched])

variable (py shell) in
/-- On the shell the calls leave numbers in their order in the policy file, whoever runs them. -/
def KeepsNumbered (requests : List (Request ρ)) : Prop :=
  ∀ r ∈ requests, ∀ user file, Numbered py (loadNetworkPolicy file) →
    Numbered py (loadNetworkPolicy (shell { r with asUser := user } file))

theorem SparesPolicy.keepsNumbered {requests : List (Request ρ)} (h : SparesPolicy shell requests) :
    KeepsNumbered py shell requests := fun r hr user file hfile => by rwa [h r hr user file]

theorem patchedExecute_numbered {file : PolicyFile} (hfile : Numbered py (loadNetworkPolicy file)) (r : Request ρ) :
    Numbered py (loadNetworkPolicy (patchedExecute py s file r).2) := by
  rcases patchedExecute_cases (s := s) hfile r with ⟨u, -, -, policy, hcarried, hpolicy, -⟩ |
    ⟨u, -, -, message, hraised⟩ | ⟨-, hsame, -⟩
  · rw [hcarried]
    exact hpolicy
  · rw [hraised]
    exact hfile
  · rw [hsame]
    exact hfile

/-- The lists of the file stay numbers in their order. -/
theorem run_numbered {start : PolicyFile} (hstart : Numbered py (loadNetworkPolicy start)) {requests : List (Request ρ)}
    (hshell : KeepsNumbered py shell requests) :
    Numbered py (loadNetworkPolicy (runFrom py s shell start requests).file) := by
  induction requests using List.reverseRecOn with
  | nil => exact hstart
  | append_singleton done r ih =>
    have hdone := ih (fun r' hr' => hshell r' (List.mem_append_left _ hr'))
    have hpatched := patchedExecute_numbered (s := s) hdone r
    rw [runFrom_append]
    rcases file_execute py s shell (runFrom py s shell start done) r with hfile | ⟨user, hfile⟩
    · rw [hfile]
      exact hpatched
    · rw [hfile]
      exact hshell r (by simp) user _ hpatched

/-- **The policy file is a set of blocked ports for each chain**: over a run of any commands that spare the file on the
shell, it is what the updates that they ask for make of it, one after the other, and its lists stay numbers in their
order. -/
theorem run_refines {start : PolicyFile} (hstart : Numbered py (loadNetworkPolicy start)) {requests : List (Request ρ)}
    (hshell : SparesPolicy shell requests) :
    Numbered py (loadNetworkPolicy (runFrom py s shell start requests).file) ∧
      blockedOf (loadNetworkPolicy (runFrom py s shell start requests).file) =
        ((requests.map Request.command).filterMap (requested py)).foldl (fun blocked u => u.apply py blocked)
          (blockedOf (loadNetworkPolicy start)) := by
  refine ⟨run_numbered hstart hshell.keepsNumbered, ?_⟩
  induction requests using List.reverseRecOn with
  | nil => rfl
  | append_singleton done r ih =>
    have hspares : SparesPolicy shell done := fun r' hr' => hshell r' (List.mem_append_left _ hr')
    have hnumbered := run_numbered (s := s) hstart hspares.keepsNumbered
    have hfile : ((runFrom py s shell start done).execute py s shell r).file =
        (patchedExecute py s (runFrom py s shell start done).file r).2 := by
      rcases file_execute py s shell (runFrom py s shell start done) r with h | ⟨user, h⟩
      · exact h
      · exact h.trans (hshell r (by simp) user _)
    rw [runFrom_append, hfile, List.map_append, List.map_singleton, List.filterMap_append, List.foldl_append,
      ← ih hspares]
    rcases patchedExecute_cases (s := s) hnumbered r with ⟨u, hu, -, policy, hcarried, -, happly⟩ |
      ⟨u, hu, hrefused, message, hraised⟩ | ⟨hu, hsame, -⟩
    · rw [hcarried, List.filterMap_cons_some hu]
      exact happly
    · rw [hraised, List.filterMap_cons_some hu]
      exact (u.apply_of_refused hrefused _).symm
    · rw [hsame, List.filterMap_cons_none hu]
      rfl

/-! A run on an agent: ports are blocked and one is freed, a range is refused, a restart is asked for, and a directory
is listed; the shell would empty the file for another command. -/

def sampleSetting : Setting := ⟨"ahenk-001".toList, "ahenk-001-host".toList, none, none⟩

def sampleShell : Shell Unit := fun r file =>
  if r.command = "rm /var/db/network-policy.json".toList then none else file

def sampleRequests : List (Request Unit) :=
  [⟨"sudo iptables -A INPUT -p tcp --dport 80 -j DROP".toList, none, ()⟩,
    ⟨"iptables -A INPUT -p tcp --dport=443 -j DROP".toList, none, ()⟩,
    ⟨"iptables -A INPUT -p tcp --dport 1000:2000 -j DROP".toList, none, ()⟩, ⟨" Reboot\n".toList, none, ()⟩,
    ⟨"ls /".toList, some "user".toList, ()⟩, ⟨"iptables -D INPUT -p tcp --dport 80 -j DROP".toList, none, ()⟩]

theorem numbered_empty (py : Interpreter) : Numbered py (loadNetworkPolicy none) := by
  intro direction
  cases direction <;> exact ⟨fun item hitem => absurd hitem List.not_mem_nil, .nil⟩

theorem sampleShell_spares : SparesPolicy sampleShell sampleRequests := by
  intro r hr user file
  have hne : ∀ r ∈ sampleRequests, r.command ≠ "rm /var/db/network-policy.json".toList := by decide
  exact if_neg (hne r hr)

/-- The updates that the sample asks for. -/
theorem requested_sample : (sampleRequests.map Request.command).filterMap (requested asciiInterpreter) =
    [⟨.append, .input, "80".toList⟩, ⟨.append, .input, "443".toList⟩, ⟨.append, .input, "1000:2000".toList⟩,
      ⟨.delete, .input, "80".toList⟩] := rfl

theorem sampleRequests_refine :
    Numbered asciiInterpreter
        (loadNetworkPolicy (runFrom asciiInterpreter sampleSetting sampleShell none sampleRequests).file) ∧
      blockedOf (loadNetworkPolicy (runFrom asciiInterpreter sampleSetting sampleShell none sampleRequests).file) =
        Function.update (fun _ => ∅) .input {"443".toList} := by
  obtain ⟨hnumbered, hblocked⟩ := run_refines (s := sampleSetting) (numbered_empty asciiInterpreter) sampleShell_spares
  refine ⟨hnumbered, hblocked.trans ?_⟩
  have hempty : blockedOf (loadNetworkPolicy none) = fun _ => ∅ := by
    funext direction
    cases direction <;> rfl
  have hblock : Update.Accepted asciiInterpreter ⟨.append, .input, "80".toList⟩ := fun _ => ⟨80, rfl⟩
  have hsecond : Update.Accepted asciiInterpreter ⟨.append, .input, "443".toList⟩ := fun _ => ⟨443, rfl⟩
  have hfree : Update.Accepted asciiInterpreter ⟨.delete, .input, "80".toList⟩ := fun h => by cases h
  have hrange : ¬ Update.Accepted asciiInterpreter ⟨.append, .input, "1000:2000".toList⟩ := by
    intro h
    obtain ⟨number, hnumber⟩ := h rfl
    cases hnumber
  rw [requested_sample, hempty, List.foldl_cons, List.foldl_cons, List.foldl_cons, List.foldl_cons, List.foldl_nil,
    Update.apply_of_accepted hfree, Update.apply_of_refused hrange, Update.apply_of_accepted hsecond,
    Update.apply_of_accepted hblock]
  funext direction
  cases direction <;> decide

/-- `iptables` run as root or not, the services, and the power. -/
def Restricted (py : Interpreter) (command : Text) : Prop :=
  let cmd := strip command
  let lower := py.lower cmd
  ("iptables ".toList <+: cmd ∨ "sudo iptables ".toList <+: cmd) ∨
    ("systemctl ".toList <+: lower ∨ " systemctl ".toList <:+: lower) ∨
    ((lower = "reboot".toList ∨ lower = "shutdown -h now".toList) ∨ "shutdown ".toList <+: lower)

/-- Letters of ASCII are lowered one by one, whatever follows them. -/
def LowersHeads (py : Interpreter) : Prop :=
  ∀ head rest : Text, (∀ c ∈ head, c.toNat < 128) → head.map Char.toLower <+: py.lower (head ++ rest)

theorem isFirewallCommand_of_head (hlower : LowersHeads py) {command : Text}
    (h : "iptables ".toList <+: strip command ∨ "sudo iptables ".toList <+: strip command) :
    isFirewallCommand py command = true := by
  rw [isFirewallCommand, decide_eq_true_eq]
  rcases h with ⟨rest, hrest⟩ | ⟨rest, hrest⟩
  · exact .inr (hrest ▸ hlower "iptables ".toList rest (by decide))
  · exact .inl (hrest ▸ hlower "sudo iptables ".toList rest (by decide))

/-- The program of such a command is `iptables`, whatever follows. -/
theorem program_of_head {cmd : Text} (h : "iptables ".toList <+: cmd ∨ "sudo iptables ".toList <+: cmd)
    {parts : List Text} (hparts : shlexSplit cmd = .ok parts) :
    (withoutSudo parts).head? = some "iptables".toList := by
  have hiptables : ∀ rest parts, shlexSplit ("iptables".toList ++ ' ' :: rest) = .ok parts →
      ∃ words, parts = "iptables".toList :: words := by
    intro rest parts hparts
    rw [shlexSplit_cons (by decide) (by decide)] at hparts
    cases hrest : shlexSplit rest with
    | error message =>
      rw [hrest] at hparts
      cases hparts
    | ok words =>
      rw [hrest] at hparts
      cases hparts
      exact ⟨words, rfl⟩
  rcases h with ⟨rest, rfl⟩ | ⟨rest, rfl⟩
  · obtain ⟨words, rfl⟩ := hiptables rest parts hparts
    rfl
  · rw [show "sudo iptables ".toList ++ rest = "sudo".toList ++ ' ' :: ("iptables".toList ++ ' ' :: rest) from rfl,
      shlexSplit_cons (by decide) (by decide)] at hparts
    cases hrest : shlexSplit ("iptables".toList ++ ' ' :: rest) with
    | error message =>
      rw [hrest] at hparts
      cases hparts
    | ok parts =>
      obtain ⟨words, rfl⟩ := hiptables rest parts hrest
      rw [hrest] at hparts
      cases hparts
      rfl

/-- A command of `iptables` is answered, or raises. -/
theorem handle_ne_none {file : PolicyFile} {cmd : Text}
    (h : "iptables ".toList <+: cmd ∨ "sudo iptables ".toList <+: cmd) :
    (handleIptablesCommand py file cmd).1 ≠ .ok none := by
  cases hparts : shlexSplit cmd with
  | error message =>
    rw [handleIptablesCommand, hparts]
    intro hnone
    cases hnone
  | ok parts =>
    rw [handle_eq file hparts]
    cases updateOf py (withoutSudo parts) with
    | some u =>
      simp only [updatePolicy]
      split <;> simp
    | none => simp [replyTo, program_of_head h hparts]

/-- **A call that goes to the shell is not restricted.** -/
theorem patchedExecute_executed (hlower : LowersHeads py) {file : PolicyFile} {r executed : Request ρ}
    (h : (patchedExecute py s file r).1 = .executed executed) : ¬ Restricted py r.command := by
  rw [patchedExecute] at h
  split at h
  · cases h
  · cases h
  rename_i hhandled
  simp only [simulateOrExecute] at h
  split at h
  · cases h
  rename_i hfind
  rw [List.find?_eq_none] at hfind
  rintro (hiptables | hservice | hpower)
  · rw [isFirewallCommand_of_head hlower hiptables, if_pos rfl] at hhandled
    exact handle_ne_none hiptables (congrArg Prod.fst hhandled)
  · exact hfind _ List.mem_cons_self (decide_eq_true hservice)
  · exact hfind _ (List.mem_cons_of_mem _ (List.mem_cons_of_mem _ List.mem_cons_self)) (decide_eq_true hpower)

/-- **The shell never sees a restricted command**: over a run of any commands, it is handed calls of the run, in their
order, of which none is of `iptables`, of the services or of the power. -/
theorem run_contained (hlower : LowersHeads py) (start : PolicyFile) (requests : List (Request ρ)) :
    ((runFrom py s shell start requests).executed.map Request.command).Sublist (requests.map Request.command) ∧
      ∀ r ∈ (runFrom py s shell start requests).executed, ¬ Restricted py r.command := by
  induction requests using List.reverseRecOn with
  | nil => exact ⟨.slnil, fun r hr => absurd hr List.not_mem_nil⟩
  | append_singleton done r ih =>
    obtain ⟨hsub, hrestricted⟩ := ih
    rw [runFrom_append, Container.execute, List.map_append]
    split
    · rename_i executed file hexecuted
      have hallowed := patchedExecute_executed hlower (congrArg Prod.fst hexecuted)
      obtain ⟨user, rfl⟩ := executed_eq (congrArg Prod.fst hexecuted)
      refine ⟨?_, fun r' hr' => ?_⟩
      · rw [List.map_append]
        exact hsub.append (.refl _)
      · rcases List.mem_append.1 hr' with hr' | hr'
        · exact hrestricted r' hr'
        · obtain rfl := List.mem_singleton.1 hr'
          exact hallowed
    · exact ⟨hsub.trans (List.sublist_append_left _ _), hrestricted⟩

theorem sampleRequests_contained :
    ((runFrom asciiInterpreter sampleSetting sampleShell none sampleRequests).executed.map Request.command).Sublist
        (sampleRequests.map Request.command) ∧
      ∀ r ∈ (runFrom asciiInterpreter sampleSetting sampleShell none sampleRequests).executed,
        ¬ Restricted asciiInterpreter r.command :=
  run_contained (fun head rest _ => by
    show head.map Char.toLower <+: (head ++ rest).map Char.toLower
    rw [List.map_append]
    exact List.prefix_append _ _) none sampleRequests

end

end Lider.AgentCommands
