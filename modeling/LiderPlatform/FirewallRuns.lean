import LiderPlatform.NetworkState
/-!
# FirewallRuns — which commands the shadow firewall gets right

A command is any text that `shlex.split` cuts into the options of one rule, in any order and with others among them.
The handler finds its action, its chain and its port (`handleIptablesCommand_eq`), so a command raises or changes its
port (`handle_cases`), and a run is right exactly when no command appends a range or changes a port for another target
than `DROP` (`iptables_correct_iff`).
-/
namespace Lider.Firewall

open Py

/-! ## Commands -/

inductive Action where
  | append
  | delete
deriving DecidableEq

def Action.text : Action → Text
  | .append => "-A".toList
  | .delete => "-D".toList

def dportOption (equalsForm : Bool) (spec : PortSpec) : List Text :=
  if equalsForm then ["--dport=".toList ++ spec.text] else ["--dport".toList, spec.text]

/-- Tokens that are no action, no listing, no port and no target. -/
def IsOtherOption (option : List Text) : Prop :=
  ∀ token ∈ option, token ∉ ["-A".toList, "-D".toList, "-L".toList, "-j".toList, "--dport".toList] ∧
    ¬ "--dport=".toList <+: token

/-- A command that appends or deletes a rule on a port: its options in any order, others among them. -/
structure Command where
  text : Text
  viaSudo : Bool
  action : Action
  chain : Direction
  spec : PortSpec
  equalsForm : Bool
  target : Text
  others : List (List Text)
  options : List (List Text)
  target_plain : target.head? ≠ some '-'
  others_plain : ∀ option ∈ others, IsOtherOption option
  arranged : options.Perm ([action.text, chain.text] :: dportOption equalsForm spec :: ["-j".toList, target] :: others)
  splits : shlexSplit text = .ok ((if viaSudo then ["sudo".toList] else []) ++ "iptables".toList :: options.flatten)

def drop : Text := "DROP".toList

/-- The file after some commands; a command that raises leaves it. -/
def runCommands (py : Interpreter) (file : PolicyFile) (commands : List Command) : PolicyFile :=
  commands.foldl (fun file c => (handleIptablesCommand py file c.text).2) file

abbrev EmptyPolicy := {file : PolicyFile // loadNetworkPolicy file = ⟨[], []⟩}

/-! ## The law -/

/-- The command that was the last to drop a port, or to stop dropping it. -/
def lastDrop (commands : List Command) (chain : Direction) (port : Text) : Option Command :=
  (commands.filter (fun c => c.chain = chain ∧ c.spec.text = port ∧ c.target = drop)).getLast?

/-- A port is dropped when that command appended. -/
def Dropped (commands : List Command) (chain : Direction) (port : Text) : Prop :=
  ∃ c ∈ lastDrop commands chain port, c.action = .append

/-- What is expected of a run. -/
structure Correct (py : Interpreter) (start : PolicyFile) (commands : List Command) : Prop where
  returns : ∀ done c rest, commands = done ++ c :: rest →
    ∃ answer, (handleIptablesCommand py (runCommands py start done) c.text).1 = .ok answer
  /-- The listing shows the ports that are dropped. -/
  shows : ∀ done rest, commands = done ++ rest → ∀ (chain : Direction) (spec : PortSpec),
    Shows (renderIptablesList (runCommands py start done)) chain spec.text ↔ Dropped done chain spec.text
  /-- A command with another target leaves the listing. -/
  unchanged : ∀ done c rest, commands = done ++ c :: rest → c.target ≠ drop →
    renderIptablesList (runCommands py start (done ++ [c])) = renderIptablesList (runCommands py start done)

/-- The commands on which the handler does what is expected: no range is appended, and a command with another target
appends what is dropped already or deletes what is not. -/
def Supported (commands : List Command) : Prop :=
  ∀ done c rest, commands = done ++ c :: rest →
    (c.action = .append → ∃ port, c.spec = .single port) ∧
      (c.target ≠ drop → (Dropped done c.chain c.spec.text ↔ c.action = .append))

/-! ## Reading a command -/

/-- Tokens before the action are passed over. -/
theorem findAction_append (rest : List Text) : ∀ before : List Text,
    (∀ token ∈ before, token ∉ ["-A".toList, "-D".toList]) → findAction (before ++ rest) = findAction rest
  | [], _ => rfl
  | token :: before, h => by
    have ih := findAction_append rest before (fun t ht => h t (List.mem_cons_of_mem _ ht))
    rw [List.cons_append, ← ih]
    cases before ++ rest with
    | nil => rfl
    | cons next parts => rw [findAction, if_neg (h token List.mem_cons_self)]

theorem extractPort_append (rest : List Text) : ∀ before : List Text,
    (∀ token ∈ before, token ≠ "--dport".toList ∧ ¬ "--dport=".toList <+: token) →
      extractPortFromIptables (before ++ rest) = extractPortFromIptables rest
  | [], _ => rfl
  | token :: before, h => by
    obtain ⟨hname, hform⟩ := h token List.mem_cons_self
    rw [List.cons_append, extractPortFromIptables, if_neg (fun hc => hname hc.1), if_neg hform,
      extractPort_append rest before (fun t ht => h t (List.mem_cons_of_mem _ ht))]

/-- An option among others, and what stands before it. -/
theorem exists_split {α : Type} {P : α → Prop} {options rest : List (List α)} {option : List α}
    (harranged : options.Perm (option :: rest)) (hrest : ∀ other ∈ rest, ∀ token ∈ other, P token) :
    ∃ before after, options.flatten = before ++ (option ++ after) ∧ ∀ token ∈ before, P token := by
  obtain ⟨before, after, rfl⟩ := List.append_of_mem (harranged.mem_iff.2 List.mem_cons_self)
  have hperm : (before ++ after).Perm rest := List.Perm.cons_inv (List.perm_middle.symm.trans harranged)
  refine ⟨before.flatten, after.flatten, by rw [List.flatten_append, List.flatten_cons], fun token htoken => ?_⟩
  obtain ⟨other, hother, htoken⟩ := List.mem_flatten.1 htoken
  exact hrest other (hperm.mem_iff.1 (List.mem_append_left _ hother)) token htoken

theorem PortSpec.exists_digit (spec : PortSpec) : ∃ c rest, spec.text = c :: rest ∧ c.isDigit = true := by
  have hport : ∀ port : Port, ∃ c rest, port.val = c :: rest ∧ c.isDigit = true := by
    rintro ⟨digits, hne, -, hdigits⟩
    obtain ⟨c, rest, rfl⟩ := List.exists_cons_of_ne_nil hne
    exact ⟨c, rest, rfl, hdigits c List.mem_cons_self⟩
  cases spec with
  | single port => exact hport port
  | range first last =>
    obtain ⟨c, rest, hfirst, hc⟩ := hport first
    exact ⟨c, rest ++ ':' :: last.val, by rw [PortSpec.text, hfirst]; rfl, hc⟩

/-- A token that starts with a digit, or with anything else but a dash, is no option. -/
theorem not_option {token : Text} (h : token.head? ≠ some '-') : IsOtherOption [token] := by
  intro t ht
  obtain rfl := List.mem_singleton.1 ht
  constructor
  · intro hmem
    simp only [List.mem_cons, List.not_mem_nil, or_false] at hmem
    rcases hmem with rfl | rfl | rfl | rfl | rfl <;> exact h rfl
  · rintro ⟨rest, rfl⟩
    exact h rfl

theorem PortSpec.head?_text (spec : PortSpec) : spec.text.head? ≠ some '-' := by
  obtain ⟨c, rest, htext, hc⟩ := spec.exists_digit
  rw [htext]
  rintro ⟨⟩
  exact absurd hc (by decide)

/-- What a token that is not the action, the listing or the port is not. -/
structure IsPassedOver (token : Text) : Prop where
  action : token ∉ ["-A".toList, "-D".toList]
  listing : token ≠ "-L".toList
  port : token ≠ "--dport".toList ∧ ¬ "--dport=".toList <+: token

theorem IsOtherOption.passedOver {option : List Text} (h : IsOtherOption option) :
    ∀ token ∈ option, IsPassedOver token := by
  intro token htoken
  obtain ⟨hnames, hform⟩ := h token htoken
  simp only [List.mem_cons, List.not_mem_nil, or_false, not_or] at hnames
  exact ⟨by simp only [List.mem_cons, List.not_mem_nil, or_false, not_or]; exact ⟨hnames.1, hnames.2.1⟩, hnames.2.2.1,
    hnames.2.2.2.2, hform⟩

/-- The tokens of the port are no action and no listing. -/
theorem dportOption_passed (equalsForm : Bool) (spec : PortSpec) : ∀ token ∈ dportOption equalsForm spec,
    token ∉ ["-A".toList, "-D".toList] ∧ token ≠ "-L".toList := by
  have hlong : ∀ rest : Text, "--dport".toList ++ rest ∉ ["-A".toList, "-D".toList] ∧
      "--dport".toList ++ rest ≠ "-L".toList := by
    intro rest
    simp
  intro token htoken
  rw [dportOption] at htoken
  split at htoken
  · rw [List.mem_singleton.1 htoken]
    exact hlong ('=' :: spec.text)
  · rcases List.mem_cons.1 htoken with rfl | htoken
    · exact hlong []
    · have hpassed := (not_option spec.head?_text).passedOver token htoken
      exact ⟨hpassed.action, hpassed.listing⟩

/-- The tokens of the action are no listing and no port. -/
theorem action_passed (action : Action) (chain : Direction) : ∀ token ∈ [action.text, chain.text],
    token ≠ "-L".toList ∧ token ≠ "--dport".toList ∧ ¬ "--dport=".toList <+: token := by
  cases action <;> cases chain <;> decide

namespace Command

variable (c : Command)

theorem jump_passed : ∀ token ∈ ["-j".toList, c.target], IsPassedOver token := by
  intro token htoken
  rcases List.mem_cons.1 htoken with rfl | htoken
  · exact ⟨by decide, by decide, by decide⟩
  · exact (not_option c.target_plain).passedOver token htoken

theorem others_passed : ∀ option ∈ c.others, ∀ token ∈ option, IsPassedOver token := fun option h =>
  (c.others_plain option h).passedOver

/-- **The handler finds the action of a command**, wherever it stands. -/
theorem findAction_options (program : Text) (hprogram : IsPassedOver program) :
    findAction (program :: c.options.flatten) = some (c.action.text, c.chain.text) := by
  obtain ⟨before, after, hflatten, hbefore⟩ := exists_split (P := fun token => token ∉ ["-A".toList, "-D".toList])
    c.arranged (by
      intro option hoption token htoken
      rcases List.mem_cons.1 hoption with rfl | hoption
      · exact (dportOption_passed _ _ token htoken).1
      rcases List.mem_cons.1 hoption with rfl | hoption
      · exact (c.jump_passed token htoken).action
      · exact (c.others_passed option hoption token htoken).action)
  rw [hflatten, ← List.cons_append, findAction_append _ (program :: before)]
  · cases haction : c.action <;> rfl
  · intro token htoken
    rcases List.mem_cons.1 htoken with rfl | htoken
    · exact hprogram.action
    · exact hbefore token htoken

/-- **The handler finds the port of a command**, in either form. -/
theorem extractPort_options (program : Text) (hprogram : IsPassedOver program) :
    extractPortFromIptables (program :: c.options.flatten) = some c.spec.text := by
  obtain ⟨before, after, hflatten, hbefore⟩ := exists_split
    (P := fun token => token ≠ "--dport".toList ∧ ¬ "--dport=".toList <+: token)
    (c.arranged.trans (List.Perm.swap ..)) (by
      intro option hoption token htoken
      rcases List.mem_cons.1 hoption with rfl | hoption
      · exact (action_passed _ _ token htoken).2
      rcases List.mem_cons.1 hoption with rfl | hoption
      · exact (c.jump_passed token htoken).port
      · exact (c.others_passed option hoption token htoken).port)
  rw [hflatten, ← List.cons_append, extractPort_append _ (program :: before)]
  · cases c.equalsForm
    · rfl
    · have hform : "--dport=".toList <+: "--dport=".toList ++ c.spec.text := List.prefix_append _ _
      rw [dportOption, if_pos rfl, List.cons_append, extractPortFromIptables, if_neg (by simp), if_pos hform]
      rfl
  · intro token htoken
    rcases List.mem_cons.1 htoken with rfl | htoken
    · exact hprogram.port
    · exact hbefore token htoken

theorem listing_not_mem : "-L".toList ∉ c.options.flatten := by
  intro hmem
  obtain ⟨option, hoption, htoken⟩ := List.mem_flatten.1 hmem
  rcases List.mem_cons.1 (c.arranged.mem_iff.1 hoption) with rfl | hoption
  · exact (action_passed _ _ _ htoken).1 rfl
  rcases List.mem_cons.1 hoption with rfl | hoption
  · exact (dportOption_passed _ _ _ htoken).2 rfl
  rcases List.mem_cons.1 hoption with rfl | hoption
  · exact (c.jump_passed _ htoken).listing rfl
  · exact (c.others_passed option hoption _ htoken).listing rfl

end Command

theorem directionOf_text (py : Interpreter) (chain : Direction) : directionOf py chain.text = some chain := by
  cases chain <;> rw [directionOf, py.lower_ascii _ (by decide)] <;> decide

/-- **A command comes down to its action, its chain and its port**; the target is not read. -/
theorem handleIptablesCommand_eq (py : Interpreter) (file : PolicyFile) (c : Command) :
    handleIptablesCommand py file c.text = updatePolicy py file c.action.text c.chain c.spec.text := by
  have hprogram : IsPassedOver "iptables".toList := ⟨by decide, by decide, by decide⟩
  have hparts : (if ((if c.viaSudo then ["sudo".toList] else []) ++ "iptables".toList :: c.options.flatten).head? =
      some "sudo".toList then ((if c.viaSudo then ["sudo".toList] else []) ++ "iptables".toList ::
        c.options.flatten).tail else (if c.viaSudo then ["sudo".toList] else []) ++ "iptables".toList ::
        c.options.flatten) = "iptables".toList :: c.options.flatten := by
    cases c.viaSudo
    · rw [if_neg (by simp)]
      rfl
    · rw [if_pos (by rfl)]
      rfl
  have hport : (some c.spec.text).filter (· ≠ []) = some c.spec.text := by
    obtain ⟨d, rest, htext, -⟩ := c.spec.exists_digit
    rw [htext]
    rfl
  have hlisting : "-L".toList ∉ "iptables".toList :: c.options.flatten := by
    rw [List.mem_cons, not_or]
    exact ⟨by decide, c.listing_not_mem⟩
  unfold handleIptablesCommand
  simp only [c.splits, hparts]
  rw [if_neg (by decide), if_neg (by decide), if_neg hlisting, c.extractPort_options _ hprogram, hport,
    c.findAction_options _ hprogram]
  simp only [directionOf_text]

/-! ## Changing the policy -/

/-- What a command that does not append a range makes of the file: its port is blocked when it appends and not when it
deletes, and the rest stays. -/
structure Updated (c : Command) (before after : NetworkPolicy) : Prop where
  stored : Stored after
  mem_iff : ∀ direction item, item ∈ after.blocked direction ↔
    if direction = c.chain ∧ item = c.spec.text then c.action = .append else item ∈ before.blocked direction

section
variable (py : Interpreter)

/-- The set that is saved for the chain of a command. -/
theorem mem_updated (c : Command) (ports : List Text) (item : Text) :
    item ∈ py.iterate (if c.action.text = "-A".toList then insert c.spec.text ports.toFinset
      else ports.toFinset.erase c.spec.text) ↔ if item = c.spec.text then c.action = .append else item ∈ ports := by
  rw [py.mem_iterate]
  cases haction : c.action with
  | append =>
    rw [if_pos (show Action.append.text = "-A".toList from rfl), Finset.mem_insert, List.mem_toFinset]
    by_cases h : item = c.spec.text <;> simp [h]
  | delete =>
    rw [if_neg (show Action.delete.text ≠ "-A".toList by decide), Finset.mem_erase, List.mem_toFinset]
    by_cases h : item = c.spec.text <;> simp [h]

/-- **A command that does not append a range is answered**, and changes its port only. -/
theorem updatePolicy_ok {file : PolicyFile} (hstored : Stored (loadNetworkPolicy file)) {c : Command}
    (hsingle : c.action = .append → ∃ port, c.spec = .single port) :
    ∃ after, updatePolicy py file c.action.text c.chain c.spec.text =
      (.ok (some (0, [], [])), saveNetworkPolicy after) ∧ Updated c (loadNetworkPolicy file) after := by
  have hports : ∀ item ∈ py.iterate (if c.action.text = "-A".toList then
      insert c.spec.text ((loadNetworkPolicy file).blocked c.chain).toFinset
      else ((loadNetworkPolicy file).blocked c.chain).toFinset.erase c.spec.text), ∃ port : Port, port.val = item := by
    intro item hitem
    rw [mem_updated] at hitem
    split at hitem
    · rename_i heq
      obtain ⟨port, hport⟩ := hsingle hitem
      exact ⟨port, by rw [heq, hport]; rfl⟩
    · exact hstored c.chain item hitem
  obtain ⟨ports, hsorted, hmem⟩ := sortedByInt_ok py (fun item hitem => by
    obtain ⟨port, rfl⟩ := hports item hitem
    exact parseInt_port py port)
  refine ⟨(loadNetworkPolicy file).setBlocked c.chain ports, ?_, fun direction item hitem => ?_,
    fun direction item => ?_⟩
  · simp only [updatePolicy, hsorted]
  · rw [blocked_setBlocked] at hitem
    split at hitem
    · exact hports item ((hmem item).1 hitem)
    · exact hstored direction item hitem
  · rw [blocked_setBlocked]
    by_cases hdirection : direction = c.chain
    · rw [if_pos hdirection, hmem, mem_updated, hdirection]
      simp
    · rw [if_neg hdirection, if_neg (fun h => hdirection h.1)]

/-- **Appending a range raises.** -/
theorem updatePolicy_range (file : PolicyFile) {c : Command} (haction : c.action = .append) {first last : Port}
    (hspec : c.spec = .range first last) :
    ∃ message, updatePolicy py file c.action.text c.chain c.spec.text = (.error message, file) := by
  obtain ⟨message, hmessage⟩ := sortedByInt_error py ((mem_updated py c ((loadNetworkPolicy file).blocked c.chain)
    c.spec.text).2 (by rw [if_pos rfl]; exact haction)) (by rw [hspec]; exact parseInt_range py.ints first last)
  exact ⟨message, by simp only [updatePolicy, hmessage]⟩

end

/-! ## Runs -/

theorem dropped_append (done : List Command) (c : Command) (chain : Direction) (port : Text) :
    Dropped (done ++ [c]) chain port ↔
      if chain = c.chain ∧ port = c.spec.text ∧ c.target = drop then c.action = .append
      else Dropped done chain port := by
  unfold Dropped lastDrop
  rw [List.filter_append, List.filter_singleton]
  by_cases h : chain = c.chain ∧ port = c.spec.text ∧ c.target = drop
  · obtain ⟨rfl, rfl, htarget⟩ := h
    simp [htarget]
  · have hno : decide (c.chain = chain ∧ c.spec.text = port ∧ c.target = drop) = false :=
      decide_eq_false (fun hc => h ⟨hc.1.symm, hc.2.1.symm, hc.2.2⟩)
    rw [if_neg h, hno, cond_false, List.append_nil]

theorem runCommands_append (py : Interpreter) (file : PolicyFile) (done : List Command) (c : Command) :
    runCommands py file (done ++ [c]) = (handleIptablesCommand py (runCommands py file done) c.text).2 := by
  rw [runCommands, List.foldl_append]
  rfl

section
variable (py : Interpreter)

/-- **What a command does**: it appends a range and raises, or it is answered and changes its port. -/
theorem handle_cases {file : PolicyFile} (hstored : Stored (loadNetworkPolicy file)) (c : Command) :
    (c.action = .append ∧ ¬ (∃ port, c.spec = .single port) ∧
        ∃ message, handleIptablesCommand py file c.text = (.error message, file)) ∨
      ((c.action = .append → ∃ port, c.spec = .single port) ∧
        ∃ after, handleIptablesCommand py file c.text = (.ok (some (0, [], [])), saveNetworkPolicy after) ∧
          Updated c (loadNetworkPolicy file) after) := by
  by_cases hsingle : c.action = .append → ∃ port, c.spec = .single port
  · rw [handleIptablesCommand_eq]
    exact .inr ⟨hsingle, updatePolicy_ok py hstored hsingle⟩
  · obtain ⟨haction, hrange⟩ := Classical.not_imp.1 hsingle
    refine .inl ⟨haction, hrange, ?_⟩
    rw [handleIptablesCommand_eq]
    cases hspec : c.spec with
    | single port => exact absurd ⟨port, hspec⟩ hrange
    | range first last =>
      rw [← hspec]
      exact updatePolicy_range py file haction hspec

/-- Whatever is run, the ports in the file stay numbers. -/
theorem stored_run (start : EmptyPolicy) (commands : List Command) :
    Stored (loadNetworkPolicy (runCommands py start commands)) := by
  induction commands using List.reverseRecOn with
  | nil =>
    intro direction item hitem
    have hempty : item ∈ (⟨[], []⟩ : NetworkPolicy).blocked direction := start.property ▸ hitem
    cases direction <;> cases hempty
  | append_singleton done c ih =>
    rw [runCommands_append]
    rcases handle_cases py ih c with ⟨-, -, message, h⟩ | ⟨-, after, h, hupdated⟩
    · rw [h]
      exact ih
    · rw [h]
      exact hupdated.stored

/-- **While the commands are supported the file blocks what is dropped.** -/
theorem blocked_run (start : EmptyPolicy) (commands : List Command) (h : Supported commands) :
    ∀ chain port, port ∈ (loadNetworkPolicy (runCommands py start commands)).blocked chain ↔
      Dropped commands chain port := by
  induction commands using List.reverseRecOn with
  | nil =>
    intro chain port
    have hempty : (loadNetworkPolicy (runCommands py start [])).blocked chain = [] := by
      rw [show loadNetworkPolicy (runCommands py start []) = _ from start.property]
      cases chain <;> rfl
    rw [hempty]
    simp [Dropped, lastDrop]
  | append_singleton done c ih =>
    have ih := ih (fun before d rest heq => h before d (rest ++ [c]) (by rw [heq]; simp))
    obtain ⟨hsingle, hother⟩ := h done c [] rfl
    rcases handle_cases py (stored_run py start done) c with ⟨haction, hrange, -⟩ | ⟨-, after, hafter, hupdated⟩
    · exact absurd (hsingle haction) hrange
    intro chain port
    rw [runCommands_append, hafter, load_save, hupdated.mem_iff, dropped_append, ih]
    by_cases hport : chain = c.chain ∧ port = c.spec.text
    · obtain ⟨rfl, rfl⟩ := hport
      by_cases htarget : c.target = drop
      · simp [htarget]
      · simp [htarget, hother htarget]
    · rw [if_neg hport, if_neg (fun hc => hport ⟨hc.1, hc.2.1⟩)]

end

/-- **The shadow firewall is right exactly on supported commands**: those that append no range, and of those with
another target than `DROP` only the ones that change nothing. -/
theorem iptables_correct_iff (py : Interpreter) (start : EmptyPolicy) (commands : List Command) :
    Correct py start commands ↔ Supported commands := by
  constructor
  · intro h done c rest heq
    have hdone := h.shows done (c :: rest) heq c.chain c.spec
    rcases handle_cases py (stored_run py start done) c with ⟨-, -, message, herror⟩ |
      ⟨hsingle, after, hafter, hupdated⟩
    · obtain ⟨answer, hanswer⟩ := h.returns done c rest heq
      rw [herror] at hanswer
      cases hanswer
    refine ⟨hsingle, fun htarget => ?_⟩
    -- the listing stays as it was, and shows what the command did
    have hstored : Stored (loadNetworkPolicy (runCommands py start (done ++ [c]))) := stored_run py start _
    rw [← hdone, ← h.unchanged done c rest heq htarget, shows_iff hstored, runCommands_append, hafter, load_save,
      hupdated.mem_iff, if_pos ⟨rfl, rfl⟩]
  · intro h
    have hbefore : ∀ done rest, commands = done ++ rest → Supported done := fun done rest heq before c after heq' =>
      h before c (after ++ rest) (by rw [heq, heq']; simp)
    refine ⟨fun done c rest heq => ?_, fun done rest heq chain spec => ?_, fun done c rest heq htarget => ?_⟩
    · rcases handle_cases py (stored_run py start done) c with ⟨haction, hrange, -⟩ | ⟨-, after, hafter, -⟩
      · exact absurd ((h done c rest heq).1 haction) hrange
      · exact ⟨_, by rw [hafter]⟩
    · rw [shows_iff (stored_run py start done)]
      exact blocked_run py start done (hbefore done rest heq) chain spec.text
    · refine render_congr (fun direction item => ?_)
      rw [blocked_run py start _ (hbefore (done ++ [c]) rest (by rw [heq]; simp)), dropped_append,
        if_neg (fun hc => htarget hc.2.2), blocked_run py start done (hbefore done (c :: rest) heq)]

/-! ## A range -/

/-- An interpreter whose sets are iterated in order, for ASCII texts. -/
def asciiInterpreter : Interpreter where
  iterate items := items.sort (· ≤ ·)
  mem_iterate _ _ := Finset.mem_sort _
  lower text := text.map Char.toLower
  lower_ascii _ _ := rfl
  ints := asciiIntText
  allows_default _ h := decide_eq_true h
  intMessage text := "invalid literal for int() with base 10: " ++ String.ofList text

def rangeOptions : List (List Text) :=
  [["-A".toList, "INPUT".toList], ["-p".toList, "tcp".toList], ["--dport".toList, "1000:2000".toList],
    ["-j".toList, drop]]

/-- `iptables -A INPUT -p tcp --dport 1000:2000 -j DROP`. -/
def rangeCommand : Command where
  text := joinTokens ("iptables".toList :: rangeOptions.flatten)
  viaSudo := false
  action := .append
  chain := .input
  spec := .range ⟨"1000".toList, by decide⟩ ⟨"2000".toList, by decide⟩
  equalsForm := false
  target := drop
  others := [["-p".toList, "tcp".toList]]
  options := rangeOptions
  target_plain := by decide
  others_plain := by
    intro option hoption token htoken
    obtain rfl := List.mem_singleton.1 hoption
    revert token
    decide
  arranged := by decide
  splits := shlexSplit_join _ (by decide)

theorem range_raises : ¬ ∀ (py : Interpreter) (start : EmptyPolicy) (commands : List Command),
    Correct py start commands := by
  intro h
  obtain ⟨answer, hanswer⟩ := (h asciiInterpreter ⟨none, rfl⟩ [rangeCommand]).returns [] rangeCommand [] rfl
  obtain ⟨message, hmessage⟩ := updatePolicy_range asciiInterpreter (runCommands asciiInterpreter none [])
    (show rangeCommand.action = .append from rfl) (show rangeCommand.spec = .range _ _ from rfl)
  rw [handleIptablesCommand_eq, hmessage] at hanswer
  cases hanswer

end Lider.Firewall
