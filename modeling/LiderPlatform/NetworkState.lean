import LiderPlatform.PyInts
import LiderPlatform.PyShlex
import LiderPlatform.PySorted
import Mathlib.Data.Finset.Sort
import Mathlib.Data.List.Lex
/-!
# NetworkState — the shadow firewall of an agent (`services/ahenk/hooks/network_state.py`)

`iptables` commands change a policy file with one list of blocked ports a chain, and the file is what `iptables -L`
shows (`shows_iff`).  The handler reads the chain and the port of a command and nothing else: the target is not looked
at, and the blocked ports are sorted as numbers, which a range is not (`parseInt_range`).
-/
namespace Lider.Firewall

open Py

/-! ## The policy file -/

inductive Direction where
  | input
  | output
deriving DecidableEq

/-- The blocked ports, with the defaults filled in. -/
structure NetworkPolicy where
  input : List Text
  output : List Text

def NetworkPolicy.blocked (policy : NetworkPolicy) : Direction → List Text
  | .input => policy.input
  | .output => policy.output

def NetworkPolicy.setBlocked (policy : NetworkPolicy) (direction : Direction) (ports : List Text) : NetworkPolicy :=
  match direction with
  | .input => { policy with input := ports }
  | .output => { policy with output := ports }

/-- The lists under `blocked` in the file, where they are present. -/
structure BlockedLists where
  input : Option (List Text)
  output : Option (List Text)

structure PolicyDocument where
  blocked : Option BlockedLists

/-- What the file holds, when it can be read. -/
abbrev PolicyFile := Option PolicyDocument

def loadNetworkPolicy (file : PolicyFile) : NetworkPolicy :=
  let payload := file.getD ⟨some ⟨some [], some []⟩⟩
  let blocked := payload.blocked.getD ⟨none, none⟩
  ⟨blocked.input.getD [], blocked.output.getD []⟩

/-- What the file holds once the policy is saved. -/
def saveNetworkPolicy (policy : NetworkPolicy) : PolicyFile := some ⟨some ⟨some policy.input, some policy.output⟩⟩

/-! ## The handler -/

/-- What the language leaves open: the order of a set, the letters and the digits outside ASCII, the limit on the
digits of an integer (the default or more), and the message of `int` for a text it refuses. -/
structure Interpreter where
  iterate : Finset Text → List Text
  mem_iterate : ∀ items item, item ∈ iterate items ↔ item ∈ items
  lower : Text → Text
  lower_ascii : ∀ text : Text, (∀ c ∈ text, c.toNat < 128) → lower text = text.map Char.toLower
  ints : IntText
  allows_default : ∀ digits ≤ 4300, ints.maxStrDigits.allows digits = true
  intMessage : Text → String

section
variable (py : Interpreter)

/-- `sorted(items, key=lambda item: int(item))`, or the message of the `ValueError`. -/
def sortedByInt (items : List Text) : Except String (List Text) := do
  let keyed ← items.mapM (fun item => match parseInt py.ints item with
    | some number => .ok (number, item)
    | none => .error (py.intMessage item))
  return (sortedBy Prod.fst keyed).map Prod.snd

/-- The first `-A` or `-D` that something follows, with what follows it. -/
def findAction : List Text → Option (Text × Text)
  | part :: next :: parts =>
    if part ∈ ["-A".toList, "-D".toList] then some (part, next) else findAction (next :: parts)
  | _ => none

def extractPortFromIptables : List Text → Option Text
  | [] => none
  | part :: parts =>
    if part = "--dport".toList ∧ parts ≠ [] then parts.head?
    else if "--dport=".toList <+: part then some (splitTail '=' part)
    else extractPortFromIptables parts

/-- `parts[idx + 1].strip().lower()`, when it names a chain. -/
def directionOf (part : Text) : Option Direction :=
  let direction := py.lower (strip part)
  if direction = "input".toList then some .input else if direction = "output".toList then some .output else none

def dropHead : Text := "DROP       tcp  --  anywhere             anywhere             tcp dpt:".toList

def dropLine (port : Text) : Text := dropHead ++ port

def listingLines (policy : NetworkPolicy) : List Text :=
  "Chain INPUT".toList :: (sortedUnique policy.input).val.map dropLine ++
    "Chain OUTPUT".toList :: (sortedUnique policy.output).val.map dropLine

/-- `"\n".join(lines) + "\n"`. -/
def renderIptablesList (file : PolicyFile) : Text :=
  ['\n'].intercalate (listingLines (loadNetworkPolicy file)) ++ ['\n']

/-- What a command answers: nothing when it is not handled here, else the exit status, the output and the errors. -/
abbrev Answer := Option (Int × Text × Text)

/-- The part of the handler after the action, the chain and the port are read. -/
def updatePolicy (file : PolicyFile) (action : Text) (direction : Direction) (port : Text) :
    Except String Answer × PolicyFile :=
  let policy := loadNetworkPolicy file
  let blocked := (policy.blocked direction).toFinset
  let blocked := if action = "-A".toList then insert port blocked else blocked.erase port
  match sortedByInt py (py.iterate blocked) with
  | .error message => (.error message, file)
  | .ok ports => (.ok (some (0, [], [])), saveNetworkPolicy (policy.setBlocked direction ports))

def handleIptablesCommand (file : PolicyFile) (command : Text) : Except String Answer × PolicyFile :=
  match shlexSplit command with
  | .error message => (.error message, file)
  | .ok parts =>
    let parts := if parts.head? = some "sudo".toList then parts.tail else parts
    match parts with
    | [] => (.ok none, file)
    | program :: _ =>
      if program = "iptables-save".toList then (.ok (some (0, [], [])), file)
      else if program ≠ "iptables".toList then (.ok none, file)
      else if "-L".toList ∈ parts then (.ok (some (0, renderIptablesList file, [])), file)
      else
        let port := (extractPortFromIptables parts).filter (· ≠ [])
        match findAction parts, port with
        | some (action, chain), some port =>
          match directionOf py chain with
          | some direction => updatePolicy py file action direction port
          | none => (.ok (some (0, [], [])), file)
        | _, _ => (.ok (some (0, [], [])), file)

end

/-! ## Ports -/

/-- The decimal digits of a port, as many as `int` converts by default. -/
abbrev Port := {digits : Text // digits ≠ [] ∧ digits.length ≤ 4300 ∧ ∀ c ∈ digits, c.isDigit = true}

inductive PortSpec where
  | single (port : Port)
  | range (first last : Port)

def PortSpec.text : PortSpec → Text
  | .single port => port.val
  | .range first last => first.val ++ ':' :: last.val

theorem parseInt_port (py : Interpreter) (port : Port) : ∃ number, parseInt py.ints port.val = some number := by
  rw [parseInt_of_isDigit py.ints port.property.1 port.property.2.2, if_pos (py.allows_default _ port.property.2.1)]
  exact ⟨_, rfl⟩

theorem moreDigits_colon (digitOf : Char → Option Nat) (rest : Text) : ∀ (digits : Text) (n : Nat),
    (∀ c ∈ digits, c.isDigit = true) → moreDigits digitOf n (digits ++ ':' :: rest) = none
  | [], n, _ => by
    rw [List.nil_append, moreDigits]
    · rfl
    · rintro _ _ ⟨⟩
  | c :: digits, n, h => by
    have hc : c.isDigit = true := h c List.mem_cons_self
    rw [List.cons_append, moreDigits]
    · rw [digitValue_of_isDigit digitOf hc, Option.bind_some]
      exact moreDigits_colon digitOf rest digits _ (fun x hx => h x (List.mem_cons_of_mem _ hx))
    · rintro _ _ rfl
      exact absurd hc (by decide)

/-- **A range is no number.** -/
theorem parseInt_range (it : IntText) (first last : Port) :
    parseInt it (PortSpec.range first last).text = none := by
  obtain ⟨digits, hne, -, hdigits⟩ := first
  obtain ⟨c, cs, rfl⟩ := List.exists_cons_of_ne_nil hne
  have hc : c.isDigit = true := hdigits c List.mem_cons_self
  have hblank : ((PortSpec.range ⟨c :: cs, hne, ‹_›, hdigits⟩ last).text.dropWhile isIntSpace).rdropWhile isIntSpace =
      c :: (cs ++ ':' :: last.val) := by
    refine dropBoth_eq_self isIntSpace (fun x hx => ?_) (fun x hx => ?_)
    · cases hx
      exact isIntSpace_of_isDigit hc
    · refine isIntSpace_of_isDigit (last.property.2.2 x ?_)
      have hlast : x ∈ (((c :: cs) ++ [':']) ++ last.val).getLast? := by simpa [PortSpec.text] using hx
      rw [List.getLast?_append_of_ne_nil _ last.property.1] at hlast
      exact List.mem_of_getLast? hlast
  rw [parseInt, hblank]
  have hnone : parseNat it (c :: (cs ++ ':' :: last.val)) = none := by
    have hdigits : parseDigits it.digitOf (c :: (cs ++ ':' :: last.val)) = none := by
      rw [parseDigits, digitValue_of_isDigit it.digitOf hc, Option.bind_some]
      exact moreDigits_colon it.digitOf last.val cs _ (fun x hx => hdigits x (List.mem_cons_of_mem _ hx))
    rw [parseNat, hdigits, ite_self]
  split
  · rename_i heq
    obtain ⟨rfl, -⟩ := List.cons.inj heq
    exact absurd hc (by decide)
  · rename_i heq
    obtain ⟨rfl, -⟩ := List.cons.inj heq
    exact absurd hc (by decide)
  · rw [hnone]
    rfl

section
variable (py : Interpreter)

/-- Numbers are sorted, and nothing is lost. -/
theorem sortedByInt_ok {items : List Text} (h : ∀ item ∈ items, ∃ number, parseInt py.ints item = some number) :
    ∃ ports, sortedByInt py items = .ok ports ∧ ∀ port, port ∈ ports ↔ port ∈ items := by
  have hkeyed : ∃ keyed : List (Int × Text), items.mapM (fun item => match parseInt py.ints item with
      | some number => Except.ok (number, item)
      | none => .error (py.intMessage item)) = .ok keyed ∧
        keyed.map Prod.snd = items := by
    induction items with
    | nil => exact ⟨[], rfl, rfl⟩
    | cons item items ih =>
      obtain ⟨number, hnumber⟩ := h item List.mem_cons_self
      obtain ⟨keyed, hkeyed, hsnd⟩ := ih (fun x hx => h x (List.mem_cons_of_mem _ hx))
      refine ⟨(number, item) :: keyed, ?_, by rw [List.map_cons, hsnd]⟩
      rw [List.mapM_cons, hnumber, hkeyed]
      rfl
  obtain ⟨keyed, hkeyed, hsnd⟩ := hkeyed
  refine ⟨(sortedBy Prod.fst keyed).map Prod.snd, by rw [sortedByInt, hkeyed]; rfl, fun port => ?_⟩
  rw [← hsnd, List.mem_map, List.mem_map]
  simp [sortedBy]

theorem sortedByInt_error {items : List Text} {item : Text} (hmem : item ∈ items)
    (hnone : parseInt py.ints item = none) : ∃ message, sortedByInt py items = .error message := by
  have hkeyed : ∃ message, items.mapM (fun item => match parseInt py.ints item with
      | some number => Except.ok (number, item)
      | none => .error (py.intMessage item)) = .error message := by
    induction items with
    | nil => cases hmem
    | cons other items ih =>
      rw [List.mapM_cons]
      rcases List.mem_cons.1 hmem with rfl | hmem
      · rw [hnone]
        exact ⟨_, rfl⟩
      · obtain ⟨message, hmessage⟩ := ih hmem
        rw [hmessage]
        cases parseInt py.ints other with
        | none => exact ⟨_, rfl⟩
        | some number => exact ⟨message, rfl⟩
  obtain ⟨message, hmessage⟩ := hkeyed
  exact ⟨message, by rw [sortedByInt, hmessage]; rfl⟩

end

/-! ## The listing -/

def Direction.text : Direction → Text
  | .input => "INPUT".toList
  | .output => "OUTPUT".toList

/-- The lines of a chain in a listing: those after its header, up to the next one. -/
def chainLines (chain : Direction) (lines : List Text) : List Text :=
  ((lines.dropWhile (· ≠ "Chain ".toList ++ chain.text)).tail).takeWhile (fun line => ¬ "Chain".toList <+: line)

def Shows (listing : Text) (chain : Direction) (port : Text) : Prop :=
  dropLine port ∈ chainLines chain (splitlines listing)

theorem load_save (policy : NetworkPolicy) : loadNetworkPolicy (saveNetworkPolicy policy) = policy := rfl

theorem blocked_setBlocked (policy : NetworkPolicy) (direction other : Direction) (ports : List Text) :
    (policy.setBlocked direction ports).blocked other = if other = direction then ports else policy.blocked other := by
  cases direction <;> cases other <;> rfl

/-- The ports in the file are numbers. -/
def Stored (policy : NetworkPolicy) : Prop :=
  ∀ direction, ∀ item ∈ policy.blocked direction, ∃ port : Port, port.val = item

/-- A listing depends on what is blocked, not on how the file lists it. -/
theorem render_congr {file file' : PolicyFile} (h : ∀ direction item,
    item ∈ (loadNetworkPolicy file).blocked direction ↔ item ∈ (loadNetworkPolicy file').blocked direction) :
    renderIptablesList file = renderIptablesList file' := by
  have hsame : ∀ direction, sortedUnique ((loadNetworkPolicy file).blocked direction) =
      sortedUnique ((loadNetworkPolicy file').blocked direction) := fun direction =>
    Ascending.ext_mem _ _ (fun item => by rw [mem_sortedUnique, mem_sortedUnique, h direction item])
  have hinput := hsame .input
  have houtput := hsame .output
  simp only [NetworkPolicy.blocked] at hinput houtput
  rw [renderIptablesList, renderIptablesList, listingLines, listingLines, hinput, houtput]

theorem dropLine_injective {port port' : Text} (h : dropLine port = dropLine port') : port = port' :=
  List.append_cancel_left h

theorem intercalate_append (sep : Text) : ∀ lines : List Text, lines ≠ [] →
    sep.intercalate lines ++ sep = lines.flatMap (· ++ sep)
  | [], h => absurd rfl h
  | [line], _ => by simp
  | line :: next :: lines, _ => by
    have ih := intercalate_append sep (next :: lines) (List.cons_ne_nil _ _)
    rw [List.flatMap_cons, ← ih, List.intercalate_cons_cons]
    simp only [List.append_assoc]

/-- **The lines of a listing are read back**, when the ports are numbers. -/
theorem splitlines_render {file : PolicyFile} (h : Stored (loadNetworkPolicy file)) :
    splitlines (renderIptablesList file) = listingLines (loadNetworkPolicy file) := by
  have hbreaks : ∀ c ∈ ['\n', '\r', '\x0b', '\x0c', '\x1c', '\x1d', '\x1e', '\u0085', '\u2028', '\u2029'],
      c.isDigit = false := by decide
  have hdigit : ∀ c : Char, c.isDigit = true → isLineBreak c = false := fun c hc =>
    Bool.eq_false_iff.2 (fun hbreak => by simpa [hc] using hbreaks c (of_decide_eq_true hbreak))
  have hhead : ∀ c ∈ dropHead, isLineBreak c = false := by decide
  have hdrop : ∀ direction, ∀ line ∈ (sortedUnique ((loadNetworkPolicy file).blocked direction)).val.map dropLine,
      ∀ c ∈ line, isLineBreak c = false := by
    intro direction line hline c hc
    obtain ⟨item, hitem, rfl⟩ := List.mem_map.1 hline
    obtain ⟨port, rfl⟩ := h direction item ((mem_sortedUnique _ _).1 hitem)
    rcases List.mem_append.1 hc with hc | hc
    · exact hhead c hc
    · exact hdigit c (port.property.2.2 c hc)
  rw [renderIptablesList, intercalate_append ['\n'] _ (by simp [listingLines]), splitlines_lines]
  intro line hline
  rcases List.mem_append.1 hline with hline | hline
  · rcases List.mem_cons.1 hline with rfl | hline
    · decide
    · exact hdrop .input line hline
  · rcases List.mem_cons.1 hline with rfl | hline
    · decide
    · exact hdrop .output line hline

theorem head?_dropLine (port : Text) : (dropLine port).head? = some 'D' := by
  rw [dropLine, List.head?_append, show dropHead.head? = some 'D' by decide, Option.some_or]

/-- The lines of a chain are its dropped ports. -/
theorem chainLines_listing (policy : NetworkPolicy) (chain : Direction) : chainLines chain (listingLines policy) =
    (sortedUnique (policy.blocked chain)).val.map dropLine := by
  have hline : ∀ direction, ∀ line ∈ (sortedUnique (policy.blocked direction)).val.map dropLine,
      ¬ "Chain".toList <+: line := by
    intro direction line hline
    obtain ⟨port, -, rfl⟩ := List.mem_map.1 hline
    rintro ⟨rest, hrest⟩
    have hhead := (congrArg List.head? hrest).trans (head?_dropLine port)
    rw [List.head?_append, show "Chain".toList.head? = some 'C' by decide, Option.some_or] at hhead
    exact absurd hhead (by decide)
  have htake : ∀ direction rest, ((sortedUnique (policy.blocked direction)).val.map dropLine ++ rest).takeWhile
      (fun line => ¬ "Chain".toList <+: line) = (sortedUnique (policy.blocked direction)).val.map dropLine ++
        rest.takeWhile (fun line => ¬ "Chain".toList <+: line) := fun direction rest =>
    List.takeWhile_append_of_pos (fun line h => decide_eq_true (hline direction line h))
  cases chain with
  | input =>
    rw [chainLines, listingLines, List.cons_append, List.dropWhile_cons_of_neg (by decide), List.tail_cons]
    refine (htake .input _).trans ?_
    rw [List.takeWhile_cons_of_neg (by decide), List.append_nil]
  | output =>
    have hne : ∀ line ∈ (sortedUnique policy.input).val.map dropLine,
        decide (line ≠ "Chain ".toList ++ Direction.output.text) = true := by
      intro line h
      rw [decide_eq_true_eq]
      rintro rfl
      exact hline .input _ h (by decide)
    rw [chainLines, listingLines, List.cons_append, List.dropWhile_cons_of_pos (by decide),
      List.dropWhile_append_of_pos hne, List.dropWhile_cons_of_neg (by decide), List.tail_cons]
    have hall := htake .output []
    rw [List.append_nil, List.takeWhile_nil, List.append_nil] at hall
    exact hall

/-- **The listing shows what is blocked.** -/
theorem shows_iff {file : PolicyFile} (h : Stored (loadNetworkPolicy file)) (chain : Direction) (port : Text) :
    Shows (renderIptablesList file) chain port ↔ port ∈ (loadNetworkPolicy file).blocked chain := by
  rw [Shows, splitlines_render h, chainLines_listing, List.mem_map]
  constructor
  · rintro ⟨port', hport', heq⟩
    rw [← dropLine_injective heq]
    exact (mem_sortedUnique _ _).1 hport'
  · exact fun hport => ⟨port, (mem_sortedUnique _ _).2 hport, rfl⟩

end Lider.Firewall
