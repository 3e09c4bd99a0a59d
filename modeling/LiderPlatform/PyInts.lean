import LiderPlatform.PyText
/-!
# PyInts — `int(v)` and `str(i)`

`int` reads a text as an optional sign and decimal digits, an underscore allowed between two digits, blanks around it
dropped.  A digit is any decimal digit of Unicode: those outside ASCII are a parameter, and so is the interpreter's
limit on the digits of a text.  `int(str(i))` is `i` (`parseInt_of_strInt`).
-/
namespace Py

/-- The exceptions of `int(v)`. -/
inductive IntError where
  | valueError
  | typeError
  | overflowError
deriving DecidableEq, Repr

/-- The blanks `int` drops: those of `str.isspace` but the four ASCII separators. -/
def isIntSpace (c : Char) : Bool := isSpace c && !(0x1c ≤ c.toNat && c.toNat ≤ 0x1f)

/-- What the interpreter brings to `int` and `str`: the decimal digits outside ASCII, and the limit on the digits. -/
structure IntText where
  digitOf : Char → Option Nat
  maxStrDigits : DigitLimit

/-- The default limit, and the digits of ASCII alone. -/
def asciiIntText : IntText := ⟨fun _ => none, defaultDigitLimit⟩

section
variable (digitOf : Char → Option Nat)

/-- The value of a decimal digit. -/
def digitValue (c : Char) : Option Nat :=
  if c.isDigit then some (c.toNat - '0'.toNat) else if c.toNat < 128 then none else digitOf c

/-- The digits that follow a digit. -/
def moreDigits : Nat → Text → Option Nat
  | n, [] => some n
  | n, '_' :: c :: cs => (digitValue digitOf c).bind (fun d => moreDigits (10 * n + d) cs)
  | n, c :: cs => (digitValue digitOf c).bind (fun d => moreDigits (10 * n + d) cs)

def parseDigits : Text → Option Nat
  | [] => none
  | c :: cs => (digitValue digitOf c).bind (fun d => moreDigits digitOf d cs)

variable (it : IntText)

/-- A number without its sign; leading zeros count among its digits, underscores do not. -/
def parseNat (cs : Text) : Option Nat :=
  if it.maxStrDigits.allows (cs.filter (· ≠ '_')).length then parseDigits it.digitOf cs else none

/-- `int(text)`; `none` is its `ValueError`. -/
def parseInt (text : Text) : Option Int :=
  match (text.dropWhile isIntSpace).rdropWhile isIntSpace with
  | '-' :: cs => (parseNat it cs).map (fun n : Nat => -(n : Int))
  | '+' :: cs => (parseNat it cs).map (fun n : Nat => (n : Int))
  | cs => (parseNat it cs).map (fun n : Nat => (n : Int))

/-- `int(v)`. -/
def intOfJson : Json → Except IntError Int
  | .int i => .ok i
  | .bool b => .ok (if b then 1 else 0)
  | .str s => match parseInt it s.toList with
    | some i => .ok i
    | none => .error .valueError
  | .float (.finite x) => .ok (x.toRat.num.tdiv x.toRat.den)
  | .float (.inf _) => .error .overflowError
  | .float .nan => .error .valueError
  | _ => .error .typeError

theorem digitValue_of_isDigit {c : Char} (h : c.isDigit = true) :
    digitValue digitOf c = some (c.toNat - '0'.toNat) := by
  rw [digitValue, if_pos h]

theorem moreDigits_of_isDigit : ∀ (ds : Text) (n : Nat), (∀ c ∈ ds, c.isDigit = true) →
    moreDigits digitOf n ds = some (Nat.ofDigitChars 10 ds n)
  | [], n, _ => rfl
  | c :: ds, n, h => by
    have hc : c.isDigit = true := h c List.mem_cons_self
    have ih := moreDigits_of_isDigit ds (10 * n + (c.toNat - '0'.toNat)) (fun x hx => h x (List.mem_cons_of_mem _ hx))
    unfold moreDigits
    split
    · rename_i heq
      cases heq
    · rename_i heq
      obtain ⟨rfl, -⟩ := List.cons.inj heq
      exact absurd hc (by decide)
    · rename_i heq
      obtain ⟨rfl, rfl⟩ := List.cons.inj heq
      rw [digitValue_of_isDigit digitOf hc, Option.bind_some, ih, Nat.ofDigitChars_cons]

theorem parseDigits_of_isDigit {ds : Text} (hne : ds ≠ []) (h : ∀ c ∈ ds, c.isDigit = true) :
    parseDigits digitOf ds = some (Nat.ofDigitChars 10 ds 0) := by
  cases ds with
  | nil => exact absurd rfl hne
  | cons c ds =>
    rw [parseDigits, digitValue_of_isDigit digitOf (h c List.mem_cons_self), Option.bind_some,
      moreDigits_of_isDigit digitOf ds _ (fun x hx => h x (List.mem_cons_of_mem _ hx)), Nat.ofDigitChars_cons,
      Nat.mul_zero, Nat.zero_add]

/-- A run of digits has no underscores. -/
theorem filter_underscore_of_isDigit {ds : Text} (h : ∀ c ∈ ds, c.isDigit = true) :
    ds.filter (fun c => decide (c ≠ '_')) = ds := by
  refine List.filter_eq_self.2 (fun c hc => decide_eq_true ?_)
  rintro rfl
  exact absurd (h '_' hc) (by decide)

theorem parseNat_of_isDigit {ds : Text} (hne : ds ≠ []) (h : ∀ c ∈ ds, c.isDigit = true) :
    parseNat it ds = if it.maxStrDigits.allows ds.length then some (Nat.ofDigitChars 10 ds 0) else none := by
  rw [parseNat, filter_underscore_of_isDigit h, parseDigits_of_isDigit it.digitOf hne h]

end

/-! ## Texts without blanks around them -/

theorem isIntSpace_of_isDigit {c : Char} (h : c.isDigit = true) : isIntSpace c = false := by
  have hb : 48 ≤ c.toNat ∧ c.toNat ≤ 57 := by
    simpa [Char.isDigit, UInt32.le_iff_toNat_le] using h
  simp only [isIntSpace, isSpace, Bool.and_eq_false_imp]
  grind

/-- Dropping at both ends leaves a text alone whose ends are kept. -/
theorem dropBoth_eq_self (p : Char → Bool) {cs : Text} (hhead : ∀ c ∈ cs.head?, p c = false)
    (hlast : ∀ c ∈ cs.getLast?, p c = false) : (cs.dropWhile p).rdropWhile p = cs := by
  have hdrop : cs.dropWhile p = cs := by
    cases cs with
    | nil => rfl
    | cons c cs => rw [List.dropWhile_cons_of_neg (by simp [hhead c rfl])]
  rw [hdrop, List.rdropWhile_eq_self_iff]
  intro hne
  simpa using hlast _ (List.getLast?_eq_some_getLast hne)

section
variable (it : IntText)

/-- A run of ASCII digits is read as the number it is, when the limit allows them. -/
theorem parseInt_of_isDigit {ds : Text} (hne : ds ≠ []) (h : ∀ c ∈ ds, c.isDigit = true) : parseInt it ds =
    if it.maxStrDigits.allows ds.length then some (Nat.ofDigitChars 10 ds 0 : Int) else none := by
  have hblank : (ds.dropWhile isIntSpace).rdropWhile isIntSpace = ds :=
    dropBoth_eq_self isIntSpace (fun c hc => isIntSpace_of_isDigit (h c (List.mem_of_mem_head? hc)))
      (fun c hc => isIntSpace_of_isDigit (h c (List.mem_of_getLast? hc)))
  rw [parseInt, hblank]
  split
  · exact absurd (h '-' List.mem_cons_self) (by decide)
  · exact absurd (h '+' List.mem_cons_self) (by decide)
  · rw [parseNat_of_isDigit it hne h]
    split <;> rfl

/-- The text of an integer. -/
def intText (i : Int) : Text := if i < 0 then '-' :: Nat.toDigits 10 i.natAbs else Nat.toDigits 10 i.natAbs

/-- `str(i)`. -/
def strInt (i : Int) : Except IntError Text :=
  if it.maxStrDigits.allows (Nat.toDigits 10 i.natAbs).length then .ok (intText i) else .error .valueError

theorem strInt_eq_ok {i : Int} {text : Text} : strInt it i = .ok text ↔
    it.maxStrDigits.allows (Nat.toDigits 10 i.natAbs).length = true ∧ intText i = text := by
  unfold strInt
  split
  · rename_i hallows
    simp [hallows]
  · rename_i hrefuses
    simp [hrefuses]

/-- **`int(str(i))` is `i`**, for an integer that the limit lets `str` write. -/
theorem parseInt_of_strInt {i : Int} {text : Text} (h : strInt it i = .ok text) : parseInt it text = some i := by
  obtain ⟨hallows, rfl⟩ := (strInt_eq_ok it).1 h
  have hdigits : ∀ c ∈ Nat.toDigits 10 i.natAbs, c.isDigit = true := fun c hc =>
    Nat.isDigit_of_mem_toDigits (by decide) (by decide) hc
  have hne : Nat.toDigits 10 i.natAbs ≠ [] := Nat.toDigits_ne_nil
  have hvalue : Nat.ofDigitChars 10 (Nat.toDigits 10 i.natAbs) 0 = i.natAbs :=
    Nat.ofDigitChars_toDigits (by decide) (by decide)
  by_cases hneg : i < 0
  · have hblank : (('-' :: Nat.toDigits 10 i.natAbs).dropWhile isIntSpace).rdropWhile isIntSpace =
        '-' :: Nat.toDigits 10 i.natAbs := by
      refine dropBoth_eq_self isIntSpace (fun c hc => ?_) (fun c hc => ?_)
      · obtain rfl := Option.some.inj hc
        decide
      · rw [List.getLast?_cons_of_ne_nil hne] at hc
        exact isIntSpace_of_isDigit (hdigits c (List.mem_of_getLast? hc))
    rw [intText, if_pos hneg, parseInt, hblank]
    show (parseNat it (Nat.toDigits 10 i.natAbs)).map (fun n : Nat => -(n : Int)) = some i
    rw [parseNat_of_isDigit it hne hdigits, if_pos hallows, Option.map_some, hvalue, Option.some.injEq]
    omega
  · rw [intText, if_neg hneg, parseInt_of_isDigit it hne hdigits, if_pos hallows, hvalue, Option.some.injEq]
    omega

end

end Py
