import LiderPlatform.PyJsonDumps
/-!
# PyJsonLoads — `json.loads`, and what it makes of a written document

`loads` is a scanner of the JSON grammar Python reads (`NaN`, `Infinity` and `-Infinity` included, control characters in
strings refused, the last of repeated keys kept), where an integer of more digits than `int` converts is an error.
`loads_jsonText`: a document that could be written reads back as itself.  A `\u` escape that is half of a surrogate pair
has no `Char`; it reads as U+FFFD.
-/
namespace Py

open Json

/-! ## Scanning -/

def skipSpace (cs : Text) : Text := cs.dropWhile isJsonSpace

def hexVal (c : Char) : Option Nat :=
  if c.isDigit then some (c.toNat - '0'.toNat)
  else if 'a' ≤ c ∧ c ≤ 'f' then some (c.toNat - 'a'.toNat + 10)
  else if 'A' ≤ c ∧ c ≤ 'F' then some (c.toNat - 'A'.toNat + 10)
  else none

def hex4 (a b c d : Char) : Option Nat :=
  match hexVal a, hexVal b, hexVal c, hexVal d with
  | some a, some b, some c, some d => some (((a * 16 + b) * 16 + c) * 16 + d)
  | _, _, _, _ => none

def simpleEscape (c : Char) : Option Char :=
  if c = '"' then some '"' else if c = '\\' then some '\\' else if c = '/' then some '/'
  else if c = 'b' then some '\x08' else if c = 'f' then some '\x0c' else if c = 'n' then some '\n'
  else if c = 'r' then some '\r' else if c = 't' then some '\t' else none

/-- The code units of a string up to its closing quote, and the text after it. -/
def scanString : Text → Option (List Nat × Text)
  | [] => none
  | '"' :: cs => some ([], cs)
  | '\\' :: 'u' :: a :: b :: c :: d :: cs =>
    match hex4 a b c d with
    | none => none
    | some n => (scanString cs).map (fun p => (n :: p.1, p.2))
  | '\\' :: c :: cs =>
    match simpleEscape c with
    | none => none
    | some e => (scanString cs).map (fun p => (e.toNat :: p.1, p.2))
  | c :: cs => if c.toNat < 0x20 ∨ c = '\\' then none else (scanString cs).map (fun p => (c.toNat :: p.1, p.2))

/-- The characters of code units, surrogate pairs joined. -/
def charsOfUnits : List Nat → Text
  | hi :: lo :: us =>
    if 0xd800 ≤ hi ∧ hi < 0xdc00 ∧ 0xdc00 ≤ lo ∧ lo < 0xe000 then
      Char.ofNat (0x10000 + (hi - 0xd800) * 0x400 + (lo - 0xdc00)) :: charsOfUnits us
    else (if 0xd800 ≤ hi ∧ hi < 0xe000 then '\ufffd' else Char.ofNat hi) :: charsOfUnits (lo :: us)
  | [u] => [if 0xd800 ≤ u ∧ u < 0xe000 then '\ufffd' else Char.ofNat u]
  | [] => []

def stringOfUnits (us : List Nat) : String := String.ofList (charsOfUnits us)

def scanInt : Text → Option (Text × Text)
  | [] => none
  | c :: cs =>
    if c = '0' then some (['0'], cs)
    else if c.isDigit then some ((c :: cs).takeWhile Char.isDigit, (c :: cs).dropWhile Char.isDigit)
    else none

def scanFrac : Text → Text × Text
  | [] => ([], [])
  | c :: cs =>
    if c = '.' ∧ cs.takeWhile Char.isDigit ≠ [] then (cs.takeWhile Char.isDigit, cs.dropWhile Char.isDigit)
    else ([], c :: cs)

def scanSign : Text → Text × Text
  | [] => ([], [])
  | c :: cs => if c = '+' ∨ c = '-' then ([c], cs) else ([], c :: cs)

def scanExp : Text → Option (Text × Text) × Text
  | [] => (none, [])
  | c :: cs =>
    if (c = 'e' ∨ c = 'E') ∧ (scanSign cs).2.takeWhile Char.isDigit ≠ [] then
      (some (c :: (scanSign cs).1, (scanSign cs).2.takeWhile Char.isDigit), (scanSign cs).2.dropWhile Char.isDigit)
    else (none, c :: cs)

def scanMinus : Text → Bool × Text
  | [] => (false, [])
  | c :: cs => if c = '-' then (true, cs) else (false, c :: cs)

def scanNumber (cs : Text) : Option (NumLit × Text) :=
  match scanInt (scanMinus cs).2 with
  | none => none
  | some (digits, r) =>
    some (⟨(scanMinus cs).1, digits, (scanFrac r).1, (scanExp (scanFrac r).2).1⟩, (scanExp (scanFrac r).2).2)

/-- The value of a literal: an integer unless it has a fraction or an exponent; `int` refuses one of too many digits. -/
def numValue (nt : NumText) (l : NumLit) : Except PyExc Json :=
  if l.isFloat then .ok (.float (nt.ofLiteral l))
  else if nt.maxStrDigits.allows l.int.length then
    .ok (.int (if l.negative then -(Nat.ofDigitChars 10 l.int 0 : Int) else Nat.ofDigitChars 10 l.int 0))
  else .error .valueError

def literals : List (Text × Json) :=
  [("null".toList, .null), ("true".toList, .bool true), ("false".toList, .bool false),
    ("NaN".toList, .float .nan), ("Infinity".toList, .float (.inf false)), ("-Infinity".toList, .float (.inf true))]

def scanLiteral (cs : Text) : Option (Json × Text) :=
  literals.findSome? (fun p => if p.1.isPrefixOf cs then some (p.2, cs.drop p.1.length) else none)

/-- `"key": value`, by a scanner of values. -/
def scanMember (value : Text → Except PyExc (Json × Text)) : Text → Except PyExc ((String × Json) × Text)
  | [] => .error .jsonDecodeError
  | c :: cs =>
    if c ≠ '"' then .error .jsonDecodeError
    else match scanString cs with
      | none => .error .jsonDecodeError
      | some (us, r) =>
        match skipSpace r with
        | [] => .error .jsonDecodeError
        | c :: r =>
          if c ≠ ':' then .error .jsonDecodeError
          else (value (skipSpace r)).map (fun p => ((stringOfUnits us, p.1), p.2))

/-- A dictionary of items read in order. -/
def dictOf (kvs : List (String × Json)) : Dict := kvs.foldl (fun d p => d.set p.1 p.2) []

section
variable (nt : NumText)

mutual
/-- One value at the start of a text; the fuel is spent one unit a bracket or comma. -/
def scanValue : Nat → Text → Except PyExc (Json × Text)
  | 0, _ => .error .jsonDecodeError
  | _ + 1, [] => .error .jsonDecodeError
  | fuel + 1, c :: cs =>
    if c = '"' then
      match scanString cs with
      | none => .error .jsonDecodeError
      | some (us, r) => .ok (.str (stringOfUnits us), r)
    else if c = '[' then
      match skipSpace cs with
      | [] => .error .jsonDecodeError
      | c :: r =>
        if c = ']' then .ok (.arr [], r)
        else match scanValue fuel (c :: r) with
          | .error e => .error e
          | .ok (v, r) => (scanElems fuel r).map (fun p => (.arr (v :: p.1), p.2))
    else if c = '{' then
      match skipSpace cs with
      | [] => .error .jsonDecodeError
      | c :: r =>
        if c = '}' then .ok (.obj [], r)
        else match scanMember (fun t => scanValue fuel t) (c :: r) with
          | .error e => .error e
          | .ok (kv, r) => (scanMembers fuel r).map (fun p => (.obj (dictOf (kv :: p.1)), p.2))
    else match scanLiteral (c :: cs) with
      | some p => .ok p
      | none =>
        match scanNumber (c :: cs) with
        | none => .error .jsonDecodeError
        | some (l, r) => (numValue nt l).map (fun v => (v, r))
/-- The rest of a list, after one of its elements. -/
def scanElems : Nat → Text → Except PyExc (List Json × Text)
  | 0, _ => .error .jsonDecodeError
  | fuel + 1, cs =>
    match skipSpace cs with
    | [] => .error .jsonDecodeError
    | c :: r =>
      if c = ']' then .ok ([], r)
      else if c = ',' then
        match scanValue fuel (skipSpace r) with
        | .error e => .error e
        | .ok (v, r) => (scanElems fuel r).map (fun p => (v :: p.1, p.2))
      else .error .jsonDecodeError
/-- The rest of a dictionary, after one of its items. -/
def scanMembers : Nat → Text → Except PyExc (List (String × Json) × Text)
  | 0, _ => .error .jsonDecodeError
  | fuel + 1, cs =>
    match skipSpace cs with
    | [] => .error .jsonDecodeError
    | c :: r =>
      if c = '}' then .ok ([], r)
      else if c = ',' then
        match scanMember (fun t => scanValue fuel t) (skipSpace r) with
        | .error e => .error e
        | .ok (kv, r) => (scanMembers fuel r).map (fun p => (kv :: p.1, p.2))
      else .error .jsonDecodeError
end

/-- `json.loads(cs)`. -/
def loads (cs : Text) : Except PyExc Json :=
  match scanValue nt cs.length (skipSpace cs) with
  | .error e => .error e
  | .ok (v, r) => if skipSpace r = [] then .ok v else .error .jsonDecodeError

end

/-! ## Strings read back -/

theorem hexVal_digitChar : ∀ n < 16, hexVal n.digitChar = some n := by decide

theorem charsOfUnits_map : ∀ (cs : Text), charsOfUnits (cs.map Char.toNat) = cs
  | [] => rfl
  | [c] => by
    have hc : ¬ (0xd800 ≤ c.toNat ∧ c.toNat < 0xe000) := by
      have := c.valid
      unfold UInt32.isValidChar Nat.isValidChar at this
      unfold Char.toNat
      omega
    rw [List.map_cons, List.map_nil, charsOfUnits, if_neg hc, Char.ofNat_toNat]
  | c :: d :: cs => by
    have hc : ¬ (0xd800 ≤ c.toNat ∧ c.toNat < 0xe000) := by
      have := c.valid
      unfold UInt32.isValidChar Nat.isValidChar at this
      unfold Char.toNat
      omega
    rw [List.map_cons, List.map_cons, charsOfUnits, if_neg (by omega), if_neg hc, Char.ofNat_toNat, ← List.map_cons,
      charsOfUnits_map (d :: cs)]

theorem scanString_escapeChar (c : Char) (rest : Text) :
    scanString (escapeChar c ++ rest) = (scanString rest).map (fun p => (c.toNat :: p.1, p.2)) := by
  unfold escapeChar
  split
  · subst_vars; rfl
  split
  · subst_vars; rfl
  split
  · subst_vars; rfl
  split
  · subst_vars; rfl
  split
  · subst_vars; rfl
  split
  · subst_vars; rfl
  split
  · subst_vars; rfl
  split
  · rename_i h
    have h1 := hexVal_digitChar (c.toNat / 16) (by omega)
    have h2 := hexVal_digitChar (c.toNat % 16) (by omega)
    have h4 : hex4 '0' '0' (c.toNat / 16).digitChar (c.toNat % 16).digitChar = some c.toNat := by
      have h0 : hexVal '0' = some 0 := rfl
      simp only [hex4, h0, h1, h2]
      congr 1
      omega
    simp only [List.cons_append, List.nil_append]
    rw [scanString]
    simp only [h4]
  · rename_i hq hb _ _ _ _ _ h
    simp only [List.cons_append, List.nil_append]
    rw [scanString.eq_def]
    split
    · simp_all
    · simp_all
    · simp_all
    · simp_all
    · rename_i heq
      obtain ⟨rfl, rfl⟩ := List.cons.inj heq
      rw [if_neg (by simp [hb]; omega)]

theorem scanString_flatMap (r : Text) : ∀ (cs : Text),
    scanString (cs.flatMap escapeChar ++ '"' :: r) = some (cs.map Char.toNat, r)
  | [] => rfl
  | c :: cs => by
    rw [List.flatMap_cons, List.append_assoc, scanString_escapeChar, scanString_flatMap r cs]
    rfl

/-- **A written string reads back.** -/
theorem scanString_strText (s : String) (r : Text) :
    ∃ us, scanString (s.toList.flatMap escapeChar ++ '"' :: r) = some (us, r) ∧ stringOfUnits us = s :=
  ⟨_, scanString_flatMap r s.toList, by rw [stringOfUnits, charsOfUnits_map, String.ofList_toList]⟩

/-! ## Numbers read back -/

/-- What may follow a number: no digit, no fraction, no exponent. -/
def NumEnd (r : Text) : Prop := ∀ c ∈ r.head?, c.isDigit = false ∧ c ≠ '.' ∧ c ≠ 'e' ∧ c ≠ 'E'

theorem takeWhile_digits (ds r : Text) (hd : ∀ c ∈ ds, c.isDigit = true) (hr : ∀ c ∈ r.head?, c.isDigit = false) :
    (ds ++ r).takeWhile Char.isDigit = ds ∧ (ds ++ r).dropWhile Char.isDigit = r := by
  rw [List.takeWhile_append_of_pos hd, List.dropWhile_append_of_pos hd]
  cases r with
  | nil => simp
  | cons c r =>
    have hc : c.isDigit = false := hr c rfl
    simp [hc]

theorem scanInt_digits (ds r : Text) (hd : ∀ c ∈ ds, c.isDigit = true)
    (hh : ds = ['0'] ∨ ∃ c cs, ds = c :: cs ∧ c ≠ '0') (hr : ∀ c ∈ r.head?, c.isDigit = false) :
    scanInt (ds ++ r) = some (ds, r) := by
  rcases hh with rfl | ⟨c, cs, rfl, hc⟩
  · rfl
  · have h := takeWhile_digits (c :: cs) r hd hr
    rw [List.cons_append] at h ⊢
    rw [scanInt, if_neg hc, if_pos (hd c (by simp)), h.1, h.2]

theorem scanFrac_none (r : Text) (h : ∀ c ∈ r.head?, c ≠ '.') : scanFrac r = ([], r) := by
  cases r with
  | nil => rfl
  | cons c r => rw [scanFrac, if_neg (fun hc => h c rfl hc.1)]

theorem scanExp_none (r : Text) (h : ∀ c ∈ r.head?, c ≠ 'e' ∧ c ≠ 'E') : scanExp r = (none, r) := by
  cases r with
  | nil => rfl
  | cons c r =>
    have := h c rfl
    rw [scanExp, if_neg (fun hc => hc.1.elim this.1 this.2)]

theorem scanSign_digits (ds r : Text) (hne : ds ≠ []) (hd : ∀ c ∈ ds, c.isDigit = true) :
    scanSign (ds ++ r) = ([], ds ++ r) := by
  cases ds with
  | nil => exact absurd rfl hne
  | cons c ds =>
    have hc := hd c (by simp)
    rw [List.cons_append, scanSign, if_neg]
    rintro (rfl | rfl) <;> exact absurd hc (by decide)

theorem scanExp_mark (m ds r : Text) (hm : m ∈ expMarks) (hne : ds ≠ []) (hd : ∀ c ∈ ds, c.isDigit = true)
    (hr : ∀ c ∈ r.head?, c.isDigit = false) : scanExp (m ++ (ds ++ r)) = (some (m, ds), r) := by
  have h := takeWhile_digits ds r hd hr
  have hsign := scanSign_digits ds r hne hd
  have hplus : scanSign ('+' :: (ds ++ r)) = (['+'], ds ++ r) := rfl
  have hminus : scanSign ('-' :: (ds ++ r)) = (['-'], ds ++ r) := rfl
  have hone : ∀ (c : Char) (t : Text) (p : Text × Text), c = 'e' ∨ c = 'E' → scanSign t = p → p.2 = ds ++ r →
      scanExp (c :: t) = (some (c :: p.1, ds), r) := by
    intro c t p hc hp hp2
    rw [scanExp, hp, hp2, h.1, h.2, if_pos ⟨hc, hne⟩]
  simp only [expMarks, List.mem_cons, List.not_mem_nil, or_false] at hm
  rcases hm with rfl | rfl | rfl | rfl | rfl | rfl
  · exact hone 'e' _ _ (by simp) hsign rfl
  · exact hone 'E' _ _ (by simp) hsign rfl
  · exact hone 'e' _ _ (by simp) hplus rfl
  · exact hone 'e' _ _ (by simp) hminus rfl
  · exact hone 'E' _ _ (by simp) hplus rfl
  · exact hone 'E' _ _ (by simp) hminus rfl

section
variable (l : NumLit) (hl : l.WF) (r : Text) (hr : NumEnd r)
include hl hr

theorem scanExp_expText : scanExp (NumLit.expText l.exp ++ r) = (l.exp, r) := by
  cases he : l.exp with
  | none => exact scanExp_none r (fun c hc => (hr c hc).2.2)
  | some p =>
    obtain ⟨m, ds⟩ := p
    have hd := hl.exp_digits m ds he
    rw [NumLit.expText, List.append_assoc]
    exact scanExp_mark m ds r (hl.exp_mark m ds he) hd.1 hd.2 (fun c hc => (hr c hc).1)

theorem head_expText : ∀ c ∈ (NumLit.expText l.exp ++ r).head?, c.isDigit = false ∧ c ≠ '.' := by
  cases he : l.exp with
  | none => exact fun c hc => ⟨(hr c hc).1, (hr c hc).2.1⟩
  | some p =>
    obtain ⟨m, ds⟩ := p
    have hm := hl.exp_mark m ds he
    have hmark : ∀ m ∈ expMarks, ∃ c t, m = c :: t ∧ c.isDigit = false ∧ c ≠ '.' := by
      simp only [expMarks, List.forall_mem_cons]
      exact ⟨⟨_, _, rfl, by decide⟩, ⟨_, _, rfl, by decide⟩, ⟨_, _, rfl, by decide⟩, ⟨_, _, rfl, by decide⟩,
        ⟨_, _, rfl, by decide⟩, ⟨_, _, rfl, by decide⟩, by simp⟩
    obtain ⟨c, t, rfl, hc⟩ := hmark m hm
    rintro d hd
    obtain rfl : c = d := by simpa [NumLit.expText] using hd
    exact hc

theorem scanFrac_fracText :
    scanFrac (NumLit.fracText l.frac ++ (NumLit.expText l.exp ++ r)) = (l.frac, NumLit.expText l.exp ++ r) := by
  have ht := head_expText l hl r hr
  by_cases hf : l.frac = []
  · rw [hf]
    exact scanFrac_none _ (fun c hc => (ht c hc).2)
  · have h := takeWhile_digits l.frac _ hl.frac_digits (fun c hc => (ht c hc).1)
    rw [NumLit.fracText, if_neg hf, List.cons_append, scanFrac, if_pos ⟨rfl, by rw [h.1]; exact hf⟩, h.1, h.2]

theorem head_fracText : ∀ c ∈ (NumLit.fracText l.frac ++ (NumLit.expText l.exp ++ r)).head?, c.isDigit = false := by
  by_cases hf : l.frac = []
  · rw [hf]
    exact fun c hc => (head_expText l hl r hr c hc).1
  · rw [NumLit.fracText, if_neg hf]
    intro c hc
    obtain rfl : '.' = c := by simpa using hc
    decide

omit hr in
theorem head_int : ∃ c cs, l.int = c :: cs ∧ c.isDigit = true := by
  rcases hl.int_head with h | ⟨c, cs, h, -⟩
  · exact ⟨'0', [], h, by decide⟩
  · exact ⟨c, cs, h, hl.int_digits c (by simp [h])⟩

/-- **A literal is scanned whole.** -/
theorem scanNumber_text : scanNumber (l.text ++ r) = some (l, r) := by
  have hint := scanInt_digits l.int _ hl.int_digits hl.int_head (head_fracText l hl r hr)
  have hfrac := scanFrac_fracText l hl r hr
  have hexp := scanExp_expText l hl r hr
  have hminus : scanMinus (l.text ++ r) =
      (l.negative, l.int ++ (NumLit.fracText l.frac ++ (NumLit.expText l.exp ++ r))) := by
    rw [NumLit.text]
    cases hn : l.negative with
    | true => simp [scanMinus]
    | false =>
      obtain ⟨c, cs, hds, hc⟩ := head_int l hl
      have : c ≠ '-' := by rintro rfl; exact absurd hc (by decide)
      simp [scanMinus, hds, this]
  simp only [scanNumber, hminus, hint, hfrac, hexp]

end

theorem numValue_intLit (nt : NumText) (i : Int) (hi : (Json.int i).fits nt.maxStrDigits = true) :
    numValue nt (intLit i) = .ok (.int i) := by
  rw [Json.fits] at hi
  have h : Nat.ofDigitChars 10 (Nat.toDigits 10 i.natAbs) 0 = i.natAbs :=
    Nat.ofDigitChars_toDigits (by decide) (by decide)
  simp only [numValue, intLit, NumLit.isFloat, List.isEmpty_nil, Bool.not_true, Option.isSome_none, Bool.or_self,
    Bool.false_eq_true, if_false, h, hi, if_true]
  by_cases hi : i < 0
  · rw [if_pos (by simpa using hi)]; congr 2; omega
  · rw [if_neg (by simpa using hi)]; congr 2; omega

theorem head_text (l : NumLit) (hl : l.WF) : ∃ c cs, l.text = c :: cs ∧ (c = '-' ∨ c.isDigit = true) := by
  obtain ⟨c, cs, hds, hc⟩ := head_int l hl
  rw [NumLit.text, hds]
  cases l.negative with
  | true => exact ⟨'-', _, rfl, Or.inl rfl⟩
  | false => exact ⟨c, _, rfl, Or.inr hc⟩

/-! ## Documents read back -/

theorem skipSpace_append (ws : Text) (c : Char) (r : Text) (hws : ∀ c ∈ ws, isJsonSpace c = true)
    (hc : isJsonSpace c = false) : skipSpace (ws ++ c :: r) = c :: r := by
  unfold skipSpace
  rw [List.dropWhile_append_of_pos hws, List.dropWhile_cons_of_neg (by simp [hc])]

theorem skipSpace_cons (c : Char) (r : Text) (hc : isJsonSpace c = false) : skipSpace (c :: r) = c :: r :=
  skipSpace_append [] c r (fun _ h => by cases h) hc

/-- A value's text starts with a character that is no space and closes nothing. -/
def ValueHead (c : Char) : Prop := isJsonSpace c = false ∧ c ≠ ']' ∧ c ≠ '}'

theorem valueHead_of_number (c : Char) (h : c = '-' ∨ c.isDigit = true) : ValueHead c := by
  rcases h with rfl | h
  · exact ⟨by decide, by decide, by decide⟩
  · refine ⟨?_, ?_, ?_⟩
    · cases hs : isJsonSpace c with
      | false => rfl
      | true =>
        simp only [isJsonSpace, Bool.or_eq_true, decide_eq_true_eq] at hs
        rcases hs with ((rfl | rfl) | rfl) | rfl <;> exact absurd h (by decide)
    · rintro rfl; exact absurd h (by decide)
    · rintro rfl; exact absurd h (by decide)

theorem jsonText_head (nt : NumText) (L : Layout) (d : Nat) (v : Json) :
    ∃ c cs, jsonText nt L d v = c :: cs ∧ ValueHead c := by
  have mk : ∀ (c : Char), ValueHead c → ∀ cs, jsonText nt L d v = c :: cs → ∃ c cs, jsonText nt L d v = c :: cs ∧ ValueHead c :=
    fun c hc cs h => ⟨c, cs, h, hc⟩
  have num : ∀ l : NumLit, l.WF → jsonText nt L d v = l.text → ∃ c cs, jsonText nt L d v = c :: cs ∧ ValueHead c := by
    intro l hl h
    obtain ⟨c, cs, ht, hc⟩ := head_text l hl
    exact ⟨c, cs, h.trans ht, valueHead_of_number c hc⟩
  cases v with
  | null => exact mk 'n' ⟨by decide, by decide, by decide⟩ _ (by rw [jsonText]; rfl)
  | bool b =>
    cases b
    · exact mk 'f' ⟨by decide, by decide, by decide⟩ _ (by rw [jsonText]; rfl)
    · exact mk 't' ⟨by decide, by decide, by decide⟩ _ (by rw [jsonText]; rfl)
  | int i => exact num _ (intLit_wf i) (by rw [jsonText])
  | float x =>
    cases x with
    | finite x => exact num _ (nt.repr_wf x) (by rw [jsonText]; rfl)
    | inf negative =>
      cases negative
      · exact mk 'I' ⟨by decide, by decide, by decide⟩ _ (by rw [jsonText]; rfl)
      · exact mk '-' ⟨by decide, by decide, by decide⟩ _ (by rw [jsonText]; rfl)
    | nan => exact mk 'N' ⟨by decide, by decide, by decide⟩ _ (by rw [jsonText]; rfl)
  | str s => exact mk '"' ⟨by decide, by decide, by decide⟩ _ (by rw [jsonText]; rfl)
  | arr xs =>
    cases xs
    · exact mk '[' ⟨by decide, by decide, by decide⟩ _ (by rw [jsonText])
    · exact mk '[' ⟨by decide, by decide, by decide⟩ _ (by rw [jsonText])
  | obj kvs =>
    cases kvs
    · exact mk '{' ⟨by decide, by decide, by decide⟩ _ (by rw [jsonText])
    · exact mk '{' ⟨by decide, by decide, by decide⟩ _ (by rw [jsonText])

/-- No literal is a prefix of a number. -/
theorem scanLiteral_number (l : NumLit) (hl : l.WF) (r : Text) : scanLiteral (l.text ++ r) = none := by
  obtain ⟨c, cs, hds, hc⟩ := head_int l hl
  have hne : ∀ x : Char, x.isDigit = false → x ≠ c := by
    rintro x hx rfl
    rw [hx] at hc; cases hc
  rw [NumLit.text, hds]
  cases l.negative with
  | true => simp [scanLiteral, literals, hne 'I' (by decide)]
  | false =>
    simp [scanLiteral, literals, hne 'n' (by decide), hne 't' (by decide), hne 'f' (by decide), hne 'N' (by decide),
      hne 'I' (by decide), hne '-' (by decide)]

theorem scanValue_number (nt : NumText) (fuel : Nat) (l : NumLit) (hl : l.WF) (r : Text) (hr : NumEnd r) :
    scanValue nt (fuel + 1) (l.text ++ r) = (numValue nt l).map (fun v => (v, r)) := by
  obtain ⟨c, cs, ht, hc⟩ := head_text l hl
  have h1 := scanLiteral_number l hl r
  have h2 := scanNumber_text l hl r hr
  have hne : c ≠ '"' ∧ c ≠ '[' ∧ c ≠ '{' := by
    rcases hc with rfl | hc
    · decide
    · refine ⟨?_, ?_, ?_⟩ <;> (rintro rfl; exact absurd hc (by decide))
  rw [ht, List.cons_append] at h1 h2 ⊢
  rw [scanValue, if_neg hne.1, if_neg hne.2.1, if_neg hne.2.2, h1, h2]

theorem numEnd_of_head (c : Char) (r : Text) (h : isJsonSpace c = true ∨ c = ',' ∨ c = ']' ∨ c = '}') :
    NumEnd (c :: r) := by
  intro d hd
  obtain rfl : c = d := by simpa using hd
  simp only [isJsonSpace, Bool.or_eq_true, decide_eq_true_eq] at h
  rcases h with (((rfl | rfl) | rfl) | rfl) | rfl | rfl | rfl <;> decide

theorem numEnd_closing (ws : Text) (hws : ∀ c ∈ ws, isJsonSpace c = true) (b : Char) (hb : b = ']' ∨ b = '}') (r : Text) :
    NumEnd (ws ++ b :: r) := by
  cases ws with
  | nil => exact numEnd_of_head b r (by tauto)
  | cons c ws => exact numEnd_of_head c _ (Or.inl (hws c (by simp)))

theorem numEnd_elemsText (nt : NumText) (L : Layout) (d : Nat) (xs : List Json) (r : Text) :
    NumEnd (elemsText nt L d xs ++ r) := by
  cases xs with
  | nil =>
    rw [elemsText, List.append_assoc]
    exact numEnd_closing _ (L.closing_space d) ']' (by simp) r
  | cons x xs => rw [elemsText]; exact numEnd_of_head ',' _ (by simp)

theorem numEnd_membersText (nt : NumText) (L : Layout) (d : Nat) (kvs : List (String × Json)) (r : Text) :
    NumEnd (membersText nt L d kvs ++ r) := by
  cases kvs with
  | nil =>
    rw [membersText, List.append_assoc]
    exact numEnd_closing _ (L.closing_space d) '}' (by simp) r
  | cons p kvs => rw [membersText]; exact numEnd_of_head ',' _ (by simp)

theorem dictOf_append : ∀ (kvs : List (String × Json)) (d : Dict), (Dict.keys (d ++ kvs)).Nodup →
    kvs.foldl (fun d p => Dict.set d p.1 p.2) d = d ++ kvs
  | [], d, _ => by simp
  | (k, v) :: kvs, d, h => by
    have hk : k ∉ Dict.keys d := by
      simp only [Dict.keys, List.map_append, List.map_cons, List.nodup_append] at h
      exact fun hm => h.2.2 k hm k (by simp) rfl
    rw [List.foldl_cons]
    simp only
    rw [Dict.keys_set_of_not_mem d k v hk, dictOf_append kvs (d ++ [(k, v)]) (by simpa using h)]
    simp

theorem dictOf_eq (kvs : List (String × Json)) (h : (Dict.keys kvs).Nodup) : dictOf kvs = kvs := by
  simpa [dictOf] using dictOf_append kvs [] h

theorem scanMember_jsonText (value : Text → Except PyExc (Json × Text)) (k : String) (v : Json) (text r : Text)
    (hhead : ∃ c cs, text = c :: cs ∧ ValueHead c) (hv : value (text ++ r) = .ok (v, r)) :
    scanMember value (strText k ++ (':' :: ' ' :: (text ++ r))) = .ok ((k, v), r) := by
  obtain ⟨us, hus, hk⟩ := scanString_strText k (':' :: ' ' :: (text ++ r))
  obtain ⟨c, cs, hc, hhd⟩ := hhead
  have hs : skipSpace (' ' :: (text ++ r)) = text ++ r := by
    rw [hc]
    exact skipSpace_append [' '] c _ (by decide) hhd.1
  rw [strText, List.cons_append, List.append_assoc, List.singleton_append, scanMember, if_neg (by simp), hus]
  simp only
  rw [skipSpace_cons ':' _ (by decide)]
  simp only [ne_eq, not_true_eq_false, if_false, hs, hv, hk, except_map_ok]

section
variable (nt : NumText) (L : Layout)

mutual
/-- **A written value reads back** from the start of a text, with one unit of fuel a character. -/
theorem scanValue_jsonText : ∀ (v : Json) (d fuel : Nat) (r : Text), v.WF → v.fits nt.maxStrDigits = true → NumEnd r →
    (jsonText nt L d v).length ≤ fuel → scanValue nt fuel (jsonText nt L d v ++ r) = .ok (v, r)
  | v, d, 0, r, _, _, _, hf => by
    obtain ⟨c, cs, h, -⟩ := jsonText_head nt L d v
    rw [h] at hf
    simp at hf
  | .null, d, fuel + 1, r, _, _, _, _ => by rw [jsonText]; rfl
  | .bool b, d, fuel + 1, r, _, _, _, _ => by rw [jsonText]; cases b <;> rfl
  | .int i, d, fuel + 1, r, _, hfit, hr, _ => by
    rw [jsonText, scanValue_number nt fuel _ (intLit_wf i) r hr, numValue_intLit nt i hfit, except_map_ok]
  | .float (.finite x), d, fuel + 1, r, _, _, hr, _ => by
    rw [jsonText, floatText, scanValue_number nt fuel _ (nt.repr_wf x) r hr, numValue, if_pos (nt.repr_isFloat x),
      nt.ofLiteral_repr, except_map_ok]
  | .float (.inf negative), d, fuel + 1, r, _, _, _, _ => by rw [jsonText]; cases negative <;> rfl
  | .float .nan, d, fuel + 1, r, _, _, _, _ => by rw [jsonText]; rfl
  | .str s, d, fuel + 1, r, _, _, _, _ => by
    obtain ⟨us, hus, hs⟩ := scanString_strText s r
    rw [jsonText, strText, List.cons_append, List.append_assoc, List.singleton_append, scanValue, if_pos rfl, hus]
    simp [hs]
  | .arr [], d, fuel + 1, r, _, _, _, _ => by rw [jsonText]; rfl
  | .arr (x :: xs), d, fuel + 1, r, hwf, hfit, _, hf => by
    rw [WF, WFList] at hwf
    rw [fits, fitsList, Bool.and_eq_true] at hfit
    obtain ⟨c, cs, hc, hhd⟩ := jsonText_head nt L (d + 1) x
    rw [jsonText] at hf ⊢
    simp only [List.length_cons, List.length_append] at hf
    have hx := scanValue_jsonText x (d + 1) fuel (elemsText nt L d xs ++ r) hwf.1 hfit.1
      (numEnd_elemsText nt L d xs r) (by omega)
    have hxs := scanElems_jsonText xs d fuel r hwf.2 hfit.2 (by omega)
    have hs : skipSpace (L.opening d ++ (jsonText nt L (d + 1) x ++ (elemsText nt L d xs ++ r))) =
        jsonText nt L (d + 1) x ++ (elemsText nt L d xs ++ r) := by
      rw [hc]; exact skipSpace_append _ c _ (L.opening_space d) hhd.1
    simp only [List.cons_append, List.append_assoc]
    rw [scanValue, if_neg (by decide), if_pos rfl, hs]
    rw [hc, List.cons_append] at hx ⊢
    simp only [if_neg hhd.2.1, hx, hxs, except_map_ok]
  | .obj [], d, fuel + 1, r, _, _, _, _ => by rw [jsonText]; rfl
  | .obj ((k, v) :: kvs), d, fuel + 1, r, hwf, hfit, _, hf => by
    rw [WF, WFMembers] at hwf
    rw [fits, fitsMembers, Bool.and_eq_true] at hfit
    rw [jsonText] at hf ⊢
    simp only [List.length_cons, List.length_append] at hf
    have hv := scanValue_jsonText v (d + 1) fuel (membersText nt L d kvs ++ r) hwf.2.1 hfit.1
      (numEnd_membersText nt L d kvs r) (by omega)
    have hkvs := scanMembers_jsonText kvs d fuel r hwf.2.2 hfit.2 (by omega)
    have hm := scanMember_jsonText (fun t => scanValue nt fuel t) k v _ _ (jsonText_head nt L (d + 1) v) hv
    have hs : skipSpace (L.opening d ++ (strText k ++ (':' :: ' ' :: (jsonText nt L (d + 1) v ++
        (membersText nt L d kvs ++ r))))) =
        strText k ++ (':' :: ' ' :: (jsonText nt L (d + 1) v ++ (membersText nt L d kvs ++ r))) :=
      skipSpace_append _ '"' _ (L.opening_space d) (by decide)
    simp only [List.cons_append, List.append_assoc]
    rw [scanValue, if_neg (by decide), if_neg (by decide), if_pos rfl, hs]
    rw [strText, List.cons_append] at hm ⊢
    simp only [Char.reduceEq, if_false, hm, hkvs, except_map_ok]
    rw [dictOf_eq _ hwf.1]
theorem scanElems_jsonText : ∀ (xs : List Json) (d fuel : Nat) (r : Text), WFList xs → fitsList nt.maxStrDigits xs = true →
    (elemsText nt L d xs).length ≤ fuel → scanElems nt fuel (elemsText nt L d xs ++ r) = .ok (xs, r)
  | [], d, 0, r, _, _, hf => by rw [elemsText] at hf; simp at hf
  | _ :: _, d, 0, r, _, _, hf => by rw [elemsText] at hf; simp at hf
  | [], d, fuel + 1, r, _, _, _ => by
    rw [elemsText, List.append_assoc, List.singleton_append, scanElems,
      skipSpace_append _ ']' r (L.closing_space d) (by decide)]
    rfl
  | x :: xs, d, fuel + 1, r, hwf, hfit, hf => by
    rw [WFList] at hwf
    rw [fitsList, Bool.and_eq_true] at hfit
    obtain ⟨c, cs, hc, hhd⟩ := jsonText_head nt L (d + 1) x
    rw [elemsText] at hf ⊢
    simp only [List.length_cons, List.length_append] at hf
    have hx := scanValue_jsonText x (d + 1) fuel (elemsText nt L d xs ++ r) hwf.1 hfit.1
      (numEnd_elemsText nt L d xs r) (by omega)
    have hxs := scanElems_jsonText xs d fuel r hwf.2 hfit.2 (by omega)
    have hs : skipSpace (L.between d ++ (jsonText nt L (d + 1) x ++ (elemsText nt L d xs ++ r))) =
        jsonText nt L (d + 1) x ++ (elemsText nt L d xs ++ r) := by
      rw [hc]; exact skipSpace_append _ c _ (L.between_space d) hhd.1
    simp only [List.cons_append, List.append_assoc]
    rw [scanElems, skipSpace_cons ',' _ (by decide)]
    simp only [Char.reduceEq, if_false, if_true, hs, hx, hxs, except_map_ok]
theorem scanMembers_jsonText : ∀ (kvs : List (String × Json)) (d fuel : Nat) (r : Text), WFMembers kvs →
    fitsMembers nt.maxStrDigits kvs = true → (membersText nt L d kvs).length ≤ fuel →
    scanMembers nt fuel (membersText nt L d kvs ++ r) = .ok (kvs, r)
  | [], d, 0, r, _, _, hf => by rw [membersText] at hf; simp at hf
  | _ :: _, d, 0, r, _, _, hf => by rw [membersText] at hf; simp at hf
  | [], d, fuel + 1, r, _, _, _ => by
    rw [membersText, List.append_assoc, List.singleton_append, scanMembers,
      skipSpace_append _ '}' r (L.closing_space d) (by decide)]
    rfl
  | (k, v) :: kvs, d, fuel + 1, r, hwf, hfit, hf => by
    rw [WFMembers] at hwf
    rw [fitsMembers, Bool.and_eq_true] at hfit
    rw [membersText] at hf ⊢
    simp only [List.length_cons, List.length_append] at hf
    have hv := scanValue_jsonText v (d + 1) fuel (membersText nt L d kvs ++ r) hwf.1 hfit.1
      (numEnd_membersText nt L d kvs r) (by omega)
    have hkvs := scanMembers_jsonText kvs d fuel r hwf.2 hfit.2 (by omega)
    have hm := scanMember_jsonText (fun t => scanValue nt fuel t) k v _ _ (jsonText_head nt L (d + 1) v) hv
    have hs : skipSpace (L.between d ++ (strText k ++ (':' :: ' ' :: (jsonText nt L (d + 1) v ++
        (membersText nt L d kvs ++ r))))) =
        strText k ++ (':' :: ' ' :: (jsonText nt L (d + 1) v ++ (membersText nt L d kvs ++ r))) :=
      skipSpace_append _ '"' _ (L.between_space d) (by decide)
    simp only [List.cons_append, List.append_assoc]
    rw [scanMembers, skipSpace_cons ',' _ (by decide)]
    simp only [Char.reduceEq, if_false, if_true, hs, hm, hkvs, except_map_ok]
end

/-- **Reading a written document gives the document back.** -/
theorem loads_jsonText (d : Nat) (v : Json) (hv : v.WF) (hfit : v.fits nt.maxStrDigits = true) :
    loads nt (jsonText nt L d v) = .ok v := by
  obtain ⟨c, cs, hc, hhd⟩ := jsonText_head nt L d v
  have h := scanValue_jsonText nt L v d (jsonText nt L d v).length [] hv hfit (fun c hc => by cases hc)
    (Nat.le_refl _)
  rw [List.append_nil] at h
  have hs : skipSpace (jsonText nt L d v) = jsonText nt L d v := by rw [hc]; exact skipSpace_cons c cs hhd.1
  simp only [loads, hs, h]
  rfl

end

end Py
