import LiderPlatform.PyJson
import Mathlib.Data.List.DropRight
/-!
# PyText — text files and the string methods, as Python defines them

A text is a `List Char`; a file holds bytes.  `readText` is `Path.read_text(encoding="utf-8")`: it decodes and turns
every line ending into `\n`.  `splitlines` breaks at every boundary `str.splitlines` knows, the Unicode ones included.
-/
namespace Py

abbrev Text := List Char

/-- What holds of every character of a text is decided on the text; Mathlib could also run through the finite type of
all characters. -/
instance (priority := high) (p : Char → Prop) [DecidablePred p] (l : Text) : Decidable (∀ c ∈ l, p c) :=
  List.decidableBAll p l

/-! ## Digits -/

/-- `sys.get_int_max_str_digits()`: the digits an integer may have where it is read from a text or written as one;
`none` is the limit switched off. -/
abbrev DigitLimit := Option Nat

/-- `sys.int_info.default_max_str_digits`. -/
def defaultDigitLimit : DigitLimit := some 4300

def DigitLimit.allows (limit : DigitLimit) (digits : Nat) : Bool := limit.all (fun bound => digits ≤ bound)

/-! ## Lines -/

/-- A boundary of `str.splitlines`. -/
def isLineBreak (c : Char) : Bool :=
  c ∈ ['\n', '\r', '\x0b', '\x0c', '\x1c', '\x1d', '\x1e', '\u0085', '\u2028', '\u2029']

/-- `str.splitlines()`: `\r\n` is one boundary, and a final boundary opens no empty line. -/
def splitlines : Text → List Text
  | [] => []
  | '\r' :: '\n' :: cs => [] :: splitlines cs
  | c :: cs =>
    if isLineBreak c then [] :: splitlines cs
    else match splitlines cs with
      | [] => [[c]]
      | l :: ls => (c :: l) :: ls

theorem splitlines_cons_break (c : Char) (cs : Text) (hc : isLineBreak c = true) (hr : c ≠ '\r') :
    splitlines (c :: cs) = [] :: splitlines cs := by
  rw [splitlines, if_pos hc]
  intro _ h _
  exact hr h

theorem splitlines_cons (c : Char) (cs : Text) (hc : isLineBreak c = false) :
    splitlines (c :: cs) = match splitlines cs with
      | [] => [[c]]
      | l :: ls => (c :: l) :: ls := by
  rw [splitlines, if_neg (by simp [hc])]
  rintro _ rfl _
  exact absurd hc (by decide)

/-- **A line without a boundary, ended by one, is split off whole.** -/
theorem splitlines_line (b : Char) (hb : isLineBreak b = true) (hr : b ≠ '\r') (rest : Text) : ∀ (l : Text),
    (∀ c ∈ l, isLineBreak c = false) → splitlines (l ++ b :: rest) = l :: splitlines rest
  | [], _ => splitlines_cons_break b rest hb hr
  | c :: l, h => by
    rw [List.cons_append, splitlines_cons c _ (h c (by simp)),
      splitlines_line b hb hr rest l (fun x hx => h x (by simp [hx]))]

/-- **Lines written one after another are split back.** -/
theorem splitlines_lines : ∀ (ls : List Text), (∀ l ∈ ls, ∀ c ∈ l, isLineBreak c = false) →
    splitlines (ls.flatMap (fun l => l ++ ['\n'])) = ls
  | [], _ => rfl
  | l :: ls, h => by
    rw [List.flatMap_cons, List.append_assoc, List.singleton_append,
      splitlines_line '\n' (by decide) (by decide) _ l (h l List.mem_cons_self),
      splitlines_lines ls (fun l' hl' => h l' (List.mem_cons_of_mem _ hl'))]

/-- **A text has a line for every boundary in it**, and one more up to the line end that follows it. -/
theorem length_splitlines (rest : Text) : ∀ (l : Text), '\r' ∉ l →
    (splitlines (l ++ '\n' :: rest)).length = l.countP isLineBreak + 1 + (splitlines rest).length
  | [], _ => by
    rw [List.nil_append, splitlines_cons_break '\n' rest (by decide) (by decide), List.length_cons, List.countP_nil]
    omega
  | c :: l, h => by
    simp only [List.mem_cons, not_or] at h
    have ih := length_splitlines rest l h.2
    rw [List.cons_append, List.countP_cons]
    cases hc : isLineBreak c with
    | true =>
      rw [splitlines_cons_break c _ hc (Ne.symm h.1), List.length_cons, ih]
      simp only [if_true]
      omega
    | false =>
      rw [splitlines_cons c _ hc]
      cases hs : splitlines (l ++ '\n' :: rest) with
      | nil =>
        rw [hs, List.length_nil] at ih
        omega
      | cons m ms =>
        rw [hs, List.length_cons] at ih
        simp only [List.length_cons, Bool.false_eq_true, if_false]
        omega

theorem head?_splitlines : ∀ (cs : Text), cs ≠ [] →
    (splitlines cs).head? = some (cs.takeWhile (fun c => !isLineBreak c))
  | [], h => absurd rfl h
  | c :: cs, _ => by
    cases hc : isLineBreak c with
    | true =>
      rw [List.takeWhile_cons_of_neg (by simp [hc])]
      by_cases hr : c = '\r'
      · subst hr
        unfold splitlines
        split
        · simp_all
        · rfl
        · rename_i heq
          obtain ⟨rfl, rfl⟩ := List.cons.inj heq
          rw [if_pos hc]
          rfl
      · rw [splitlines_cons_break c cs hc hr]; rfl
    | false =>
      rw [splitlines_cons c cs hc, List.takeWhile_cons_of_pos (by simp [hc])]
      cases cs with
      | nil => rfl
      | cons d ds =>
        have ih := head?_splitlines (d :: ds) (by simp)
        cases hs : splitlines (d :: ds) with
        | nil => rw [hs] at ih; cases ih
        | cons l ls => rw [hs] at ih; simpa using ih

/-! ## Files -/

/-- The newline translation of a file opened in text mode. -/
def universalNewlines : Text → Text
  | [] => []
  | '\r' :: '\n' :: cs => '\n' :: universalNewlines cs
  | c :: cs => (if c = '\r' then '\n' else c) :: universalNewlines cs

theorem universalNewlines_of_not_mem : ∀ (cs : Text), '\r' ∉ cs → universalNewlines cs = cs
  | [], _ => rfl
  | c :: cs, h => by
    simp only [List.mem_cons, not_or] at h
    rw [universalNewlines, if_neg (Ne.symm h.1), universalNewlines_of_not_mem cs h.2]
    intro _ hc _
    exact h.1 hc.symm

/-- What `write_text(cs, encoding="utf-8")` leaves in the file. -/
def encode (cs : Text) : ByteArray := (String.ofList cs).toByteArray

/-- `read_text(encoding="utf-8")` on a file's bytes. -/
def readText (b : ByteArray) : Except PyExc Text :=
  match b.utf8Decode? with
  | none => .error .unicodeDecodeError
  | some cs => .ok (universalNewlines cs.toList)

theorem encode_eq (cs : Text) : encode cs = cs.utf8Encode := String.toByteArray_ofList

theorem encode_append (cs ds : Text) : encode (cs ++ ds) = encode cs ++ encode ds := by
  simp only [encode_eq, List.utf8Encode_append]

theorem size_encode (cs : Text) : (encode cs).size = (cs.map Char.utf8Size).sum := by
  rw [encode_eq]
  induction cs with
  | nil => rfl
  | cons c cs ih =>
    rw [List.utf8Encode_cons, ByteArray.size_append, ih, List.map_cons, List.sum_cons, List.utf8Encode_singleton,
      List.size_toByteArray, String.length_utf8EncodeChar]

theorem readText_encode (cs : Text) (h : '\r' ∉ cs) : readText (encode cs) = .ok cs := by
  simp [readText, encode_eq, universalNewlines_of_not_mem cs h]

/-- **The bytes of a text, cut short, decode to a shorter text or not at all.** -/
theorem readText_prefix (cs : Text) (h : '\r' ∉ cs) (b r : ByteArray) (hb : b ++ r = encode cs) (hne : b ≠ encode cs) :
    readText b = .error .unicodeDecodeError ∨ ∃ ds, readText b = .ok ds ∧ ds <+: cs ∧ ds ≠ cs := by
  unfold readText
  cases hd : b.utf8Decode? with
  | none => exact Or.inl rfl
  | some a =>
    have hba : b = a.toList.utf8Encode := by
      have h1 : b.utf8Decode?.isSome := by rw [hd]; rfl
      have h2 := ByteArray.utf8Encode_get_utf8Decode? (b := b) (h := h1)
      simpa [hd] using h2.symm
    have hpre : a.toList <+: cs := List.isPrefix_of_utf8Encode_append_eq_utf8Encode r
      (by rw [← hba, hb, encode_eq])
    have hr : '\r' ∉ a.toList := fun hm => h (hpre.subset hm)
    refine Or.inr ⟨a.toList, by simp only [universalNewlines_of_not_mem _ hr], hpre, ?_⟩
    intro heq
    exact hne (by rw [hba, heq, encode_eq])

/-! ## String methods -/

/-- `str.isspace` of one character. -/
def isSpace (c : Char) : Bool :=
  let n := c.toNat
  (0x09 ≤ n && n ≤ 0x0d) || (0x1c ≤ n && n ≤ 0x20) || n == 0x85 || n == 0xa0 || n == 0x1680 ||
    (0x2000 ≤ n && n ≤ 0x200a) || n == 0x2028 || n == 0x2029 || n == 0x202f || n == 0x205f || n == 0x3000

/-- `str.strip()`. -/
def strip (cs : Text) : Text := (cs.dropWhile isSpace).rdropWhile isSpace

/-- `s.split(sep, 1)[0]`. -/
def splitHead (sep : Char) (cs : Text) : Text := cs.takeWhile (· != sep)

/-- `s.split(sep, 1)[1]`, for a text that holds `sep`. -/
def splitTail (sep : Char) (cs : Text) : Text := (cs.dropWhile (· != sep)).tail

end Py
