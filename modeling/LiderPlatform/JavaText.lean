import Mathlib.Data.List.Basic
/-!
# JavaText — texts, arrays and exceptions as Java holds them

A Java string is a sequence of UTF-16 code units.  `utf16` writes a text of Unicode scalar values that way, and
`getBytesUtf8` is `String.getBytes("UTF-8")`: a high surrogate followed by a low one is one code point, any other
surrogate is unmappable and becomes a question mark.  On a text the bytes are Python's `encode("utf-8")`
(`getBytesUtf8_utf16`).
-/
namespace Java

abbrev Bytes := List UInt8
abbrev JString := List UInt16

/-- `text.encode("utf-8")` of Python, on a text without lone surrogates. -/
def utf8 (text : List Char) : Bytes := text.flatMap String.utf8EncodeChar

/-! ## Code units -/

/-- The code units of one code point. -/
def utf16Point (n : Nat) : JString :=
  if n < 0x10000 then [UInt16.ofNat n]
  else [UInt16.ofNat (0xD800 + (n - 0x10000) / 0x400), UInt16.ofNat (0xDC00 + (n - 0x10000) % 0x400)]

def utf16 (text : List Char) : JString := text.flatMap (fun c => utf16Point c.toNat)

def isHighSurrogate (u : UInt16) : Bool := decide (0xD800 ≤ u.toNat ∧ u.toNat < 0xDC00)

def isLowSurrogate (u : UInt16) : Bool := decide (0xDC00 ≤ u.toNat ∧ u.toNat < 0xE000)

def isSurrogate (u : UInt16) : Bool := isHighSurrogate u || isLowSurrogate u

/-- `Character.toCodePoint(high, low)`. -/
def toCodePoint (high low : UInt16) : Nat := 0x10000 + (high.toNat - 0xD800) * 0x400 + (low.toNat - 0xDC00)

/-! ## Bytes -/

/-- The UTF-8 bytes of a code point. -/
def utf8Point (n : Nat) : Bytes :=
  if n < 0x80 then [UInt8.ofNat n]
  else if n < 0x800 then [UInt8.ofNat (0xC0 + n / 0x40), UInt8.ofNat (0x80 + n % 0x40)]
  else if n < 0x10000 then
    [UInt8.ofNat (0xE0 + n / 0x1000), UInt8.ofNat (0x80 + n / 0x40 % 0x40), UInt8.ofNat (0x80 + n % 0x40)]
  else
    [UInt8.ofNat (0xF0 + n / 0x40000), UInt8.ofNat (0x80 + n / 0x1000 % 0x40),
      UInt8.ofNat (0x80 + n / 0x40 % 0x40), UInt8.ofNat (0x80 + n % 0x40)]

/-- `String.getBytes("UTF-8")`. -/
def getBytesUtf8 : JString → Bytes
  | [] => []
  | [u] => if isSurrogate u then [0x3F] else utf8Point u.toNat
  | u :: v :: us =>
    if isHighSurrogate u && isLowSurrogate v then utf8Point (toCodePoint u v) ++ getBytesUtf8 us
    else if isSurrogate u then 0x3F :: getBytesUtf8 (v :: us)
    else utf8Point u.toNat ++ getBytesUtf8 (v :: us)

theorem toNat_valid (c : Char) : c.toNat < 0x110000 ∧ ¬ (0xD800 ≤ c.toNat ∧ c.toNat < 0xE000) := by
  have hv : c.val.toNat = c.toNat := rfl
  have := c.valid
  simp only [UInt32.isValidChar, Nat.isValidChar, hv] at this
  omega

theorem utf8Point_toNat (c : Char) : utf8Point c.toNat = String.utf8EncodeChar c := by
  have hc := (toNat_valid c).1
  unfold utf8Point String.utf8EncodeChar
  have hv : c.val.toNat = c.toNat := rfl
  simp only [hv]
  generalize c.toNat = n at hc ⊢
  by_cases h1 : n < 0x80
  · rw [if_pos h1, if_pos (show n ≤ 0x7f by omega)]
  rw [if_neg h1, if_neg (show ¬ n ≤ 0x7f by omega)]
  by_cases h2 : n < 0x800
  · rw [if_pos h2, if_pos (show n ≤ 0x7ff by omega), Nat.mod_eq_of_lt (a := n / 64) (by omega),
      Nat.add_comm 0xC0, Nat.add_comm 0x80]
  rw [if_neg h2, if_neg (show ¬ n ≤ 0x7ff by omega)]
  by_cases h3 : n < 0x10000
  · rw [if_pos h3, if_pos (show n ≤ 0xffff by omega), Nat.mod_eq_of_lt (a := n / 4096) (by omega),
      Nat.add_comm 0xE0, Nat.add_comm 0x80, Nat.add_comm 0x80]
  · rw [if_neg h3, if_neg (show ¬ n ≤ 0xffff by omega), Nat.mod_eq_of_lt (a := n / 262144) (by omega),
      Nat.add_comm 0xF0, Nat.add_comm 0x80, Nat.add_comm 0x80, Nat.add_comm 0x80]

theorem getBytesUtf8_cons {u : UInt16} (h : isSurrogate u = false) (us : JString) :
    getBytesUtf8 (u :: us) = utf8Point u.toNat ++ getBytesUtf8 us := by
  have hh : isHighSurrogate u = false := by
    unfold isSurrogate at h
    exact (Bool.or_eq_false_iff.1 h).1
  cases us with
  | nil => simp [getBytesUtf8, h]
  | cons v us => simp [getBytesUtf8, h, hh]

theorem getBytesUtf8_pair {u v : UInt16} (hu : isHighSurrogate u = true) (hv : isLowSurrogate v = true) (us : JString) :
    getBytesUtf8 (u :: v :: us) = utf8Point (toCodePoint u v) ++ getBytesUtf8 us := by
  simp [getBytesUtf8, hu, hv]

theorem getBytesUtf8_utf16Point (c : Char) (us : JString) :
    getBytesUtf8 (utf16Point c.toNat ++ us) = String.utf8EncodeChar c ++ getBytesUtf8 us := by
  obtain ⟨hc, hs⟩ := toNat_valid c
  rw [← utf8Point_toNat]
  generalize c.toNat = n at hc hs ⊢
  unfold utf16Point
  by_cases h : n < 0x10000
  · have hn : (UInt16.ofNat n).toNat = n := UInt16.toNat_ofNat_of_lt' h
    have hu : isSurrogate (UInt16.ofNat n) = false := by
      simp only [isSurrogate, isHighSurrogate, isLowSurrogate, hn]
      simp only [Bool.or_eq_false_iff, decide_eq_false_iff_not]
      omega
    rw [if_pos h, List.singleton_append, getBytesUtf8_cons hu, hn]
  · have hhi : (UInt16.ofNat (0xD800 + (n - 0x10000) / 0x400)).toNat = 0xD800 + (n - 0x10000) / 0x400 :=
      UInt16.toNat_ofNat_of_lt' (show _ < 65536 by omega)
    have hlo : (UInt16.ofNat (0xDC00 + (n - 0x10000) % 0x400)).toNat = 0xDC00 + (n - 0x10000) % 0x400 :=
      UInt16.toNat_ofNat_of_lt' (show _ < 65536 by omega)
    rw [if_neg h]
    generalize UInt16.ofNat (0xD800 + (n - 0x10000) / 0x400) = u at hhi ⊢
    generalize UInt16.ofNat (0xDC00 + (n - 0x10000) % 0x400) = v at hlo ⊢
    have hu : isHighSurrogate u = true := by
      simp only [isHighSurrogate, hhi, decide_eq_true_eq]
      omega
    have hv : isLowSurrogate v = true := by
      simp only [isLowSurrogate, hlo, decide_eq_true_eq]
      omega
    have hpoint : toCodePoint u v = n := by
      unfold toCodePoint
      omega
    rw [List.cons_append, List.singleton_append, getBytesUtf8_pair hu hv, hpoint]

/-- **The two languages encode a text alike.** -/
theorem getBytesUtf8_utf16 : ∀ (text : List Char), getBytesUtf8 (utf16 text) = utf8 text
  | [] => rfl
  | c :: text => by
    have ih := getBytesUtf8_utf16 text
    simp only [utf16, utf8, List.flatMap_cons] at ih ⊢
    rw [getBytesUtf8_utf16Point, ih]

theorem utf16_append (a b : List Char) : utf16 (a ++ b) = utf16 a ++ utf16 b := List.flatMap_append

/-! ## Methods that throw -/

/-- What a method may throw: the exceptions met here, and the errors that `catch (Exception e)` lets through. -/
inductive Throwable where
  | illegalArgumentException
  | negativeArraySizeException
  | indexOutOfBoundsException
  | error
deriving DecidableEq, Repr

abbrev Method := Except Throwable

/-- `try { body } catch (Exception e) { return fallback; }`. -/
def tryReturn {α : Type} (body : Method α) (fallback : α) : Method α :=
  match body with
  | .ok a => .ok a
  | .error .error => .error .error
  | .error _ => .ok fallback

/-- What `catch (Exception e)` can stop. -/
def Catchable {α : Type} (body : Method α) : Prop := body ≠ .error .error

theorem Catchable.ok {α : Type} (a : α) : Catchable (.ok a : Method α) := fun h => by cases h

theorem Catchable.bind {α β : Type} {body : Method α} {rest : α → Method β} (hb : Catchable body)
    (hr : ∀ a, Catchable (rest a)) : Catchable (body >>= rest) := by
  cases body with
  | ok a => exact hr a
  | error t =>
    intro h
    cases h
    exact hb rfl

theorem Catchable.tryReturn {α : Type} {body : Method α} (h : Catchable body) (fallback : α) :
    ∃ a, tryReturn body fallback = .ok a := by
  cases body with
  | ok a => exact ⟨a, rfl⟩
  | error t =>
    cases t with
    | error => exact absurd rfl h
    | _ => exact ⟨fallback, rfl⟩

/-- `text.startsWith(start)`. -/
def startsWith (text start : JString) : Bool := start.isPrefixOf text

/-- `text.substring(n)`. -/
def substring (text : JString) (n : Nat) : Method JString :=
  if n ≤ text.length then .ok (text.drop n) else .error .indexOutOfBoundsException

/-- `text.replace(target, "")` for a target that is not empty: the matches from the left are left out, `skip` is what
remains of the last one. -/
def removeAll (target : JString) : Nat → JString → JString
  | _, [] => []
  | skip + 1, _ :: us => removeAll target skip us
  | 0, u :: us =>
    if startsWith (u :: us) target then removeAll target (target.length - 1) us else u :: removeAll target 0 us

/-- `Character.isWhitespace`; no code point beyond one unit is white space. -/
def isWhitespace (u : UInt16) : Bool :=
  (0x09 ≤ u && u ≤ 0x0D) || (0x1C ≤ u && u ≤ 0x20) || u == 0x1680 || (0x2000 ≤ u && u ≤ 0x2006) ||
    (0x2008 ≤ u && u ≤ 0x200A) || u == 0x2028 || u == 0x2029 || u == 0x205F || u == 0x3000

/-- `text.isBlank()`. -/
def isBlank (text : JString) : Bool := text.all isWhitespace

/-- `text.trim()`: the units up to the space, at both ends. -/
def trim (text : JString) : JString :=
  (((text.dropWhile (· ≤ 0x20)).reverse).dropWhile (· ≤ 0x20)).reverse

/-- `new byte[n]`. -/
def newBytes (n : Int) : Method Bytes :=
  if n < 0 then .error .negativeArraySizeException else .ok (List.replicate n.toNat 0)

/-- `System.arraycopy(src, srcPos, dest, destPos, length)`, with the array it leaves in `dest`. -/
def arraycopy (src : Bytes) (srcPos : Nat) (dest : Bytes) (destPos length : Nat) : Method Bytes :=
  if srcPos + length ≤ src.length ∧ destPos + length ≤ dest.length then
    .ok (dest.take destPos ++ (src.drop srcPos).take length ++ dest.drop (destPos + length))
  else .error .indexOutOfBoundsException

theorem substring_catchable (text : JString) (n : Nat) : Catchable (substring text n) := by
  unfold substring
  split <;> exact fun h => by cases h

theorem newBytes_catchable (n : Int) : Catchable (newBytes n) := by
  unfold newBytes
  split <;> exact fun h => by cases h

theorem arraycopy_catchable (src : Bytes) (srcPos : Nat) (dest : Bytes) (destPos length : Nat) :
    Catchable (arraycopy src srcPos dest destPos length) := by
  unfold arraycopy
  split <;> exact fun h => by cases h

/-- A copy as long as the array it fills leaves what was copied. -/
theorem arraycopy_fill {src dest : Bytes} {srcPos n : Nat} (hd : dest.length = n) (hs : srcPos + n ≤ src.length) :
    arraycopy src srcPos dest 0 n = .ok ((src.drop srcPos).take n) := by
  rw [arraycopy, if_pos ⟨hs, by omega⟩, List.drop_eq_nil_of_le (show dest.length ≤ 0 + n by omega)]
  simp

end Java
