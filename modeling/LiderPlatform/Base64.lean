import LiderPlatform.JavaText
/-!
# Base64 — bytes as printable characters

`encode` is Python's `base64.b64encode`: three bytes give four characters, a last group of one or two bytes is padded.
`decode` is Java's basic decoder: characters outside the alphabet are refused, the padding may be left out, and where
it stands it must be complete and last.  `decode_encode` is the round trip.
-/
namespace Base64

open Java (Bytes JString utf16)

/-- The character of a six-bit value. -/
def symbol (v : Nat) : Char :=
  if v < 26 then Char.ofNat (0x41 + v)
  else if v < 52 then Char.ofNat (0x61 + (v - 26))
  else if v < 62 then Char.ofNat (0x30 + (v - 52))
  else if v = 62 then '+'
  else '/'

/-- The six-bit value of a code unit of the alphabet. -/
def value (u : UInt16) : Option Nat :=
  if 0x41 ≤ u.toNat ∧ u.toNat ≤ 0x5A then some (u.toNat - 0x41)
  else if 0x61 ≤ u.toNat ∧ u.toNat ≤ 0x7A then some (u.toNat - 0x61 + 26)
  else if 0x30 ≤ u.toNat ∧ u.toNat ≤ 0x39 then some (u.toNat - 0x30 + 52)
  else if u.toNat = 0x2B then some 62
  else if u.toNat = 0x2F then some 63
  else none

/-- `=` as a code unit. -/
def pad : UInt16 := 0x3D

/-! ## Encoding -/

def encode : Bytes → List Char
  | [] => []
  | [a] => [symbol (a.toNat / 4), symbol (a.toNat % 4 * 16), '=', '=']
  | [a, b] =>
    [symbol (a.toNat / 4), symbol (a.toNat % 4 * 16 + b.toNat / 16), symbol (b.toNat % 16 * 4), '=']
  | a :: b :: c :: rest =>
    symbol (a.toNat / 4) :: symbol (a.toNat % 4 * 16 + b.toNat / 16) :: symbol (b.toNat % 16 * 4 + c.toNat / 64) ::
      symbol (c.toNat % 64) :: encode rest

/-! ## Decoding -/

/-- The byte of a last group of two characters; their last four bits are dropped. -/
def lastByte (x y : UInt16) : Option Bytes := do
  let v ← value x
  let w ← value y
  return [UInt8.ofNat (v * 4 + w / 16)]

/-- The bytes of a last group of three characters; their last two bits are dropped. -/
def lastBytes (x y z : UInt16) : Option Bytes := do
  let v ← value x
  let w ← value y
  let t ← value z
  return [UInt8.ofNat (v * 4 + w / 16), UInt8.ofNat (w % 16 * 16 + t / 4)]

def group (x y z t : UInt16) : Option Bytes := do
  let v ← value x
  let w ← value y
  let r ← value z
  let q ← value t
  return [UInt8.ofNat (v * 4 + w / 16), UInt8.ofNat (w % 16 * 16 + r / 4), UInt8.ofNat (r % 4 * 64 + q)]

/-- `Base64.getDecoder().decode(text)`; `none` is its `IllegalArgumentException`. -/
def decode : JString → Option Bytes
  | [] => some []
  | [_] => none
  | [x, y] => lastByte x y
  | [x, y, z] => if z = pad then none else lastBytes x y z
  | x :: y :: z :: t :: rest =>
    if t = pad then
      if rest = [] then (if z = pad then lastByte x y else lastBytes x y z) else none
    else do
      let bytes ← group x y z t
      let others ← decode rest
      return bytes ++ others

/-! ## Round trip -/

theorem utf16_symbol : ∀ v < 64, utf16 [symbol v] = [UInt16.ofNat (symbol v).toNat] := by decide

theorem value_symbol : ∀ v < 64, value (UInt16.ofNat (symbol v).toNat) = some v := by decide

theorem symbol_ne_pad : ∀ v < 64, UInt16.ofNat (symbol v).toNat ≠ pad := by decide

theorem utf16_symbol_cons {v : Nat} (hv : v < 64) (cs : List Char) :
    utf16 (symbol v :: cs) = UInt16.ofNat (symbol v).toNat :: utf16 cs := by
  rw [← List.singleton_append, Java.utf16_append, utf16_symbol v hv, List.singleton_append]

theorem ofNat_eq {n : Nat} {a : UInt8} (h : n = a.toNat) : UInt8.ofNat n = a := by
  rw [h, UInt8.ofNat_toNat]

/-- **Decoding inverts encoding.** -/
theorem decode_encode (bytes : Bytes) : decode (utf16 (encode bytes)) = some bytes := by
  induction bytes using encode.induct with
  | case1 => rfl
  | case2 a =>
    have ha := a.toNat_lt
    have h1 : a.toNat / 4 < 64 := by omega
    have h2 : a.toNat % 4 * 16 < 64 := by omega
    have hpads : utf16 ['=', '='] = [pad, pad] := by decide
    rw [encode, utf16_symbol_cons h1, utf16_symbol_cons h2, hpads, decode, if_pos rfl, if_pos rfl, if_pos rfl, lastByte,
      value_symbol _ h1, value_symbol _ h2]
    have hback : UInt8.ofNat (a.toNat / 4 * 4 + a.toNat % 4 * 16 / 16) = a := ofNat_eq (by omega)
    simp only [Option.bind_eq_bind, Option.bind_some, Option.pure_def, hback]
  | case3 a b =>
    have ha := a.toNat_lt
    have hb := b.toNat_lt
    have h1 : a.toNat / 4 < 64 := by omega
    have h2 : a.toNat % 4 * 16 + b.toNat / 16 < 64 := by omega
    have h3 : b.toNat % 16 * 4 < 64 := by omega
    have hpad : utf16 ['='] = [pad] := by decide
    rw [encode, utf16_symbol_cons h1, utf16_symbol_cons h2, utf16_symbol_cons h3, hpad, decode, if_pos rfl, if_pos rfl,
      if_neg (symbol_ne_pad _ h3), lastBytes, value_symbol _ h1, value_symbol _ h2, value_symbol _ h3]
    have hback1 : UInt8.ofNat (a.toNat / 4 * 4 + (a.toNat % 4 * 16 + b.toNat / 16) / 16) = a := ofNat_eq (by omega)
    have hback2 : UInt8.ofNat ((a.toNat % 4 * 16 + b.toNat / 16) % 16 * 16 + b.toNat % 16 * 4 / 4) = b :=
      ofNat_eq (by omega)
    simp only [Option.bind_eq_bind, Option.bind_some, Option.pure_def, hback1, hback2]
  | case4 a b c rest ih =>
    have ha := a.toNat_lt
    have hb := b.toNat_lt
    have hc := c.toNat_lt
    have h1 : a.toNat / 4 < 64 := by omega
    have h2 : a.toNat % 4 * 16 + b.toNat / 16 < 64 := by omega
    have h3 : b.toNat % 16 * 4 + c.toNat / 64 < 64 := by omega
    have h4 : c.toNat % 64 < 64 := by omega
    rw [encode, utf16_symbol_cons h1, utf16_symbol_cons h2, utf16_symbol_cons h3, utf16_symbol_cons h4, decode,
      if_neg (symbol_ne_pad _ h4), ih, group, value_symbol _ h1, value_symbol _ h2, value_symbol _ h3, value_symbol _ h4]
    have hback1 : UInt8.ofNat (a.toNat / 4 * 4 + (a.toNat % 4 * 16 + b.toNat / 16) / 16) = a := ofNat_eq (by omega)
    have hback2 : UInt8.ofNat ((a.toNat % 4 * 16 + b.toNat / 16) % 16 * 16 +
        (b.toNat % 16 * 4 + c.toNat / 64) / 4) = b := ofNat_eq (by omega)
    have hback3 : UInt8.ofNat ((b.toNat % 16 * 4 + c.toNat / 64) % 4 * 64 + c.toNat % 64) = c := ofNat_eq (by omega)
    simp only [Option.bind_eq_bind, Option.bind_some, Option.pure_def, hback1, hback2, hback3, List.cons_append,
      List.nil_append]

end Base64
