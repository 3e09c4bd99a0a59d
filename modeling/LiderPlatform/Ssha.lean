import LiderPlatform.Base64
/-!
# Ssha — one password hash, written in Python and checked in Java

The provisioner stores `{SSHA}` and the base64 text of `sha1(password + salt) + salt`; the Lider API's password encoder
cuts the decoded bytes after the twentieth and hashes the password again with what follows.  SHA-1 is any function to
twenty bytes.  Java's decoder is any function that inverts the Python encoder; on other texts it may return bytes or
throw, and nothing below depends on which.
-/
namespace Lider

open Java

abbrev Digest := {bytes : Bytes // bytes.length = 20}
abbrev Salt := {bytes : Bytes // bytes.length = 8}

/-- Java's `Base64.Decoder`: `none` is its `IllegalArgumentException`. -/
structure Base64Decoder where
  decode : JString → Option Bytes
  inverts : ∀ bytes, decode (utf16 (Base64.encode bytes)) = some bytes

/-- The decoder of `Base64.getDecoder()`. -/
def basicDecoder : Base64Decoder := ⟨Base64.decode, Base64.decode_encode⟩

def Base64Decoder.decodeOrThrow (decoder : Base64Decoder) (text : JString) : Method Bytes :=
  match decoder.decode text with
  | some bytes => .ok bytes
  | none => .error .illegalArgumentException

section Encoder

variable (sha1 : Bytes → Digest)

/-- `_ssha_hash(password)` of the provisioner, with the salt `os.urandom(8)` gave it. -/
def sshaHash (password : List Char) (salt : Salt) : List Char :=
  let sha1Digest := sha1 (utf8 password ++ salt.val)
  "{SSHA}".toList ++ Base64.encode (sha1Digest.val ++ salt.val)

theorem sshaHash_eq (password : List Char) (salt : Salt) : sshaHash sha1 password salt =
    "{SSHA}".toList ++ Base64.encode ((sha1 (utf8 password ++ salt.val)).val ++ salt.val) := rfl

variable (decoder : Base64Decoder) (argon2Matches : Option JString → JString → Method Bool)

/-- `String.valueOf(rawPassword)`. -/
def valueOf : Option JString → JString
  | none => utf16 "null".toList
  | some raw => raw

/-- `CustomPasswordEncoder.matchesSsha`. -/
def matchesSsha (rawPassword : Option JString) (encodedPassword : JString) : Method Bool :=
  tryReturn (do
    let base64 ← substring encodedPassword 6
    let decoded ← decoder.decodeOrThrow base64
    let digestBytes ← newBytes 20
    let salt ← newBytes ((decoded.length : Int) - 20)
    let digestBytes ← arraycopy decoded 0 digestBytes 0 20
    let salt ← arraycopy decoded 20 salt 0 salt.length
    let computed := sha1 (getBytesUtf8 (valueOf rawPassword) ++ salt)
    return decide (digestBytes = computed.val)) false

/-- `CustomPasswordEncoder.matches`. -/
def encoderMatches (rawPassword encodedPassword : Option JString) : Method Bool :=
  match encodedPassword with
  | none => .ok false
  | some encoded =>
    if encoded = [] then .ok false
    else if startsWith encoded (utf16 "{SSHA}".toList) then matchesSsha sha1 decoder rawPassword encoded
    else
      let encoded :=
        if startsWith encoded (utf16 "{ARGON2}".toList) then removeAll (utf16 "{ARGON2}".toList) 0 encoded else encoded
      tryReturn (argon2Matches rawPassword encoded) false

/-! ## What the two sides agree on -/

theorem startsWith_append (a b : JString) : startsWith (a ++ b) a = true := by
  rw [startsWith, List.isPrefixOf_iff_prefix]
  exact List.prefix_append a b

theorem encoderMatches_ssha (rawPassword : Option JString) (body : JString) :
    encoderMatches sha1 decoder argon2Matches rawPassword (some (utf16 "{SSHA}".toList ++ body)) =
      matchesSsha sha1 decoder rawPassword (utf16 "{SSHA}".toList ++ body) := by
  have hne : utf16 "{SSHA}".toList ++ body ≠ [] := by
    intro h
    have := (List.append_eq_nil_iff.1 h).1
    exact absurd this (by decide)
  simp only [encoderMatches, if_neg hne, startsWith_append, if_true]

/-- Copying the two parts of the decoded bytes gives back the digest and the salt. -/
theorem arraycopy_parts (digest : Digest) (salt : Salt) :
    arraycopy (digest.val ++ salt.val) 0 (List.replicate 20 0) 0 20 = .ok digest.val ∧
      arraycopy (digest.val ++ salt.val) 20 (List.replicate 8 0) 0 8 = .ok salt.val := by
  have hlen : (digest.val ++ salt.val).length = 20 + 8 := by
    rw [List.length_append, digest.property, salt.property]
  constructor
  · rw [arraycopy_fill List.length_replicate (by omega), List.drop_zero, List.take_left' digest.property]
  · rw [arraycopy_fill List.length_replicate (by omega), List.drop_left' digest.property,
      List.take_of_length_le (Nat.le_of_eq salt.property)]

/-- **A stored hash matches exactly the passwords of its salted digest.** -/
theorem matchesSsha_sshaHash (password : List Char) (salt : Salt) (rawPassword : Option JString) :
    matchesSsha sha1 decoder rawPassword (utf16 (sshaHash sha1 password salt)) =
      .ok (decide (sha1 (utf8 password ++ salt.val) = sha1 (getBytesUtf8 (valueOf rawPassword) ++ salt.val))) := by
  generalize hd : sha1 (utf8 password ++ salt.val) = digest
  have hsub : substring (utf16 (sshaHash sha1 password salt)) 6 =
      .ok (utf16 (Base64.encode (digest.val ++ salt.val))) := by
    have htag : (utf16 "{SSHA}".toList).length = 6 := by decide
    have hlong : 6 ≤ (utf16 "{SSHA}".toList ++ utf16 (Base64.encode (digest.val ++ salt.val))).length := by
      rw [List.length_append, htag]
      omega
    rw [sshaHash_eq, utf16_append, hd, substring, if_pos hlong, List.drop_left' htag]
  have hdec : decoder.decodeOrThrow (utf16 (Base64.encode (digest.val ++ salt.val))) = .ok (digest.val ++ salt.val) := by
    rw [Base64Decoder.decodeOrThrow, decoder.inverts]
  have hsize : ((digest.val ++ salt.val).length : Int) - 20 = 8 := by
    rw [List.length_append, digest.property, salt.property]
    rfl
  obtain ⟨hcopy1, hcopy2⟩ := arraycopy_parts digest salt
  unfold matchesSsha
  rw [hsub]
  simp only [bind, Except.bind, pure, Except.pure, hdec, hsize]
  simp only [show newBytes 20 = .ok (List.replicate 20 0) from rfl, show newBytes 8 = .ok (List.replicate 8 0) from rfl,
    List.length_replicate, hcopy1, hcopy2, tryReturn, Subtype.ext_iff]

theorem matchesSsha_returns (rawPassword : Option JString) (encodedPassword : JString) :
    ∃ answer, matchesSsha sha1 decoder rawPassword encodedPassword = .ok answer := by
  have hdecode : ∀ text, Catchable (decoder.decodeOrThrow text) := fun text => by
    unfold Base64Decoder.decodeOrThrow
    split <;> exact fun h => by cases h
  unfold matchesSsha
  refine Catchable.tryReturn ?_ false
  refine (substring_catchable _ _).bind fun base64 => (hdecode base64).bind fun decoded => ?_
  refine (newBytes_catchable _).bind fun digestBytes => (newBytes_catchable _).bind fun salt => ?_
  exact (arraycopy_catchable _ _ _ _ _).bind fun digestBytes => (arraycopy_catchable _ _ _ _ _).bind fun salt =>
    Catchable.ok _

/-- **The hash written in Python is understood in Java.**  The right password matches; a password that matches has the
same salted digest; and no text behind the tag makes the check throw. -/
theorem ssha_roundTrip :
    (∀ (password : List Char) (salt : Salt),
      encoderMatches sha1 decoder argon2Matches (some (utf16 password)) (some (utf16 (sshaHash sha1 password salt))) =
        .ok true) ∧
    (∀ (password : List Char) (salt : Salt) (other : JString),
      encoderMatches sha1 decoder argon2Matches (some other) (some (utf16 (sshaHash sha1 password salt))) = .ok true →
        sha1 (getBytesUtf8 other ++ salt.val) = sha1 (utf8 password ++ salt.val)) ∧
    (∀ (rawPassword : Option JString) (encoded : JString), startsWith encoded (utf16 "{SSHA}".toList) = true →
      ∃ answer, encoderMatches sha1 decoder argon2Matches rawPassword (some encoded) = .ok answer) := by
  have hstored : ∀ (password : List Char) (salt : Salt) (rawPassword : Option JString),
      encoderMatches sha1 decoder argon2Matches rawPassword (some (utf16 (sshaHash sha1 password salt))) =
        .ok (decide (sha1 (utf8 password ++ salt.val) =
          sha1 (getBytesUtf8 (valueOf rawPassword) ++ salt.val))) := fun password salt rawPassword => by
    rw [← matchesSsha_sshaHash, sshaHash_eq, utf16_append, encoderMatches_ssha]
  refine ⟨fun password salt => ?_, fun password salt other h => ?_, fun rawPassword encoded h => ?_⟩
  · rw [hstored, valueOf, getBytesUtf8_utf16, decide_eq_true rfl]
  · rw [hstored, Except.ok.injEq, decide_eq_true_eq] at h
    exact h.symm
  · rw [startsWith, List.isPrefixOf_iff_prefix] at h
    obtain ⟨body, rfl⟩ := h
    rw [encoderMatches_ssha]
    exact matchesSsha_returns sha1 decoder rawPassword _

end Encoder

/-- A digest of twenty equal bytes, for running the check. -/
def sumDigest (bytes : Bytes) : Digest := ⟨List.replicate 20 (bytes.foldl (· + ·) 0), List.length_replicate⟩

/-- A right and a wrong password, and a body that is too short. -/
theorem sampleSecret_roundTrip :
    sumDigest (getBytesUtf8 (utf16 ['z', 'e', 'c', 'r', 'e', 'm']) ++ List.replicate 8 7) =
        sumDigest (utf8 ['s', 'e', 'c', 'r', 'e', 't'] ++ List.replicate 8 7) ∧
      ∃ answer, encoderMatches sumDigest basicDecoder (fun _ _ => .ok false) none
        (some (utf16 "{SSHA}AAAA".toList)) = .ok answer :=
  have h := ssha_roundTrip sumDigest basicDecoder (fun _ _ => .ok false)
  ⟨h.2.1 ['s', 'e', 'c', 'r', 'e', 't'] ⟨List.replicate 8 7, rfl⟩ (utf16 ['z', 'e', 'c', 'r', 'e', 'm']) (by decide),
    h.2.2 none _ (by decide)⟩

end Lider
