import LiderPlatform.Monitors
import LiderPlatform.Ssha
/-!
# PasswordMigration — plain passwords hashed at startup (`Lider2Application.init`, `CustomPasswordEncoder`)

A start of the Lider API lists the accounts of the directory and replaces, one update after another, every password that
has neither hash tag; an `LdapException` ends it.  Any number of starts run side by side, each may fail anywhere and be
made again, and other clients may write in between.  Whatever is stored then is what a client gave, or a hash of it that
the password encoder accepts (`stored_verifies`).  Left to themselves the starts settle: once one has ended, no password
is plain any more (`startups_settle`).
-/
namespace Lider.PasswordMigration

open Java Monitors

/-- `Argon2PasswordEncoder`, with the salt of each call: it accepts what it encoded, and writes no braces. -/
structure Argon2 (ς : Type) where
  encode : ς → JString → JString
  accepts : Option JString → JString → Method Bool
  accepts_encode : ∀ salt raw, accepts (some raw) (encode salt raw) = .ok true
  no_brace : ∀ salt raw, '{'.toNat.toUInt16 ∉ encode salt raw

def argon2Tag : JString := utf16 "{ARGON2}".toList

def sshaTag : JString := utf16 "{SSHA}".toList

/-- The password of an entry that `init` replaces. -/
def plain (userPassword : Option JString) : Option JString :=
  userPassword.filter (fun pwd => !startsWith pwd argon2Tag && !startsWith pwd sshaTag)

theorem eq_some_of_plain {userPassword : Option JString} {pwd : JString} (h : plain userPassword = some pwd) :
    userPassword = some pwd := (Option.filter_eq_some_iff.1 h).1

theorem plain_tagged (hash : JString) : plain (some (argon2Tag ++ hash)) = none := by
  rw [plain, Option.filter_some, startsWith_append]
  rfl

/-! ## The encoder -/

theorem removeAll_skip (target rest : JString) : ∀ us : JString,
    removeAll target us.length (us ++ rest) = removeAll target 0 rest
  | [] => rfl
  | _ :: us => removeAll_skip target rest us

theorem removeAll_of_not_mem {u : UInt16} {us : JString} : ∀ text : JString, u ∉ text → removeAll (u :: us) 0 text = text
  | [], _ => rfl
  | v :: text, h => by
    have hstart : startsWith (v :: text) (u :: us) = false := by
      have huv : u ≠ v := fun huv => h (huv ▸ List.mem_cons_self)
      simp [startsWith, List.isPrefixOf, huv]
    rw [removeAll, hstart, if_neg Bool.false_ne_true,
      removeAll_of_not_mem text (fun hm => h (List.mem_cons_of_mem _ hm))]

/-- **A stored hash is accepted**: the tag is cut off, and nothing else. -/
theorem encoderMatches_argon2 {ς : Type} (sha1 : Bytes → Digest) (decoder : Base64Decoder) (argon2 : Argon2 ς) (salt : ς)
    (raw : JString) :
    encoderMatches sha1 decoder argon2.accepts (some raw) (some (argon2Tag ++ argon2.encode salt raw)) = .ok true := by
  have hcut : removeAll argon2Tag 0 (argon2Tag ++ argon2.encode salt raw) = argon2.encode salt raw := by
    have htag : argon2Tag = '{'.toNat.toUInt16 :: argon2Tag.tail := by decide
    have hstart : startsWith (argon2Tag ++ argon2.encode salt raw) argon2Tag = true := startsWith_append _ _
    rw [htag] at hstart ⊢
    rw [List.cons_append] at hstart ⊢
    rw [removeAll, hstart, if_pos rfl]
    exact (removeAll_skip _ _ _).trans (removeAll_of_not_mem _ (argon2.no_brace salt raw))
  have hssha : startsWith (argon2Tag ++ argon2.encode salt raw) (utf16 "{SSHA}".toList) = false := rfl
  have htagged : startsWith (argon2Tag ++ argon2.encode salt raw) (utf16 "{ARGON2}".toList) = true :=
    startsWith_append _ _
  rw [encoderMatches]
  simp only [hssha, htagged, if_true, Bool.false_eq_true, if_false]
  rw [if_neg (show argon2Tag ++ argon2.encode salt raw ≠ [] from List.cons_ne_nil _ _)]
  show tryReturn (argon2.accepts (some raw) (removeAll argon2Tag 0 (argon2Tag ++ argon2.encode salt raw))) false = _
  rw [hcut, argon2.accepts_encode]
  rfl

variable {δ ς ι : Type}

structure LdapEntry (δ : Type) where
  distinguishedName : δ
  userPassword : Option JString

/-- The accounts that the filter of `init` finds, the stored passwords, and those that clients have ever given. -/
structure Directory (δ : Type) where
  accounts : List δ
  userPassword : δ → Option JString
  given : δ → List JString

def Directory.findSubEntries (directory : Directory δ) : List (LdapEntry δ) :=
  directory.accounts.map (fun dn => ⟨dn, directory.userPassword dn⟩)

inductive Stage (δ : Type) where
  | idle
  | migrating (ldapEntries : List (LdapEntry δ))
  | ended
  | failed

/-- How an LDAP call ends; an exception may come after the server did its part. -/
inductive Answer where
  | done
  | ldapException (applied : Bool)

def Directory.updateEntry [DecidableEq δ] (directory : Directory δ) (dn : δ) (userPassword : JString) : Directory δ :=
  { directory with userPassword := Function.update directory.userPassword dn (some userPassword) }

/-- The next step of `init`: one call of the LDAP service, or the end.  An instance that has ended or failed may start
again. -/
def advance [DecidableEq δ] (argon2 : Argon2 ς) (salt : ς) (answer : Answer) (directory : Directory δ) :
    Stage δ → Directory δ × Stage δ
  | .idle =>
    match answer with
    | .done => (directory, .migrating directory.findSubEntries)
    | .ldapException _ => (directory, .failed)
  | .migrating [] => (directory, .ended)
  | .migrating (user :: ldapEntries) =>
    match plain user.userPassword with
    | none => (directory, .migrating ldapEntries)
    | some pwd =>
      let updated := directory.updateEntry user.distinguishedName (argon2Tag ++ argon2.encode salt pwd)
      match answer with
      | .done => (updated, .migrating ldapEntries)
      | .ldapException applied => (if applied then updated else directory, .failed)
  | .ended | .failed => (directory, .idle)

/-- What other clients of the directory do. -/
inductive Client [DecidableEq δ] (directory : Directory δ) : Directory δ → Prop where
  | give (dn : δ) (pwd : JString) : Client directory
      { directory with
        userPassword := Function.update directory.userPassword dn (some pwd)
        given := Function.update directory.given dn (pwd :: directory.given dn) }
  | remove (dn : δ) :
      Client directory { directory with userPassword := Function.update directory.userPassword dn none }
  | relist (accounts : List δ) : Client directory { directory with accounts := accounts }

abbrev alone : Directory δ → Directory δ → Prop := fun _ _ => False

/-- The instances, beside what `clients` may do. -/
def program [DecidableEq δ] (ι : Type) (argon2 : Argon2 ς) (clients : Directory δ → Directory δ → Prop) :
    Program ι (Directory δ) (Stage δ) where
  act _ s l s' l' := ∃ salt answer, advance argon2 salt answer s l = (s', l')
  env := clients
  holder _ := none
  holds _ := False

/-- Before the first start. -/
def start (accounts : List δ) (userPassword : δ → Option JString) : Config ι (Directory δ) (Stage δ) :=
  ⟨⟨accounts, userPassword, fun dn => (userPassword dn).toList⟩, fun _ => .idle⟩

/-! ## A run -/

/-- No secret, but one text for each password, and no brace in it. -/
def sampleEncode (raw : JString) : JString :=
  utf16 "$argon2id$".toList ++ raw.flatMap (fun u => if u = 123 then [92, 40] else if u = 92 then [92, 92] else [u])

def sampleArgon2 : Argon2 Unit where
  encode _ raw := sampleEncode raw
  accepts raw encoded := .ok (raw.any (fun raw => encoded = sampleEncode raw))
  accepts_encode := by simp
  no_brace := by
    intro _ raw h
    rcases List.mem_append.1 h with h | h
    · exact absurd h (by decide)
    · obtain ⟨u, -, hu⟩ := List.mem_flatMap.1 h
      have hbrace : '{'.toNat.toUInt16 = 123 := by decide
      rw [hbrace] at hu
      split at hu
      · exact absurd hu (by decide)
      · split at hu
        · exact absurd hu (by decide)
        · rename_i hne _
          exact hne (List.mem_singleton.1 hu).symm

/-- An instance takes its next step. -/
def call (c : Config Nat (Directory Nat) (Stage Nat)) (step : Nat × Answer) : Config Nat (Directory Nat) (Stage Nat) :=
  c.set step.1 (advance sampleArgon2 () step.2 c.shared (c.thread step.1)).1
    (advance sampleArgon2 () step.2 c.shared (c.thread step.1)).2

theorem reach_calls (clients : Directory Nat → Directory Nat → Prop) (steps : List (Nat × Answer)) :
    ∀ c : Config Nat (Directory Nat) (Stage Nat), Reach (program Nat sampleArgon2 clients) c (steps.foldl call c) := by
  induction steps with
  | nil => exact fun c => .refl
  | cons step steps ih =>
    intro c
    have hstep : Step (program Nat sampleArgon2 clients) c (call c step) := .thread step.1 ⟨(), step.2, rfl⟩
    exact .head hstep (ih (call c step))

def secret : JString := utf16 "secret".toList

/-- Two accounts with one plain password. -/
def sampleStart : Config Nat (Directory Nat) (Stage Nat) := start [7, 8] (fun _ => some secret)

/-- Both instances list the accounts; the second writes a hash and is told that it failed. -/
def firstCalls : List (Nat × Answer) := [(0, .done), (1, .done), (1, .ldapException true)]

/-- The first writes what it listed and fails at the other account; the second starts again and ends. -/
def lastCalls : List (Nat × Answer) :=
  [(0, .done), (1, .done), (1, .done), (1, .done), (0, .ldapException false), (1, .done), (1, .done)]

/-- The user changes the password between. -/
def changedPassword : Config Nat (Directory Nat) (Stage Nat) :=
  ⟨{ (firstCalls.foldl call sampleStart).shared with
      userPassword := Function.update (firstCalls.foldl call sampleStart).shared.userPassword 7
        (some (utf16 "changed".toList))
      given := Function.update (firstCalls.foldl call sampleStart).shared.given 7
        (utf16 "changed".toList :: (firstCalls.foldl call sampleStart).shared.given 7) },
    (firstCalls.foldl call sampleStart).thread⟩

def sampleRun : Config Nat (Directory Nat) (Stage Nat) := lastCalls.foldl call changedPassword

theorem sampleRun_reach : Reach (program Nat sampleArgon2 Client) sampleStart sampleRun := by
  have hchange : Step (program Nat sampleArgon2 Client) (firstCalls.foldl call sampleStart) changedPassword :=
    .env (.give 7 (utf16 "changed".toList))
  exact ((reach_calls Client firstCalls sampleStart).tail hchange).trans (reach_calls Client lastCalls changedPassword)

/-! ## What holds beside other clients -/

section
variable (argon2 : Argon2 ς) {s s' : Directory δ} {l : Stage δ} {dn : δ} {stored : JString}

/-- A password that a client gave the account, or the hash of a plain one of them. -/
def Known (s : Directory δ) (dn : δ) (stored : JString) : Prop :=
  stored ∈ s.given dn ∨
    ∃ pwd ∈ s.given dn, plain (some pwd) = some pwd ∧ ∃ salt, stored = argon2Tag ++ argon2.encode salt pwd

def knownOutline : Outline (Directory δ) (Stage δ) where
  inv s := ∀ dn stored, s.userPassword dn = some stored → Known argon2 s dn stored
  assert
    | .migrating ldapEntries, s => ∀ user ∈ ldapEntries, ∀ stored, user.userPassword = some stored →
        Known argon2 s user.distinguishedName stored
    | _, _ => True
  quiet _ _ := True
  grows s s' := ∀ dn, s.given dn ⊆ s'.given dn

variable {argon2}

theorem Known.mono (h : Known argon2 s dn stored) (hgrows : s.given dn ⊆ s'.given dn) :
    Known argon2 s' dn stored := by
  rcases h with h | ⟨pwd, hpwd, h⟩
  · exact .inl (hgrows h)
  · exact .inr ⟨pwd, hgrows hpwd, h⟩

/-- A hash is never hashed again. -/
theorem Known.given_of_plain (h : Known argon2 s dn stored)
    (hplain : plain (some stored) = some stored) : stored ∈ s.given dn := by
  rcases h with h | ⟨pwd, -, -, salt, rfl⟩
  · exact h
  · rw [plain_tagged] at hplain
    exact nomatch hplain

theorem knownOutline_assert_mono (h : (knownOutline argon2).assert l s) (hgrows : ∀ dn, s.given dn ⊆ s'.given dn) :
    (knownOutline argon2).assert l s' := by
  cases l with
  | migrating ldapEntries => exact fun user huser stored hstored => (h user huser stored hstored).mono (hgrows _)
  | _ => trivial

/-! ## What holds without them -/

variable (argon2) (accounts : List δ) (userPassword : δ → Option JString)

/-- The passwords are those before the first start, or hashes of the plain ones of them. -/
def Migrated (s : Directory δ) : Prop :=
  ∀ dn, s.userPassword dn = userPassword dn ∨ ∃ pwd salt, plain (userPassword dn) = some pwd ∧
    s.userPassword dn = some (argon2Tag ++ argon2.encode salt pwd)

/-- An instance that is migrating has some accounts behind it, none of which is plain, and knows the first passwords of
those before it that are. -/
def settlingOutline : Outline (Directory δ) (Stage δ) where
  inv s := s.accounts = accounts ∧ Migrated argon2 userPassword s
  assert
    | .migrating ldapEntries, s =>
      (∃ passed, accounts = passed ++ ldapEntries.map LdapEntry.distinguishedName ∧
        ∀ dn ∈ passed, plain (s.userPassword dn) = none) ∧
      ∀ user ∈ ldapEntries,
        (plain user.userPassword = none → plain (s.userPassword user.distinguishedName) = none) ∧
        ∀ pwd, plain user.userPassword = some pwd → plain (userPassword user.distinguishedName) = some pwd
    | .ended, s => ∀ dn ∈ accounts, plain (s.userPassword dn) = none
    | _, _ => True
  quiet _ _ := True
  grows s s' := ∀ dn, plain (s.userPassword dn) = none → plain (s'.userPassword dn) = none

variable {argon2 accounts userPassword}

theorem Migrated.first_of_plain (h : Migrated argon2 userPassword s) {pwd : JString}
    (hplain : plain (s.userPassword dn) = some pwd) : plain (userPassword dn) = some pwd := by
  rcases h dn with hsame | ⟨_, salt, -, hhash⟩
  · rwa [← hsame]
  · rw [hhash, plain_tagged] at hplain
    cases hplain

theorem settlingOutline_assert_mono (h : (settlingOutline argon2 accounts userPassword).assert l s)
    (hgrows : ∀ dn, plain (s.userPassword dn) = none → plain (s'.userPassword dn) = none) :
    (settlingOutline argon2 accounts userPassword).assert l s' := by
  cases l with
  | migrating ldapEntries =>
    obtain ⟨⟨passed, haccounts, hpassed⟩, hrest⟩ := h
    exact ⟨⟨passed, haccounts, fun dn hdn => hgrows dn (hpassed dn hdn)⟩, fun user huser =>
      ⟨fun hnone => hgrows _ ((hrest user huser).1 hnone), (hrest user huser).2⟩⟩
  | ended => exact fun dn hdn => hgrows dn (h dn hdn)
  | _ => trivial

/-- One entry more is behind. -/
theorem settlingOutline_next {user : LdapEntry δ} {ldapEntries : List (LdapEntry δ)}
    (h : (settlingOutline argon2 accounts userPassword).assert (.migrating (user :: ldapEntries)) s)
    (huser : plain (s.userPassword user.distinguishedName) = none) :
    (settlingOutline argon2 accounts userPassword).assert (.migrating ldapEntries) s := by
  obtain ⟨⟨passed, haccounts, hpassed⟩, hrest⟩ := h
  refine ⟨⟨passed ++ [user.distinguishedName], by rw [haccounts, List.map_cons, List.append_assoc]; rfl, ?_⟩,
    fun user' huser' => hrest user' (List.mem_cons_of_mem _ huser')⟩
  intro dn hdn
  rcases List.mem_append.1 hdn with hdn | hdn
  · exact hpassed dn hdn
  · rw [List.mem_singleton.1 hdn]
    exact huser

end

section
variable [DecidableEq δ]

/-! ## Steps -/

variable {argon2 : Argon2 ς} {clients : Directory δ → Directory δ → Prop} {s s' : Directory δ} {l l' : Stage δ}

theorem disciplined : Disciplined (program ι argon2 clients) where
  act := fun _ _ _ _ _ _ _ => .inl ⟨rfl, Iff.rfl⟩
  env := fun _ _ _ => rfl

theorem exclusive (c : Config ι (Directory δ) (Stage δ)) : Exclusive (program ι argon2 clients) c := fun _ =>
  iff_of_false id (fun h => by cases h)

/-- **What a step writes**: nothing, or the hash of a password that its instance found plain. -/
theorem advance_cases {salt : ς} {answer : Answer} (h : advance argon2 salt answer s l = (s', l')) :
    (s' = s ∧ (l' = .idle ∨ l' = .failed ∨ l' = .migrating s.findSubEntries ∨ (l = .migrating [] ∧ l' = .ended) ∨
      ∃ user ldapEntries, l = .migrating (user :: ldapEntries) ∧ plain user.userPassword = none ∧
        l' = .migrating ldapEntries)) ∨
    ∃ dn pwd ldapEntries, l = .migrating (⟨dn, some pwd⟩ :: ldapEntries) ∧ plain (some pwd) = some pwd ∧
      s' = s.updateEntry dn (argon2Tag ++ argon2.encode salt pwd) ∧ (l' = .migrating ldapEntries ∨ l' = .failed) := by
  cases l with
  | idle =>
    cases answer with
    | done =>
      obtain ⟨rfl, rfl⟩ := Prod.mk.inj h
      exact .inl ⟨rfl, .inr (.inr (.inl rfl))⟩
    | ldapException applied =>
      obtain ⟨rfl, rfl⟩ := Prod.mk.inj h
      exact .inl ⟨rfl, .inr (.inl rfl)⟩
  | migrating ldapEntries =>
    cases ldapEntries with
    | nil =>
      obtain ⟨rfl, rfl⟩ := Prod.mk.inj h
      exact .inl ⟨rfl, .inr (.inr (.inr (.inl ⟨rfl, rfl⟩)))⟩
    | cons user ldapEntries =>
      obtain ⟨dn, userPassword⟩ := user
      rw [advance] at h
      cases hplain : plain userPassword with
      | none =>
        rw [hplain] at h
        obtain ⟨rfl, rfl⟩ := Prod.mk.inj h
        exact .inl ⟨rfl, .inr (.inr (.inr (.inr ⟨_, _, rfl, hplain, rfl⟩)))⟩
      | some pwd =>
        rw [hplain] at h
        obtain rfl := eq_some_of_plain hplain
        cases answer with
        | done =>
          obtain ⟨rfl, rfl⟩ := Prod.mk.inj h
          exact .inr ⟨dn, pwd, ldapEntries, rfl, hplain, rfl, .inl rfl⟩
        | ldapException applied =>
          obtain ⟨rfl, rfl⟩ := Prod.mk.inj h
          cases applied with
          | false => exact .inl ⟨rfl, .inr (.inl rfl)⟩
          | true => exact .inr ⟨dn, pwd, ldapEntries, rfl, hplain, rfl, .inr rfl⟩
  | ended | failed =>
    obtain ⟨rfl, rfl⟩ := Prod.mk.inj h
    exact .inl ⟨rfl, .inl rfl⟩

theorem Client.given {s s' : Directory δ} (h : Client s s') (dn : δ) : s.given dn ⊆ s'.given dn := by
  cases h with
  | give dn' pwd =>
    by_cases hdn : dn = dn'
    · subst hdn
      simp
    · simp [Function.update_of_ne hdn]
  | remove | relist => exact fun _ h => h

theorem knownOutline_inv_client (h : (knownOutline argon2).inv s) (hclient : Client s s') :
    (knownOutline argon2).inv s' := by
  intro dn stored hstored
  cases hclient with
  | give dn' pwd =>
    by_cases hdn : dn = dn'
    · subst hdn
      simp only [Function.update_self] at hstored
      obtain rfl := Option.some.inj hstored
      exact .inl (by simp)
    · simp only [Function.update_of_ne hdn] at hstored
      exact (h dn stored hstored).mono (Client.given (.give dn' pwd) dn)
  | remove dn' =>
    by_cases hdn : dn = dn'
    · subst hdn
      simp only [Function.update_self] at hstored
      cases hstored
    · simp only [Function.update_of_ne hdn] at hstored
      exact h dn stored hstored
  | relist accounts => exact h dn stored hstored

theorem knownOutline_sound :
    Sound (program ι argon2 Client) (knownOutline argon2 : Outline (Directory δ) (Stage δ)) where
  act := by
    rintro i s l s' l' ⟨salt, answer, hact⟩ - hinv hassert
    rcases advance_cases hact with ⟨rfl, hl'⟩ | ⟨dn, pwd, ldapEntries, rfl, hplain, rfl, hl'⟩
    · refine ⟨hinv, ?_, fun _ _ h => h, fun _ => trivial⟩
      rcases hl' with rfl | rfl | rfl | ⟨-, rfl⟩ | ⟨user, ldapEntries, rfl, -, rfl⟩
      · trivial
      · trivial
      · intro user huser stored hstored
        obtain ⟨dn, -, rfl⟩ := List.mem_map.1 huser
        exact hinv dn stored hstored
      · trivial
      · exact fun user' huser' => hassert user' (List.mem_cons_of_mem _ huser')
    · have hgiven : pwd ∈ s.given dn := (hassert _ List.mem_cons_self pwd rfl).given_of_plain hplain
      refine ⟨fun dn' stored hstored => ?_, ?_, fun _ _ h => h, fun _ => trivial⟩
      · by_cases hdn : dn' = dn
        · subst hdn
          simp only [Directory.updateEntry, Function.update_self] at hstored
          obtain rfl := Option.some.inj hstored
          exact .inr ⟨pwd, hgiven, hplain, salt, rfl⟩
        · simp only [Directory.updateEntry, Function.update_of_ne hdn] at hstored
          exact hinv dn' stored hstored
      · rcases hl' with rfl | rfl
        · exact fun user' huser' => hassert user' (List.mem_cons_of_mem _ huser')
        · trivial
  env := fun s s' henv hinv => ⟨knownOutline_inv_client hinv henv, henv.given, trivial⟩
  keep := fun _ _ _ h => h.elim
  stable := fun _ _ _ _ h hgrows => knownOutline_assert_mono h hgrows

theorem knownOutline_start (accounts : List δ) (userPassword : δ → Option JString) :
    Monitors.Holds (program ι argon2 Client) (knownOutline argon2) (start accounts userPassword) where
  exclusive := exclusive _
  inv := fun dn stored hstored => by
    have hstored : userPassword dn = some stored := hstored
    refine .inl ?_
    show stored ∈ (userPassword dn).toList
    rw [hstored]
    exact List.mem_singleton_self stored
  assert := fun _ => trivial

/-- **What is stored is what a client gave, or a hash of it that is accepted**: with any number of instances, failing
and started again anywhere, between any writes of other clients.  No hash is hashed again. -/
theorem stored_verifies [DecidableEq ι] (sha1 : Bytes → Digest) (decoder : Base64Decoder) {accounts : List δ}
    {userPassword : δ → Option JString} {c : Config ι (Directory δ) (Stage δ)}
    (hreach : Reach (program ι argon2 Client) (start accounts userPassword) c) {dn : δ} {stored : JString}
    (hstored : c.shared.userPassword dn = some stored) :
    stored ∈ c.shared.given dn ∨ ∃ pwd ∈ c.shared.given dn, plain (some pwd) = some pwd ∧
      (∃ salt, stored = argon2Tag ++ argon2.encode salt pwd) ∧
        encoderMatches sha1 decoder argon2.accepts (some pwd) (some stored) = .ok true := by
  have hholds := knownOutline_sound.holds disciplined (knownOutline_start accounts userPassword) hreach
  rcases hholds.inv dn stored hstored with hgiven | ⟨pwd, hgiven, hplain, salt, rfl⟩
  · exact .inl hgiven
  · exact .inr ⟨pwd, hgiven, hplain, ⟨salt, rfl⟩, encoderMatches_argon2 sha1 decoder argon2 salt pwd⟩

/-- The stale listing brings the old password back; what is stored is a hash that it still opens. -/
theorem sampleRun_verifies : sampleRun.shared.given 7 = [utf16 "changed".toList, secret] ∧
    sampleRun.shared.userPassword 7 = some (argon2Tag ++ sampleEncode secret) ∧
      encoderMatches sumDigest basicDecoder sampleArgon2.accepts (some secret)
        (some (argon2Tag ++ sampleEncode secret)) = .ok true := by
  have hgiven : sampleRun.shared.given 7 = [utf16 "changed".toList, secret] := by rfl
  have hstored : sampleRun.shared.userPassword 7 = some (argon2Tag ++ sampleEncode secret) := by rfl
  refine ⟨hgiven, hstored, ?_⟩
  rcases stored_verifies sumDigest basicDecoder sampleRun_reach hstored with hplain | ⟨pwd, hpwd, -, ⟨salt, hhash⟩, haccepts⟩
  · rw [hgiven] at hplain
    exact absurd hplain (by decide)
  · rw [hgiven, List.mem_cons, List.mem_singleton] at hpwd
    rcases hpwd with rfl | rfl
    · have hne : argon2Tag ++ sampleEncode secret ≠ argon2Tag ++ sampleEncode (utf16 "changed".toList) := by decide
      exact absurd hhash hne
    · exact haccepts

variable {accounts : List δ} {userPassword : δ → Option JString}

theorem plain_updateEntry (dn : δ) (salt : ς) (pwd : JString) (dn' : δ) (h : dn' = dn ∨ plain (s.userPassword dn') = none) :
    plain ((s.updateEntry dn (argon2Tag ++ argon2.encode salt pwd)).userPassword dn') = none := by
  by_cases hdn : dn' = dn
  · subst hdn
    simp only [Directory.updateEntry, Function.update_self]
    exact plain_tagged _
  · simp only [Directory.updateEntry, Function.update_of_ne hdn]
    exact h.resolve_left hdn

theorem Migrated.updateEntry (h : Migrated argon2 userPassword s) {dn : δ} {pwd : JString}
    (hfirst : plain (userPassword dn) = some pwd) (salt : ς) :
    Migrated argon2 userPassword (s.updateEntry dn (argon2Tag ++ argon2.encode salt pwd)) := by
  intro dn'
  by_cases hdn : dn' = dn
  · subst hdn
    exact .inr ⟨pwd, salt, hfirst, by simp only [Directory.updateEntry, Function.update_self]⟩
  · simp only [Directory.updateEntry, Function.update_of_ne hdn]
    exact h dn'

theorem settlingOutline_sound :
    Sound (program ι argon2 alone) (settlingOutline argon2 accounts userPassword) where
  act := by
    rintro i s l s' l' ⟨salt, answer, hact⟩ - hinv hassert
    rcases advance_cases hact with ⟨rfl, hl'⟩ | ⟨dn, pwd, ldapEntries, rfl, hplain, rfl, hl'⟩
    · refine ⟨hinv, ?_, fun _ h => h, fun _ => trivial⟩
      rcases hl' with rfl | rfl | rfl | ⟨rfl, rfl⟩ | ⟨user, ldapEntries, rfl, hnone, rfl⟩
      · trivial
      · trivial
      · refine ⟨⟨[], ?_, fun _ h => absurd h List.not_mem_nil⟩, fun user huser => ?_⟩
        · rw [Directory.findSubEntries, hinv.1, List.map_map]
          exact (List.map_id _).symm
        · obtain ⟨dn, -, rfl⟩ := List.mem_map.1 huser
          exact ⟨fun h => h, fun pwd h => hinv.2.first_of_plain h⟩
      · obtain ⟨⟨passed, haccounts, hpassed⟩, -⟩ := hassert
        rw [List.map_nil, List.append_nil] at haccounts
        subst haccounts
        exact hpassed
      · exact settlingOutline_next hassert ((hassert.2 user List.mem_cons_self).1 hnone)
    · have hfirst := (hassert.2 _ List.mem_cons_self).2 pwd hplain
      have hgrows : ∀ dn', plain (s.userPassword dn') = none →
          plain ((s.updateEntry dn (argon2Tag ++ argon2.encode salt pwd)).userPassword dn') = none := fun dn' h =>
        plain_updateEntry dn salt pwd dn' (.inr h)
      refine ⟨⟨hinv.1, hinv.2.updateEntry hfirst salt⟩, ?_, hgrows, fun _ => trivial⟩
      rcases hl' with rfl | rfl
      · exact settlingOutline_next (settlingOutline_assert_mono hassert hgrows)
          (plain_updateEntry dn salt pwd dn (.inl rfl))
      · trivial
  env := fun _ _ henv => henv.elim
  keep := fun _ _ _ h => h.elim
  stable := fun _ _ _ _ h hgrows => settlingOutline_assert_mono h hgrows

theorem settlingOutline_start :
    Monitors.Holds (program ι argon2 alone) (settlingOutline argon2 accounts userPassword)
      (start accounts userPassword) where
  exclusive := exclusive _
  inv := ⟨rfl, fun _ => .inl rfl⟩
  assert := fun _ => trivial

/-- Nothing is left to be written. -/
def quietOutline (s : Directory δ) : Outline (Directory δ) (Stage δ) where
  inv s' := s' = s
  assert
    | .migrating ldapEntries, _ => ∀ user ∈ ldapEntries, plain user.userPassword = none
    | _, _ => True
  quiet _ _ := True
  grows _ _ := True

theorem quietOutline_sound (h : ∀ dn ∈ s.accounts, plain (s.userPassword dn) = none) :
    Sound (program ι argon2 alone) (quietOutline s) where
  act := by
    rintro i s' l s'' l' ⟨salt, answer, hact⟩ - hinv hassert
    obtain rfl : s' = s := hinv
    rcases advance_cases hact with ⟨rfl, hl'⟩ | ⟨dn, pwd, ldapEntries, rfl, hplain, rfl, hl'⟩
    · refine ⟨rfl, ?_, trivial, fun _ => trivial⟩
      rcases hl' with rfl | rfl | rfl | ⟨rfl, rfl⟩ | ⟨user, ldapEntries, rfl, hnone, rfl⟩
      · trivial
      · trivial
      · intro user huser
        obtain ⟨dn, hdn, rfl⟩ := List.mem_map.1 huser
        exact h dn hdn
      · trivial
      · exact fun user' huser' => hassert user' (List.mem_cons_of_mem _ huser')
    · have hnone : plain (some pwd) = none := hassert _ List.mem_cons_self
      rw [hplain] at hnone
      cases hnone
  env := fun _ _ henv => henv.elim
  keep := fun _ _ _ h => h.elim
  stable := by
    intro l s' s'' _ h _
    cases l <;> exact h

/-- **The starts settle**: left to themselves, they store nothing but hashes of the first plain passwords and touch no
other; once one has ended, no account is plain again, and as soon as none is migrating the directory stays as it is. -/
theorem startups_settle [DecidableEq ι] {c : Config ι (Directory δ) (Stage δ)}
    (hreach : Reach (program ι argon2 alone) (start accounts userPassword) c) :
    Migrated argon2 userPassword c.shared ∧
      ∀ i, c.thread i = .ended → ∀ c', Reach (program ι argon2 alone) c c' →
        (∀ dn ∈ accounts, plain (c'.shared.userPassword dn) = none) ∧
          ((∀ j ldapEntries, c.thread j ≠ .migrating ldapEntries) → c'.shared = c.shared) := by
  have hholds := settlingOutline_sound.holds disciplined settlingOutline_start hreach
  refine ⟨hholds.inv.2, fun i hended c' hreach' => ?_⟩
  have hnone : ∀ dn ∈ accounts, plain (c.shared.userPassword dn) = none := by
    have hassert := hholds.assert i
    rwa [hended] at hassert
  have hgrown := settlingOutline_sound.grown disciplined (fun _ _ h => h) (fun _ _ _ h h' dn hdn => h' dn (h dn hdn))
    hholds hreach'
  refine ⟨fun dn hdn => hgrown dn (hnone dn hdn), fun hresting => ?_⟩
  have hquiet : Monitors.Holds (program ι argon2 alone) (quietOutline c.shared) c := ⟨exclusive c, rfl, fun j => by
    cases hj : c.thread j with
    | migrating ldapEntries => exact absurd hj (hresting j ldapEntries)
    | _ => trivial⟩
  have hsound : Sound (program ι argon2 alone) (quietOutline c.shared) := quietOutline_sound (fun dn hdn => hnone dn (by
    rwa [hholds.inv.1] at hdn))
  exact (hsound.holds disciplined hquiet hreach').inv

/-- The same starts, with no other client. -/
def settledRun : Config Nat (Directory Nat) (Stage Nat) := (firstCalls ++ lastCalls).foldl call sampleStart

/-- Both accounts are hashed, and stay as they are. -/
theorem settledRun_stays : Migrated sampleArgon2 (fun _ => some secret) settledRun.shared ∧
    ∀ c, Reach (program Nat sampleArgon2 alone) settledRun c →
      c.shared = settledRun.shared ∧ ∀ dn ∈ [7, 8], plain (c.shared.userPassword dn) = none := by
  have hreach : Reach (program Nat sampleArgon2 alone) sampleStart settledRun := reach_calls alone _ _
  have hended : settledRun.thread 1 = .ended := by rfl
  have hresting : ∀ j ldapEntries, settledRun.thread j ≠ .migrating ldapEntries := by
    intro j ldapEntries
    match j with
    | 0 => exact fun h => by cases (show Stage.failed = Stage.migrating ldapEntries from h)
    | 1 => exact fun h => by cases (show Stage.ended = Stage.migrating ldapEntries from h)
    | j + 2 => exact fun h => by cases (show Stage.idle = Stage.migrating ldapEntries from h)
  obtain ⟨hmigrated, hsettled⟩ := startups_settle hreach
  refine ⟨hmigrated, fun c hc => ?_⟩
  obtain ⟨hplain, hsame⟩ := hsettled 1 hended c hc
  exact ⟨hsame hresting, hplain⟩

end

end Lider.PasswordMigration
