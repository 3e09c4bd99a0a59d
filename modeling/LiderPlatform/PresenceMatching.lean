import LiderPlatform.AgentPresence
import Mathlib.Data.List.TakeWhile
/-!
# PresenceMatching — a recipient among the connected users (`isOnline`, `fetchOnlineRecipients`, `normalize`)

A connected JID is stored as its bare JID and as its bare user; a recipient is tried as it is, as its bare user, and
with the configured domain.  The bare user decides: whatever the domains are, a recipient is online when a connected JID has
its local part (`isOnline_iff`).
-/
namespace Lider

open Java

/-! ## Forms of a recipient -/

def atSign : UInt16 := 0x40
def slash : UInt16 := 0x2F

/-- Characters that have no case, and that a letter never becomes: white space, what `trim` drops, `@` and `/`. -/
def isReserved (u : UInt16) : Bool := isWhitespace u || decide (u ≤ 0x20) || u == atSign || u == slash

/-- `toLowerCase(Locale.ROOT)`, with what Unicode says of it. -/
structure RootLower where
  toLowerCase : JString → JString
  idempotent : ∀ text, toLowerCase (toLowerCase text) = toLowerCase text
  /-- The `@` between two words keeps them apart. -/
  atSign : ∀ before after,
    toLowerCase (before ++ atSign :: after) = toLowerCase before ++ Lider.atSign :: toLowerCase after
  trim : ∀ text, toLowerCase (trim text) = Java.trim (toLowerCase text)
  caseless : ∀ text, (∀ u ∈ text, isReserved u = true) → toLowerCase text = text
  reserved : ∀ text, ∀ u ∈ toLowerCase text, isReserved u = true → u ∈ text
  ne_nil : ∀ text, text ≠ [] → toLowerCase text ≠ []

def upTo (c : UInt16) (text : JString) : JString := text.takeWhile (· != c)

section
variable (root : RootLower)

def normalize (recipient : JString) : JString :=
  let normalized := trim recipient
  if normalized = [] then normalized else root.toLowerCase (upTo slash normalized)

def bareJid (recipient : JString) : JString := normalize root recipient

def bareUser (recipient : JString) : JString :=
  let normalized := normalize root recipient
  if isBlank normalized then [] else upTo atSign normalized

/-! ## The connected users -/

def formsOf (node : JString) : List JString :=
  let fullJid := normalize root node
  if isBlank fullJid then [] else [fullJid, bareJid root fullJid, bareUser root fullJid]

/-- The set made of the nodes of an array; a node that is not textual is skipped. -/
def recipientsOf (nodes : List (Option JString)) : Recipients :=
  (nodes.flatMap (fun node => node.elim [] (formsOf root))).toFinset

/-- A response: its status, and the array its body is, if it is one, or the message of what parsing it throws. -/
structure ConnectedUsers where
  statusCode : Int
  payload : Except String (Option (List (Option JString)))

def fetchOnlineRecipients (response : ConnectedUsers) : Except String Recipients := do
  if response.statusCode < 200 ∨ 300 ≤ response.statusCode then .error s!"HTTP {response.statusCode}"
  else match ← response.payload with
    | none => return ∅
    | some nodes => return recipientsOf root nodes

/-! ## A recipient -/

variable (xmppDomain : JString)

/-- The forms of a recipient that is not blank, tried against the set. -/
def isOnlineAmong (onlineRecipients : Recipients) (normalized : JString) : Bool :=
  if normalized ∈ onlineRecipients then true
  else if bareUser root normalized ∈ onlineRecipients then true
  else if atSign ∉ normalized then decide (normalized ++ atSign :: xmppDomain ∈ onlineRecipients)
  else false

def isOnline (p : AgentPresence) (k : PresenceCall) (recipient : Option JString) : Bool × AgentPresence :=
  match recipient with
  | none => (false, p)
  | some recipient =>
    if isBlank recipient then (false, p)
    else
      let normalized := normalize root recipient
      if isBlank normalized then (false, p)
      else
        let online := p.getOnlineRecipients k
        (isOnlineAmong root xmppDomain online.1 normalized, online.2)

end

/-- A full JID: a local part and a domain without separators and white space, and any resource. -/
structure FullJid where
  localPart : JString
  domain : JString
  resource : JString
  localPart_ne : localPart ≠ []
  localPart_plain : ∀ u ∈ localPart, isReserved u = false
  domain_plain : ∀ u ∈ domain, isReserved u = false

def FullJid.bare (j : FullJid) : JString := j.localPart ++ atSign :: j.domain

def FullJid.text (j : FullJid) : JString := j.bare ++ slash :: j.resource

def connectedRecipients (root : RootLower) (jids : List FullJid) : Recipients :=
  recipientsOf root (jids.map (fun j => some j.text))

def withoutResource (recipient : JString) : JString := trim (upTo slash (trim recipient))

def localPartOf (recipient : JString) : JString := upTo atSign (withoutResource recipient)

/-- The domain of a recipient: the configured one when it has none. -/
def domainOf (xmppDomain recipient : JString) : JString :=
  if atSign ∈ withoutResource recipient then ((withoutResource recipient).dropWhile (· != atSign)).tail else xmppDomain

/-! ## Texts -/

theorem upTo_append {c : UInt16} {before : JString} (h : c ∉ before) (after : JString) :
    upTo c (before ++ c :: after) = before := by
  rw [upTo, List.takeWhile_append_of_pos (fun u hu => by simpa using fun heq : u = c => h (heq ▸ hu)),
    List.takeWhile_cons_of_neg (by simp), List.append_nil]

theorem upTo_of_not_mem {c : UInt16} {text : JString} (h : c ∉ text) : upTo c text = text :=
  List.takeWhile_eq_self_iff.2 (fun u hu => by simpa using fun heq : u = c => h (heq ▸ hu))

theorem not_mem_upTo (c : UInt16) (text : JString) : c ∉ upTo c text := fun h => by
  simpa using List.mem_takeWhile_imp h

theorem upTo_subset (c : UInt16) (text : JString) : ∀ u ∈ upTo c text, u ∈ text := fun _ hu =>
  (List.takeWhile_prefix _).subset hu

theorem trim_subset (text : JString) : ∀ u ∈ trim text, u ∈ text := fun u hu => by
  rw [trim, List.mem_reverse] at hu
  have hu := (List.dropWhile_suffix _).subset hu
  rw [List.mem_reverse] at hu
  exact (List.dropWhile_suffix _).subset hu

/-- **Trimming keeps what stands before an inner character**, when it does not start with a blank. -/
theorem trim_append {before : JString} (hne : before ≠ []) (hplain : ∀ u ∈ before, ¬ u ≤ 0x20) {c : UInt16}
    (hc : ¬ c ≤ 0x20) (after : JString) : ∃ after', trim (before ++ c :: after) = before ++ c :: after' := by
  obtain ⟨u, us, rfl⟩ := List.exists_cons_of_ne_nil hne
  have hhead : ((u :: us) ++ c :: after).dropWhile (· ≤ 0x20) = (u :: us) ++ c :: after := by
    rw [List.cons_append, List.dropWhile_cons_of_neg (by simpa using hplain u List.mem_cons_self)]
  refine ⟨((after.reverse).dropWhile (· ≤ 0x20)).reverse, ?_⟩
  rw [trim, hhead, List.reverse_append, List.reverse_cons, List.append_assoc, List.dropWhile_append]
  split
  · rename_i hempty
    rw [List.isEmpty_iff.1 hempty, List.singleton_append, List.dropWhile_cons_of_neg (by simpa using hc)]
    simp
  · simp

theorem trim_of_plain {text : JString} (h : ∀ u ∈ text, ¬ u ≤ 0x20) : trim text = text := by
  have hdrop : ∀ t : JString, (∀ u ∈ t, ¬ u ≤ 0x20) → t.dropWhile (· ≤ 0x20) = t := by
    intro t ht
    cases t with
    | nil => rfl
    | cons u us => exact List.dropWhile_cons_of_neg (by simpa using ht u List.mem_cons_self)
  rw [trim, hdrop text h, hdrop _ (fun u hu => h u (List.mem_reverse.1 hu)), List.reverse_reverse]

theorem isBlank_iff (text : JString) : isBlank text = true ↔ ∀ u ∈ text, isWhitespace u = true := List.all_eq_true

theorem isReserved_of_isWhitespace {u : UInt16} (h : isWhitespace u = true) : isReserved u = true := by
  simp [isReserved, h]

theorem plain_of_not_isReserved {u : UInt16} (h : isReserved u = false) :
    isWhitespace u = false ∧ ¬ u ≤ 0x20 ∧ u ≠ atSign ∧ u ≠ slash := by
  simpa [isReserved, and_assoc] using h

theorem plain_of_all {text : JString} (h : text.all (fun u => !isReserved u) = true) :
    ∀ u ∈ text, isReserved u = false := by
  simpa using h

/-! ## Letters -/

namespace RootLower

variable (root : RootLower)

theorem not_mem_of_isReserved {u : UInt16} (hu : isReserved u = true) {text : JString} (h : u ∉ text) :
    u ∉ root.toLowerCase text := fun hmem => h (root.reserved text u hmem hu)

theorem plain {text : JString} (h : ∀ u ∈ text, isReserved u = false) :
    ∀ u ∈ root.toLowerCase text, isReserved u = false := by
  intro u hu
  by_contra hr
  have hr : isReserved u = true := by simpa using hr
  exact absurd (h u (root.reserved text u hu hr)) (by simp [hr])

theorem upTo_atSign (text : JString) :
    upTo Lider.atSign (root.toLowerCase text) = root.toLowerCase (upTo Lider.atSign text) := by
  by_cases h : Lider.atSign ∈ text
  · obtain ⟨before, after, rfl, hbefore⟩ := List.eq_append_cons_of_mem h
    rw [root.atSign, upTo_append hbefore, upTo_append (root.not_mem_of_isReserved (by decide) hbefore)]
  · rw [upTo_of_not_mem h, upTo_of_not_mem (root.not_mem_of_isReserved (by decide) h)]

end RootLower

section
variable (root : RootLower)

theorem normalize_eq (text : JString) : normalize root text = root.toLowerCase (upTo slash (trim text)) := by
  simp only [normalize]
  split
  · rename_i h
    rw [h]
    exact (root.caseless [] (fun u hu => nomatch hu)).symm
  · rfl

/-- Normalizing once more trims. -/
theorem normalize_normalize (text : JString) :
    normalize root (normalize root text) = root.toLowerCase (withoutResource text) := by
  have hslash : slash ∉ root.toLowerCase (withoutResource text) :=
    root.not_mem_of_isReserved (by decide) (fun h => not_mem_upTo slash _ (trim_subset _ _ h))
  rw [normalize_eq, normalize_eq, ← root.trim]
  exact (congrArg root.toLowerCase (upTo_of_not_mem hslash)).trans (root.idempotent _)

/-- **The bare user of a recipient is its local part**, once that is not blank. -/
theorem bareUser_normalize (text : JString) : bareUser root (normalize root text) =
    if isBlank (root.toLowerCase (withoutResource text)) then [] else root.toLowerCase (localPartOf text) := by
  simp only [bareUser, normalize_normalize, root.upTo_atSign]
  rfl

/-! ## Connected JIDs -/

theorem FullJid.bare_plain (j : FullJid) : ∀ u ∈ j.bare, ¬ u ≤ 0x20 ∧ u ≠ slash := by
  intro u hu
  rcases List.mem_append.1 hu with hu | hu
  · obtain ⟨-, hblank, -, hslash⟩ := plain_of_not_isReserved (j.localPart_plain u hu)
    exact ⟨hblank, hslash⟩
  · rcases List.mem_cons.1 hu with rfl | hu
    · decide
    · obtain ⟨-, hblank, -, hslash⟩ := plain_of_not_isReserved (j.domain_plain u hu)
      exact ⟨hblank, hslash⟩

theorem FullJid.trim_bare (j : FullJid) : trim j.bare = j.bare := trim_of_plain (fun u hu => (j.bare_plain u hu).1)

theorem FullJid.upTo_trim_text (j : FullJid) : upTo slash (trim j.text) = j.bare := by
  have hne : j.bare ≠ [] := fun h => j.localPart_ne (List.append_eq_nil_iff.1 h).1
  obtain ⟨after, htrim⟩ := trim_append hne (fun u hu => (j.bare_plain u hu).1) (c := slash) (by decide) j.resource
  rw [FullJid.text, htrim, upTo_append (fun hmem => (j.bare_plain _ hmem).2 rfl)]

theorem FullJid.atSign_not_mem (j : FullJid) : atSign ∉ j.localPart := fun h =>
  (plain_of_not_isReserved (j.localPart_plain _ h)).2.2.1 rfl

theorem FullJid.localPartOf_text (j : FullJid) : localPartOf j.text = j.localPart := by
  rw [localPartOf, withoutResource, j.upTo_trim_text, j.trim_bare, FullJid.bare, upTo_append j.atSign_not_mem]

/-- **A connected JID is stored as its bare JID and its local part**, in small letters. -/
theorem formsOf_text (j : FullJid) :
    formsOf root j.text = [root.toLowerCase j.bare, root.toLowerCase j.bare, root.toLowerCase j.localPart] := by
  have hfull : normalize root j.text = root.toLowerCase j.bare := by rw [normalize_eq, j.upTo_trim_text]
  have hwithout : withoutResource j.text = j.bare := by rw [withoutResource, j.upTo_trim_text, j.trim_bare]
  have hblank : isBlank (root.toLowerCase j.bare) = false := by
    refine Bool.eq_false_iff.2 (fun h => absurd ((isBlank_iff _).1 h atSign ?_) (by decide))
    rw [FullJid.bare, root.atSign]
    exact List.mem_append_right _ List.mem_cons_self
  have hbare : bareJid root (normalize root j.text) = root.toLowerCase j.bare := by
    rw [bareJid, normalize_normalize, hwithout]
  have huser : bareUser root (normalize root j.text) = root.toLowerCase j.localPart := by
    rw [bareUser_normalize, hwithout, hblank, j.localPartOf_text]
    rfl
  simp only [formsOf, hbare, huser]
  rw [hfull, hblank]
  rfl

theorem mem_connectedRecipients (jids : List FullJid) (text : JString) : text ∈ connectedRecipients root jids ↔
    ∃ j ∈ jids, text = root.toLowerCase j.bare ∨ text = root.toLowerCase j.localPart := by
  simp only [connectedRecipients, recipientsOf, List.mem_toFinset, List.mem_flatMap, List.mem_map]
  constructor
  · rintro ⟨-, ⟨j, hj, rfl⟩, htext⟩
    rw [Option.elim_some, formsOf_text] at htext
    exact ⟨j, hj, by simpa using htext⟩
  · rintro ⟨j, hj, htext⟩
    refine ⟨_, ⟨j, hj, rfl⟩, ?_⟩
    rw [Option.elim_some, formsOf_text]
    simpa using htext

/-- **A call that fetches works with the JIDs of the response.** -/
theorem getOnlineRecipients_connected {p : AgentPresence} {k : PresenceCall} {jids : List FullJid} {statusCode : Int}
    (hentered : ¬ k.entered - p.cachedAt ≤ cacheTtl) (hlocked : ¬ k.locked - p.cachedAt ≤ cacheTtl)
    (hlow : 200 ≤ statusCode) (hhigh : statusCode < 300)
    (hfetched : k.fetched = fetchOnlineRecipients root ⟨statusCode, .ok (some (jids.map (fun j => some j.text)))⟩) :
    (p.getOnlineRecipients k).1 = connectedRecipients root jids := by
  have hok : k.fetched = .ok (connectedRecipients root jids) := by
    rw [hfetched, fetchOnlineRecipients, if_neg (by simp only; omega)]
    rfl
  rw [AgentPresence.getOnlineRecipients, if_neg hentered, if_neg hlocked]
  simp only [hok]

/-! ## The match -/

variable {root}

theorem toLowerCase_localPartOf (recipient : JString) :
    root.toLowerCase (localPartOf recipient) = upTo atSign (trim (normalize root recipient)) := by
  rw [normalize_eq, ← root.trim, root.upTo_atSign]
  rfl

theorem upTo_atSign_bare (j : FullJid) : upTo atSign (root.toLowerCase j.bare) = root.toLowerCase j.localPart := by
  rw [root.upTo_atSign, FullJid.bare, upTo_append j.atSign_not_mem]

/-- A recipient that is one of the forms of a connected JID has its local part. -/
theorem localPartOf_of_form {recipient : JString} {j : FullJid}
    (h : normalize root recipient = root.toLowerCase j.bare ∨ normalize root recipient = root.toLowerCase j.localPart) :
    root.toLowerCase j.localPart = root.toLowerCase (localPartOf recipient) := by
  rw [toLowerCase_localPartOf]
  rcases h with h | h
  · rw [h, ← root.trim, j.trim_bare, upTo_atSign_bare]
  · have htrim : trim j.localPart = j.localPart :=
      trim_of_plain (fun u hu => (plain_of_not_isReserved (j.localPart_plain u hu)).2.1)
    rw [h, ← root.trim, htrim, root.upTo_atSign, upTo_of_not_mem j.atSign_not_mem]

/-- A recipient with the local part of a connected JID is not blank, however it is cut. -/
theorem not_blank_of_localPart {recipient : JString} {j : FullJid}
    (h : root.toLowerCase j.localPart = root.toLowerCase (localPartOf recipient)) :
    isBlank recipient = false ∧ isBlank (normalize root recipient) = false ∧
      isBlank (root.toLowerCase (withoutResource recipient)) = false := by
  obtain ⟨u, hu⟩ := List.exists_mem_of_ne_nil _ (root.ne_nil _ j.localPart_ne)
  have hplain := root.plain j.localPart_plain u hu
  have hwhite : ¬ isWhitespace u = true := fun hw => absurd (isReserved_of_isWhitespace hw) (by simp [hplain])
  rw [h, toLowerCase_localPartOf] at hu
  have hnormal := upTo_subset _ _ u hu
  refine ⟨Bool.eq_false_iff.2 (fun hb => ?_), Bool.eq_false_iff.2 (fun hb => ?_), Bool.eq_false_iff.2 (fun hb => ?_)⟩
  · -- a blank recipient has no letters that could change
    have hall : ∀ v ∈ localPartOf recipient, isReserved v = true := fun v hv =>
      isReserved_of_isWhitespace ((isBlank_iff _).1 hb v
        (trim_subset _ _ (upTo_subset _ _ v (trim_subset _ _ (upTo_subset _ _ v hv)))))
    rw [← toLowerCase_localPartOf, root.caseless _ hall] at hu
    exact absurd (hall u hu) (by simp [hplain])
  · exact hwhite ((isBlank_iff _).1 hb u (trim_subset _ u hnormal))
  · rw [normalize_eq, ← root.trim] at hnormal
    exact hwhite ((isBlank_iff _).1 hb u hnormal)

theorem isOnlineAmong_iff (xmppDomain : JString) (jids : List FullJid) (recipient : JString) :
    isOnlineAmong root xmppDomain (connectedRecipients root jids) (normalize root recipient) = true ↔
      ∃ j ∈ jids, root.toLowerCase j.localPart = root.toLowerCase (localPartOf recipient) := by
  unfold isOnlineAmong
  constructor
  · intro h
    split at h
    · rename_i hmem
      obtain ⟨j, hj, hform⟩ := (mem_connectedRecipients root jids _).1 hmem
      exact ⟨j, hj, localPartOf_of_form hform⟩
    split at h
    · rename_i hmem
      obtain ⟨j, hj, hform⟩ := (mem_connectedRecipients root jids _).1 hmem
      rw [bareUser_normalize] at hform
      split at hform
      · -- no form is empty
        rcases hform with hform | hform
        · exact absurd hform.symm (root.ne_nil _ (fun hnil => j.localPart_ne (List.append_eq_nil_iff.1 hnil).1))
        · exact absurd hform.symm (root.ne_nil _ j.localPart_ne)
      · rcases hform with hform | hform
        · have hmem : atSign ∈ root.toLowerCase (localPartOf recipient) := by
            rw [hform, FullJid.bare, root.atSign]
            exact List.mem_append_right _ List.mem_cons_self
          exact absurd (root.reserved _ _ hmem (by decide)) (not_mem_upTo atSign _)
        · exact ⟨j, hj, hform.symm⟩
    split at h
    · rename_i hat
      obtain ⟨j, hj, hform⟩ := (mem_connectedRecipients root jids _).1 (of_decide_eq_true h)
      refine ⟨j, hj, localPartOf_of_form (.inr ?_)⟩
      rcases hform with hform | hform
      · rw [← upTo_atSign_bare, ← hform, upTo_append hat]
      · have hmem : atSign ∈ root.toLowerCase j.localPart := by
          rw [← hform]
          exact List.mem_append_right _ List.mem_cons_self
        exact absurd (root.reserved _ _ hmem (by decide)) j.atSign_not_mem
    · cases h
  · rintro ⟨j, hj, hlocal⟩
    have hbare : bareUser root (normalize root recipient) ∈ connectedRecipients root jids := by
      rw [bareUser_normalize, (not_blank_of_localPart hlocal).2.2, mem_connectedRecipients]
      exact ⟨j, hj, .inr hlocal.symm⟩
    by_cases hmem : normalize root recipient ∈ connectedRecipients root jids
    · rw [if_pos hmem]
    · rw [if_neg hmem, if_pos hbare]

end

/-- **A recipient is online exactly when a connected JID has its local part**, whatever the domains are. -/
theorem isOnline_iff (root : RootLower) (xmppDomain : JString) (jids : List FullJid) (p : AgentPresence)
    (k : PresenceCall) (hfetched : (p.getOnlineRecipients k).1 = connectedRecipients root jids) (recipient : JString) :
    (isOnline root xmppDomain p k (some recipient)).1 = true ↔
      ∃ j ∈ jids, root.toLowerCase j.localPart = root.toLowerCase (localPartOf recipient) := by
  simp only [isOnline]
  by_cases hblank : isBlank recipient = true
  · rw [if_pos hblank]
    exact iff_of_false (by simp) (fun ⟨j, _, h⟩ => by simp [(not_blank_of_localPart h).1] at hblank)
  rw [if_neg hblank]
  by_cases hnormal : isBlank (normalize root recipient) = true
  · rw [if_pos hnormal]
    exact iff_of_false (by simp) (fun ⟨j, _, h⟩ => by simp [(not_blank_of_localPart h).2.1] at hnormal)
  rw [if_neg hnormal, hfetched]
  exact isOnlineAmong_iff xmppDomain jids recipient

/-! ## One JID under ASCII letters -/

def lowerUnit (u : UInt16) : UInt16 := if 0x41 ≤ u ∧ u ≤ 0x5A then u + 0x20 else u

theorem lowerUnit_letter : ∀ n : Fin 26, isReserved (UInt16.ofNat (0x41 + n)) = false ∧
    isReserved (lowerUnit (UInt16.ofNat (0x41 + n))) = false ∧
    lowerUnit (lowerUnit (UInt16.ofNat (0x41 + n))) = lowerUnit (UInt16.ofNat (0x41 + n)) := by decide

theorem lowerUnit_cases (u : UInt16) : lowerUnit u = u ∨
    isReserved u = false ∧ isReserved (lowerUnit u) = false ∧ lowerUnit (lowerUnit u) = lowerUnit u := by
  by_cases h : 0x41 ≤ u ∧ u ≤ 0x5A
  · have hlow : 0x41 ≤ u.toNat := UInt16.le_iff_toNat_le.1 h.1
    have hhigh : u.toNat ≤ 0x5A := UInt16.le_iff_toNat_le.1 h.2
    have hletter := lowerUnit_letter ⟨u.toNat - 0x41, by omega⟩
    simp only [show 0x41 + (u.toNat - 0x41) = u.toNat by omega, UInt16.ofNat_toNat] at hletter
    exact .inr hletter
  · exact .inl (if_neg h)

theorem isReserved_lowerUnit (u : UInt16) : isReserved (lowerUnit u) = isReserved u := by
  rcases lowerUnit_cases u with h | ⟨h, h', -⟩
  · rw [h]
  · rw [h, h']

theorem lowerUnit_of_isReserved {u : UInt16} (h : isReserved u = true) : lowerUnit u = u :=
  (lowerUnit_cases u).resolve_right (fun hr => by simp [h] at hr)

theorem lowerUnit_le_iff (u : UInt16) : lowerUnit u ≤ 0x20 ↔ u ≤ 0x20 := by
  have hreserved : ∀ v : UInt16, v ≤ 0x20 → isReserved v = true := fun v hv => by simp [isReserved, hv]
  constructor
  · intro h
    rw [← lowerUnit_of_isReserved ((isReserved_lowerUnit u).symm.trans (hreserved _ h))]
    exact h
  · intro h
    rw [lowerUnit_of_isReserved (hreserved u h)]
    exact h

/-- `toLowerCase` where only the letters of ASCII have a case. -/
def asciiLower : RootLower where
  toLowerCase text := text.map lowerUnit
  idempotent text := by
    rw [List.map_map]
    refine List.map_congr_left (fun u _ => ?_)
    rcases lowerUnit_cases u with h | ⟨-, -, h⟩
    · rw [Function.comp_apply, h, h]
    · exact h
  atSign before after := by rw [List.map_append, List.map_cons]; rfl
  trim text := by
    have hdrop : ∀ t : JString, (t.map lowerUnit).dropWhile (· ≤ 0x20) = (t.dropWhile (· ≤ 0x20)).map lowerUnit := by
      intro t
      rw [List.dropWhile_map]
      congr 2
      exact funext (fun u => decide_eq_decide.2 (lowerUnit_le_iff u))
    rw [Java.trim, Java.trim, hdrop, ← List.map_reverse, hdrop, List.map_reverse]
  caseless text h := by
    refine (List.map_congr_left (fun u hu => ?_)).trans (List.map_id text)
    exact lowerUnit_of_isReserved (h u hu)
  reserved text u hu hr := by
    obtain ⟨v, hv, rfl⟩ := List.mem_map.1 hu
    rw [lowerUnit_of_isReserved ((isReserved_lowerUnit v).symm.trans hr)]
    exact hv
  ne_nil text h := by simpa using h

/-- `Ahenk-001@liderahenk.org/pc`. -/
def ahenkJid : FullJid where
  localPart := utf16 "Ahenk-001".toList
  domain := utf16 "liderahenk.org".toList
  resource := utf16 "pc".toList
  localPart_ne := by decide
  localPart_plain := plain_of_all (by decide)
  domain_plain := plain_of_all (by decide)

/-- The first invocation: the fetch finds `ahenkJid`. -/
def ahenkCall : PresenceCall :=
  ⟨100000, 100000, fetchOnlineRecipients asciiLower ⟨200, .ok (some [some ahenkJid.text])⟩⟩

theorem ahenkCall_connected : (AgentPresence.initial.getOnlineRecipients ahenkCall).1 =
    connectedRecipients asciiLower [ahenkJid] :=
  @getOnlineRecipients_connected asciiLower .initial ahenkCall [ahenkJid] 200 (by decide) (by decide) (by decide)
    (by decide) rfl

theorem ahenkJid_online : (isOnline asciiLower (utf16 "liderahenk.org".toList) .initial ahenkCall
    (some (utf16 "ahenk-001".toList))).1 = true :=
  (isOnline_iff asciiLower (utf16 "liderahenk.org".toList) [ahenkJid] .initial ahenkCall ahenkCall_connected _).2
    ⟨ahenkJid, List.mem_singleton_self _, by decide⟩

theorem isOnline_other_domain : ¬ ∀ (root : RootLower) (xmppDomain : JString) (jids : List FullJid) (p : AgentPresence)
    (k : PresenceCall), (p.getOnlineRecipients k).1 = connectedRecipients root jids → ∀ recipient : JString,
    isBlank recipient = false →
    ((isOnline root xmppDomain p k (some recipient)).1 = true ↔
      ∃ j ∈ jids, root.toLowerCase j.localPart = root.toLowerCase (localPartOf recipient) ∧
        root.toLowerCase j.domain = root.toLowerCase (domainOf xmppDomain recipient)) := by
  intro h
  have h := h asciiLower (utf16 "liderahenk.org".toList) [ahenkJid] .initial ahenkCall
    ahenkCall_connected
    (utf16 "ahenk-001@other.org".toList) (by decide)
  obtain ⟨j, hj, -, hdomain⟩ := h.1 (by decide)
  rw [List.mem_singleton.1 hj] at hdomain
  exact absurd hdomain (by decide)

end Lider
