import LiderPlatform.AgentIdentity
/-!
# AgentSpelling — the normalisation undoes every spelling of an id

An agent is named by its plain id, by its host name, by a JID or by a DN.  `normalizeAgentId_spells`: each of them is
reduced to the id, whatever follows the address or the first component.
-/
namespace Lider

open Py

/-! ## Spellings of an id -/

/-- A character an id or an attribute name is written with: visible ASCII the normalisation does not split at. -/
def isIdChar (c : Char) : Bool :=
  decide (0x20 < c.toNat) && decide (c.toNat < 0x7f) && decide (c ∉ ['@', '/', ',', '='])

/-- A plain id: nothing in it is cut off by the normalisation. -/
structure PlainId (id : String) : Prop where
  chars : ∀ c ∈ id.toList, isIdChar c = true
  nonempty : id.toList ≠ []
  no_host : ¬ "-host".toList <:+ id.toList

/-- The ways a surface spells an id. -/
inductive Spells (id : String) : String → Prop
  | plain : Spells id id
  | host : Spells id (id ++ "-host")
  | jid (address : String) : Spells id (id ++ "@" ++ address)
  | dn (key parent : String) (h : ∀ c ∈ key.toList, isIdChar c = true) (hne : key.toList ≠ []) :
    Spells id (key ++ "=" ++ id ++ "," ++ parent)

theorem isIdChar_special (c : Char) (h : isIdChar c = true) : c ≠ '@' ∧ c ≠ '/' ∧ c ≠ ',' ∧ c ≠ '=' := by
  simp only [isIdChar, Bool.and_eq_true, decide_eq_true_eq, List.mem_cons, List.not_mem_nil, or_false, not_or] at h
  exact h.2

theorem isIdChar_space (c : Char) (h : isIdChar c = true) : isSpace c = false := by
  simp only [isIdChar, Bool.and_eq_true, decide_eq_true_eq] at h
  simp only [isSpace, Bool.or_eq_false_iff, Bool.and_eq_false_iff, decide_eq_false_iff_not, beq_eq_false_iff_ne]
  omega

theorem strip_append (p r : Text) (hne : p ≠ []) (hp : ∀ c ∈ p, isSpace c = false) :
    strip (p ++ r) = p ++ r.rdropWhile isSpace := by
  obtain ⟨c, cs, rfl⟩ := List.exists_cons_of_ne_nil hne
  have hc := hp c List.mem_cons_self
  unfold strip
  rw [List.cons_append, List.dropWhile_cons_of_neg (by simp [hc]), ← List.cons_append]
  induction r using List.reverseRecOn with
  | nil =>
    rw [List.append_nil, List.rdropWhile_nil, List.append_nil, List.rdropWhile_eq_self_iff]
    intro hne'
    simp [hp _ (List.getLast_mem hne')]
  | append_singleton r d ih =>
    rw [← List.append_assoc]
    by_cases hd : isSpace d = true
    · rw [List.rdropWhile_concat_pos _ _ _ hd, List.rdropWhile_concat_pos _ _ _ hd, ih]
    · rw [List.rdropWhile_concat_neg _ _ _ hd, List.rdropWhile_concat_neg _ _ _ hd, List.append_assoc]

/-! ## The steps of the normalisation -/

theorem cutAt_eq (sep : Char) (text : Text) : cutAt sep text = text.takeWhile (· != sep) := by
  unfold cutAt splitHead
  split
  · rfl
  · rename_i h
    refine (List.takeWhile_eq_self_iff.2 (fun c hc => ?_)).symm
    rw [bne_iff_ne]
    rintro rfl
    exact h hc

theorem cutAt_append (sep : Char) (p r : Text) (hp : sep ∉ p) : cutAt sep (p ++ r) = p ++ cutAt sep r := by
  rw [cutAt_eq, cutAt_eq]
  refine List.takeWhile_append_of_pos (fun c hc => ?_)
  rw [bne_iff_ne]
  rintro rfl
  exact hp hc

theorem cutAt_sep (sep : Char) (r : Text) : cutAt sep (sep :: r) = [] := by
  rw [cutAt_eq, List.takeWhile_cons_of_neg (by simp)]

theorem cutAt_of_not_mem (sep : Char) (p : Text) (hp : sep ∉ p) : cutAt sep p = p := if_neg hp

theorem firstComponentValue_of_not_mem (p : Text) (hp : ',' ∉ p) : firstComponentValue p = p :=
  if_neg (fun h => hp h.1)

theorem firstComponentValue_dn (key value r : Text) (hk : ',' ∉ key ∧ '=' ∉ key) (hv : ',' ∉ value) :
    firstComponentValue (key ++ '=' :: (value ++ ',' :: r)) = value := by
  have hhead : splitHead ',' (key ++ '=' :: (value ++ ',' :: r)) = key ++ '=' :: value := by
    have h := cutAt_append ',' (key ++ '=' :: value) (',' :: r) (by simp [hk.1, hv])
    rw [cutAt_sep, List.append_nil, List.append_assoc, List.cons_append] at h
    rwa [cutAt, if_pos (by simp)] at h
  have htail : splitTail '=' (key ++ '=' :: value) = value := by
    unfold splitTail
    rw [List.dropWhile_append_of_pos (fun c hc => ?_), List.dropWhile_cons_of_neg (by simp), List.tail_cons]
    rw [bne_iff_ne]
    rintro rfl
    exact hk.2 hc
  unfold firstComponentValue
  rw [if_pos (by simp), hhead]
  simp only [htail]
  rw [if_pos (by simp)]

theorem withoutHost_host (p : Text) : withoutHost (p ++ "-host".toList) = p := by
  unfold withoutHost
  rw [if_pos (List.suffix_append p _), List.length_append]
  exact List.take_left' rfl

/-! ## Every spelling is reduced to the id -/

/-- A text that starts without white space is stripped on its right only. -/
theorem normalizeAgentId_of_head (repr : Json → String) (p r : Text) (hne : p ≠ [])
    (hp : ∀ c ∈ p, isSpace c = false) (s : String) (hs : s.toList = p ++ r) :
    normalizeAgentId repr (.str s) =
      some (String.ofList (withoutHost (firstComponentValue (cutAt '/' (cutAt '@' (p ++ r.rdropWhile isSpace)))))) := by
  simp only [normalizeAgentId, pyStr, hs, strip_append p r hne hp, List.append_eq_nil_iff, hne, false_and, if_false]

section
variable (repr : Json → String) (id : String) (hid : PlainId id)
include hid

theorem PlainId.not_mem (sep : Char) (h : sep ∈ ['@', '/', ',', '=']) : sep ∉ id.toList := by
  intro hm
  obtain ⟨h1, h2, h3, h4⟩ := isIdChar_special sep (hid.chars sep hm)
  simp only [List.mem_cons, List.not_mem_nil, or_false] at h
  tauto

theorem PlainId.no_space : ∀ c ∈ id.toList, isSpace c = false := fun c hc => isIdChar_space c (hid.chars c hc)

theorem PlainId.fixed : withoutHost (firstComponentValue (cutAt '/' id.toList)) = id.toList := by
  rw [cutAt_of_not_mem '/' _ (hid.not_mem id '/' (by decide)),
    firstComponentValue_of_not_mem _ (hid.not_mem id ',' (by decide))]
  exact if_neg hid.no_host

/-- **Every spelling of a plain id is reduced to it.** -/
theorem normalizeAgentId_spells (s : String) (hs : Spells id s) : normalizeAgentId repr (.str s) = some id := by
  have hat := hid.not_mem id '@' (by decide)
  have hslash := hid.not_mem id '/' (by decide)
  have hcomma := hid.not_mem id ',' (by decide)
  cases hs with
  | plain =>
    rw [normalizeAgentId_of_head repr id.toList [] hid.nonempty (hid.no_space id) id (by simp), List.rdropWhile_nil,
      List.append_nil, cutAt_of_not_mem '@' _ hat, hid.fixed id, String.ofList_toList]
  | host =>
    have hsuffix : "-host".toList = ['-', 'h', 'o', 's', 't'] := by decide
    have hr : ("-host".toList : Text).rdropWhile isSpace = "-host".toList := by decide
    rw [normalizeAgentId_of_head repr id.toList "-host".toList hid.nonempty (hid.no_space id) _ (by simp), hr,
      cutAt_of_not_mem '@' _ (by simp [hat, hsuffix]), cutAt_of_not_mem '/' _ (by simp [hslash, hsuffix]),
      firstComponentValue_of_not_mem _ (by simp [hcomma, hsuffix]), withoutHost_host, String.ofList_toList]
  | jid address =>
    have hspace : ∀ c ∈ id.toList ++ ['@'], isSpace c = false := by
      simp only [List.mem_append, List.mem_singleton, or_imp, forall_and, forall_eq]
      exact ⟨hid.no_space id, by decide⟩
    rw [normalizeAgentId_of_head repr (id.toList ++ ['@']) address.toList (by simp) hspace _ (by simp),
      List.append_assoc, List.singleton_append, cutAt_append '@' _ _ hat, cutAt_sep, List.append_nil, hid.fixed id,
      String.ofList_toList]
  | dn key parent h hne =>
    have hk : ∀ c ∈ key.toList, c ≠ '@' ∧ c ≠ '/' ∧ c ≠ ',' ∧ c ≠ '=' := fun c hc => isIdChar_special c (h c hc)
    have hspace : ∀ c ∈ key.toList ++ '=' :: (id.toList ++ [',']), isSpace c = false := by
      simp only [List.mem_append, List.mem_cons, List.not_mem_nil, or_false, or_imp, forall_and,
        forall_eq]
      exact ⟨fun c hc => isIdChar_space c (h c hc), by decide, hid.no_space id, by decide⟩
    have hpat : '@' ∉ key.toList ++ '=' :: (id.toList ++ [',']) := by
      simpa [hat] using fun hm => (hk '@' hm).1 rfl
    have hpslash : '/' ∉ key.toList ++ '=' :: (id.toList ++ [',']) := by
      simpa [hslash] using fun hm => (hk '/' hm).2.1 rfl
    rw [normalizeAgentId_of_head repr _ parent.toList (by simp) hspace _ (by simp), cutAt_append '@' _ _ hpat,
      cutAt_append '/' _ _ hpslash, List.append_assoc, List.cons_append, List.append_assoc, List.singleton_append,
      firstComponentValue_dn key.toList id.toList _ ⟨fun hm => (hk ',' hm).2.2.1 rfl, fun hm => (hk '=' hm).2.2.2 rfl⟩
        hcomma]
    rw [show withoutHost id.toList = id.toList from if_neg hid.no_host, String.ofList_toList]

end

/-! ## Rows that name an agent -/

/-- Among the fields read in order, the missing and the empty ones apart, the first spells the id. -/
def FirstSpells (candidates : List Json) (id : String) : Prop :=
  ∃ missing s rest, candidates = missing ++ .str s :: rest ∧ (∀ v ∈ missing, v = .null ∨ v = .str "") ∧ Spells id s

theorem firstIdentity_spells (repr : Json → String) (id : String) (hid : PlainId id) (candidates : List Json)
    (h : FirstSpells candidates id) : firstIdentity repr candidates = some id := by
  obtain ⟨missing, s, rest, rfl, hnull, hs⟩ := h
  have hne : id ≠ "" := fun h => hid.nonempty (by rw [h]; rfl)
  unfold firstIdentity
  induction missing with
  | nil => simp [normalizeAgentId_spells repr id hid s hs, hne]
  | cons v missing ih =>
    have ih := ih (fun v hv => hnull v (List.mem_cons_of_mem _ hv))
    rw [List.cons_append, List.findSome?_cons]
    rcases hnull v List.mem_cons_self with rfl | rfl <;> exact ih

theorem spells_ne_empty (id : String) (hid : PlainId id) (s : String) (h : Spells id s) : s ≠ "" := by
  rintro rfl
  have := normalizeAgentId_spells (fun _ => "") id hid "" h
  simp [normalizeAgentId, pyStr, strip] at this

end Lider
