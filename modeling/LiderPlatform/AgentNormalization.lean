import LiderPlatform.AgentSpelling
/-!
# AgentNormalization — what `normalize_agent_id` makes of an arbitrary string

The function strips white space once, cuts at the separators and drops one `-host`.  `normalizeAgentId_represents`: every
address, resource or DN around a clean id, with tails that may hold any character, is reduced to it.
`normalizeAgentId_settled_iff`: the result is an id that the function leaves as it is exactly when the part between the
separators is a clean name, or its host name.
-/
namespace Lider

open Py

/-! ## White space around a text -/

theorem strip_sublist (text : Text) : (strip text).Sublist text :=
  (List.rdropWhile_prefix isSpace (text.dropWhile isSpace)).sublist.trans (List.dropWhile_sublist isSpace)

section
variable (p q : Text) (c : Char) (hc : isSpace c = false)
include hc

theorem dropWhile_around : (p ++ c :: q).dropWhile isSpace = p.dropWhile isSpace ++ c :: q := by
  rw [List.dropWhile_append]
  split
  · rename_i h
    rw [List.isEmpty_iff.1 h, List.dropWhile_cons_of_neg (by simp [hc]), List.nil_append]
  · rfl

theorem rdropWhile_around : (p ++ c :: q).rdropWhile isSpace = p ++ c :: q.rdropWhile isSpace := by
  induction q using List.reverseRecOn with
  | nil => rw [List.rdropWhile_nil, List.rdropWhile_concat_neg _ _ _ (by simp [hc])]
  | append_singleton q d ih =>
    rw [← List.cons_append, ← List.append_assoc]
    by_cases hd : isSpace d = true
    · rw [List.rdropWhile_concat_pos _ _ _ hd, List.rdropWhile_concat_pos _ _ _ hd, ih]
    · rw [List.rdropWhile_concat_neg _ _ _ hd, List.rdropWhile_concat_neg _ _ _ hd, List.append_assoc, List.cons_append]

/-- A text is stripped on either side of a character that is no white space. -/
theorem strip_around : strip (p ++ c :: q) = p.dropWhile isSpace ++ c :: q.rdropWhile isSpace := by
  rw [strip, dropWhile_around p q c hc, rdropWhile_around _ q c hc]

end

theorem strip_surrounded (left right text : Text) (hl : ∀ c ∈ left, isSpace c = true)
    (hr : ∀ c ∈ right, isSpace c = true) : strip (left ++ (text ++ right)) = strip text := by
  unfold strip
  rw [List.dropWhile_append_of_pos hl, List.dropWhile_append]
  split
  · rename_i h
    have hright : right.dropWhile isSpace = [] := List.dropWhile_eq_nil_iff.2 hr
    rw [List.isEmpty_iff.1 h, hright]
  · have hdrop : ∀ l : Text, (l ++ right).rdropWhile isSpace = l.rdropWhile isSpace := by
      intro l
      unfold List.rdropWhile
      rw [List.reverse_append, List.dropWhile_append_of_pos (fun c hc => hr c (List.mem_reverse.1 hc))]
    exact hdrop _

theorem dropWhile_of_strip (text : Text) (h : strip text = text) : text.dropWhile isSpace = text := by
  refine (List.dropWhile_sublist isSpace).eq_of_length_le ?_
  calc text.length = (strip text).length := by rw [h]
    _ ≤ (text.dropWhile isSpace).length := (List.rdropWhile_prefix isSpace _).sublist.length_le

/-! ## The part between the separators -/

/-- What is left of a stripped text before a host's suffix is dropped. -/
def namePart (text : Text) : Text := firstComponentValue (cutAt '/' (cutAt '@' text))

theorem normalizeAgentId_str (repr : Json → String) (s : String) : normalizeAgentId repr (.str s) =
    if strip s.toList = [] then none else some (String.ofList (withoutHost (namePart (strip s.toList)))) := rfl

section
variable (v : Text) (hat : '@' ∉ v) (hslash : '/' ∉ v)
include hat hslash

theorem namePart_plain : namePart v = firstComponentValue v := by
  rw [namePart, cutAt_of_not_mem '@' v hat, cutAt_of_not_mem '/' v hslash]

theorem namePart_address (d : Text) : namePart (v ++ '@' :: d) = firstComponentValue v := by
  rw [namePart, cutAt_append '@' v _ hat, cutAt_sep, List.append_nil, cutAt_of_not_mem '/' v hslash]

theorem namePart_resource (r : Text) : namePart (v ++ '/' :: r) = firstComponentValue v := by
  have hcut : cutAt '@' (v ++ '/' :: r) = v ++ '/' :: cutAt '@' r := by
    have h := cutAt_append '@' (v ++ ['/']) r (by simp [hat])
    simpa using h
  rw [namePart, hcut, cutAt_append '/' v _ hslash, cutAt_sep, List.append_nil]

theorem namePart_dn (hcomma : ',' ∉ v) (key rest : Text) (hk : ∀ c ∈ ['@', '/', ',', '='], c ∉ key) :
    namePart (key ++ '=' :: (v ++ ',' :: rest)) = v := by
  have hcut : ∀ sep, sep = '@' ∨ sep = '/' → ∀ r, cutAt sep (key ++ '=' :: (v ++ ',' :: r)) =
      key ++ '=' :: (v ++ ',' :: cutAt sep r) := by
    intro sep hsep r
    have hmem : sep ∉ key ++ '=' :: (v ++ [',']) := by
      have := hk sep (by rcases hsep with rfl | rfl <;> decide)
      rcases hsep with rfl | rfl <;> simp [this, hat, hslash]
    have h := cutAt_append sep (key ++ '=' :: (v ++ [','])) r hmem
    simpa using h
  rw [namePart, hcut '@' (Or.inl rfl), hcut '/' (Or.inr rfl)]
  exact firstComponentValue_dn key v _ ⟨hk ',' (by decide), hk '=' (by decide)⟩ hcomma

end

/-! ## Every representation of an id -/

/-- An id without separators and without white space at its ends, which is no host name. -/
structure CleanId (w : String) : Prop where
  separators : ∀ c ∈ ['@', '/', ',', '='], c ∉ w.toList
  nonempty : w ≠ ""
  edges : strip w.toList = w.toList
  no_host : ¬ "-host".toList <:+ w.toList

/-- The forms a name is found in: an address, a resource or the first component of a DN may surround it. -/
inductive Represents (name : String) : String → Prop
  | plain : Represents name name
  | jid (d : String) : Represents name (name ++ "@" ++ d)
  | jidResource (d r : String) : Represents name (name ++ "@" ++ d ++ "/" ++ r)
  | resource (r : String) : Represents name (name ++ "/" ++ r)
  | dn (key rest : String) (hk : ∀ c ∈ ['@', '/', ',', '='], c ∉ key.toList) :
    Represents name (key ++ "=" ++ name ++ "," ++ rest)

/-- **The name is what the separators leave of any of its forms.** -/
theorem namePart_represents (name s : String) (hsep : ∀ c ∈ ['@', '/', ','], c ∉ name.toList) (hne : name.toList ≠ [])
    (hedges : strip name.toList = name.toList) (h : Represents name s) :
    strip s.toList ≠ [] ∧ namePart (strip s.toList) = name.toList := by
  have hat := hsep '@' (by decide)
  have hslash := hsep '/' (by decide)
  have hcomma := hsep ',' (by decide)
  have hfix := firstComponentValue_of_not_mem name.toList hcomma
  have hleft := dropWhile_of_strip _ hedges
  have haddress : ∀ d : Text, strip (name.toList ++ '@' :: d) ≠ [] ∧
      namePart (strip (name.toList ++ '@' :: d)) = name.toList := by
    intro d
    rw [strip_around _ _ '@' (by decide), hleft]
    exact ⟨by simp, (namePart_address _ hat hslash _).trans hfix⟩
  cases h with
  | plain => rw [hedges]; exact ⟨hne, (namePart_plain _ hat hslash).trans hfix⟩
  | jid d => simpa using haddress d.toList
  | jidResource d r => simpa using haddress (d.toList ++ '/' :: r.toList)
  | resource r =>
    have hs : (name ++ "/" ++ r).toList = name.toList ++ '/' :: r.toList := by simp
    rw [hs, strip_around _ _ '/' (by decide), hleft]
    exact ⟨by simp, (namePart_resource _ hat hslash _).trans hfix⟩
  | dn key rest hk =>
    have hs : (key ++ "=" ++ name ++ "," ++ rest).toList =
        (key.toList ++ '=' :: name.toList) ++ ',' :: rest.toList := by simp
    have hs' : key.toList ++ '=' :: name.toList ++ ',' :: rest.toList =
        key.toList ++ '=' :: (name.toList ++ ',' :: rest.toList) := by simp
    have hkey : ∀ c ∈ ['@', '/', ',', '='], c ∉ key.toList.dropWhile isSpace := fun c hc hm =>
      hk c hc ((List.dropWhile_sublist isSpace).subset hm)
    have hstrip : strip (key.toList ++ '=' :: (name.toList ++ ',' :: rest.toList)) =
        key.toList.dropWhile isSpace ++ '=' :: (name.toList ++ ',' :: rest.toList.rdropWhile isSpace) := by
      rw [strip_around _ _ '=' (by decide), rdropWhile_around _ _ ',' (by decide)]
    rw [hs, hs', hstrip]
    exact ⟨by simp, namePart_dn _ hat hslash hcomma _ _ hkey⟩

/-- **Every representation of a clean id, or of its host name, is reduced to it**, white space around it or not. -/
theorem normalizeAgentId_represents (repr : Json → String) (w : String) (hw : CleanId w) (s : String)
    (hs : Represents w s ∨ Represents (w ++ "-host") s) (left right : String)
    (hl : ∀ c ∈ left.toList, isSpace c = true) (hr : ∀ c ∈ right.toList, isSpace c = true) :
    normalizeAgentId repr (.str (left ++ s ++ right)) = some w := by
  have hne : w.toList ≠ [] := by simpa using hw.nonempty
  have hsub : ∀ c ∈ ['@', '/', ','], c ∈ ['@', '/', ',', '='] := by decide
  have hstrip : strip (left ++ s ++ right).toList = strip s.toList := by
    rw [String.toList_append, String.toList_append, List.append_assoc]
    exact strip_surrounded _ _ _ hl hr
  rw [normalizeAgentId_str, hstrip]
  rcases hs with hs | hs
  · obtain ⟨hnil, hname⟩ := namePart_represents w s (fun c hc => hw.separators c (hsub c hc)) hne hw.edges hs
    rw [if_neg hnil, hname, withoutHost, if_neg hw.no_host, String.ofList_toList]
  · have hhost : (w ++ "-host").toList = w.toList ++ "-host".toList := String.toList_append
    have hsep : ∀ c ∈ ['@', '/', ','], c ∉ (w ++ "-host").toList := by
      intro c hc hm
      rw [hhost, List.mem_append] at hm
      rcases hm with hm | hm
      · exact hw.separators c (hsub c hc) hm
      · revert c
        decide
    have hedges : strip (w ++ "-host").toList = (w ++ "-host").toList := by
      have h := strip_around w.toList ['h', 'o', 's', 't'] '-' (by decide)
      rw [dropWhile_of_strip _ hw.edges] at h
      rw [hhost]
      exact h.trans (by rw [show (['h', 'o', 's', 't'] : Text).rdropWhile isSpace = ['h', 'o', 's', 't'] by decide]; rfl)
    obtain ⟨hnil, hname⟩ := namePart_represents _ s hsep (by rw [hhost]; simp) hedges hs
    rw [if_neg hnil, hname, hhost, withoutHost_host, String.ofList_toList]

theorem normalizeAgentId_represents_dn :
    normalizeAgentId (fun _ => "") (.str (" " ++ ("cn" ++ "=" ++ ("ahenk-001" ++ "-host") ++ "," ++ "ou=Ahenkler@pardus/a,b") ++
      "\n")) = some "ahenk-001" :=
  normalizeAgentId_represents (fun _ => "") "ahenk-001" ⟨by decide, by decide, by decide, by decide⟩ _
    (Or.inr (.dn "cn" "ou=Ahenkler@pardus/a,b" (by decide))) " " "\n" (by decide) (by decide)

/-! ## Fixed points -/

/-- The part of a text that the separators leave: the value of the first component, when a `=` stands before the first
`,` and neither `@` nor `/` before that; else all up to the first `@` or `/`. -/
inductive NameOf : Text → Text → Prop
  | component (key value rest : Text) (hk : ∀ c ∈ ['@', '/', ',', '='], c ∉ key) (hv : ∀ c ∈ ['@', '/', ','], c ∉ value) :
    NameOf (key ++ '=' :: (value ++ ',' :: rest)) value
  | whole (p tail : Text) (hat : '@' ∉ p) (hslash : '/' ∉ p)
    (hno : ∀ before after, p = before ++ ',' :: after → ',' ∉ before → '=' ∉ before)
    (htail : ∀ c ∈ tail.head?, c = '@' ∨ c = '/') : NameOf (p ++ tail) p

theorem exists_cut (sep : Char) (text : Text) (h : sep ∈ text) :
    ∃ rest, text = splitHead sep text ++ sep :: rest ∧ sep ∉ splitHead sep text ∧ splitTail sep text = rest := by
  have hnot : sep ∉ splitHead sep text := fun hm => by simpa using List.mem_takeWhile_imp hm
  have hsplit : splitHead sep text ++ text.dropWhile (· != sep) = text := List.takeWhile_append_dropWhile
  cases hd : text.dropWhile (· != sep) with
  | nil =>
    rw [hd, List.append_nil] at hsplit
    rw [hsplit] at hnot
    exact absurd h hnot
  | cons c rest =>
    have hc : c = sep := by
      have := List.head?_dropWhile_not (· != sep) text
      rw [hd] at this
      simpa using this
    subst hc
    exact ⟨rest, by rw [← hd, hsplit], hnot, by rw [splitTail, hd, List.tail_cons]⟩

theorem firstComponentValue_whole (p : Text) (hno : ∀ before after, p = before ++ ',' :: after → ',' ∉ before → '=' ∉ before) :
    firstComponentValue p = p := by
  unfold firstComponentValue
  split
  · rename_i h
    obtain ⟨rest, hsplit, hnot, -⟩ := exists_cut ',' p h.1
    exact if_neg (hno _ rest hsplit hnot)
  · rfl

theorem NameOf.namePart_eq {text p : Text} (h : NameOf text p) : namePart text = p := by
  cases h with
  | component key value rest hk hv =>
    exact namePart_dn _ (hv '@' (by decide)) (hv '/' (by decide)) (hv ',' (by decide)) key rest hk
  | whole p tail hat hslash hno htail =>
    have hfix := firstComponentValue_whole p hno
    cases tail with
    | nil => rw [List.append_nil, namePart_plain p hat hslash, hfix]
    | cons c tail =>
      rcases htail c rfl with rfl | rfl
      · rw [namePart_address p hat hslash, hfix]
      · rw [namePart_resource p hat hslash, hfix]

theorem exists_nameOf (text : Text) : ∃ p, NameOf text p := by
  let ordinary : Char → Bool := fun c => c != '@' && c != '/'
  have hsplit : text.takeWhile ordinary ++ text.dropWhile ordinary = text := List.takeWhile_append_dropWhile
  have hmem : ∀ c ∈ text.takeWhile ordinary, c ≠ '@' ∧ c ≠ '/' := fun c hc => by
    simpa [ordinary] using List.mem_takeWhile_imp hc
  have htail : ∀ c ∈ (text.dropWhile ordinary).head?, c = '@' ∨ c = '/' := by
    intro c hc
    have := List.head?_dropWhile_not ordinary text
    rw [Option.mem_def.1 hc] at this
    simp only [ordinary, Bool.and_eq_false_iff, bne_eq_false_iff_eq] at this
    exact this
  generalize text.takeWhile ordinary = p at hsplit hmem
  generalize text.dropWhile ordinary = tail at hsplit htail
  subst hsplit
  by_cases hno : ∀ before after, p = before ++ ',' :: after → ',' ∉ before → '=' ∉ before
  · exact ⟨p, .whole p tail (fun h => (hmem _ h).1 rfl) (fun h => (hmem _ h).2 rfl) hno htail⟩
  · simp only [not_forall, not_not] at hno
    obtain ⟨before, after, rfl, hcomma, heq⟩ := hno
    obtain ⟨value, hbefore, hkey, -⟩ := exists_cut '=' before heq
    generalize splitHead '=' before = key at hbefore hkey
    subst hbefore
    refine ⟨value, ?_⟩
    have hform : key ++ '=' :: value ++ ',' :: after ++ tail = key ++ '=' :: (value ++ ',' :: (after ++ tail)) := by simp
    rw [hform]
    refine .component key value (after ++ tail) ?_ ?_
    · intro c hc hm
      have hne := hmem c (by simp [hm])
      simp only [List.mem_cons, List.not_mem_nil, or_false] at hc
      rcases hc with rfl | rfl | rfl | rfl
      · exact hne.1 rfl
      · exact hne.2 rfl
      · exact hcomma (by simp [hm])
      · exact hkey hm
    · intro c hc hm
      have hne := hmem c (by simp [hm])
      simp only [List.mem_cons, List.not_mem_nil, or_false] at hc
      rcases hc with rfl | rfl | rfl
      · exact hne.1 rfl
      · exact hne.2 rfl
      · exact hcomma (by simp [hm])

/-- A prefix of the part left by the separators is left whole by them. -/
theorem NameOf.prefix_whole {text w r : Text} (h : NameOf text (w ++ r)) : NameOf w w := by
  suffices hw : '@' ∉ w ∧ '/' ∉ w ∧ ∀ before after, w = before ++ ',' :: after → ',' ∉ before → '=' ∉ before by
    have := NameOf.whole w [] hw.1 hw.2.1 hw.2.2 (fun c hc => (nomatch hc))
    rwa [List.append_nil] at this
  cases h with
  | component key _ rest _ hv =>
    have hnot : ∀ c ∈ ['@', '/', ','], c ∉ w := fun c hc hm => hv c hc (List.mem_append_left _ hm)
    refine ⟨hnot '@' (by decide), hnot '/' (by decide), ?_⟩
    rintro before after rfl -
    exact absurd (by simp) (hnot ',' (by decide))
  | whole _ tail hat hslash hno =>
    refine ⟨fun h => hat (List.mem_append_left _ h), fun h => hslash (List.mem_append_left _ h), ?_⟩
    rintro before after rfl
    exact hno before (after ++ r) (by simp)

theorem namePart_sublist (text : Text) : (namePart text).Sublist text := by
  have hcut : ∀ sep (t : Text), (cutAt sep t).Sublist t := fun sep t => by
    rw [cutAt_eq]
    exact (List.takeWhile_prefix _).sublist
  have hvalue : ∀ t : Text, (firstComponentValue t).Sublist t := by
    intro t
    unfold firstComponentValue
    split
    · dsimp only
      split
      · exact (List.tail_sublist _).trans
          ((List.dropWhile_sublist _).trans (List.takeWhile_prefix _).sublist)
      · exact List.Sublist.refl _
    · exact List.Sublist.refl _
  exact (hvalue _).trans ((hcut _ _).trans (hcut _ _))

theorem withoutHost_sublist (text : Text) : (withoutHost text).Sublist text := by
  unfold withoutHost
  split
  · exact List.take_sublist _ _
  · exact List.Sublist.refl _

/-- A name that is no host's and has no white space at its ends. -/
structure CleanName (w : Text) : Prop where
  nonempty : w ≠ []
  edges : strip w = w
  no_host : ¬ "-host".toList <:+ w

/-- **What the function leaves as it is**: no step takes anything away. -/
theorem normalizeAgentId_fixed_iff (repr : Json → String) (y : Text) (hne : y ≠ []) :
    normalizeAgentId repr (.str (String.ofList y)) = some (String.ofList y) ↔ CleanName y ∧ namePart y = y := by
  rw [normalizeAgentId_str, String.toList_ofList]
  constructor
  · intro h
    split at h
    · cases h
    · have heq : withoutHost (namePart (strip y)) = y := String.ofList_injective (Option.some.inj h)
      have hhost := withoutHost_sublist (namePart (strip y))
      have hname := namePart_sublist (strip y)
      have hstrip := strip_sublist y
      rw [heq] at hhost
      have hedges : strip y = y := hstrip.antisymm (hhost.trans hname)
      rw [hedges] at heq hname hhost
      have hpart : namePart y = y := hname.antisymm hhost
      rw [hpart] at heq
      refine ⟨⟨hne, hedges, fun hsuffix => ?_⟩, hpart⟩
      have hlen := congrArg List.length heq
      rw [withoutHost, if_pos hsuffix, List.length_take] at hlen
      have hpos := List.length_pos_iff.2 hne
      omega
  · rintro ⟨hclean, hpart⟩
    rw [hclean.edges, if_neg hne, hpart, withoutHost, if_neg hclean.no_host]

theorem withoutHost_cases (p : Text) : (p = withoutHost p ∧ ¬ "-host".toList <:+ p) ∨ p = withoutHost p ++ "-host".toList := by
  by_cases h : "-host".toList <:+ p
  · obtain ⟨w, rfl⟩ := h
    exact Or.inr (by rw [withoutHost_host])
  · exact Or.inl ⟨(if_neg h).symm, h⟩

/-- **The result is none, or an id the function leaves as it is, exactly when the input is blank or the part between its
separators is a clean name or the host name of one.** -/
theorem normalizeAgentId_settled_iff (repr : Json → String) (x : Option String) :
    (normalizeAgentId repr (x.elim .null .str) = none ∨ ∃ y, normalizeAgentId repr (x.elim .null .str) = some y ∧ y ≠ "" ∧
        normalizeAgentId repr (.str y) = some y) ↔
      ∀ s, x = some s → strip s.toList = [] ∨
        ∃ w, CleanName w ∧ (NameOf (strip s.toList) w ∨ NameOf (strip s.toList) (w ++ "-host".toList)) := by
  cases x with
  | none => simp [normalizeAgentId]
  | some s =>
    simp only [Option.elim_some, Option.some.injEq, forall_eq']
    rw [normalizeAgentId_str]
    by_cases hblank : strip s.toList = []
    · simp [hblank]
    rw [if_neg hblank]
    simp only [reduceCtorEq, Option.some.injEq, exists_eq_left', false_or, hblank]
    obtain ⟨p, hp⟩ := exists_nameOf (strip s.toList)
    have hunique : ∀ q, NameOf (strip s.toList) q → q = p := fun q hq => hq.namePart_eq.symm.trans hp.namePart_eq
    rw [hp.namePart_eq]
    have hempty : String.ofList (withoutHost p) ≠ "" ↔ withoutHost p ≠ [] := by
      rw [Ne, ← String.toList_inj, String.toList_ofList]
      rfl
    constructor
    · rintro ⟨hne, hfixed⟩
      obtain ⟨hclean, -⟩ := (normalizeAgentId_fixed_iff repr _ (hempty.1 hne)).1 hfixed
      refine ⟨withoutHost p, hclean, ?_⟩
      rcases withoutHost_cases p with ⟨h, -⟩ | h
      · rw [← h]; exact Or.inl hp
      · rw [← h]; exact Or.inr hp
    · rintro ⟨w, hclean, hw | hw⟩
      · obtain rfl := hunique w hw
        have hwhole : withoutHost w = w := if_neg hclean.no_host
        have hpart : NameOf w w := NameOf.prefix_whole (r := []) (by rwa [List.append_nil])
        rw [hempty, hwhole]
        exact ⟨hclean.nonempty, (normalizeAgentId_fixed_iff repr w hclean.nonempty).2 ⟨hclean, hpart.namePart_eq⟩⟩
      · have hwhole : withoutHost p = w := by rw [← hunique _ hw, withoutHost_host]
        have hpart : NameOf w w := hw.prefix_whole
        rw [hempty, hwhole]
        exact ⟨hclean.nonempty, (normalizeAgentId_fixed_iff repr w hclean.nonempty).2 ⟨hclean, hpart.namePart_eq⟩⟩

/-- **An address without a local part yields an empty id; a doubled suffix yields an id that is reduced again.** -/
theorem normalizeAgentId_unsettled :
    ¬ (normalizeAgentId (fun _ => "") (.str "@pardus") = none ∨ ∃ y, normalizeAgentId (fun _ => "") (.str "@pardus") = some y ∧
      y ≠ "" ∧ normalizeAgentId (fun _ => "") (.str y) = some y) ∧
    ¬ (normalizeAgentId (fun _ => "") (.str "ahenk-host-host") = none ∨
      ∃ y, normalizeAgentId (fun _ => "") (.str "ahenk-host-host") = some y ∧ y ≠ "" ∧
        normalizeAgentId (fun _ => "") (.str y) = some y) := by
  have hlocal : normalizeAgentId (fun _ => "") (.str "@pardus") = some "" := by decide
  have htwice : normalizeAgentId (fun _ => "") (.str "ahenk-host-host") = some "ahenk-host" := by decide
  have honce : normalizeAgentId (fun _ => "") (.str "ahenk-host") = some "ahenk" := by decide
  simp [hlocal, htwice, honce]

end Lider
