import LiderPlatform.UpstreamManifest
/-!
# UpstreamPromotions — reading back what was promoted (`platform/scripts/manifest_get.sh`, `promote_candidate.sh`)

The awk program and the Python program see the same sections in a manifest: the one looks a field up (`awkValue_lines`),
the other overwrites `upstream_ref` (`line_lines`).  So after any promotions, failed ones among them, the reader finds
the reference promoted last (`manifestGet_promotions`), and the order in which components are promoted leaves no trace
in the file (`promotions_congr`).
-/
namespace Lider.Manifest

open Py

/-! ## Characters -/

theorem isSpace_of_isLineBreak {c : Char} (h : isLineBreak c = true) : isSpace c = true := by
  simp only [isLineBreak, decide_eq_true_eq, List.mem_cons, List.not_mem_nil, or_false] at h
  rcases h with rfl | rfl | rfl | rfl | rfl | rfl | rfl | rfl | rfl | rfl <;> decide

theorem isSpace_of_isBlank {c : Char} (h : isBlank c = true) : isSpace c = true := by
  simp only [isBlank, Bool.or_eq_true, decide_eq_true_eq] at h
  rcases h with (rfl | rfl) | rfl <;> decide

theorem isSpace_of_isAwkSpace {c : Char} (h : isAwkSpace c = true) : isSpace c = true := by
  simp only [isAwkSpace, decide_eq_true_eq, List.mem_cons, List.not_mem_nil, or_false] at h
  rcases h with rfl | rfl | rfl | rfl | rfl | rfl <;> decide

theorem isSpace_of_isNameChar {c : Char} (h : isNameChar c = true) : isSpace c = false := by
  simp only [isNameChar, isLetter, Bool.or_eq_true, Bool.and_eq_true, decide_eq_true_eq] at h
  rcases h with ((h | rfl) | rfl) | rfl
  · simp only [isSpace, Bool.or_eq_false_iff, Bool.and_eq_false_iff, decide_eq_false_iff_not, beq_eq_false_iff_ne]
    omega
  all_goals decide

theorem not_isLineBreak {c : Char} (h : isSpace c = false) : isLineBreak c = false := by
  cases hb : isLineBreak c with
  | false => rfl
  | true => exact absurd (isSpace_of_isLineBreak hb) (by simp [h])

theorem not_isBlank {c : Char} (h : isSpace c = false) : isBlank c = false := by
  cases hb : isBlank c with
  | false => rfl
  | true => exact absurd (isSpace_of_isBlank hb) (by simp [h])

/-! ## The fields of a record -/

theorem fields_blanks : ∀ (blanks : Text), (∀ c ∈ blanks, isBlank c = true) → ∀ rest, fields (blanks ++ rest) = fields rest
  | [], _, _ => rfl
  | c :: blanks, h, rest => by
    rw [← fields_blanks blanks (fun x hx => h x (List.mem_cons_of_mem _ hx)) rest, List.cons_append, fields,
      List.splitOnP_cons_eq_if_modifyHead, if_pos (h c List.mem_cons_self)]
    rfl

theorem fields_word {word : Text} (hne : word ≠ []) (hword : ∀ c ∈ word, isBlank c = false) {b : Char}
    (hb : isBlank b = true) (rest : Text) : fields (word ++ b :: rest) = word :: fields rest := by
  rw [fields, List.splitOnP_append_cons_of_forall_mem hword b hb, List.filter_cons_of_pos (by simpa using hne)]
  rfl

theorem fields_last {word : Text} (hne : word ≠ []) (hword : ∀ c ∈ word, isBlank c = false) : fields word = [word] := by
  rw [fields, List.splitOnP_eq_singleton hword, List.filter_cons_of_pos (by simpa using hne)]
  rfl

theorem fields_mark (c : Char) (hc : isBlank c = false) (rest : Text) :
    ∃ word words, fields (c :: rest) = (c :: word) :: words := by
  obtain ⟨word, words, hsplit⟩ := List.exists_cons_of_ne_nil (List.splitOnP_ne_nil isBlank rest)
  rw [fields, List.splitOnP_cons_eq_if_modifyHead, if_neg (by simp [hc]), hsplit]
  exact ⟨word, _, rfl⟩

theorem Name.ne_nil (name : Name) : name.text ≠ [] := fun h => by
  have hhead := name.head
  rw [h] at hhead
  exact absurd hhead (by decide)

theorem Name.no_space (name : Name) : ∀ c ∈ name.text, isSpace c = false := fun c hc =>
  isSpace_of_isNameChar (name.plain c hc)

theorem Name.no_blank (name : Name) : ∀ c ∈ name.text, isBlank c = false := fun c hc => not_isBlank (name.no_space c hc)

theorem Name.not_mem (name : Name) {c : Char} (hc : isNameChar c = false) : c ∉ name.text := fun hm =>
  absurd (name.plain c hm) (by simp [hc])

theorem Indent.isBlank (indent : Indent) : ∀ c ∈ indent.text, Manifest.isBlank c = true := fun c hc => by
  rcases indent.blank c hc with rfl | rfl <;> decide

theorem Indent.isSpace (indent : Indent) : ∀ c ∈ indent.text, Py.isSpace c = true := fun c hc =>
  isSpace_of_isBlank (indent.isBlank c hc)

theorem fields_component (indent : Indent) (name : Name) :
    fields (Line.component indent name).text = ["-".toList, "component:".toList, name.text] := by
  rw [Line.text, List.append_assoc, fields_blanks _ indent.isBlank]
  show fields ("-".toList ++ ' ' :: ("component:".toList ++ ' ' :: name.text)) = _
  rw [fields_word (by decide) (by decide) (by decide), fields_word (by decide) (by decide) (by decide),
    fields_last name.ne_nil name.no_blank]

theorem fields_field (indent : Indent) (key : Name) (value : Value) :
    fields (Line.field indent key value).text = (key.text ++ [':']) :: fields value.text := by
  rw [Line.text, List.append_assoc, List.append_assoc, fields_blanks _ indent.isBlank]
  show fields (key.text ++ ':' :: ' ' :: value.text) = _
  rw [List.append_cons, fields_word (by simp) (fun c hc => ?_) (by decide)]
  rcases List.mem_append.1 hc with hc | hc
  · exact key.no_blank c hc
  · rw [List.mem_singleton.1 hc]
    decide

theorem fields_note (remark : Note) : fields (Line.note remark).text = [] ∨
    ∃ word words, fields (Line.note remark).text = ('#' :: word) :: words := by
  rw [Line.text, fields_blanks _ remark.indent.isBlank]
  cases hcomment : remark.comment with
  | nil => exact .inl rfl
  | cons c rest =>
    have hmark := remark.mark
    rw [hcomment] at hmark
    obtain rfl : c = '#' := by simpa using hmark
    exact .inr (fields_mark '#' (by decide) rest)

/-! ## The reader -/

theorem afterKey_append {before : Text} (hne : before ≠ []) (hno : ':' ∉ before) (rest : Text) :
    afterKey (before ++ ':' :: rest) = rest.dropWhile isAwkSpace := by
  have hbefore : ∀ c ∈ before, (c != ':') = true := fun c hc => bne_iff_ne.2 (fun h => hno (h ▸ hc))
  have hhead : splitHead ':' (before ++ ':' :: rest) = before := by
    rw [splitHead, List.takeWhile_append_of_pos hbefore, List.takeWhile_cons_of_neg (by decide), List.append_nil]
  have htail : splitTail ':' (before ++ ':' :: rest) = rest := by
    rw [splitTail, List.dropWhile_append_of_pos hbefore, List.dropWhile_cons_of_neg (by decide), List.tail_cons]
  rw [afterKey, hhead, htail, if_pos ⟨hne, List.mem_append_right _ List.mem_cons_self⟩]

theorem Value.exists_cons (value : Value) : ∃ c rest, value.text = c :: rest ∧ isSpace c = false := by
  have hhead := value.head
  cases htext : value.text with
  | nil => simp [htext] at hhead
  | cons c rest => exact ⟨c, rest, rfl, by simpa [htext] using hhead⟩

theorem afterKey_field (indent : Indent) (key : Name) (value : Value) :
    afterKey (Line.field indent key value).text = value.text := by
  have hno : ':' ∉ indent.text ++ key.text := fun h => by
    rcases List.mem_append.1 h with h | h
    · exact absurd (indent.blank _ h) (by decide)
    · exact key.not_mem (by decide) h
  obtain ⟨c, rest, hvalue, hc⟩ := value.exists_cons
  have hawk : isAwkSpace c = false := by
    cases h : isAwkSpace c with
    | false => rfl
    | true => exact absurd (isSpace_of_isAwkSpace h) (by simp [hc])
  rw [Line.text, List.append_assoc]
  show afterKey (indent.text ++ key.text ++ ':' :: ' ' :: value.text) = _
  rw [afterKey_append (by simp [key.ne_nil]) hno, List.dropWhile_cons_of_pos (by decide), hvalue,
    List.dropWhile_cons_of_neg (by simp [hawk])]

section
variable (component field : Name) (inComponent : Bool) (rest : List Text)

theorem awkValue_component (indent : Indent) (name : Name) :
    awkValue component.text field.text inComponent ((Line.component indent name).text :: rest) =
      awkValue component.text field.text (name = component) rest := by
  rw [awkValue]
  simp only [fieldAt, fields_component]
  rw [if_pos ⟨rfl, rfl⟩]
  exact congrArg (awkValue _ _ · rest) (decide_eq_decide.2 Name.ext_iff.symm)

theorem awkValue_field (indent : Indent) (key : Name) (value : Value) :
    awkValue component.text field.text inComponent ((Line.field indent key value).text :: rest) =
      if inComponent = true ∧ key = field then unquote value.text
      else awkValue component.text field.text inComponent rest := by
  have hfirst : fieldAt (Line.field indent key value).text 1 = key.text ++ [':'] := by
    rw [fieldAt, fields_field]
    rfl
  have hdash : ¬ (key.text ++ [':'] = "-".toList ∧ fieldAt (Line.field indent key value).text 2 = "component:".toList) :=
    fun h => key.ne_nil (List.eq_nil_of_length_eq_zero (by simpa using congrArg List.length h.1))
  have hkey : key.text ++ [':'] = field.text ++ [':'] ↔ key = field := by
    rw [List.append_left_inj, Name.ext_iff]
  rw [awkValue, hfirst, if_neg hdash, afterKey_field]
  simp only [hkey]

theorem awkValue_note (remark : Note) :
    awkValue component.text field.text inComponent ((Line.note remark).text :: rest) =
      awkValue component.text field.text inComponent rest := by
  have hfirst : fieldAt (Line.note remark).text 1 ≠ "-".toList ∧
      fieldAt (Line.note remark).text 1 ≠ field.text ++ [':'] := by
    rcases fields_note remark with hnone | ⟨word, words, hmark⟩
    · rw [fieldAt, hnone]
      exact ⟨by decide, by simp⟩
    · rw [fieldAt, hmark]
      refine ⟨by simp, fun h => ?_⟩
      have hmem : '#' ∈ field.text ++ [':'] := h ▸ List.mem_cons_self
      rcases List.mem_append.1 hmem with hmem | hmem
      · exact field.not_mem (by decide) hmem
      · exact absurd hmem (by decide)
  rw [awkValue, if_neg (fun h => hfirst.1 h.1), if_neg (fun h => hfirst.2 h.2)]

/-- **The awk program looks the field up**: it prints the first value of the field in the component. -/
theorem awkValue_lines : ∀ (lines : List Line) (cur : Option Name),
    awkValue component.text field.text (cur = some component) (lines.map Line.text) =
      ((Sections.lookup format component field cur lines).map (fun value => unquote value.text)).getD []
  | [], _ => rfl
  | .component indent name :: lines, cur => by
    have hname : decide (name = component) = decide (some name = some component) := by simp
    rw [List.map_cons, awkValue_component, hname, awkValue_lines lines (some name)]
    rfl
  | .field indent key value :: lines, cur => by
    rw [List.map_cons, awkValue_field, awkValue_lines lines cur]
    simp only [decide_eq_true_eq]
    show _ = ((if cur = some component ∧ key = field then some value
      else Sections.lookup format component field cur lines).map _).getD []
    split <;> rfl
  | .note remark :: lines, cur => by
    rw [List.map_cons, awkValue_note, awkValue_lines lines cur]
    rfl

end

theorem Line.no_break : ∀ (l : Line), ∀ c ∈ l.text, isLineBreak c = false := by
  have hname : ∀ (name : Name), ∀ c ∈ name.text, isLineBreak c = false := fun name c hc =>
    not_isLineBreak (name.no_space c hc)
  have hindent : ∀ (indent : Indent), ∀ c ∈ indent.text, isLineBreak c = false := fun indent c hc => by
    rcases indent.blank c hc with rfl | rfl <;> decide
  rintro (⟨indent, name⟩ | ⟨indent, key, value⟩ | ⟨remark⟩) c hc
  · simp only [Line.text, List.mem_append] at hc
    rcases hc with (hc | hc) | hc
    · exact hindent _ c hc
    · exact (by decide : ∀ c ∈ "- component: ".toList, isLineBreak c = false) c hc
    · exact hname _ c hc
  · simp only [Line.text, List.mem_append] at hc
    rcases hc with ((hc | hc) | hc) | hc
    · exact hindent _ c hc
    · exact hname _ c hc
    · exact (by decide : ∀ c ∈ ": ".toList, isLineBreak c = false) c hc
    · exact value.oneLine c hc
  · simp only [Line.text, List.mem_append] at hc
    rcases hc with hc | hc
    · exact hindent _ c hc
    · exact remark.oneLine c hc

theorem records_lines : ∀ (ls : List Text), (∀ l ∈ ls, '\n' ∉ l) → records (ls.flatMap (fun l => l ++ ['\n'])) = ls := by
  intro ls h
  have hsplit : ∀ (ls : List Text), (∀ l ∈ ls, '\n' ∉ l) →
      (ls.flatMap (fun l => l ++ ['\n'])).splitOnP (· = '\n') = ls ++ [[]] := by
    intro ls h
    induction ls with
    | nil => rfl
    | cons l ls ih =>
      have hl : ∀ c ∈ l, decide (c = '\n') = false := fun c hc =>
        decide_eq_false (fun hcn => h l List.mem_cons_self (hcn ▸ hc))
      rw [List.flatMap_cons, List.append_assoc, List.singleton_append,
        List.splitOnP_append_cons_of_forall_mem hl '\n' (by decide), ih (fun l' hl' => h l' (List.mem_cons_of_mem _ hl'))]
      rfl
  rw [records, hsplit ls h]
  simp

theorem records_textOf (lines : List Line) : records (textOf lines) = lines.map Line.text := by
  have h := records_lines (lines.map Line.text) (fun l hl hn => by
    obtain ⟨line, -, rfl⟩ := List.mem_map.1 hl
    exact absurd (line.no_break _ hn) (by decide))
  rwa [List.flatMap_map] at h

/-- What a reader of a value gets. -/
def answer (manifest : Text) (component field : Name) (found : Option Value) : Except Text Text :=
  let value := (found.map (fun value => unquote value.text)).getD []
  if value = [] then .error (missingField manifest component.text field.text) else .ok value

theorem manifestGet_textOf (manifest : Text) (component field : Name) (lines : List Line) :
    manifestGet manifest component.text field.text (textOf lines) =
      answer manifest component field (lookup component field lines) := by
  rw [manifestGet, records_textOf]
  exact congrArg (fun value =>
    if value = [] then Except.error (missingField manifest component.text field.text) else .ok value)
    (awkValue_lines component field lines none)

/-! ## The writer -/

theorem rdropWhile_append {p : Char → Bool} {a b : Text} (h : ∃ c ∈ b, p c = false) :
    (a ++ b).rdropWhile p = a ++ b.rdropWhile p := by
  have hne : (b.reverse.dropWhile p).isEmpty = false := by
    obtain ⟨c, hc, hpc⟩ := h
    cases hdrop : b.reverse.dropWhile p with
    | nil => exact absurd (List.dropWhile_eq_nil_iff.1 hdrop c (List.mem_reverse.2 hc)) (by simp [hpc])
    | cons _ _ => rfl
  rw [List.rdropWhile, List.reverse_append, List.dropWhile_append, hne, if_neg Bool.false_ne_true, List.reverse_append,
    List.reverse_reverse, List.rdropWhile]

/-- The body of a line: all but its indent. -/
theorem strip_indent (indent : Indent) {c : Char} (hc : isSpace c = false) (body : Text) :
    strip (indent.text ++ c :: body) = (c :: body).rdropWhile isSpace := by
  rw [strip, List.dropWhile_append_of_pos indent.isSpace, List.dropWhile_cons_of_neg (by simp [hc])]

/-- What a stripped line starts with, its body starts with. -/
theorem prefix_of_strip {indent : Indent} {c d : Char} (hc : isSpace c = false) {body word : Text}
    (h : (d :: word).isPrefixOf (strip (indent.text ++ c :: body)) = true) : d :: word <+: c :: body := by
  rw [strip_indent indent hc] at h
  exact (List.isPrefixOf_iff_prefix.1 h).trans (List.rdropWhile_prefix _ _)

section
variable (component : Name) (newRef : Value) (p : Promotion)

theorem Name.exists_cons (name : Name) : ∃ c rest, name.text = c :: rest ∧ isLetter c = true := by
  have hhead := name.head
  cases htext : name.text with
  | nil => simp [htext] at hhead
  | cons c rest => exact ⟨c, rest, rfl, by simpa [htext] using hhead⟩

theorem line_component (indent : Indent) (name : Name) :
    p.line component.text newRef.text (Line.component indent name).text =
      ⟨p.out ++ [(Line.component indent name).text], name = component, p.updated⟩ := by
  have hstrip : strip (Line.component indent name).text = "- component: ".toList ++ name.text := by
    obtain ⟨c, rest, hname, -⟩ := name.exists_cons
    have hc : isSpace c = false := name.no_space c (by simp [hname])
    have hself : name.text.rdropWhile isSpace = name.text :=
      List.rdropWhile_eq_self_iff.2 (fun hl => by simp [name.no_space _ (List.getLast_mem hl)])
    rw [Line.text, List.append_assoc]
    show strip (indent.text ++ '-' :: (" component: ".toList ++ name.text)) = _
    rw [strip_indent indent (by decide)]
    show ("- component: ".toList ++ name.text).rdropWhile isSpace = _
    rw [rdropWhile_append ⟨c, by simp [hname], hc⟩, hself]
  have hopens : "- component: ".toList.isPrefixOf (strip (Line.component indent name).text) = true := by
    rw [hstrip]
    exact List.isPrefixOf_iff_prefix.2 (List.prefix_append _ _)
  have hdrop : (strip (Line.component indent name).text).drop "- component: ".length = name.text := by
    rw [hstrip]
    exact List.drop_left
  have hno : "upstream_ref: ".toList.isPrefixOf (strip (Line.component indent name).text) = false := by
    rw [hstrip]
    rfl
  rw [Promotion.line]
  simp only [hopens, if_true, hdrop, hno, Bool.and_false, Bool.false_eq_true, if_false]
  rw [decide_eq_decide.2 Name.ext_iff.symm]

/-- Only a component's line starts with a dash, and only a field's line with a letter. -/
theorem not_opens {indent : Indent} {c : Char} (hc : isSpace c = false) (hdash : c ≠ '-') (body : Text) :
    "- component: ".toList.isPrefixOf (strip (indent.text ++ c :: body)) = false :=
  Bool.eq_false_iff.2 (fun h => hdash (List.cons_prefix_cons.1 (prefix_of_strip (d := '-') hc h)).1.symm)

theorem line_field (indent : Indent) (key : Name) (value : Value) :
    p.line component.text newRef.text (Line.field indent key value).text =
      if p.inComponent = true ∧ key = upstreamRef then
        ⟨p.out ++ [(Line.field indent key newRef).text], p.inComponent, true⟩
      else ⟨p.out ++ [(Line.field indent key value).text], p.inComponent, p.updated⟩ := by
  obtain ⟨c, rest, hkey, halpha⟩ := key.exists_cons
  have hc : isSpace c = false := key.no_space c (by simp [hkey])
  have htext : (Line.field indent key value).text = indent.text ++ c :: (rest ++ ": ".toList ++ value.text) := by
    rw [Line.text, hkey]
    simp
  have hbody : c :: (rest ++ ": ".toList ++ value.text) = key.text ++ ':' :: ' ' :: value.text := by
    rw [hkey]
    simp
  have hindent : (Line.field indent key value).text.takeWhile isSpace = indent.text := by
    rw [htext, List.takeWhile_append_of_pos indent.isSpace, List.takeWhile_cons_of_neg (by simp [hc]), List.append_nil]
  have hopens : "- component: ".toList.isPrefixOf (strip (Line.field indent key value).text) = false := by
    rw [htext]
    exact not_opens hc (fun hdash => absurd halpha (by rw [hdash]; decide)) _
  have hfound : "upstream_ref: ".toList.isPrefixOf (strip (Line.field indent key value).text) =
      decide (key = upstreamRef) := by
    rw [Bool.eq_iff_iff, decide_eq_true_eq]
    constructor
    · intro h
      rw [htext] at h
      have hprefix : "upstream_ref: ".toList <+: key.text ++ ':' :: ' ' :: value.text :=
        hbody ▸ prefix_of_strip (d := 'u') hc h
      obtain ⟨t, ht⟩ := hprefix
      have hsplit := congrArg (splitHead ':') ht
      have hall : ∀ c ∈ key.text, (c != ':') = true := fun c hc =>
        bne_iff_ne.2 (fun h => key.not_mem (by decide) (h ▸ hc))
      rw [splitHead, splitHead, List.takeWhile_append_of_pos hall, List.takeWhile_cons_of_neg (by decide),
        List.append_nil] at hsplit
      exact Name.ext hsplit.symm
    · rintro rfl
      obtain ⟨d, _, hvalue, hd⟩ := value.exists_cons
      rw [htext, strip_indent indent hc, hbody]
      show "upstream_ref: ".toList.isPrefixOf ((upstreamRef.text ++ ": ".toList ++ value.text).rdropWhile isSpace) = true
      rw [rdropWhile_append ⟨d, by simp [hvalue], hd⟩]
      exact List.isPrefixOf_iff_prefix.2 (List.prefix_append _ _)
  rw [Promotion.line]
  simp only [hopens, hfound, hindent, Bool.false_eq_true, if_false, Bool.and_eq_true, decide_eq_true_eq]
  by_cases h : p.inComponent = true ∧ key = upstreamRef
  · rw [if_pos h, if_pos h, h.2, Line.text, List.append_assoc _ upstreamRef.text]
    rfl
  · rw [if_neg h, if_neg h]

theorem line_note (remark : Note) :
    p.line component.text newRef.text (Line.note remark).text =
      ⟨p.out ++ [(Line.note remark).text], p.inComponent, p.updated⟩ := by
  have hquiet : ∀ d word, d ≠ '#' → (d :: word).isPrefixOf (strip (Line.note remark).text) = false := by
    intro d word hd
    rw [Line.text]
    cases hcomment : remark.comment with
    | nil =>
      rw [strip, List.dropWhile_append_of_pos remark.indent.isSpace]
      rfl
    | cons c rest =>
      have hmark := remark.mark
      rw [hcomment] at hmark
      obtain rfl : c = '#' := by simpa using hmark
      exact Bool.eq_false_iff.2 (fun h => hd (List.cons_prefix_cons.1 (prefix_of_strip (by decide) h)).1)
  have hopens : "- component: ".toList.isPrefixOf (strip (Line.note remark).text) = false := hquiet '-' _ (by decide)
  have hfound : "upstream_ref: ".toList.isPrefixOf (strip (Line.note remark).text) = false := hquiet 'u' _ (by decide)
  rw [Promotion.line]
  simp only [hopens, hfound, Bool.and_false, Bool.false_eq_true, if_false]

/-- **The Python program overwrites the references of the component**, and knows whether there was one. -/
theorem line_lines : ∀ (lines : List Line) (cur : Option Name) (out : List Text) (updated : Bool),
    ∃ inComponent, (lines.map Line.text).foldl (Promotion.line component.text newRef.text)
        ⟨out, cur = some component, updated⟩ =
      ⟨out ++ (Sections.overwrite format upstreamRef (Sections.only component newRef) cur lines).map Line.text, inComponent,
        updated || (Sections.lookup format component upstreamRef cur lines).isSome⟩
  | [], cur, out, updated => ⟨decide (cur = some component), by simp [Sections.overwrite, Sections.lookup]⟩
  | .component indent name :: lines, cur, out, updated => by
    have hname : decide (name = component) = decide (some name = some component) := by simp
    obtain ⟨inComponent, h⟩ := line_lines lines (some name) (out ++ [(Line.component indent name).text]) updated
    refine ⟨inComponent, ?_⟩
    rw [List.map_cons, List.foldl_cons, line_component, hname, h]
    simp [Sections.overwrite, Sections.lookup]
  | .field indent key value :: lines, cur, out, updated => by
    by_cases hhere : cur = some component ∧ key = upstreamRef
    · obtain ⟨inComponent, h⟩ := line_lines lines cur (out ++ [(Line.field indent key newRef).text]) true
      refine ⟨inComponent, ?_⟩
      rw [List.map_cons, List.foldl_cons, line_field, if_pos ⟨decide_eq_true hhere.1, hhere.2⟩, h]
      simp [Sections.overwrite, Sections.lookup, Sections.rewritten, Sections.only, hhere.1, hhere.2]
    · obtain ⟨inComponent, h⟩ := line_lines lines cur (out ++ [(Line.field indent key value).text]) updated
      refine ⟨inComponent, ?_⟩
      have hline : (if key = upstreamRef then Sections.rewritten format (Sections.only component newRef) cur
          (.field indent key value) else .field indent key value) = .field indent key value := by
        split
        · rename_i hkey
          refine Sections.rewritten_of_none ?_
          cases cur with
          | none => rfl
          | some name => exact if_neg (fun hname => hhere ⟨congrArg some hname, hkey⟩)
        · rfl
      rw [List.map_cons, List.foldl_cons, line_field, if_neg (fun hc => hhere ⟨of_decide_eq_true hc.1, hc.2⟩), h]
      simp [Sections.overwrite, Sections.lookup, hhere, hline]
  | .note remark :: lines, cur, out, updated => by
    obtain ⟨inComponent, h⟩ := line_lines lines cur (out ++ [(Line.note remark).text]) updated
    refine ⟨inComponent, ?_⟩
    rw [List.map_cons, List.foldl_cons, line_note, h]
    simp [Sections.overwrite, Sections.lookup]

end

/-! ## Promotions -/

theorem pyLines_textOf (lines : List Line) : splitlines (universalNewlines (textOf lines)) = lines.map Line.text := by
  have hreturn : '\r' ∉ textOf lines := fun h => by
    obtain ⟨l, -, hl⟩ := List.mem_flatMap.1 h
    rcases List.mem_append.1 hl with hl | hl
    · exact absurd (l.no_break _ hl) (by decide)
    · exact absurd hl (by decide)
  have h := splitlines_lines (lines.map Line.text) (fun l hl => by
    obtain ⟨line, -, rfl⟩ := List.mem_map.1 hl
    exact line.no_break)
  rw [universalNewlines_of_not_mem _ hreturn, textOf]
  rwa [List.flatMap_map] at h

/-- `"\n".join(out) + "\n"`. -/
theorem join_lines : ∀ (ls : List Text), ls ≠ [] → ['\n'].intercalate ls ++ ['\n'] = ls.flatMap (fun l => l ++ ['\n'])
  | [], h => absurd rfl h
  | [l], _ => by simp
  | l :: l' :: ls, _ => by
    rw [List.flatMap_cons, ← join_lines (l' :: ls) (List.cons_ne_nil _ _), List.intercalate_cons_cons]
    simp only [List.append_assoc]

/-- A promotion overwrites the references of the component, or fails for want of one. -/
theorem promote_textOf (component : Name) (newRef : Value) (lines : List Line) :
    promote component.text newRef.text (textOf lines) =
      if (lookup component upstreamRef lines).isSome then
        .ok (textOf (Sections.overwrite format upstreamRef (Sections.only component newRef) none lines))
      else .error ("component not found: ".toList ++ component.text) := by
  obtain ⟨inComponent, h⟩ := line_lines component newRef lines none [] false
  have hfold : (lines.map Line.text).foldl (Promotion.line component.text newRef.text) ⟨[], false, false⟩ = _ := h
  rw [promote, pyLines_textOf]
  simp only [hfold, Bool.false_or, List.nil_append]
  split
  · rename_i hsome
    have hne : (Sections.overwrite format upstreamRef (Sections.only component newRef) none lines).map Line.text ≠ [] := by
      intro hnil
      have hlength := congrArg List.length hnil
      rw [List.length_map, Sections.length_overwrite] at hlength
      rw [List.eq_nil_of_length_eq_zero hlength] at hsome
      exact Bool.false_ne_true hsome
    rw [join_lines _ hne, List.flatMap_map]
    rfl
  · rfl

theorem promoted_textOf (component : Name) (newRef : Value) (lines : List Line) :
    promoted (textOf lines) component.text newRef.text =
      textOf (Sections.overwrite format upstreamRef (Sections.only component newRef) none lines) := by
  rw [promoted, promote_textOf]
  split
  · rfl
  · rename_i hnone
    have hself : Sections.overwrite format upstreamRef (Sections.only component newRef) none lines = lines := by
      rw [Sections.overwrite_congr lines none (g := fun _ => none) (fun name hname => ?_), Sections.overwrite_none]
      exact if_neg (fun heq : name = component => hnone (heq ▸ hname))
    rw [hself]
    rfl

/-- The manifest after promotions, some of which may fail. -/
def promotions (text : Text) (ps : List (Name × Value)) : Text :=
  ps.foldl (fun text p => promoted text p.1.text p.2.text) text

theorem promotions_textOf (ps : List (Name × Value)) (lines : List Line) :
    promotions (textOf lines) ps = textOf (Sections.overwrite format upstreamRef (Sections.lastOf ps) none lines) := by
  rw [← Sections.foldl_overwrite, promotions]
  induction ps generalizing lines with
  | nil => rfl
  | cons p ps ih => rw [List.foldl_cons, List.foldl_cons, promoted_textOf, ih]

/-- **The reader finds the reference promoted last**, and every other field as it was, after any promotions; and a
promotion fails exactly when its component had no reference to begin with. -/
theorem manifestGet_promotions (manifest : Text) (lines : List Line) (ps : List (Name × Value)) (component field : Name)
    (newRef : Value) :
    manifestGet manifest component.text field.text (promotions (textOf lines) ps) =
        answer manifest component field ((lookup component field lines).map (fun value =>
          if field = upstreamRef then (Sections.lastOf ps component).getD value else value)) ∧
      (promote component.text newRef.text (promotions (textOf lines) ps)).isOk =
        (lookup component upstreamRef lines).isSome := by
  rw [promotions_textOf, manifestGet_textOf, promote_textOf]
  constructor
  · by_cases hfield : field = upstreamRef
    · simp only [lookup, hfield, Sections.lookup_overwrite, if_true]
    · rw [lookup, Sections.lookup_overwrite_of_ne hfield]
      simp only [hfield, if_false, Option.map_id']
  · rw [lookup, Sections.lookup_overwrite, Option.isSome_map]
    cases (Sections.lookup format component upstreamRef none lines).isSome <;> rfl

/-- **The file keeps nothing but the last reference of each component**: promotions that end in the same references
leave the same text, whatever their order and whatever came before. -/
theorem promotions_congr (lines : List Line) (ps qs : List (Name × Value))
    (h : ∀ component, (lookup component upstreamRef lines).isSome →
      Sections.lastOf ps component = Sections.lastOf qs component) :
    promotions (textOf lines) ps = promotions (textOf lines) qs := by
  rw [promotions_textOf, promotions_textOf, Sections.overwrite_congr lines none h]

def liderapi : Name := ⟨"liderapi".toList, by decide, by decide⟩

def ahenk : Name := ⟨"ahenk".toList, by decide, by decide⟩

def sampleRef : Value := ⟨"5a96be0a".toList, by decide, by decide⟩

def laterRef : Value := ⟨"c0f216b0".toList, by decide, by decide⟩

def sampleManifest : List Line :=
  [.component ⟨[], by decide⟩ liderapi, .field ⟨"  ".toList, by decide⟩ upstreamRef sampleRef,
    .component ⟨[], by decide⟩ ahenk, .field ⟨"  ".toList, by decide⟩ upstreamRef sampleRef]

theorem promotions_swapped :
    promotions (textOf sampleManifest) [(liderapi, sampleRef), (ahenk, laterRef), (liderapi, laterRef)] =
      promotions (textOf sampleManifest) [(liderapi, laterRef), (ahenk, laterRef)] :=
  promotions_congr _ _ _ (fun component _ => by
    by_cases hliderapi : liderapi = component <;> by_cases hahenk : ahenk = component <;>
      simp [Sections.lastOf, hliderapi, hahenk])

end Lider.Manifest
