import LiderPlatform.RegistrationArtifacts
import LiderPlatform.PyJsonPieces
/-!
# EventLog — the event log, line by line

An event is written on one line, but the text of an exception in it may hold a boundary of `str.splitlines` that JSON
writes raw.  `splitlines_log`: without one, the lines are the events.  With one, a line is not a document
(`brokenLine`); and whatever the texts hold, a line that reads as a dictionary is an event's or is empty
(`log_line_dict`).
-/
namespace Lider

open Py

/-! ## A log line is one line -/

theorem Check.name_oneLine (c : Check) : OneLine c.name := by cases c <;> decide

theorem FailureClass.code_oneLine (f : FailureClass) : OneLine f.code := by cases f <;> decide

/-- An event's texts hold no boundary that JSON writes raw. -/
structure Event.Plain (e : Event) : Prop where
  runId : OneLine e.runId
  capturedAt : OneLine e.capturedAt
  severity : ∀ t ∈ e.taxonomy, OneLine t.severity
  details : ∀ t ∈ e.taxonomy, ∀ d ∈ t.details, OneLine d

theorem taxonomyToJson_strings (taxonomy : List TaxonomyEntry) (hsev : ∀ t ∈ taxonomy, OneLine t.severity)
    (hdet : ∀ t ∈ taxonomy, ∀ d ∈ t.details, OneLine d) :
    (taxonomyToJson taxonomy).Strings (fun c => ¬ isUnicodeBreak c) := by
  rw [taxonomyToJson, Json.Strings]
  induction taxonomy with
  | nil => trivial
  | cons t taxonomy ih =>
    rw [List.map_cons, Json.StringsList]
    refine ⟨?_, ih (fun t' ht' => hsev t' (List.mem_cons_of_mem _ ht'))
      (fun t' ht' => hdet t' (List.mem_cons_of_mem _ ht'))⟩
    have hcode := FailureClass.code_oneLine t.code
    have hdetails := Json.strings_strs t.details (hdet t List.mem_cons_self)
    have hseverity := hsev t List.mem_cons_self
    rw [TaxonomyEntry.toJson, Json.Strings, Json.stringsMembers_iff]
    simp only [List.forall_mem_cons, List.not_mem_nil, false_imp_iff, implies_true, and_true, Json.Strings]
    exact ⟨⟨by decide, hcode⟩, ⟨by decide, hseverity⟩, by decide, hdetails⟩

theorem Event.toDict_strings (e : Event) (h : e.Plain) : (Json.obj e.toDict).Strings (fun c => ¬ isUnicodeBreak c) := by
  have hphase : OneLine e.phase.text := by cases e.phase <;> decide
  have hstatus : OneLine e.status.text := by cases e.status <;> decide
  have hfailed : (failedChecksToJson e.failedChecks).Strings (fun c => ¬ isUnicodeBreak c) :=
    Json.strings_strs _ (fun x hx => by
      obtain ⟨c, -, rfl⟩ := List.mem_map.1 hx
      exact Check.name_oneLine c)
  have htaxonomy := taxonomyToJson_strings e.taxonomy h.severity h.details
  rw [Event.toDict, Json.Strings, Json.stringsMembers_iff]
  simp only [List.forall_mem_cons, List.not_mem_nil, false_imp_iff, implies_true, and_true, Json.Strings]
  exact ⟨⟨by decide, h.runId⟩, by decide, ⟨by decide, hphase⟩, ⟨by decide, hstatus⟩, ⟨by decide, hfailed⟩,
    ⟨by decide, htaxonomy⟩, by decide, h.capturedAt⟩

/-- **The log's lines are its events**, when their texts hold no boundary. -/
theorem splitlines_log (nt : NumText) (log : List Event) (h : ∀ e ∈ log, e.Plain) :
    splitlines (log.flatMap (Event.line nt)) = log.map (Event.text nt) := by
  have hflat : log.flatMap (Event.line nt) = (log.map (Event.text nt)).flatMap (fun l => l ++ ['\n']) := by
    rw [List.flatMap_map]
    rfl
  rw [hflat]
  refine splitlines_lines _ (fun l hl => ?_)
  obtain ⟨e, he, rfl⟩ := List.mem_map.1 hl
  exact jsonText_no_break nt 0 _ (Json.sortKeys_strings _ (e.toDict_strings (h e he)))

/-- An event's dictionary as `sort_keys` orders it. -/
def Event.sortedDict (e : Event) : Dict :=
  [("attempt", .int e.attempt), ("capturedAt", .str e.capturedAt), ("failedChecks", failedChecksToJson e.failedChecks),
    ("phase", .str e.phase.text), ("runId", .str e.runId), ("status", .str e.status.text),
    ("taxonomy", (taxonomyToJson e.taxonomy).sortKeys)]

theorem Event.sortKeys_toDict (e : Event) : (Json.obj e.toDict).sortKeys = .obj e.sortedDict := by
  rw [Json.sortKeys_obj, Json.sortedMembers, Event.toDict]
  simp [Json.sortKeysMembers, List.insertionSort, List.orderedInsert, Json.sortKeys, failedChecksToJson,
    Json.sortKeys_strs, Event.sortedDict]

theorem TaxonomyEntry.sortKeys_toJson (t : TaxonomyEntry) : t.toJson.sortKeys = .obj
    [("code", .str t.code.code), ("details", .strs t.details), ("severity", .str t.severity)] := by
  rw [TaxonomyEntry.toJson, Json.sortKeys_obj, Json.sortedMembers]
  simp [Json.sortKeysMembers, List.insertionSort, List.orderedInsert, Json.sortKeys, Json.sortKeys_strs]

/-- `json.dumps` does not refuse the event. -/
def Event.Fits (nt : NumText) (e : Event) : Prop := (Json.obj e.toDict).fits nt.maxStrDigits = true

theorem Event.Fits.sorted {nt : NumText} {e : Event} (h : e.Fits nt) :
    (Json.obj e.toDict).sortKeys.fits nt.maxStrDigits = true := by rwa [Json.fits_sortKeys]

theorem loads_eventText (nt : NumText) (e : Event) (hfit : e.Fits nt) :
    loads nt (e.text nt) = .ok (.obj e.sortedDict) := by
  rw [Event.text, loads_jsonText nt .compact 0 _ (Json.sortKeys_wf _ e.toDict_wf) hfit.sorted, Event.sortKeys_toDict]

/-! ## Lines that exceptions break -/

/-- An event as `write_artifacts` appends it: the text of the exception a collection raised, if it raised one, stands
first in the taxonomy, and no other text holds a boundary. -/
structure Event.Logged (e : Event) (error : Option String) : Prop where
  runId : OneLine e.runId
  capturedAt : OneLine e.capturedAt
  taxonomy : ∃ ts, e.taxonomy = error.toList.map (fun text => .of .adapterError [text]) ++ ts ∧
    ∀ t ∈ ts, OneLine t.severity ∧ ∀ d ∈ t.details, OneLine d

/-- **The document of an event around the text of its exception.** -/
theorem errorText (nt : NumText) (e : Event) (code : FailureClass) (severity : String) (ts : List TaxonomyEntry) :
    ∃ before after, ∀ text, ({ e with taxonomy := ⟨code, severity, [text]⟩ :: ts } : Event).text nt =
      before ++ (strText text ++ (']' :: ',' :: ' ' :: (strText "severity" ++ after))) := by
  refine ⟨List.flatten [['{'], strText "attempt", [':', ' '], jsonText nt .compact 1 (.int e.attempt), [',', ' '],
      strText "capturedAt", [':', ' '], strText e.capturedAt, [',', ' '],
      strText "failedChecks", [':', ' '], jsonText nt .compact 1 (failedChecksToJson e.failedChecks), [',', ' '],
      strText "phase", [':', ' '], strText e.phase.text, [',', ' '], strText "runId", [':', ' '], strText e.runId,
      [',', ' '], strText "status", [':', ' '], strText e.status.text, [',', ' '],
      strText "taxonomy", [':', ' ', '[', '{'], strText "code", [':', ' '], strText code.code, [',', ' '],
      strText "details", [':', ' ', '[']],
    List.flatten [[':', ' '], strText severity, ['}'],
      elemsText nt .compact 1 (Json.sortKeysList (ts.map TaxonomyEntry.toJson)), ['}']], fun text => ?_⟩
  rw [Event.text, Event.sortKeys_toDict, Event.sortedDict, taxonomyToJson, Json.sortKeys, List.map_cons,
    Json.sortKeysList, TaxonomyEntry.sortKeys_toJson]
  simp only [Json.strs, List.map_cons, List.map_nil, jsonText, membersText, elemsText, Layout.compact, List.nil_append,
    List.append_assoc, List.cons_append, List.flatten_cons, List.flatten_nil, List.append_nil]

theorem Event.Logged.plain_iff {e : Event} {error : Option String} (h : e.Logged error) :
    e.Plain ↔ ∀ text, error = some text → OneLine text := by
  obtain ⟨ts, htax, hts⟩ := h.taxonomy
  constructor
  · rintro hplain text rfl
    have hmem : TaxonomyEntry.of .adapterError [text] ∈ e.taxonomy := by rw [htax]; exact List.mem_cons_self
    exact hplain.details _ hmem text List.mem_cons_self
  · intro htext
    have hall : ∀ t ∈ e.taxonomy, OneLine t.severity ∧ ∀ d ∈ t.details, OneLine d := by
      intro t ht
      rw [htax, List.mem_append, List.mem_map] at ht
      rcases ht with ⟨text, hmem, rfl⟩ | ht
      · refine ⟨show OneLine "error" by decide, fun d hd => ?_⟩
        rw [List.mem_singleton.1 hd]
        exact htext text (Option.mem_toList.1 hmem)
      · exact hts t ht
    exact ⟨h.runId, h.capturedAt, fun t ht => (hall t ht).1, fun t ht => (hall t ht).2⟩

/-- The line of an event, cut into what stands before its exception's text and what stands after it. -/
theorem Event.Logged.pieces (nt : NumText) {e : Event} {text : String} (h : e.Logged (some text)) (rest : Text) :
    ∃ before after,
      e.text nt = before ++ (escaped text.toList ++ '"' :: ']' :: ',' :: ' ' :: (strText "severity" ++ after)) ∧
      Pieces before ('"' :: ']' :: ',' :: ' ' :: (strText "severity" ++ after)) text.toList
        (splitlines (e.line nt ++ rest)) (splitlines rest) := by
  obtain ⟨ts, htax, hts⟩ := h.taxonomy
  obtain ⟨before, after, htext⟩ := errorText nt e .adapterError (FailureClass.severity .adapterError) ts
  have hself : { e with taxonomy := ⟨.adapterError, FailureClass.severity .adapterError, [text]⟩ :: ts } = e := by
    rw [show (⟨.adapterError, FailureClass.severity .adapterError, [text]⟩ :: ts : List TaxonomyEntry) = e.taxonomy
      from htax.symm]
  -- with an empty text in its place the same line holds no boundary
  have hempty : Event.Logged { e with taxonomy := ⟨.adapterError, FailureClass.severity .adapterError, [""]⟩ :: ts }
      (some "") := ⟨h.runId, h.capturedAt, ts, rfl, hts⟩
  have hplain := hempty.plain_iff.2 (fun t ht => by cases ht; decide)
  have hbreak := jsonText_no_break nt 0 _ (Json.sortKeys_strings _ (Event.toDict_strings _ hplain))
  have hempty' := htext ""
  rw [Event.text] at hempty'
  rw [hempty'] at hbreak
  have hbefore : ∀ c ∈ before ++ ['"'], isLineBreak c = false := fun c hc => hbreak c (by
    rcases List.mem_append.1 hc with hc | hc
    · exact List.mem_append_left _ hc
    · exact List.mem_append_right _ (List.mem_append_left _ (by rw [List.mem_singleton.1 hc]; decide)))
  have hafter : ∀ c ∈ '"' :: ']' :: ',' :: ' ' :: (strText "severity" ++ after), isLineBreak c = false := fun c hc => by
    rcases List.mem_cons.1 hc with rfl | hc
    · decide
    · exact hbreak c (List.mem_append_right _ (List.mem_append_right _ hc))
  have hline : e.text nt =
      before ++ ['"'] ++ (escaped text.toList ++ '"' :: ']' :: ',' :: ' ' :: (strText "severity" ++ after)) := by
    rw [← hself, htext text, strText, escaped]
    simp only [List.append_assoc, List.cons_append, List.nil_append]
  refine ⟨before ++ ['"'], after, hline, ?_⟩
  have hsplit := splitlines_pieces ('"' :: ']' :: ',' :: ' ' :: (strText "severity" ++ after)) rest hafter text.toList
    (before ++ ['"']) hbefore
  rw [Event.line, hline]
  simpa only [List.append_assoc, List.cons_append, List.nil_append, List.singleton_append] using hsplit

/-- After a string closed here no item of a dictionary follows. -/
theorem scanMember_afterError (value : Text → Except PyExc (Json × Text)) (after : Text)
    (p : (String × Json) × Text) :
    scanMember value ('"' :: ']' :: ',' :: ' ' :: (strText "severity" ++ after)) ≠ .ok p := nofun

/-- **A line is its event's, or is no document**: with no boundary in it the event reads back; with one the first piece
is cut short, and no piece reads as a dictionary with items. -/
theorem Event.Logged.line_cases (nt : NumText) {e : Event} {error : Option String} (h : e.Logged error)
    (hfit : e.Fits nt) (rest : Text) :
    (e.Plain ∧ splitlines (e.line nt ++ rest) = e.text nt :: splitlines rest) ∨
      (¬ e.Plain ∧ ∃ ls, splitlines (e.line nt ++ rest) = ls ++ splitlines rest ∧
        (∃ l ∈ ls, ∃ x, loads nt l = .error x) ∧ ∀ l ∈ ls, ∀ d, loads nt l = .ok (.obj d) → d = []) := by
  by_cases hplain : e.Plain
  · refine Or.inl ⟨hplain, ?_⟩
    have hbreak := jsonText_no_break nt 0 _ (Json.sortKeys_strings _ (e.toDict_strings hplain))
    rw [Event.line, List.append_assoc, List.singleton_append]
    exact splitlines_line '\n' (by decide) (by decide) rest _ hbreak
  · refine Or.inr ⟨hplain, ?_⟩
    obtain ⟨text, rfl, htext⟩ : ∃ text, error = some text ∧ ¬ OneLine text := by
      by_contra hno
      exact hplain (h.plain_iff.2 (fun text ht => by_contra fun hnot => hno ⟨text, ht, hnot⟩))
    obtain ⟨before, after, hline, hpieces⟩ := h.pieces nt rest
    rcases hpieces with ⟨hplain', -⟩ | ⟨vs, tail, mids, last, htail, hvs, hsplit, hmids, us, hlast⟩
    · exact absurd hplain' htext
    · have hfirst : ∃ x, loads nt (before ++ escaped vs) = .error x := by
        have hdoc : (Json.obj e.sortedDict).WF := by
          rw [← Event.sortKeys_toDict]
          exact Json.sortKeys_wf _ e.toDict_wf
        have hfull : before ++ escaped vs ++ (tail ++ '"' :: ']' :: ',' :: ' ' :: (strText "severity" ++ after)) =
            jsonText nt .compact 0 (.obj e.sortedDict) := by
          rw [← Event.sortKeys_toDict, ← Event.text, hline, ← hvs]
          simp only [List.append_assoc]
        have hfits : (Json.obj e.sortedDict).fits nt.maxStrDigits = true := by
          rw [← Event.sortKeys_toDict]
          exact hfit.sorted
        refine loads_prefix nt .compact 0 e.sortedDict hdoc hfits _ ⟨_, hfull⟩ ?_
        intro heq
        have hlen := congrArg List.length hfull
        rw [← heq] at hlen
        simp at hlen
      refine ⟨(before ++ escaped vs) :: (mids ++ [last]), by rw [hsplit]; simp, ⟨_, List.mem_cons_self, hfirst⟩, ?_⟩
      intro l hl d hd
      rcases List.mem_cons.1 hl with rfl | hl
      · obtain ⟨x, hx⟩ := hfirst
        rw [hx] at hd
        cases hd
      · rcases List.mem_append.1 hl with hl | hl
        · obtain ⟨ws, rfl⟩ := hmids l hl
          refine loads_piece nt ws [] rfl (fun t => by simp) (fun value p => nofun) (d := d) ?_
          rwa [List.append_nil]
        · rw [List.mem_singleton.1 hl, hlast] at hd
          exact loads_piece nt us _ rfl (fun t => by simp) (fun value => scanMember_afterError value after) hd

/-- **A log whose events are plain is split into them**; in any log a line that reads as a dictionary is an event's or is
empty, and an event that is not plain leaves a line that does not read. -/
theorem log_lines (nt : NumText) : ∀ (log : List Event), (∀ e ∈ log, ∃ error, e.Logged error) →
    (∀ e ∈ log, e.Fits nt) →
    (∀ l ∈ splitlines (log.flatMap (Event.line nt)), ∀ d, loads nt l = .ok (.obj d) →
        d = [] ∨ ∃ e ∈ log, d = e.sortedDict) ∧
      ((∃ e ∈ log, ¬ e.Plain) → ∃ l ∈ splitlines (log.flatMap (Event.line nt)), ∃ x, loads nt l = .error x)
  | [], _, _ => ⟨fun l hl => (nomatch hl), fun ⟨e, he, _⟩ => (nomatch he)⟩
  | e :: log, h, hfits => by
    obtain ⟨hdict, herror⟩ := log_lines nt log (fun e' he' => h e' (List.mem_cons_of_mem _ he'))
      (fun e' he' => hfits e' (List.mem_cons_of_mem _ he'))
    have hfit := hfits e List.mem_cons_self
    obtain ⟨error, hlogged⟩ := h e List.mem_cons_self
    have hrest : ∀ l ∈ splitlines (log.flatMap (Event.line nt)), ∀ d, loads nt l = .ok (.obj d) →
        d = [] ∨ ∃ e' ∈ e :: log, d = e'.sortedDict := fun l hl d hd =>
      (hdict l hl d hd).imp_right (fun ⟨e', he', heq⟩ => ⟨e', List.mem_cons_of_mem _ he', heq⟩)
    rw [List.flatMap_cons]
    rcases hlogged.line_cases nt hfit (log.flatMap (Event.line nt)) with
      ⟨hplain, hsplit⟩ | ⟨hplain, ls, hsplit, ⟨l, hl, x, hx⟩, hls⟩
    · rw [hsplit]
      constructor
      · intro l hl d hd
        rcases List.mem_cons.1 hl with rfl | hl
        · rw [loads_eventText nt e hfit] at hd
          cases hd
          exact Or.inr ⟨e, List.mem_cons_self, rfl⟩
        · exact hrest l hl d hd
      · rintro ⟨e', he', hnot⟩
        rcases List.mem_cons.1 he' with rfl | he'
        · exact absurd hplain hnot
        · obtain ⟨l, hl, hx⟩ := herror ⟨e', he', hnot⟩
          exact ⟨l, List.mem_cons_of_mem _ hl, hx⟩
    · rw [hsplit]
      refine ⟨fun l' hl' d hd => ?_, fun _ => ⟨l, List.mem_append_left _ hl, x, hx⟩⟩
      rcases List.mem_append.1 hl' with hl' | hl'
      · exact Or.inl (hls l' hl' d hd)
      · exact hrest l' hl' d hd

end Lider
