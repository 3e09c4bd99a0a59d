import LiderPlatform.RegistrationEvidence
import LiderPlatform.PyJsonPieces
import Mathlib.Algebra.Order.BigOperators.Group.List
/-!
# EventRoundTrip — the log that `append_event` writes, read by `_load_events`

Each payload is written as one JSON document with sorted keys and a line end; the reader takes the text apart with
`str.splitlines`, which knows boundaries that JSON does not escape.  Every line read is an event or an error, so a log
with more lines than payloads does not read back: `eventLog_roundTrip_iff`.
-/
namespace Lider

open Py

/-! ## Appending -/

/-- `append_event`; a payload that `json.dumps` refuses raises, and nothing is appended. -/
def appendEvent (nt : NumText) (path : String) (fs : Files) (payload : Record) : Except PyExc Files := do
  let text ← dumps nt .compact (Json.obj payload.val).sortKeys
  return (Write.append path (encode (text ++ ['\n']))).apply fs

def eventsPath : String := "registration-events.jsonl"

/-- The directory after each payload was appended to the log. -/
def appendEvents (nt : NumText) (fs : Files) (payloads : List Record) : Except PyExc Files :=
  payloads.foldlM (appendEvent nt eventsPath) fs

/-- The same value: only the order of a dictionary's items, which `==` does not see, may differ. -/
def SameItems (v w : Json) : Prop := v.sortKeys = w.sortKeys

/-- The log reads back without an error as the payloads appended, in their order. -/
def RoundTrips (nt : NumText) (fs : Files) (payloads : List Record) : Prop :=
  ∃ fs' events, appendEvents nt fs payloads = .ok fs' ∧ loadEvents nt fs' = .ok (events, []) ∧
    List.Forall₂ (fun (event : Dict) (payload : Record) => SameItems (.obj event) (.obj payload.val)) events payloads

section
variable (nt : NumText)

/-- The line of a payload. -/
def payloadLine (payload : Record) : Text := jsonText nt .compact 0 (Json.obj payload.val).sortKeys ++ ['\n']

/-- `json.dumps` refuses no integer of the payload. -/
def Serializes (payload : Record) : Prop := (Json.obj payload.val).fits nt.maxStrDigits = true

instance (payload : Record) : Decidable (Serializes nt payload) := inferInstanceAs (Decidable (_ = true))

theorem appendEvent_eq_ok {path : String} {fs fs' : Files} {payload : Record} :
    appendEvent nt path fs payload = .ok fs' ↔
      Serializes nt payload ∧ (Write.append path (encode (payloadLine nt payload))).apply fs = fs' := by
  unfold appendEvent Serializes dumps
  rw [Json.fits_sortKeys]
  split
  · rename_i h
    simp [bind, Except.bind, pure, Except.pure, payloadLine, h]
  · rename_i h
    simp [bind, Except.bind, h]

/-- **The log holds the lines of the payloads**, after what it held before, where none of them is refused. -/
theorem appendEvents_eq_ok (payloads : List Record) (fs fs' : Files) : appendEvents nt fs payloads = .ok fs' ↔
    (∀ p ∈ payloads, Serializes nt p) ∧
      applyAll (payloads.map (fun p => .append eventsPath (encode (payloadLine nt p)))) fs = fs' := by
  induction payloads generalizing fs with
  | nil => simp [appendEvents, pure, Except.pure]
  | cons p ps ih =>
    rw [List.forall_mem_cons, List.map_cons, applyAll_cons,
      show appendEvents nt fs (p :: ps) = (appendEvent nt eventsPath fs p >>= fun fs => appendEvents nt fs ps) from rfl]
    cases hp : appendEvent nt eventsPath fs p with
    | error e =>
      have hrefused : ¬ Serializes nt p := fun h => by
        rw [(appendEvent_eq_ok nt).2 ⟨h, rfl⟩] at hp
        cases hp
      simp [bind, Except.bind, hrefused]
    | ok fs₁ =>
      obtain ⟨hfit, rfl⟩ := (appendEvent_eq_ok nt).1 hp
      rw [show (Except.ok _ >>= fun fs => appendEvents nt fs ps) = appendEvents nt _ ps from rfl, ih]
      tauto

theorem applyAll_appended (fs : Files) (payloads : List Record) (hne : payloads ≠ []) :
    applyAll (payloads.map (fun p => .append eventsPath (encode (payloadLine nt p)))) fs eventsPath =
      some ((fs eventsPath).getD .empty ++ encode (payloads.flatMap (payloadLine nt))) := by
  induction payloads generalizing fs with
  | nil => exact absurd rfl hne
  | cons p ps ih =>
    have hstep : (Write.append eventsPath (encode (payloadLine nt p))).apply fs eventsPath =
        some ((fs eventsPath).getD .empty ++ encode (payloadLine nt p)) := Files.write_same fs eventsPath _
    cases ps with
    | nil =>
      rw [List.flatMap_singleton]
      exact hstep
    | cons q qs =>
      have ih := ih ((Write.append eventsPath (encode (payloadLine nt p))).apply fs) (by simp)
      rw [hstep, Option.getD_some] at ih
      rw [List.flatMap_cons, encode_append, ← ByteArray.append_assoc]
      exact ih

theorem payloadLine_no_cr (payloads : List Record) : '\r' ∉ payloads.flatMap (payloadLine nt) := by
  intro h
  obtain ⟨p, -, hp⟩ := List.mem_flatMap.1 h
  rcases List.mem_append.1 hp with hp | hp
  · exact jsonText_no_cr nt .compact compact_no_cr 0 _ hp
  · exact absurd (List.mem_singleton.1 hp) (by decide)

/-! ## Reading -/

def logLines (payloads : List Record) : List Text := splitlines (payloads.flatMap (payloadLine nt))

theorem length_logLines : ∀ (payloads : List Record), (logLines nt payloads).length =
    payloads.length + (payloads.map (fun p => (jsonText nt .compact 0 (Json.obj p.val).sortKeys).countP isLineBreak)).sum
  | [] => rfl
  | p :: ps => by
    have ih := length_logLines ps
    unfold logLines at ih ⊢
    rw [List.flatMap_cons, payloadLine, List.append_assoc, List.singleton_append,
      length_splitlines _ _ (jsonText_no_cr nt .compact compact_no_cr 0 _), ih, List.map_cons, List.sum_cons, List.length_cons]
    omega

/-- **Every line is read as an event or reported as an error.** -/
theorem length_parseEvents : ∀ (lines : List Text) (index : Nat),
    (parseEvents nt index lines).1.length + (parseEvents nt index lines).2.length = lines.length
  | [], _ => rfl
  | line :: lines, index => by
    have ih := length_parseEvents lines (index + 1)
    rw [parseEvents]
    split <;> simp only [List.length_cons] <;> omega

/-- The documents of payloads are read as their dictionaries, keys sorted. -/
theorem parseEvents_payloads : ∀ (payloads : List Record) (index : Nat), (∀ p ∈ payloads, Serializes nt p) →
    parseEvents nt index (payloads.map (fun p => jsonText nt .compact 0 (Json.obj p.val).sortKeys)) =
      (payloads.map (fun p => Json.sortedMembers p.val), [])
  | [], _, _ => rfl
  | p :: ps, index, hfits => by
    obtain ⟨hp, hps⟩ := List.forall_mem_cons.1 hfits
    have hloads := loads_jsonText nt .compact 0 _ (Json.sortKeys_wf _ p.property) ((Json.fits_sortKeys _ _).trans hp)
    rw [Json.sortKeys_obj] at hloads
    rw [List.map_cons, List.map_cons, parseEvents, Json.sortKeys_obj, hloads, parseEvents_payloads ps (index + 1) hps]

theorem logLines_ne_nil (payloads : List Record) (hne : payloads ≠ []) : logLines nt payloads ≠ [] := by
  have hlen := length_logLines nt payloads
  have hpos := List.length_pos_iff.2 hne
  intro h
  rw [h, List.length_nil] at hlen
  omega

theorem loadEvents_append {fs fs' : Files} (hempty : (fs eventsPath).getD .empty = .empty) {payloads : List Record}
    (hne : payloads ≠ []) (h : appendEvents nt fs payloads = .ok fs') :
    loadEvents nt fs' = .ok (parseEvents nt 1 (logLines nt payloads)) := by
  obtain ⟨-, rfl⟩ := (appendEvents_eq_ok nt payloads fs fs').1 h
  have hfile := applyAll_appended nt fs payloads hne
  rw [hempty, ByteArray.empty_append] at hfile
  have hread := readText_encode _ (payloadLine_no_cr nt payloads)
  unfold loadEvents
  rw [show "registration-events.jsonl" = eventsPath from rfl, hfile]
  simp only [hread, bind, Except.bind, pure, Except.pure]
  have hlines := logLines_ne_nil nt payloads hne
  exact if_neg (fun h => hlines (List.isEmpty_iff.1 h))

/-! ## The round trip -/

/-- No string of the payload, keys included, holds a boundary that JSON writes raw: U+0085, U+2028 or U+2029. -/
def PlainPayload (payload : Record) : Prop := (Json.obj payload.val).Strings (fun c => ¬ isUnicodeBreak c)

theorem plainPayload_iff (payload : Record) : PlainPayload payload ↔
    (jsonText nt .compact 0 (Json.obj payload.val).sortKeys).countP isLineBreak = 0 := by
  rw [List.countP_eq_zero]
  constructor
  · intro h c hc
    rw [jsonText_no_break nt 0 _ (Json.sortKeys_strings _ h) c hc]
    exact Bool.false_ne_true
  · intro h
    refine Json.strings_of_sortKeys _ (strings_of_jsonText nt .compact (fun c hc => ?_) _ 0 (fun c hc hbreak => ?_))
    · exact escapeChar_of_break c (not_not.1 hc)
    · exact h c hc (isLineBreak_of_isUnicodeBreak c hbreak).1

variable {fs : Files} (hempty : (fs eventsPath).getD .empty = .empty) {payloads : List Record} (hne : payloads ≠ [])
include hempty hne

/-- **A log that reads back has as many lines as payloads**, which leaves no room for a boundary inside one. -/
theorem RoundTrips.plain (h : RoundTrips nt fs payloads) :
    ∀ payload ∈ payloads, Serializes nt payload ∧ PlainPayload payload := by
  obtain ⟨fs', events, happend, hread, hsame⟩ := h
  rw [loadEvents_append nt hempty hne happend] at hread
  intro payload hp
  have hparse := length_parseEvents nt (logLines nt payloads) 1
  rw [Except.ok.inj hread, List.length_nil, hsame.length_eq, length_logLines] at hparse
  have hle := List.single_le_sum (fun _ _ => Nat.zero_le _)
    ((jsonText nt .compact 0 (Json.obj payload.val).sortKeys).countP isLineBreak)
    (List.mem_map_of_mem (f := fun p : Record => (jsonText nt .compact 0 (Json.obj p.val).sortKeys).countP isLineBreak) hp)
  refine ⟨((appendEvents_eq_ok nt payloads fs fs').1 happend).1 payload hp, ?_⟩
  rw [plainPayload_iff nt]
  omega

theorem roundTrips_of_plain (h : ∀ payload ∈ payloads, Serializes nt payload ∧ PlainPayload payload) :
    RoundTrips nt fs payloads := by
  have hfits : ∀ payload ∈ payloads, Serializes nt payload := fun p hp => (h p hp).1
  have hlines : logLines nt payloads = payloads.map (fun p => jsonText nt .compact 0 (Json.obj p.val).sortKeys) := by
    have hflat : payloads.flatMap (payloadLine nt) =
        (payloads.map (fun p => jsonText nt .compact 0 (Json.obj p.val).sortKeys)).flatMap (fun l => l ++ ['\n']) := by
      rw [List.flatMap_map]
      rfl
    rw [logLines, hflat]
    refine splitlines_lines _ (fun l hl => ?_)
    obtain ⟨p, hp, rfl⟩ := List.mem_map.1 hl
    exact jsonText_no_break nt 0 _ (Json.sortKeys_strings _ (h p hp).2)
  have happend := (appendEvents_eq_ok nt payloads fs _).2 ⟨hfits, rfl⟩
  refine ⟨_, payloads.map (fun p => Json.sortedMembers p.val), happend, ?_, ?_⟩
  · rw [loadEvents_append nt hempty hne happend, hlines, parseEvents_payloads nt payloads 1 hfits]
  · rw [List.forall₂_map_left_iff, List.forall₂_same]
    intro p _
    rw [SameItems, ← Json.sortKeys_obj, Json.sortKeys_sortKeys]

/-- **The log reads back exactly when no string in its payloads holds a boundary that JSON writes raw**, and no integer
in them has more digits than the interpreter writes. -/
theorem eventLog_roundTrip_iff : RoundTrips nt fs payloads ↔
    ∀ payload ∈ payloads, Serializes nt payload ∧ PlainPayload payload :=
  ⟨RoundTrips.plain nt hempty hne, roundTrips_of_plain nt hempty hne⟩

end

/-! ## Exception texts with line separators -/

def detailsPayload (attempt : Int) (text : String) : Record :=
  ⟨[("attempt", .int attempt), ("details", .arr [.str text]), ("capturedAt", .null)], by
    simp [Json.WF, Json.WFMembers, Json.WFList, Dict.keys]⟩

theorem detailsPayload_plain (attempt : Int) (text : String) (h : OneLine text) : PlainPayload (detailsPayload attempt text) := by
  simp only [PlainPayload, detailsPayload, Json.Strings, Json.StringsMembers, Json.StringsList, and_true, true_and]
  exact ⟨by decide, by decide, h, by decide⟩

/-- **Separators below U+0020 are escaped**, as quotes and backslashes are: texts of several lines read back. -/
theorem eventLog_roundTrip_escaped : RoundTrips .bits (fun _ => none)
    [detailsPayload 1 "no route\r\nto host", detailsPayload 2 "\x0b\x0c\x1c\x1d\x1e",
      detailsPayload (-3) "\"ahenk\\001\"\t\u2026"] := by
  refine (eventLog_roundTrip_iff .bits rfl (by simp)).2 (fun payload hp => ?_)
  simp only [List.mem_cons, List.not_mem_nil, or_false] at hp
  rcases hp with rfl | rfl | rfl
  · exact ⟨by decide, detailsPayload_plain _ _ (by decide)⟩
  · exact ⟨by decide, detailsPayload_plain _ _ (by decide)⟩
  · exact ⟨by decide, detailsPayload_plain _ _ (by decide)⟩

/-- **The reader breaks the line inside the text.** -/
theorem eventLog_broken : ¬ RoundTrips .bits (fun _ => none) [detailsPayload 1 "no route\u2028to host"] := by
  intro h
  have hplain := (RoundTrips.plain .bits rfl (by simp) h _ List.mem_cons_self).2
  simp only [PlainPayload, detailsPayload, Json.Strings, Json.StringsMembers, Json.StringsList, and_true,
    true_and] at hplain
  exact hplain.2.2.1 '\u2028' (by decide) (Or.inr (Or.inl rfl))

end Lider
