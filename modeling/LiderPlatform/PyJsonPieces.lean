import LiderPlatform.PyJsonLoads
/-!
# PyJsonPieces — the pieces of a written line that holds line boundaries

`json.dumps(.., ensure_ascii=False)` writes U+0085, U+2028 and U+2029 raw, and `str.splitlines` breaks there, inside a
string.  The first piece is a document cut short.  The others start inside the string, where every quote is escaped: no
such piece reads as a dictionary with items (`loads_middlePiece`, `loads_lastPiece`).
-/
namespace Py

open Json

def escaped (us : Text) : Text := us.flatMap escapeChar

/-- The escape of a character starts with a backslash, or is the character, and then no quote. -/
theorem escapeChar_head (c : Char) : ∃ d ds, escapeChar c = d :: ds ∧
    (d = '\\' ∨ (d = c ∧ ds = [] ∧ c ≠ '"' ∧ 0x20 ≤ c.toNat)) := by
  unfold escapeChar
  split_ifs
  all_goals first | exact ⟨_, _, rfl, Or.inl rfl⟩ | skip
  rename_i hq _ _ _ _ _ _ hctl
  exact ⟨c, [], rfl, Or.inr ⟨rfl, rfl, hq, by omega⟩⟩

/-! ## Scanning from inside a string -/

theorem skipSpace_escaped (rest : Text) (hrest : skipSpace rest = rest) : ∀ (us : Text),
    ∃ us', skipSpace (escaped us ++ rest) = escaped us' ++ rest
  | [] => ⟨[], hrest⟩
  | c :: us => by
    obtain ⟨d, ds, hesc, hd⟩ := escapeChar_head c
    have hcons : escaped (c :: us) ++ rest = d :: (ds ++ (escaped us ++ rest)) := by
      simp [escaped, hesc]
    by_cases hspace : isJsonSpace d = true
    · rcases hd with rfl | ⟨-, rfl, -, -⟩
      · exact absurd hspace (by decide)
      · obtain ⟨us', h⟩ := skipSpace_escaped rest hrest us
        refine ⟨us', ?_⟩
        rw [hcons, List.nil_append, skipSpace, List.dropWhile_cons_of_pos hspace]
        exact h
    · refine ⟨c :: us, ?_⟩
      rw [hcons, skipSpace_cons d _ (by simpa using hspace)]

/-- After a brace inside an escaped text comes escaped text. -/
theorem escaped_brace {us rest r : Text} (hrest : ∀ t, rest ≠ '{' :: t) (h : escaped us ++ rest = '{' :: r) :
    ∃ us', r = escaped us' ++ rest := by
  cases us with
  | nil => exact absurd h (hrest r)
  | cons c us =>
    obtain ⟨d, ds, hesc, hd⟩ := escapeChar_head c
    simp only [escaped, List.flatMap_cons, hesc, List.cons_append, List.cons.injEq, List.append_assoc] at h
    rcases hd with rfl | ⟨-, rfl, -, -⟩
    · exact absurd h.1 (by decide)
    · exact ⟨us, h.2.symm⟩

/-- A quote inside an escaped text is no quote of its own: a text that starts with one has ended. -/
theorem escaped_quote {us rest t : Text} (h : escaped us ++ rest = '"' :: t) : rest = '"' :: t := by
  cases us with
  | nil => exact h
  | cons c us =>
    obtain ⟨d, ds, hesc, hd⟩ := escapeChar_head c
    simp only [escaped, List.flatMap_cons, hesc, List.cons_append, List.cons.injEq] at h
    rcases hd with rfl | ⟨rfl, -, hne, -⟩
    · exact absurd h.1 (by decide)
    · exact absurd h.1 hne

theorem scanLiteral_obj {cs : Text} {d : Dict} {r : Text} : scanLiteral cs ≠ some (.obj d, r) := by
  intro h
  obtain ⟨p, hp, heq⟩ := List.exists_of_findSome?_eq_some h
  split at heq
  · simp only [Option.some.injEq, Prod.mk.injEq] at heq
    simp only [literals, List.mem_cons, List.not_mem_nil, or_false] at hp
    rcases hp with rfl | rfl | rfl | rfl | rfl | rfl <;> cases heq.1
  · cases heq

section
variable (nt : NumText)

/-- **What scans as a dictionary starts with a brace**, and with an item unless the dictionary is empty. -/
theorem scanValue_obj {fuel : Nat} {cs : Text} {d : Dict} {r : Text} (h : scanValue nt fuel cs = .ok (.obj d, r)) :
    ∃ t, cs = '{' :: t ∧ (d = [] ∨ ∃ value p, scanMember value (skipSpace t) = .ok p) := by
  cases fuel with
  | zero => rw [scanValue] at h; cases h
  | succ fuel =>
    cases cs with
    | nil => rw [scanValue] at h; cases h
    | cons c cs =>
      rw [scanValue] at h
      split_ifs at h with hquote hbracket hbrace
      · split at h <;> cases h
      · split at h
        · cases h
        · split_ifs at h
          · cases h
          · split at h
            · cases h
            · obtain ⟨p, -, hp⟩ := except_map_eq_ok.1 h
              cases hp
      · subst hbrace
        refine ⟨cs, rfl, ?_⟩
        split at h
        · cases h
        · rename_i c' t hskip
          split_ifs at h
          · cases h
            exact Or.inl rfl
          · split at h
            · cases h
            · rename_i kv r' hmember
              exact Or.inr ⟨_, (kv, r'), by rw [hskip]; exact hmember⟩
      · split at h
        · rename_i p hlit
          rw [Except.ok.inj h] at hlit
          exact absurd hlit scanLiteral_obj
        · split at h
          · cases h
          · obtain ⟨v, hv, heq⟩ := except_map_eq_ok.1 h
            cases heq
            rw [numValue] at hv
            split_ifs at hv <;> cases hv

theorem loads_obj {cs : Text} {d : Dict} (h : loads nt cs = .ok (.obj d)) :
    ∃ t, skipSpace cs = '{' :: t ∧ (d = [] ∨ ∃ value p, scanMember value (skipSpace t) = .ok p) := by
  unfold loads at h
  split at h
  · cases h
  · rename_i v r hscan
    split_ifs at h
    cases h
    exact scanValue_obj nt hscan

theorem scanMember_quote {value : Text → Except PyExc (Json × Text)} {cs : Text} {p : (String × Json) × Text}
    (h : scanMember value cs = .ok p) : ∃ t, cs = '"' :: t := by
  cases cs with
  | nil => cases h
  | cons c cs =>
    rw [scanMember] at h
    split_ifs at h with hc
    exact ⟨cs, by rw [not_not.1 hc]⟩

/-- **A piece that ends where its string does not, or ends it where no item can follow, is no dictionary with items.** -/
theorem loads_piece (us rest : Text) (hrest : skipSpace rest = rest) (hbrace : ∀ t, rest ≠ '{' :: t)
    (hmember : ∀ value p, scanMember value rest ≠ .ok p) {d : Dict} (h : loads nt (escaped us ++ rest) = .ok (.obj d)) :
    d = [] := by
  obtain ⟨t, ht, hd⟩ := loads_obj nt h
  obtain ⟨us', hus⟩ := skipSpace_escaped rest hrest us
  obtain ⟨us'', rfl⟩ := escaped_brace hbrace (hus.symm.trans ht)
  rcases hd with hd | ⟨value, p, hp⟩
  · exact hd
  · obtain ⟨vs, hvs⟩ := skipSpace_escaped rest hrest us''
    rw [hvs] at hp
    obtain ⟨t', ht'⟩ := scanMember_quote hp
    -- the quote that would open a key is the one that ends the string
    have hend := escaped_quote ht'
    rw [ht', ← hend] at hp
    exact absurd hp (hmember value p)

end

/-! ## The pieces -/

/-- What `splitlines` makes of a line that runs through a string: the line itself, if the string holds no boundary;
otherwise the text up to the first one, pieces of the string, and the text after the last one. -/
def Pieces (before post : Text) (us : Text) (lines rest : List Text) : Prop :=
  ((∀ c ∈ us, ¬ isUnicodeBreak c) ∧ lines = (before ++ (escaped us ++ post)) :: rest) ∨
    ∃ vs tail mids last, tail ≠ [] ∧ escaped vs ++ tail = escaped us ∧
      lines = (before ++ escaped vs) :: (mids ++ last :: rest) ∧
      (∀ m ∈ mids, ∃ vs, m = escaped vs) ∧ ∃ vs, last = escaped vs ++ post

theorem escapeChar_of_break (c : Char) (h : isUnicodeBreak c) : escapeChar c = [c] := by
  rcases h with rfl | rfl | rfl <;> decide

theorem isLineBreak_of_isUnicodeBreak (c : Char) (h : isUnicodeBreak c) : isLineBreak c = true ∧ c ≠ '\r' := by
  rcases h with rfl | rfl | rfl <;> decide

theorem splitlines_pieces (post rest : Text) (hpost : ∀ c ∈ post, isLineBreak c = false) : ∀ (us before : Text),
    (∀ c ∈ before, isLineBreak c = false) →
      Pieces before post us (splitlines (before ++ (escaped us ++ (post ++ '\n' :: rest)))) (splitlines rest)
  | [], before, hbefore => by
    refine Or.inl ⟨fun c hc => (nomatch hc), ?_⟩
    have hline : ∀ c ∈ before ++ post, isLineBreak c = false := fun c hc => (List.mem_append.1 hc).elim (hbefore c) (hpost c)
    have h := splitlines_line '\n' (by decide) (by decide) rest (before ++ post) hline
    simpa [escaped] using h
  | c :: us, before, hbefore => by
    by_cases hc : isUnicodeBreak c
    · -- the string breaks here; what follows is split from an empty start
      obtain ⟨hb, hr⟩ := isLineBreak_of_isUnicodeBreak c hc
      have hsplit : splitlines (before ++ (escaped (c :: us) ++ (post ++ '\n' :: rest))) =
          before :: splitlines ([] ++ (escaped us ++ (post ++ '\n' :: rest))) := by
        rw [escaped, List.flatMap_cons, escapeChar_of_break c hc]
        exact splitlines_line c hb hr _ before hbefore
      have ih := splitlines_pieces post rest hpost us [] (fun c hc => (nomatch hc))
      refine Or.inr ⟨[], escaped (c :: us), ?_⟩
      rw [hsplit]
      have hne : escaped (c :: us) ≠ [] := by simp [escaped, escapeChar_of_break c hc]
      rcases ih with ⟨-, ih⟩ | ⟨vs, tail, mids, last, -, -, ih, hmids, hlast⟩
      · exact ⟨[], escaped us ++ post, hne, rfl, by rw [ih]; simp [escaped], fun m hm => (nomatch hm), us, rfl⟩
      · refine ⟨escaped vs :: mids, last, hne, rfl, by rw [ih]; simp [escaped], ?_, hlast⟩
        intro m hm
        rcases List.mem_cons.1 hm with rfl | hm
        · exact ⟨vs, rfl⟩
        · exact hmids m hm
    · have hesc : ∀ d ∈ escapeChar c, isLineBreak d = false :=
        escapeChar_chars _ isLineBreak_of_isPrintable c (fun h => isLineBreak_of_ge c h hc)
      have hbefore' : ∀ d ∈ before ++ escapeChar c, isLineBreak d = false := fun d hd =>
        (List.mem_append.1 hd).elim (hbefore d) (hesc d)
      have ih := splitlines_pieces post rest hpost us (before ++ escapeChar c) hbefore'
      have htext : before ++ (escaped (c :: us) ++ (post ++ '\n' :: rest)) =
          before ++ escapeChar c ++ (escaped us ++ (post ++ '\n' :: rest)) := by
        simp [escaped]
      rw [htext]
      rcases ih with ⟨hus, ih⟩ | ⟨vs, tail, mids, last, htail, hvs, ih, hmids, hlast⟩
      · refine Or.inl ⟨?_, by rw [ih]; simp [escaped]⟩
        intro d hd
        rcases List.mem_cons.1 hd with rfl | hd
        · exact hc
        · exact hus d hd
      · refine Or.inr ⟨c :: vs, tail, mids, last, htail, ?_, by rw [ih]; simp [escaped], hmids, hlast⟩
        simp only [escaped, List.flatMap_cons, List.append_assoc] at hvs ⊢
        rw [hvs]

end Py
