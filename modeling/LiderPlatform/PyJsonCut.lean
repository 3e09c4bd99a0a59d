import LiderPlatform.PyJsonLoads
/-!
# PyJsonCut — a document cut short

A scan that succeeds reads on in any longer text (`scanValue_append`), numbers apart: those must be followed by a
separator already.  So a proper prefix of a written dictionary, scanned to an end, would leave the rest of the
dictionary unread: `loads_prefix`, and `loadsFile_prefix` for the bytes of a file.
-/
namespace Py

/-! ## What a scanned number was -/

theorem scanMinus_eq (p : Text) : p = (if (scanMinus p).1 then ['-'] else []) ++ (scanMinus p).2 := by
  cases p with
  | nil => rfl
  | cons c cs =>
    rw [scanMinus]
    split
    · rename_i hc
      rw [hc]; rfl
    · rfl

theorem scanInt_eq (p ds r : Text) (h : scanInt p = some (ds, r)) :
    p = ds ++ r ∧ (∀ c ∈ ds, c.isDigit = true) ∧ (ds = ['0'] ∨ ∃ c cs, ds = c :: cs ∧ c ≠ '0') := by
  cases p with
  | nil => cases h
  | cons c cs =>
    rw [scanInt] at h
    split at h
    · rename_i hc
      cases h
      exact ⟨by rw [hc]; rfl, by decide, Or.inl rfl⟩
    rename_i hc
    split at h
    · rename_i hd
      cases h
      refine ⟨List.takeWhile_append_dropWhile.symm, fun x hx => List.mem_takeWhile_imp hx, Or.inr ?_⟩
      rw [List.takeWhile_cons_of_pos hd]
      exact ⟨c, _, rfl, hc⟩
    · cases h

theorem scanFrac_eq (p : Text) :
    p = NumLit.fracText (scanFrac p).1 ++ (scanFrac p).2 ∧ ∀ c ∈ (scanFrac p).1, c.isDigit = true := by
  cases p with
  | nil => exact ⟨rfl, fun _ h => by cases h⟩
  | cons c cs =>
    rw [scanFrac]
    split
    · rename_i hc
      refine ⟨?_, fun x hx => List.mem_takeWhile_imp hx⟩
      rw [NumLit.fracText, if_neg hc.2, hc.1, List.cons_append, List.takeWhile_append_dropWhile]
    · exact ⟨rfl, fun _ h => by cases h⟩

theorem scanSign_eq (p : Text) : p = (scanSign p).1 ++ (scanSign p).2 ∧
    ((scanSign p).1 = [] ∨ (scanSign p).1 = ['+'] ∨ (scanSign p).1 = ['-']) := by
  cases p with
  | nil => exact ⟨rfl, Or.inl rfl⟩
  | cons c cs =>
    rw [scanSign]
    split
    · rename_i hc
      exact ⟨rfl, Or.inr (by rcases hc with rfl | rfl <;> simp)⟩
    · exact ⟨rfl, Or.inl rfl⟩

theorem scanExp_eq (p : Text) : p = NumLit.expText (scanExp p).1 ++ (scanExp p).2 ∧
    ∀ m ds, (scanExp p).1 = some (m, ds) → m ∈ expMarks ∧ ds ≠ [] ∧ ∀ c ∈ ds, c.isDigit = true := by
  cases p with
  | nil => exact ⟨rfl, fun _ _ h => by cases h⟩
  | cons c cs =>
    rw [scanExp]
    split
    · rename_i hc
      obtain ⟨hmark, hne⟩ := hc
      obtain ⟨hcs, hm⟩ := scanSign_eq cs
      refine ⟨?_, ?_⟩
      · rw [NumLit.expText, List.cons_append, List.cons_append, List.append_assoc, List.takeWhile_append_dropWhile, ← hcs]
      · rintro m ds heq
        cases heq
        refine ⟨?_, hne, fun x hx => List.mem_takeWhile_imp hx⟩
        rcases hmark with rfl | rfl <;> rcases hm with hm | hm | hm <;> rw [hm] <;> decide
    · exact ⟨rfl, fun _ _ h => by cases h⟩

/-- **A scanned number is its literal's text and what follows it.** -/
theorem scanNumber_eq (p r : Text) (l : NumLit) (h : scanNumber p = some (l, r)) : p = l.text ++ r ∧ l.WF := by
  unfold scanNumber at h
  split at h
  · cases h
  rename_i ds r₁ hi
  cases h
  obtain ⟨h1, hdig, hhead⟩ := scanInt_eq _ ds r₁ hi
  obtain ⟨h2, hfd⟩ := scanFrac_eq r₁
  obtain ⟨h3, hexp⟩ := scanExp_eq (scanFrac r₁).2
  refine ⟨?_, hdig, hhead, hfd, fun m ds he => (hexp m ds he).1, fun m ds he => (hexp m ds he).2⟩
  simp only [NumLit.text, List.append_assoc]
  rw [← h3, ← h2, ← h1]
  exact scanMinus_eq p

/-! ## Reading on -/

theorem scanString_append (s : Text) : ∀ (p : Text) (us : List Nat) (r : Text), scanString p = some (us, r) →
    scanString (p ++ s) = some (us, r ++ s) := by
  intro p
  have map_some : ∀ {n : Nat} {cs : Text} {us : List Nat} {r : Text},
      (∀ us r, scanString cs = some (us, r) → scanString (cs ++ s) = some (us, r ++ s)) →
      (scanString cs).map (fun p => (n :: p.1, p.2)) = some (us, r) →
      (scanString (cs ++ s)).map (fun p => (n :: p.1, p.2)) = some (us, r ++ s) := by
    intro n cs us r ih h
    obtain ⟨⟨us', r'⟩, hs, heq⟩ := Option.map_eq_some_iff.1 h
    cases heq
    rw [ih us' r' hs]; rfl
  fun_induction scanString p with
  | case1 => intro us r h; cases h
  | case2 cs => intro us r h; cases h; rfl
  | case3 a b c d cs hx => intro us r h; cases h
  | case4 a b c d cs n hx ih =>
    intro us r h
    simp only [List.cons_append]
    rw [scanString]
    simp only [hx]
    exact map_some ih h
  | case5 c cs hne hx => intro us r h; cases h
  | case6 c cs hne e hx ih =>
    intro us r h
    have hu : c ≠ 'u' := by
      rintro rfl
      cases hx
    simp only [List.cons_append]
    rw [scanString]
    · simp only [hx]
      exact map_some ih h
    · intro a b c d cs' h1 h2
      exact absurd h1 hu
  | case7 c cs h1 h2 h3 h4 => intro us r h; cases h
  | case8 c cs h1 h2 h3 h4 ih =>
    intro us r h
    simp only [not_or] at h4
    simp only [List.cons_append]
    rw [scanString, if_neg (by simp only [not_or]; exact h4)]
    · exact map_some ih h
    · exact h1
    · intro a b c' d cs' hb _
      exact h4.2 hb
    · intro c' cs' hb _
      exact h4.2 hb

theorem skipSpace_append_cons (p s r : Text) (c : Char) (h : skipSpace p = c :: r) :
    skipSpace (p ++ s) = c :: (r ++ s) := by
  unfold skipSpace at h ⊢
  have hp := (List.takeWhile_append_dropWhile (p := isJsonSpace) (l := p)).symm
  rw [h] at hp
  have hc : isJsonSpace c = false := by
    have := List.head?_dropWhile_not isJsonSpace p
    rw [h] at this
    simpa using this
  conv => lhs; rw [hp]
  rw [List.append_assoc, List.dropWhile_append_of_pos (fun x hx => List.mem_takeWhile_imp hx), List.cons_append,
    List.dropWhile_cons_of_neg (by simp [hc])]

/-- A text that stops what comes before it: white space, a comma or a closing bracket. -/
def Stop (r : Text) : Prop := ∃ c t, r = c :: t ∧ (isJsonSpace c = true ∨ c = ',' ∨ c = ']' ∨ c = '}')

theorem stop_of_skipSpace (r t : Text) (c : Char) (h : skipSpace r = c :: t) (hc : c = ',' ∨ c = ']' ∨ c = '}') :
    Stop r := by
  cases r with
  | nil => cases h
  | cons d r =>
    unfold skipSpace at h
    cases hd : isJsonSpace d with
    | true => exact ⟨d, r, rfl, Or.inl hd⟩
    | false =>
      rw [List.dropWhile_cons_of_neg (by simp [hd])] at h
      cases h
      exact ⟨c, t, rfl, Or.inr hc⟩

theorem Stop.numEnd (r s : Text) (h : Stop r) : NumEnd (r ++ s) := by
  obtain ⟨c, t, rfl, hc⟩ := h
  exact numEnd_of_head c _ hc

theorem scanLiteral_append (p s r : Text) (v : Json) (h : scanLiteral p = some (v, r)) :
    scanLiteral (p ++ s) = some (v, r ++ s) := by
  obtain ⟨q, hq, hqp⟩ := List.exists_of_findSome?_eq_some h
  split at hqp
  · rename_i hpre
    cases hqp
    obtain ⟨t, ht⟩ := List.isPrefixOf_iff_prefix.1 hpre
    rw [← ht, List.drop_left, List.append_assoc]
    simp only [literals, List.mem_cons, List.not_mem_nil, or_false] at hq
    rcases hq with rfl | rfl | rfl | rfl | rfl | rfl <;> rfl
  · cases hqp

section
variable (nt : NumText) (s : Text)

theorem scanMember_append (value value' : Text → Except PyExc (Json × Text)) (p r : Text) (kv : String × Json)
    (hnil : value [] = .error .jsonDecodeError) (hv : ∀ q v, value q = .ok (v, r) → value' (q ++ s) = .ok (v, r ++ s))
    (h : scanMember value p = .ok (kv, r)) : scanMember value' (p ++ s) = .ok (kv, r ++ s) := by
  cases p with
  | nil => cases h
  | cons c cs =>
    rw [scanMember] at h
    rw [List.cons_append, scanMember]
    by_cases hc : c = '"'
    · simp only [hc, ne_eq, not_true_eq_false, if_false] at h ⊢
      cases hs : scanString cs with
      | none => simp only [hs] at h; cases h
      | some ur =>
        obtain ⟨us, r₁⟩ := ur
        simp only [hs] at h
        simp only [scanString_append s cs us r₁ hs]
        cases hsp : skipSpace r₁ with
        | nil => simp only [hsp] at h; cases h
        | cons d r₂ =>
          simp only [hsp] at h
          simp only [skipSpace_append_cons r₁ s r₂ d hsp]
          by_cases hd : d = ':'
          · simp only [hd, not_true_eq_false, if_false] at h ⊢
            obtain ⟨⟨v, r₃⟩, hval, heq⟩ := except_map_eq_ok.1 h
            cases heq
            cases hsk : skipSpace r₂ with
            | nil =>
              rw [hsk, hnil] at hval
              cases hval
            | cons e r₄ =>
              rw [skipSpace_append_cons r₂ s r₄ e hsk]
              rw [hsk] at hval
              have := hv _ v hval
              rw [List.cons_append] at this
              rw [this]; rfl
          · simp only [hd, not_false_eq_true, if_true] at h; cases h
    · simp only [ne_eq, hc, not_false_eq_true, if_true] at h; cases h

theorem scanValue_nil (fuel : Nat) : scanValue nt fuel [] = .error .jsonDecodeError := by cases fuel <;> rfl

theorem scanElems_stop (fuel : Nat) (p r : Text) (xs : List Json) (h : scanElems nt fuel p = .ok (xs, r)) : Stop p := by
  cases fuel with
  | zero => cases h
  | succ fuel =>
    rw [scanElems] at h
    cases hs : skipSpace p with
    | nil => simp only [hs] at h; cases h
    | cons c t =>
      simp only [hs] at h
      by_cases hc : c = ']' ∨ c = ','
      · exact stop_of_skipSpace p t c hs (by tauto)
      · simp only [not_or] at hc
        simp only [hc.1, hc.2, if_false] at h; cases h

theorem scanMembers_stop (fuel : Nat) (p r : Text) (kvs : List (String × Json))
    (h : scanMembers nt fuel p = .ok (kvs, r)) : Stop p := by
  cases fuel with
  | zero => cases h
  | succ fuel =>
    rw [scanMembers] at h
    cases hs : skipSpace p with
    | nil => simp only [hs] at h; cases h
    | cons c t =>
      simp only [hs] at h
      by_cases hc : c = '}' ∨ c = ','
      · exact stop_of_skipSpace p t c hs (by tauto)
      · simp only [not_or] at hc
        simp only [hc.1, hc.2, if_false] at h; cases h

/-- The three scanners read on in a longer text, with at least the fuel they had. -/
def ReadsOn (fuel : Nat) : Prop :=
  ∀ fuel' ≥ fuel,
    (∀ p v r, scanValue nt fuel p = .ok (v, r) → (Stop r ∨ p.head? = some '{') →
      scanValue nt fuel' (p ++ s) = .ok (v, r ++ s)) ∧
    (∀ p xs r, scanElems nt fuel p = .ok (xs, r) → scanElems nt fuel' (p ++ s) = .ok (xs, r ++ s)) ∧
    (∀ p kvs r, scanMembers nt fuel p = .ok (kvs, r) → scanMembers nt fuel' (p ++ s) = .ok (kvs, r ++ s))

variable (fuel fuel' : Nat) (hle : fuel ≤ fuel') (ih : ReadsOn nt s fuel)
include hle ih

theorem readsOn_elems (p r : Text) (xs : List Json) (h : scanElems nt (fuel + 1) p = .ok (xs, r)) :
    scanElems nt (fuel' + 1) (p ++ s) = .ok (xs, r ++ s) := by
  obtain ⟨ihv, ihe, -⟩ := ih fuel' hle
  rw [scanElems] at h ⊢
  cases hs : skipSpace p with
  | nil => simp only [hs] at h; cases h
  | cons c t =>
    simp only [hs] at h
    simp only [skipSpace_append_cons p s t c hs]
    by_cases hc : c = ']'
    · simp only [hc, if_true, Except.ok.injEq, Prod.mk.injEq] at h ⊢
      exact ⟨h.1, by rw [h.2]⟩
    by_cases hc' : c = ','
    · simp only [hc', Char.reduceEq, if_false, if_true] at h ⊢
      cases hsk : skipSpace t with
      | nil => simp only [hsk, scanValue_nil] at h; cases h
      | cons d t' =>
        simp only [hsk] at h
        simp only [skipSpace_append_cons t s t' d hsk]
        cases hv : scanValue nt fuel (d :: t') with
        | error e => simp only [hv] at h; cases h
        | ok vr =>
          obtain ⟨v, r'⟩ := vr
          simp only [hv] at h
          obtain ⟨⟨ys, r''⟩, hys, heq⟩ := except_map_eq_ok.1 h
          cases heq
          have hv' := ihv (d :: t') v r' hv (Or.inl (scanElems_stop nt fuel r' _ ys hys))
          rw [List.cons_append] at hv'
          simp only [hv', ihe r' ys r'' hys, except_map_ok]
    · simp only [hc, hc', if_false] at h; cases h

theorem readsOn_member (p r r' : Text) (kv : String × Json) (kvs : List (String × Json))
    (h : scanMember (fun t => scanValue nt fuel t) p = .ok (kv, r)) (hr : scanMembers nt fuel r = .ok (kvs, r')) :
    scanMember (fun t => scanValue nt fuel' t) (p ++ s) = .ok (kv, r ++ s) :=
  scanMember_append s _ _ p r kv (scanValue_nil nt fuel)
    (fun q v hq => (ih fuel' hle).1 q v r hq (Or.inl (scanMembers_stop nt fuel r r' kvs hr))) h

theorem readsOn_members (p r : Text) (kvs : List (String × Json)) (h : scanMembers nt (fuel + 1) p = .ok (kvs, r)) :
    scanMembers nt (fuel' + 1) (p ++ s) = .ok (kvs, r ++ s) := by
  obtain ⟨-, -, ihm⟩ := ih fuel' hle
  rw [scanMembers] at h ⊢
  cases hs : skipSpace p with
  | nil => simp only [hs] at h; cases h
  | cons c t =>
    simp only [hs] at h
    simp only [skipSpace_append_cons p s t c hs]
    by_cases hc : c = '}'
    · simp only [hc, if_true, Except.ok.injEq, Prod.mk.injEq] at h ⊢
      exact ⟨h.1, by rw [h.2]⟩
    by_cases hc' : c = ','
    · simp only [hc', Char.reduceEq, if_false, if_true] at h ⊢
      cases hsk : skipSpace t with
      | nil => simp only [hsk, scanMember] at h; cases h
      | cons d t' =>
        simp only [hsk] at h
        simp only [skipSpace_append_cons t s t' d hsk]
        cases hm : scanMember (fun t => scanValue nt fuel t) (d :: t') with
        | error e => simp only [hm] at h; cases h
        | ok kr =>
          obtain ⟨kv, r'⟩ := kr
          simp only [hm] at h
          obtain ⟨⟨ys, r''⟩, hys, heq⟩ := except_map_eq_ok.1 h
          cases heq
          have hm' := readsOn_member nt s fuel fuel' hle ih (d :: t') r' r'' kv ys hm hys
          rw [List.cons_append] at hm'
          simp only [hm', ihm r' ys r'' hys, except_map_ok]
    · simp only [hc, hc', if_false] at h; cases h

theorem readsOn_value (p r : Text) (v : Json) (h : scanValue nt (fuel + 1) p = .ok (v, r))
    (hstop : Stop r ∨ p.head? = some '{') : scanValue nt (fuel' + 1) (p ++ s) = .ok (v, r ++ s) := by
  obtain ⟨ihv, ihe, ihm⟩ := ih fuel' hle
  cases p with
  | nil => cases h
  | cons c cs =>
    rw [scanValue] at h
    rw [List.cons_append, scanValue]
    by_cases hq : c = '"'
    · simp only [hq, if_true] at h ⊢
      cases hus : scanString cs with
      | none => simp only [hus] at h; cases h
      | some ur =>
        simp only [hus, Except.ok.injEq, Prod.mk.injEq] at h
        simp only [scanString_append s cs ur.1 ur.2 hus, h]
    by_cases hb : c = '['
    · simp only [hb, Char.reduceEq, if_false, if_true] at h ⊢
      cases hs : skipSpace cs with
      | nil => simp only [hs] at h; cases h
      | cons d t =>
        simp only [hs] at h
        simp only [skipSpace_append_cons cs s t d hs]
        by_cases hd : d = ']'
        · simp only [hd, if_true, Except.ok.injEq, Prod.mk.injEq] at h ⊢
          exact ⟨h.1, by rw [h.2]⟩
        · simp only [hd, if_false] at h ⊢
          cases hv : scanValue nt fuel (d :: t) with
          | error e => simp only [hv] at h; cases h
          | ok vr =>
            obtain ⟨w, r'⟩ := vr
            simp only [hv] at h
            obtain ⟨⟨ys, r''⟩, hys, heq⟩ := except_map_eq_ok.1 h
            cases heq
            have hv' := ihv (d :: t) w r' hv (Or.inl (scanElems_stop nt fuel r' _ ys hys))
            rw [List.cons_append] at hv'
            simp only [hv', ihe r' ys r'' hys, except_map_ok]
    by_cases ho : c = '{'
    · simp only [ho, Char.reduceEq, if_false, if_true] at h ⊢
      cases hs : skipSpace cs with
      | nil => simp only [hs] at h; cases h
      | cons d t =>
        simp only [hs] at h
        simp only [skipSpace_append_cons cs s t d hs]
        by_cases hd : d = '}'
        · simp only [hd, if_true, Except.ok.injEq, Prod.mk.injEq] at h ⊢
          exact ⟨h.1, by rw [h.2]⟩
        · simp only [hd, if_false] at h ⊢
          cases hm : scanMember (fun t => scanValue nt fuel t) (d :: t) with
          | error e => simp only [hm] at h; cases h
          | ok kr =>
            obtain ⟨kv, r'⟩ := kr
            simp only [hm] at h
            obtain ⟨⟨ys, r''⟩, hys, heq⟩ := except_map_eq_ok.1 h
            cases heq
            have hm' := readsOn_member nt s fuel fuel' hle ih (d :: t) r' r'' kv ys hm hys
            rw [List.cons_append] at hm'
            simp only [hm', ihm r' ys r'' hys, except_map_ok]
    -- a literal or a number
    have hr : Stop r := hstop.resolve_right (by simpa using ho)
    simp only [hq, hb, ho, if_false] at h ⊢
    cases hl : scanLiteral (c :: cs) with
    | some p =>
      obtain ⟨w, r'⟩ := p
      simp only [hl, Except.ok.injEq, Prod.mk.injEq] at h
      obtain ⟨rfl, rfl⟩ := h
      have := scanLiteral_append (c :: cs) s r' w hl
      rw [List.cons_append] at this
      simp only [this]
    | none =>
      simp only [hl] at h
      cases hn : scanNumber (c :: cs) with
      | none => simp only [hn] at h; cases h
      | some lr =>
        obtain ⟨l, r'⟩ := lr
        simp only [hn] at h
        obtain ⟨w, hw, heq⟩ := except_map_eq_ok.1 h
        cases heq
        obtain ⟨hp, hwf⟩ := scanNumber_eq _ r l hn
        have h1 := scanLiteral_number l hwf (r ++ s)
        have h2 := scanNumber_text l hwf (r ++ s) (hr.numEnd r s)
        rw [← List.append_assoc, ← hp, List.cons_append] at h1 h2
        simp only [h1, h2, hw, except_map_ok]

end

/-- **A successful scan reads on**: by induction on the fuel, one step of each scanner from the steps before. -/
theorem readsOn (nt : NumText) (s : Text) : ∀ fuel, ReadsOn nt s fuel
  | 0 => fun _ _ => ⟨fun _ _ _ h => (by cases h), fun _ _ _ h => (by cases h), fun _ _ _ h => (by cases h)⟩
  | fuel + 1 => fun fuel' hle => by
    obtain ⟨k, rfl⟩ : ∃ k, fuel' = k + 1 := ⟨fuel' - 1, by omega⟩
    have hk : fuel ≤ k := by omega
    exact ⟨fun p v r => readsOn_value nt s fuel k hk (readsOn nt s fuel) p r v,
      fun p xs r => readsOn_elems nt s fuel k hk (readsOn nt s fuel) p r xs,
      fun p kvs r => readsOn_members nt s fuel k hk (readsOn nt s fuel) p r kvs⟩

/-! ## Torn documents -/

/-- **A proper prefix of a written dictionary is not a document**, where the dictionary itself reads back. -/
theorem loads_prefix (nt : NumText) (L : Layout) (d : Nat) (kvs : Dict) (hwf : (Json.obj kvs).WF)
    (hfit : (Json.obj kvs).fits nt.maxStrDigits = true) (p : Text) (hp : p <+: jsonText nt L d (.obj kvs))
    (hne : p ≠ jsonText nt L d (.obj kvs)) : ∃ e, loads nt p = .error e := by
  obtain ⟨s, hs⟩ := hp
  obtain ⟨t, ht⟩ : ∃ t, jsonText nt L d (.obj kvs) = '{' :: t := by
    cases kvs <;> exact ⟨_, by rw [jsonText]⟩
  cases p with
  | nil => exact ⟨_, rfl⟩
  | cons c cs =>
    obtain rfl : c = '{' := by
      rw [ht] at hs
      exact (List.cons.inj hs).1
    unfold loads
    rw [skipSpace_cons '{' cs (by decide)]
    cases hv : scanValue nt ('{' :: cs).length ('{' :: cs) with
    | error e => exact ⟨e, rfl⟩
    | ok vr =>
      obtain ⟨v, r⟩ := vr
      -- the scan of the whole document would leave `r ++ s`, and it leaves nothing
      exfalso
      have hlen : ('{' :: cs).length ≤ (jsonText nt L d (.obj kvs)).length := by rw [← hs, List.length_append]; omega
      have hon := (readsOn nt s _ _ hlen).1 _ v r hv (Or.inr rfl)
      have hall := scanValue_jsonText nt L (.obj kvs) d _ [] hwf hfit (fun c hc => by cases hc) (Nat.le_refl _)
      rw [List.append_nil, ← hs] at hall
      rw [← hs, hall] at hon
      simp only [Except.ok.injEq, Prod.mk.injEq] at hon
      have hsnil : s = [] := (List.append_eq_nil_iff.1 hon.2.symm).2
      rw [hsnil, List.append_nil] at hs
      exact hne hs

/-! ## Files -/

/-- `json.loads(path.read_text(encoding="utf-8"))`. -/
def loadsFile (nt : NumText) (b : ByteArray) : Except PyExc Json :=
  match readText b with
  | .error e => .error e
  | .ok cs => loads nt cs

/-- The file of a value's text, indented. -/
def jsonFile (nt : NumText) (v : Json) : ByteArray := encode (jsonText nt .indented 0 v)

/-- What `write_text(json.dumps(v, ensure_ascii=False, indent=2), encoding="utf-8")` leaves in a file; a document that
does not serialize raises before the file is opened. -/
def dumpsFile (nt : NumText) (v : Json) : Except PyExc ByteArray := (dumps nt .indented v).map encode

theorem dumpsFile_of_fits {nt : NumText} {v : Json} (h : v.fits nt.maxStrDigits = true) :
    dumpsFile nt v = .ok (jsonFile nt v) := by
  rw [dumpsFile, dumps_of_fits h, except_map_ok, jsonFile]

theorem dumpsFile_eq_ok {nt : NumText} {v : Json} {b : ByteArray} :
    dumpsFile nt v = .ok b ↔ v.fits nt.maxStrDigits = true ∧ jsonFile nt v = b := by
  simp only [dumpsFile, except_map_eq_ok, dumps_eq_ok, jsonFile]
  exact ⟨fun ⟨_, ⟨h, ht⟩, hb⟩ => ⟨h, ht ▸ hb⟩, fun ⟨h, hb⟩ => ⟨_, ⟨h, rfl⟩, hb⟩⟩

/-- **A written file reads back.** -/
theorem loadsFile_jsonFile (nt : NumText) (v : Json) (hv : v.WF) (hfit : v.fits nt.maxStrDigits = true) :
    loadsFile nt (jsonFile nt v) = .ok v := by
  unfold loadsFile jsonFile
  rw [readText_encode _ (jsonText_no_cr nt .indented indented_no_cr 0 v)]
  exact loads_jsonText nt .indented 0 v hv hfit

/-- **A dictionary's file cut short anywhere is not a document.** -/
theorem loadsFile_prefix (nt : NumText) (kvs : Dict) (hwf : (Json.obj kvs).WF)
    (hfit : (Json.obj kvs).fits nt.maxStrDigits = true) (b r : ByteArray) (hb : b ++ r = jsonFile nt (.obj kvs))
    (hne : b ≠ jsonFile nt (.obj kvs)) : ∃ e, loadsFile nt b = .error e := by
  unfold loadsFile
  rcases readText_prefix _ (jsonText_no_cr nt .indented indented_no_cr 0 _) b r hb hne with h | ⟨ds, h, hpre, hds⟩
  · exact ⟨_, by rw [h]⟩
  · rw [h]
    exact loads_prefix nt .indented 0 kvs hwf hfit ds hpre hds

end Py
