import LiderPlatform.PyText
import Mathlib.Data.List.Sort
import Mathlib.Data.String.Basic
/-!
# PyJsonDumps — `json.dumps` with `ensure_ascii=False`

`jsonText` is the text of a value under a `Layout`, the white space the writer puts between items: `Layout.compact` is
the default of `json.dumps`, `Layout.indented` its `indent=2`.  `dumps` raises instead when an integer of the value has
more digits than the interpreter writes (`Json.fits`).  `sort_keys=True` is `sortKeys` before either.  The text of a
finite float is `float.__repr__`, a parameter (`NumText`) of which only what Python documents is used: it is a JSON
number with a fraction or an exponent, and reading it back gives the same float.
-/
namespace Py

open Json

/-! ## Number literals -/

/-- The parts of a JSON number: `-?int(.frac)?(exp digits)?`. -/
structure NumLit where
  negative : Bool
  int : Text
  frac : Text
  exp : Option (Text × Text)

def expMarks : List Text := ["e".toList, "E".toList, "e+".toList, "e-".toList, "E+".toList, "E-".toList]

namespace NumLit

def fracText (frac : Text) : Text := if frac = [] then [] else '.' :: frac

def expText : Option (Text × Text) → Text
  | none => []
  | some (mark, digits) => mark ++ digits

def text (l : NumLit) : Text :=
  (if l.negative then ['-'] else []) ++ (l.int ++ (fracText l.frac ++ expText l.exp))

/-- A literal is a float when it has a fraction or an exponent. -/
def isFloat (l : NumLit) : Bool := !l.frac.isEmpty || l.exp.isSome

structure WF (l : NumLit) : Prop where
  int_digits : ∀ c ∈ l.int, c.isDigit = true
  int_head : l.int = ['0'] ∨ ∃ c cs, l.int = c :: cs ∧ c ≠ '0'
  frac_digits : ∀ c ∈ l.frac, c.isDigit = true
  exp_mark : ∀ m ds, l.exp = some (m, ds) → m ∈ expMarks
  exp_digits : ∀ m ds, l.exp = some (m, ds) → ds ≠ [] ∧ ∀ c ∈ ds, c.isDigit = true

end NumLit

/-- The interpreter's number texts: `float.__repr__`, the float a literal reads as, and the digits an integer may have. -/
structure NumText where
  maxStrDigits : DigitLimit
  repr : FiniteBits → NumLit
  ofLiteral : NumLit → PyFloat
  repr_wf : ∀ x, (repr x).WF
  repr_isFloat : ∀ x, (repr x).isFloat = true
  ofLiteral_repr : ∀ x, ofLiteral (repr x) = .finite x

/-- The literal `int.__repr__` writes. -/
def intLit (i : Int) : NumLit := ⟨decide (i < 0), Nat.toDigits 10 i.natAbs, [], none⟩

/-! ## Strings -/

/-- The escape of one character: control characters, the quote and the backslash only. -/
def escapeChar (c : Char) : Text :=
  if c = '"' then ['\\', '"']
  else if c = '\\' then ['\\', '\\']
  else if c = '\n' then ['\\', 'n']
  else if c = '\r' then ['\\', 'r']
  else if c = '\t' then ['\\', 't']
  else if c = '\x0c' then ['\\', 'f']
  else if c = '\x08' then ['\\', 'b']
  else if c.toNat < 0x20 then ['\\', 'u', '0', '0', (c.toNat / 16).digitChar, (c.toNat % 16).digitChar]
  else [c]

def strText (s : String) : Text := '"' :: (s.toList.flatMap escapeChar ++ ['"'])

/-! ## Values -/

def isJsonSpace (c : Char) : Bool := c = ' ' || c = '\t' || c = '\n' || c = '\r'

/-- The white space of a writer, at a depth: after an opening bracket, after a comma, before a closing bracket. -/
structure Layout where
  opening : Nat → Text
  between : Nat → Text
  closing : Nat → Text
  opening_space : ∀ d, ∀ c ∈ opening d, isJsonSpace c = true
  between_space : ∀ d, ∀ c ∈ between d, isJsonSpace c = true
  closing_space : ∀ d, ∀ c ∈ closing d, isJsonSpace c = true

/-- `json.dumps(v)`: separators `", "` and `": "` on one line. -/
def Layout.compact : Layout where
  opening _ := []
  between _ := [' ']
  closing _ := []
  opening_space _ _ h := by cases h
  between_space _ c h := by rw [List.mem_singleton.1 h]; rfl
  closing_space _ _ h := by cases h

def newlineIndent (d : Nat) : Text := '\n' :: List.replicate (2 * d) ' '

theorem newlineIndent_space (d : Nat) : ∀ c ∈ newlineIndent d, isJsonSpace c = true := by
  intro c hc
  rcases List.mem_cons.1 hc with rfl | hc
  · rfl
  · rw [(List.mem_replicate.1 hc).2]; rfl

/-- `json.dumps(v, indent=2)`. -/
def Layout.indented : Layout where
  opening d := newlineIndent (d + 1)
  between d := newlineIndent (d + 1)
  closing d := newlineIndent d
  opening_space d := newlineIndent_space (d + 1)
  between_space d := newlineIndent_space (d + 1)
  closing_space d := newlineIndent_space d

section
variable (nt : NumText) (L : Layout)

def floatText : PyFloat → Text
  | .finite x => (nt.repr x).text
  | .inf negative => if negative then "-Infinity".toList else "Infinity".toList
  | .nan => "NaN".toList

mutual
def jsonText : Nat → Json → Text
  | _, .null => "null".toList
  | _, .bool b => if b then "true".toList else "false".toList
  | _, .int i => (intLit i).text
  | _, .float x => floatText nt x
  | _, .str s => strText s
  | _, .arr [] => ['[', ']']
  | d, .arr (x :: xs) => '[' :: (L.opening d ++ (jsonText (d + 1) x ++ elemsText d xs))
  | _, .obj [] => ['{', '}']
  | d, .obj ((k, v) :: kvs) =>
    '{' :: (L.opening d ++ (strText k ++ (':' :: ' ' :: (jsonText (d + 1) v ++ membersText d kvs))))
def elemsText : Nat → List Json → Text
  | d, [] => L.closing d ++ [']']
  | d, x :: xs => ',' :: (L.between d ++ (jsonText (d + 1) x ++ elemsText d xs))
def membersText : Nat → List (String × Json) → Text
  | d, [] => L.closing d ++ ['}']
  | d, (k, v) :: kvs =>
    ',' :: (L.between d ++ (strText k ++ (':' :: ' ' :: (jsonText (d + 1) v ++ membersText d kvs))))
end

end

/-! ## Sorted keys -/

namespace Json

mutual
/-- The value `json.dumps(v, sort_keys=True)` writes. -/
def sortKeys : Json → Json
  | .arr xs => .arr (sortKeysList xs)
  | .obj kvs => .obj ((sortKeysMembers kvs).insertionSort (fun p q => p.1 ≤ q.1))
  | v => v
def sortKeysList : List Json → List Json
  | [] => []
  | x :: xs => sortKeys x :: sortKeysList xs
def sortKeysMembers : List (String × Json) → List (String × Json)
  | [] => []
  | (k, v) :: kvs => (k, sortKeys v) :: sortKeysMembers kvs
end

theorem sortKeysMembers_eq : ∀ (kvs : List (String × Json)), sortKeysMembers kvs = kvs.map (fun p => (p.1, p.2.sortKeys))
  | [] => rfl
  | (k, v) :: kvs => by rw [sortKeysMembers, sortKeysMembers_eq kvs, List.map_cons]

/-- The items of a dictionary written with sorted keys, in the order they are written. -/
def sortedMembers (kvs : Dict) : Dict := (sortKeysMembers kvs).insertionSort (fun p q => p.1 ≤ q.1)

theorem sortKeys_obj (kvs : Dict) : sortKeys (.obj kvs) = .obj (sortedMembers kvs) := by rw [sortKeys, sortedMembers]

theorem sortedMembers_perm (kvs : Dict) : (sortedMembers kvs).Perm (kvs.map (fun p => (p.1, p.2.sortKeys))) := by
  rw [← sortKeysMembers_eq]
  exact List.perm_insertionSort _ _

theorem keys_sortedMembers_nodup (kvs : Dict) (h : (Dict.keys kvs).Nodup) : (Dict.keys (sortedMembers kvs)).Nodup := by
  have hperm := (sortedMembers_perm kvs).map Prod.fst
  rw [List.map_map] at hperm
  exact hperm.nodup_iff.2 h

mutual
/-- **Sorting the keys of a document leaves it one.** -/
theorem sortKeys_wf : ∀ (v : Json), v.WF → v.sortKeys.WF
  | .null, h | .bool _, h | .int _, h | .float _, h | .str _, h => by simpa only [sortKeys] using h
  | .arr xs, h => by
    rw [WF] at h
    rw [sortKeys, WF]
    exact sortKeysList_wf xs h
  | .obj kvs, h => by
    rw [WF] at h
    rw [sortKeys_obj, WF, wfMembers_iff]
    refine ⟨keys_sortedMembers_nodup kvs h.1, fun p hp => ?_⟩
    rw [(sortedMembers_perm kvs).mem_iff, ← sortKeysMembers_eq] at hp
    exact (wfMembers_iff _).1 (sortKeysMembers_wf kvs h.2) p hp
theorem sortKeysList_wf : ∀ (xs : List Json), WFList xs → WFList (sortKeysList xs)
  | [], _ => trivial
  | x :: xs, h => ⟨sortKeys_wf x h.1, sortKeysList_wf xs h.2⟩
theorem sortKeysMembers_wf : ∀ (kvs : List (String × Json)), WFMembers kvs → WFMembers (sortKeysMembers kvs)
  | [], _ => trivial
  | (_, v) :: kvs, h => ⟨sortKeys_wf v h.1, sortKeysMembers_wf kvs h.2⟩
end

theorem sortKeysList_strs : ∀ (xs : List String), sortKeysList (xs.map .str) = xs.map .str
  | [] => rfl
  | x :: xs => by simp only [List.map_cons, sortKeysList, sortKeysList_strs xs, sortKeys]

theorem sortKeys_strs (xs : List String) : (strs xs).sortKeys = strs xs := by
  rw [strs, sortKeys, sortKeysList_strs]

/-! ## The characters of a document -/

mutual
/-- Every character of every string and key satisfies `P`. -/
def Strings (P : Char → Prop) : Json → Prop
  | .str s => ∀ c ∈ s.toList, P c
  | .arr xs => StringsList P xs
  | .obj kvs => StringsMembers P kvs
  | _ => True
def StringsList (P : Char → Prop) : List Json → Prop
  | [] => True
  | x :: xs => Strings P x ∧ StringsList P xs
def StringsMembers (P : Char → Prop) : List (String × Json) → Prop
  | [] => True
  | (k, v) :: kvs => (∀ c ∈ k.toList, P c) ∧ Strings P v ∧ StringsMembers P kvs
end

mutual
theorem strings_of_forall {P : Char → Prop} (h : ∀ c, P c) : ∀ (v : Json), v.Strings P
  | .null | .bool _ | .int _ | .float _ => by rw [Strings] <;> simp
  | .str _ => by rw [Strings]; exact fun c _ => h c
  | .arr xs => by rw [Strings]; exact stringsList_of_forall h xs
  | .obj kvs => by rw [Strings]; exact stringsMembers_of_forall h kvs
theorem stringsList_of_forall {P : Char → Prop} (h : ∀ c, P c) : ∀ (xs : List Json), StringsList P xs
  | [] => trivial
  | x :: xs => ⟨strings_of_forall h x, stringsList_of_forall h xs⟩
theorem stringsMembers_of_forall {P : Char → Prop} (h : ∀ c, P c) : ∀ (kvs : List (String × Json)), StringsMembers P kvs
  | [] => trivial
  | (_, v) :: kvs => ⟨fun c _ => h c, strings_of_forall h v, stringsMembers_of_forall h kvs⟩
end

theorem stringsMembers_iff {P : Char → Prop} : ∀ (kvs : List (String × Json)), StringsMembers P kvs ↔
    ∀ p ∈ kvs, (∀ c ∈ p.1.toList, P c) ∧ p.2.Strings P
  | [] => by simp [StringsMembers]
  | (k, v) :: kvs => by
    rw [StringsMembers, stringsMembers_iff kvs, List.forall_mem_cons, and_assoc]

mutual
theorem sortKeys_strings {P : Char → Prop} : ∀ (v : Json), v.Strings P → v.sortKeys.Strings P
  | .null, h | .bool _, h | .int _, h | .float _, h | .str _, h => by simpa only [sortKeys] using h
  | .arr xs, h => by
    rw [Strings] at h
    rw [sortKeys, Strings]
    exact sortKeysList_strings xs h
  | .obj kvs, h => by
    rw [Strings] at h
    rw [sortKeys_obj, Strings, stringsMembers_iff]
    intro p hp
    rw [(sortedMembers_perm kvs).mem_iff, ← sortKeysMembers_eq] at hp
    exact (stringsMembers_iff _).1 (sortKeysMembers_strings kvs h) p hp
theorem sortKeysList_strings {P : Char → Prop} : ∀ (xs : List Json), StringsList P xs → StringsList P (sortKeysList xs)
  | [], _ => trivial
  | x :: xs, h => ⟨sortKeys_strings x h.1, sortKeysList_strings xs h.2⟩
theorem sortKeysMembers_strings {P : Char → Prop} : ∀ (kvs : List (String × Json)), StringsMembers P kvs →
    StringsMembers P (sortKeysMembers kvs)
  | [], _ => trivial
  | (_, v) :: kvs, h => ⟨h.1, sortKeys_strings v h.2.1, sortKeysMembers_strings kvs h.2.2⟩
end

mutual
theorem Strings.mono {P Q : Char → Prop} (h : ∀ c, P c → Q c) : ∀ (v : Json), v.Strings P → v.Strings Q
  | .null, _ | .bool _, _ | .int _, _ | .float _, _ => by rw [Strings] <;> simp
  | .str _, hv => by rw [Strings] at hv ⊢; exact fun c hc => h c (hv c hc)
  | .arr xs, hv => by rw [Strings] at hv ⊢; exact StringsList.mono h xs hv
  | .obj kvs, hv => by rw [Strings] at hv ⊢; exact StringsMembers.mono h kvs hv
theorem StringsList.mono {P Q : Char → Prop} (h : ∀ c, P c → Q c) : ∀ (xs : List Json), StringsList P xs →
    StringsList Q xs
  | [], _ => trivial
  | x :: xs, hv => ⟨Strings.mono h x hv.1, StringsList.mono h xs hv.2⟩
theorem StringsMembers.mono {P Q : Char → Prop} (h : ∀ c, P c → Q c) : ∀ (kvs : List (String × Json)),
    StringsMembers P kvs → StringsMembers Q kvs
  | [], _ => trivial
  | (_, v) :: kvs, hv => ⟨fun c hc => h c (hv.1 c hc), Strings.mono h v hv.2.1, StringsMembers.mono h kvs hv.2.2⟩
end

end Json

namespace Json

/-! ## Dictionaries with sorted keys -/

theorem sortedMembers_pairwise (kvs : Dict) : (sortedMembers kvs).Pairwise (fun p q => p.1 ≤ q.1) :=
  have : Std.Total (fun p q : String × Json => p.1 ≤ q.1) := ⟨fun p q => le_total p.1 q.1⟩
  have : IsTrans (String × Json) (fun p q => p.1 ≤ q.1) := ⟨fun _ _ _ h h' => le_trans h h'⟩
  List.pairwise_insertionSort _ _

mutual
/-- **Sorted keys stay as they are.** -/
theorem sortKeys_sortKeys : ∀ (v : Json), v.sortKeys.sortKeys = v.sortKeys
  | .null | .bool _ | .int _ | .float _ | .str _ => by simp only [sortKeys]
  | .arr xs => by rw [sortKeys, sortKeys, sortKeysList_sortKeysList xs]
  | .obj kvs => by
    have hmembers : sortKeysMembers (sortedMembers kvs) = sortedMembers kvs := by
      rw [sortKeysMembers_eq]
      refine (List.map_congr_left (fun p hp => ?_)).trans (List.map_id _)
      rw [(sortedMembers_perm kvs).mem_iff] at hp
      obtain ⟨q, hq, rfl⟩ := List.mem_map.1 hp
      exact congrArg (Prod.mk q.1) (sortKeysMembers_sortKeys kvs q hq)
    rw [sortKeys_obj, sortKeys_obj, sortedMembers, hmembers]
    exact congrArg Json.obj (sortedMembers_pairwise kvs).insertionSort_eq
theorem sortKeysList_sortKeysList : ∀ (xs : List Json), sortKeysList (sortKeysList xs) = sortKeysList xs
  | [] => rfl
  | x :: xs => by simp only [sortKeysList, sortKeys_sortKeys x, sortKeysList_sortKeysList xs]
theorem sortKeysMembers_sortKeys : ∀ (kvs : List (String × Json)), ∀ p ∈ kvs, p.2.sortKeys.sortKeys = p.2.sortKeys
  | (_, v) :: kvs, p, hp => by
    rcases List.mem_cons.1 hp with rfl | hp
    · exact sortKeys_sortKeys v
    · exact sortKeysMembers_sortKeys kvs p hp
end

mutual
/-- What holds of the strings written holds of the value's. -/
theorem strings_of_sortKeys {P : Char → Prop} : ∀ (v : Json), v.sortKeys.Strings P → v.Strings P
  | .null, h | .bool _, h | .int _, h | .float _, h | .str _, h => by simpa only [sortKeys] using h
  | .arr xs, h => by
    rw [sortKeys, Strings] at h
    rw [Strings]
    exact strings_of_sortKeysList xs h
  | .obj kvs, h => by
    rw [sortKeys_obj, Strings, stringsMembers_iff] at h
    rw [Strings, stringsMembers_iff]
    intro p hp
    have hmem : (p.1, p.2.sortKeys) ∈ sortedMembers kvs :=
      (sortedMembers_perm kvs).mem_iff.2 (List.mem_map_of_mem (f := fun p => (p.1, p.2.sortKeys)) hp)
    exact ⟨(h _ hmem).1, strings_of_sortKeysMembers kvs p hp (h _ hmem).2⟩
theorem strings_of_sortKeysList {P : Char → Prop} : ∀ (xs : List Json), StringsList P (sortKeysList xs) → StringsList P xs
  | [], _ => trivial
  | x :: xs, h => ⟨strings_of_sortKeys x h.1, strings_of_sortKeysList xs h.2⟩
theorem strings_of_sortKeysMembers {P : Char → Prop} : ∀ (kvs : List (String × Json)), ∀ p ∈ kvs,
    p.2.sortKeys.Strings P → p.2.Strings P
  | (_, v) :: kvs, p, hp, h => by
    rcases List.mem_cons.1 hp with rfl | hp
    · exact strings_of_sortKeys v h
    · exact strings_of_sortKeysMembers kvs p hp h
end

end Json

/-! ## Integers too long to write -/

namespace Json

mutual
/-- No integer of the value has more digits than the limit allows. -/
def fits (limit : DigitLimit) : Json → Bool
  | .int i => limit.allows (Nat.toDigits 10 i.natAbs).length
  | .arr xs => fitsList limit xs
  | .obj kvs => fitsMembers limit kvs
  | .null | .bool _ | .float _ | .str _ => true
def fitsList (limit : DigitLimit) : List Json → Bool
  | [] => true
  | x :: xs => fits limit x && fitsList limit xs
def fitsMembers (limit : DigitLimit) : List (String × Json) → Bool
  | [] => true
  | (_, v) :: kvs => fits limit v && fitsMembers limit kvs
end

section
variable (limit : DigitLimit)

theorem fitsMembers_iff : ∀ (kvs : List (String × Json)), fitsMembers limit kvs = true ↔
    ∀ p ∈ kvs, p.2.fits limit = true
  | [] => by simp [fitsMembers]
  | (k, v) :: kvs => by rw [fitsMembers, Bool.and_eq_true, fitsMembers_iff kvs, List.forall_mem_cons]

mutual
/-- **Sorting the keys changes no integer.** -/
theorem fits_sortKeys : ∀ (v : Json), v.sortKeys.fits limit = v.fits limit
  | .null | .bool _ | .int _ | .float _ | .str _ => by rw [sortKeys] <;> simp
  | .arr xs => by rw [sortKeys, fits, fits, fitsList_sortKeysList xs]
  | .obj kvs => by
    rw [sortKeys_obj, fits, fits, Bool.eq_iff_iff, ← fitsMembers_sortKeysMembers kvs, fitsMembers_iff, fitsMembers_iff]
    refine forall_congr' fun p => ?_
    rw [(sortedMembers_perm kvs).mem_iff, sortKeysMembers_eq]
theorem fitsList_sortKeysList : ∀ (xs : List Json), fitsList limit (sortKeysList xs) = fitsList limit xs
  | [] => rfl
  | x :: xs => by rw [sortKeysList, fitsList, fitsList, fits_sortKeys x, fitsList_sortKeysList xs]
theorem fitsMembers_sortKeysMembers : ∀ (kvs : List (String × Json)),
    fitsMembers limit (sortKeysMembers kvs) = fitsMembers limit kvs
  | [] => rfl
  | (_, v) :: kvs => by rw [sortKeysMembers, fitsMembers, fitsMembers, fits_sortKeys v, fitsMembers_sortKeysMembers kvs]
end

theorem fits_set (d : Dict) (key : String) (v : Json) (hd : (Json.obj d).fits limit = true) (hv : v.fits limit = true) :
    (Json.obj (d.set key v)).fits limit = true := by
  rw [fits, fitsMembers_iff] at hd ⊢
  intro p hp
  rcases Dict.mem_set hp with h | h
  · rw [h]; exact hv
  · exact hd p h

end

end Json

/-- `json.dumps(v, ensure_ascii=False)`. -/
def dumps (nt : NumText) (L : Layout) (v : Json) : Except PyExc Text :=
  if v.fits nt.maxStrDigits then .ok (jsonText nt L 0 v) else .error .valueError

theorem dumps_of_fits {nt : NumText} {L : Layout} {v : Json} (h : v.fits nt.maxStrDigits = true) :
    dumps nt L v = .ok (jsonText nt L 0 v) := if_pos h

theorem dumps_eq_ok {nt : NumText} {L : Layout} {v : Json} {t : Text} :
    dumps nt L v = .ok t ↔ v.fits nt.maxStrDigits = true ∧ jsonText nt L 0 v = t := by
  rw [dumps]
  split <;> simp_all

/-! ## The characters written -/

/-- A printable ASCII character. -/
def isPrintable (c : Char) : Prop := 0x20 ≤ c.toNat ∧ c.toNat < 0x7f

instance (c : Char) : Decidable (isPrintable c) := inferInstanceAs (Decidable (_ ∧ _))

theorem isPrintable_of_isDigit (c : Char) (h : c.isDigit = true) : isPrintable c := by
  obtain ⟨h1, h2⟩ := Char.isDigit_iff_toNat.1 h
  exact ⟨Nat.le_trans (by decide) h1, Nat.lt_of_le_of_lt h2 (by decide)⟩

theorem isPrintable_digitChar : ∀ n < 16, isPrintable n.digitChar := by decide

theorem toDigits_head (n : Nat) : Nat.toDigits 10 n = ['0'] ∨ ∃ c cs, Nat.toDigits 10 n = c :: cs ∧ c ≠ '0' := by
  induction n using Nat.strong_induction_on with
  | _ n ih =>
    by_cases h : n < 10
    · rw [Nat.toDigits_of_lt_base h]
      by_cases h0 : n = 0
      · subst h0; exact Or.inl rfl
      · exact Or.inr ⟨_, _, rfl, by simpa using h0⟩
    · have hle : 10 ≤ n := by omega
      rw [Nat.toDigits_of_base_le (by decide) hle]
      rcases ih (n / 10) (by omega) with h10 | ⟨c, cs, heq, hc⟩
      · -- the leading digits are those of a positive number
        exfalso
        have := Nat.ofDigitChars_toDigits (b := 10) (n := n / 10) (by decide) (by decide)
        rw [h10] at this
        simp [Nat.ofDigitChars_cons] at this
        omega
      · exact Or.inr ⟨c, cs ++ [(n % 10).digitChar], by rw [heq]; rfl, hc⟩

theorem intLit_wf (i : Int) : (intLit i).WF where
  int_digits _ hc := Nat.isDigit_of_mem_toDigits (by decide) (by decide) hc
  int_head := toDigits_head i.natAbs
  frac_digits _ hc := by cases hc
  exp_mark _ _ h := by cases h
  exp_digits _ _ h := by cases h

theorem isPrintable_numLit (l : NumLit) (hl : l.WF) : ∀ c ∈ l.text, isPrintable c := by
  intro c hc
  simp only [NumLit.text, List.mem_append] at hc
  rcases hc with hc | hc | hc | hc
  · split at hc
    · rw [List.mem_singleton.1 hc]; decide
    · cases hc
  · exact isPrintable_of_isDigit c (hl.int_digits c hc)
  · unfold NumLit.fracText at hc
    split at hc
    · cases hc
    · rcases List.mem_cons.1 hc with rfl | hc
      · decide
      · exact isPrintable_of_isDigit c (hl.frac_digits c hc)
  · cases he : l.exp with
    | none => rw [he] at hc; cases hc
    | some p =>
      obtain ⟨m, ds⟩ := p
      rw [he] at hc
      rcases List.mem_append.1 hc with hc | hc
      · have hall : ∀ m ∈ expMarks, ∀ c ∈ m, isPrintable c := by decide
        exact hall m (hl.exp_mark m ds he) c hc
      · exact isPrintable_of_isDigit c ((hl.exp_digits m ds he).2 c hc)

/-- A lawful writer of floats, for evaluation: the float's bits, written with an exponent of zero. -/
def NumText.bits : NumText where
  maxStrDigits := defaultDigitLimit
  repr x := ⟨false, Nat.toDigits 10 x.val.toNat, [], some (['e'], ['0'])⟩
  ofLiteral l :=
    let b := BitVec.ofNat 64 (Nat.ofDigitChars 10 l.int 0)
    if h : b.extractLsb' 52 11 ≠ 0x7ff#11 then .finite ⟨b, h⟩ else .nan
  repr_wf x :=
    { int_digits := fun _ hc => Nat.isDigit_of_mem_toDigits (by decide) (by decide) hc
      int_head := toDigits_head x.val.toNat
      frac_digits := fun _ hc => (nomatch hc)
      exp_mark := fun m ds h => by cases h; decide
      exp_digits := fun m ds h => by cases h; decide }
  repr_isFloat _ := rfl
  ofLiteral_repr x := by
    have hb : BitVec.ofNat 64 (Nat.ofDigitChars 10 (Nat.toDigits 10 x.val.toNat) 0) = x.val := by
      rw [Nat.ofDigitChars_toDigits (by decide) (by decide), BitVec.ofNat_toNat, BitVec.setWidth_eq]
    simp only [hb]
    rw [dif_pos x.property]

section
variable (P : Char → Prop) (hP : ∀ c, isPrintable c → P c)
include hP

theorem escapeChar_chars (c : Char) (hc : 0x20 ≤ c.toNat → P c) : ∀ d ∈ escapeChar c, P d := by
  intro d hd
  have pr : ∀ (l : Text), (∀ x ∈ l, isPrintable x) → d ∈ l → P d := fun l h hm => hP d (h d hm)
  unfold escapeChar at hd
  split at hd
  · exact pr _ (by decide) hd
  split at hd
  · exact pr _ (by decide) hd
  split at hd
  · exact pr _ (by decide) hd
  split at hd
  · exact pr _ (by decide) hd
  split at hd
  · exact pr _ (by decide) hd
  split at hd
  · exact pr _ (by decide) hd
  split at hd
  · exact pr _ (by decide) hd
  split at hd
  · rename_i hlt
    refine pr _ (fun x hx => ?_) hd
    have h1 := isPrintable_digitChar (c.toNat / 16) (by omega)
    have h2 := isPrintable_digitChar (c.toNat % 16) (by omega)
    have h0 : ∀ x ∈ ['\\', 'u', '0', '0'], isPrintable x := by decide
    rcases List.mem_append.1 (show x ∈ ['\\', 'u', '0', '0'] ++ [_, _] from hx) with hx | hx
    · exact h0 x hx
    · rcases List.mem_cons.1 hx with rfl | hx
      · exact h1
      · rw [List.mem_singleton.1 hx]; exact h2
  · rename_i hge
    rw [List.mem_singleton.1 hd]
    exact hc (by omega)

theorem strText_chars (s : String) (hs : ∀ c ∈ s.toList, 0x20 ≤ c.toNat → P c) : ∀ d ∈ strText s, P d := by
  intro d hd
  have hq : P '"' := hP _ (by decide)
  rcases List.mem_cons.1 hd with rfl | hd
  · exact hq
  · rcases List.mem_append.1 hd with hd | hd
    · obtain ⟨c, hc, hd⟩ := List.mem_flatMap.1 hd
      exact escapeChar_chars P hP c (hs c hc) d hd
    · rw [List.mem_singleton.1 hd]; exact hq

variable (nt : NumText) (L : Layout) (hL : ∀ d, ∀ c ∈ L.opening d ++ L.between d ++ L.closing d, P c)
include hL

omit hP in
theorem layout_chars (d : Nat) : (∀ c ∈ L.opening d, P c) ∧ (∀ c ∈ L.between d, P c) ∧ ∀ c ∈ L.closing d, P c :=
  ⟨fun c h => hL d c (by simp [h]), fun c h => hL d c (by simp [h]), fun c h => hL d c (by simp [h])⟩

mutual
/-- **A document's characters are printable ASCII, the layout's or a string's own**, control characters apart. -/
theorem jsonText_chars : ∀ (v : Json) (d : Nat), v.Strings (fun c => 0x20 ≤ c.toNat → P c) → ∀ c ∈ jsonText nt L d v, P c
  | .null, _, _ => by rw [jsonText]; exact fun c h => hP c ((by decide : ∀ x ∈ "null".toList, isPrintable x) c h)
  | .bool b, _, _ => by
    rw [jsonText]
    cases b
    · exact fun c h => hP c ((by decide : ∀ x ∈ "false".toList, isPrintable x) c h)
    · exact fun c h => hP c ((by decide : ∀ x ∈ "true".toList, isPrintable x) c h)
  | .int i, _, _ => by rw [jsonText]; exact fun c h => hP c (isPrintable_numLit _ (intLit_wf i) c h)
  | .float x, _, _ => by
    rw [jsonText]
    cases x with
    | finite x => exact fun c h => hP c (isPrintable_numLit _ (nt.repr_wf x) c h)
    | inf negative =>
      cases negative
      · exact fun c h => hP c ((by decide : ∀ x ∈ "Infinity".toList, isPrintable x) c h)
      · exact fun c h => hP c ((by decide : ∀ x ∈ "-Infinity".toList, isPrintable x) c h)
    | nan => exact fun c h => hP c ((by decide : ∀ x ∈ "NaN".toList, isPrintable x) c h)
  | .str s, _, hv => by rw [jsonText]; exact strText_chars P hP s hv
  | .arr [], _, _ => by rw [jsonText]; exact fun c h => hP c ((by decide : ∀ x ∈ ['[', ']'], isPrintable x) c h)
  | .arr (x :: xs), d, hv => by
    rw [Strings, StringsList] at hv
    have hx := jsonText_chars x (d + 1) hv.1
    have hxs := elemsText_chars xs d hv.2
    have ho := (layout_chars P L hL d).1
    have hb : P '[' := hP _ (by decide)
    rw [jsonText]
    simp only [List.mem_cons, List.mem_append, or_imp, forall_and, forall_eq]
    exact ⟨hb, ho, hx, hxs⟩
  | .obj [], _, _ => by rw [jsonText]; exact fun c h => hP c ((by decide : ∀ x ∈ ['{', '}'], isPrintable x) c h)
  | .obj ((k, v) :: kvs), d, hv => by
    rw [Strings, StringsMembers] at hv
    have hk := strText_chars P hP k hv.1
    have hx := jsonText_chars v (d + 1) hv.2.1
    have hxs := membersText_chars kvs d hv.2.2
    have ho := (layout_chars P L hL d).1
    have hb : P '{' ∧ P ':' ∧ P ' ' := ⟨hP _ (by decide), hP _ (by decide), hP _ (by decide)⟩
    rw [jsonText]
    simp only [List.mem_cons, List.mem_append, or_imp, forall_and, forall_eq]
    exact ⟨hb.1, ho, hk, hb.2.1, hb.2.2, hx, hxs⟩
theorem elemsText_chars : ∀ (xs : List Json) (d : Nat), StringsList (fun c => 0x20 ≤ c.toNat → P c) xs →
    ∀ c ∈ elemsText nt L d xs, P c
  | [], d, _ => by
    have hc := (layout_chars P L hL d).2.2
    have hb : P ']' := hP _ (by decide)
    rw [elemsText]
    simp only [List.mem_append, List.mem_singleton, or_imp, forall_and, forall_eq]
    exact ⟨hc, hb⟩
  | x :: xs, d, hv => by
    rw [StringsList] at hv
    have hx := jsonText_chars x (d + 1) hv.1
    have hxs := elemsText_chars xs d hv.2
    have ho := (layout_chars P L hL d).2.1
    have hb : P ',' := hP _ (by decide)
    rw [elemsText]
    simp only [List.mem_cons, List.mem_append, or_imp, forall_and, forall_eq]
    exact ⟨hb, ho, hx, hxs⟩
theorem membersText_chars : ∀ (kvs : List (String × Json)) (d : Nat),
    StringsMembers (fun c => 0x20 ≤ c.toNat → P c) kvs → ∀ c ∈ membersText nt L d kvs, P c
  | [], d, _ => by
    have hc := (layout_chars P L hL d).2.2
    have hb : P '}' := hP _ (by decide)
    rw [membersText]
    simp only [List.mem_append, List.mem_singleton, or_imp, forall_and, forall_eq]
    exact ⟨hc, hb⟩
  | (k, v) :: kvs, d, hv => by
    rw [StringsMembers] at hv
    have hk := strText_chars P hP k hv.1
    have hx := jsonText_chars v (d + 1) hv.2.1
    have hxs := membersText_chars kvs d hv.2.2
    have ho := (layout_chars P L hL d).2.1
    have hb : P ',' ∧ P ':' ∧ P ' ' := ⟨hP _ (by decide), hP _ (by decide), hP _ (by decide)⟩
    rw [membersText]
    simp only [List.mem_cons, List.mem_append, or_imp, forall_and, forall_eq]
    exact ⟨hb.1, ho, hk, hb.2.1, hb.2.2, hx, hxs⟩
end

end

/-! ## What a document never holds -/

/-- **A document written by `json.dumps` holds no carriage return**: a string's own are escaped. -/
theorem jsonText_no_cr (nt : NumText) (L : Layout) (hL : ∀ d, '\r' ∉ L.opening d ++ L.between d ++ L.closing d)
    (d : Nat) (v : Json) : '\r' ∉ jsonText nt L d v := by
  intro hm
  refine jsonText_chars (fun c => c ≠ '\r') ?_ nt L ?_ v d (strings_of_forall ?_ v) '\r' hm rfl
  · rintro _ ⟨h, -⟩ rfl; exact absurd h (by decide)
  · rintro d' c hc rfl; exact hL d' hc
  · rintro _ h rfl; exact absurd h (by decide)

theorem compact_no_cr (d : Nat) :
    '\r' ∉ Layout.compact.opening d ++ Layout.compact.between d ++ Layout.compact.closing d := by
  simp [Layout.compact]

theorem indented_no_cr (d : Nat) :
    '\r' ∉ Layout.indented.opening d ++ Layout.indented.between d ++ Layout.indented.closing d := by
  simp [Layout.indented, newlineIndent]

/-- A character `str.splitlines` breaks at although JSON writes it raw. -/
def isUnicodeBreak (c : Char) : Prop := c = '\u0085' ∨ c = '\u2028' ∨ c = '\u2029'

instance (c : Char) : Decidable (isUnicodeBreak c) := inferInstanceAs (Decidable (_ ∨ _))

/-- A text `str.splitlines` finds no boundary in once JSON has escaped it. -/
def OneLine (s : String) : Prop := ∀ c ∈ s.toList, ¬ isUnicodeBreak c

instance (s : String) : Decidable (OneLine s) := inferInstanceAs (Decidable (∀ c ∈ s.toList, _))

theorem Json.strings_strs {P : Char → Prop} (xs : List String) (h : ∀ x ∈ xs, ∀ c ∈ x.toList, P c) :
    (Json.strs xs).Strings P := by
  rw [Json.strs, Json.Strings]
  induction xs with
  | nil => trivial
  | cons x xs ih =>
    rw [List.map_cons, Json.StringsList, Json.Strings]
    exact ⟨h x List.mem_cons_self, ih (fun y hy => h y (List.mem_cons_of_mem _ hy))⟩

theorem isLineBreak_iff (c : Char) : isLineBreak c = true ↔ c.toNat ∈ [0x0a, 0x0d, 0x0b, 0x0c, 0x1c, 0x1d, 0x1e] ∨
    isUnicodeBreak c := by
  have key : ∀ d : Char, c = d ↔ c.toNat = d.toNat := fun d => Char.toNat_inj.symm
  simp only [isLineBreak, isUnicodeBreak, List.mem_cons, List.not_mem_nil, or_false, decide_eq_true_eq, key]
  simp only [Char.reduceToNat]
  tauto

/-- A character that JSON writes raw is a boundary only if it is a Unicode one. -/
theorem isLineBreak_of_ge (c : Char) (h1 : 0x20 ≤ c.toNat) (h2 : ¬ isUnicodeBreak c) : isLineBreak c = false := by
  rw [Bool.eq_false_iff, Ne, isLineBreak_iff]
  rintro (h | h)
  · simp only [List.mem_cons, List.not_mem_nil, or_false] at h; omega
  · exact h2 h

theorem isLineBreak_of_isPrintable (c : Char) (h : isPrintable c) : isLineBreak c = false := by
  refine isLineBreak_of_ge c h.1 ?_
  rintro (rfl | rfl | rfl) <;> exact absurd h.2 (by decide)

/-- **A one-line document whose strings hold no Unicode line separator is one line.** -/
theorem jsonText_no_break (nt : NumText) (d : Nat) (v : Json) (hv : v.Strings (fun c => ¬ isUnicodeBreak c)) :
    ∀ c ∈ jsonText nt .compact d v, isLineBreak c = false := by
  refine jsonText_chars _ isLineBreak_of_isPrintable nt .compact ?_ v d
    (hv.mono (fun c h h20 => isLineBreak_of_ge c h20 h))
  · intro d' c hc
    simp only [Layout.compact, List.append_nil, List.nil_append, List.mem_singleton] at hc
    subst hc; decide

/-! ## Strings seen in their document -/

section
variable (nt : NumText) (L : Layout) {P : Char → Prop}

/-- A character JSON writes raw is in the text of its string. -/
theorem strText_raw (hraw : ∀ c, ¬ P c → escapeChar c = [c]) (s : String) (h : ∀ c ∈ strText s, P c) : ∀ c ∈ s.toList, P c := by
  intro c hc
  by_contra hnot
  refine hnot (h c ?_)
  refine List.mem_cons_of_mem _ (List.mem_append_left _ (List.mem_flatMap.2 ⟨c, hc, ?_⟩))
  rw [hraw c hnot]
  exact List.mem_singleton_self c

mutual
/-- **What holds of a document's characters holds of its strings'**, if JSON writes raw what it does not hold of. -/
theorem strings_of_jsonText (hraw : ∀ c, ¬ P c → escapeChar c = [c]) : ∀ (v : Json) (d : Nat),
    (∀ c ∈ jsonText nt L d v, P c) → v.Strings P
  | .null, _, _ | .bool _, _, _ | .int _, _, _ | .float _, _, _ => by rw [Strings] <;> simp
  | .str s, d, h => by
    rw [jsonText] at h
    rw [Strings]
    exact strText_raw hraw s h
  | .arr [], _, _ => by rw [Strings]; trivial
  | .arr (x :: xs), d, h => by
    rw [jsonText] at h
    simp only [List.mem_cons, List.mem_append] at h
    rw [Strings]
    exact ⟨strings_of_jsonText hraw x (d + 1) (fun c hc => h c (by tauto)),
      strings_of_elemsText hraw xs d (fun c hc => h c (by tauto))⟩
  | .obj [], _, _ => by rw [Strings]; trivial
  | .obj ((k, v) :: kvs), d, h => by
    rw [jsonText] at h
    simp only [List.mem_cons, List.mem_append] at h
    rw [Strings]
    exact ⟨strText_raw hraw k (fun c hc => h c (by tauto)),
      strings_of_jsonText hraw v (d + 1) (fun c hc => h c (by tauto)),
      strings_of_membersText hraw kvs d (fun c hc => h c (by tauto))⟩
theorem strings_of_elemsText (hraw : ∀ c, ¬ P c → escapeChar c = [c]) : ∀ (xs : List Json) (d : Nat),
    (∀ c ∈ elemsText nt L d xs, P c) → StringsList P xs
  | [], _, _ => trivial
  | x :: xs, d, h => by
    rw [elemsText] at h
    simp only [List.mem_cons, List.mem_append] at h
    exact ⟨strings_of_jsonText hraw x (d + 1) (fun c hc => h c (by tauto)),
      strings_of_elemsText hraw xs d (fun c hc => h c (by tauto))⟩
theorem strings_of_membersText (hraw : ∀ c, ¬ P c → escapeChar c = [c]) : ∀ (kvs : List (String × Json)) (d : Nat),
    (∀ c ∈ membersText nt L d kvs, P c) → StringsMembers P kvs
  | [], _, _ => trivial
  | (k, v) :: kvs, d, h => by
    rw [membersText] at h
    simp only [List.mem_cons, List.mem_append] at h
    exact ⟨strText_raw hraw k (fun c hc => h c (by tauto)),
      strings_of_jsonText hraw v (d + 1) (fun c hc => h c (by tauto)),
      strings_of_membersText hraw kvs d (fun c hc => h c (by tauto))⟩
end

end

end Py
