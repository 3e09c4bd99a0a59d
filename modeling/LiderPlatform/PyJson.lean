import Mathlib.Data.Rat.Cast.Defs
import Mathlib.Data.List.Nodup
import Mathlib.Data.List.Perm.Subperm
import Mathlib.Algebra.Order.Field.Rat
/-!
# PyJson — the values a JSON document carries, as Python holds them

`json.loads` returns a tree of `None`, booleans, integers, floats, strings, lists and dictionaries.  A dictionary is
its list of items in insertion order; that its keys are distinct is `Json.WF`, which every document read has.  Python's
`==` is `pyEq`: a dictionary's order does not count, and a boolean, an integer and a float are equal when their numbers
are (`True == 1`, `12.0 == 12`).
-/
namespace Py

/-- The exceptions the modelled Python code raises or catches. -/
inductive PyExc where
  | jsonDecodeError
  | unicodeDecodeError
  | valueError
  | typeError
  | attributeError
  | keyError
  | permissionError
  | fileNotFoundError
  | runtimeError (message : String)
deriving DecidableEq, Repr

/-- The name `str(exc)` is shown under; the position a decoder adds to it is not modelled. -/
def PyExc.text : PyExc → String
  | .jsonDecodeError => "JSONDecodeError"
  | .unicodeDecodeError => "UnicodeDecodeError"
  | .valueError => "ValueError"
  | .typeError => "TypeError"
  | .attributeError => "AttributeError"
  | .keyError => "KeyError"
  | .permissionError => "PermissionError"
  | .fileNotFoundError => "FileNotFoundError"
  | .runtimeError message => message

/-- A block that returns went through its first call. -/
theorem bind_eq_ok {ε α β : Type} {x : Except ε α} {f : α → Except ε β} {b : β} (h : (x >>= f) = .ok b) :
    ∃ a, x = .ok a ∧ f a = .ok b := by
  cases x with
  | error e => cases h
  | ok a => exact ⟨a, rfl, h⟩

@[simp] theorem except_map_ok {ε α β : Type} (f : α → β) (a : α) : (Except.ok a : Except ε α).map f = .ok (f a) := rfl

theorem except_map_eq_ok {ε α β : Type} {f : α → β} {x : Except ε α} {b : β} :
    x.map f = .ok b ↔ ∃ a, x = .ok a ∧ f a = b := by
  cases x with
  | error e => exact ⟨fun h => (nomatch h), fun ⟨_, h, _⟩ => (nomatch h)⟩
  | ok a => simp

/-- A finite binary64 value by its bits: the exponent field is not all ones. -/
abbrev FiniteBits := {b : BitVec 64 // b.extractLsb' 52 11 ≠ 0x7ff#11}

/-- The number a finite binary64 value is. -/
def FiniteBits.toRat (x : FiniteBits) : ℚ :=
  let fraction := (x.val.extractLsb' 0 52).toNat
  let exponent := (x.val.extractLsb' 52 11).toNat
  let mantissa : ℚ := if exponent = 0 then fraction else 2 ^ 52 + fraction
  let magnitude := mantissa * 2 ^ (max exponent 1) / 2 ^ 1075
  if x.val.msb then -magnitude else magnitude

/-- A Python float. -/
inductive PyFloat where
  | finite (x : FiniteBits)
  | inf (negative : Bool)
  | nan
deriving DecidableEq

inductive Json where
  | null
  | bool (b : Bool)
  | int (i : Int)
  | float (x : PyFloat)
  | str (s : String)
  | arr (xs : List Json)
  | obj (kvs : List (String × Json))

abbrev Dict := List (String × Json)

namespace Dict

/-- `key in d`. -/
def has (d : Dict) (key : String) : Bool := (d.lookup key).isSome

/-- `d.get(key)`: `None` when the key is absent. -/
def get (d : Dict) (key : String) : Json := (d.lookup key).getD .null

/-- `d[key] = v`: a key already there keeps its place. -/
def set : Dict → String → Json → Dict
  | [], key, v => [(key, v)]
  | (k, w) :: d, key, v => if k = key then (k, v) :: d else (k, w) :: set d key v

/-- `d.setdefault(key, v)`. -/
def setdefault (d : Dict) (key : String) (v : Json) : Dict := if d.has key then d else d.set key v

def keys (d : Dict) : List String := d.map Prod.fst

@[simp] theorem get_cons (k : String) (v : Json) (d : Dict) (key : String) :
    Dict.get ((k, v) :: d) key = if key = k then v else Dict.get d key := by
  unfold Dict.get
  by_cases h : key = k
  · subst h; simp
  · have : (key == k) = false := by simpa using h
    rw [if_neg h, List.lookup_cons, this]

@[simp] theorem get_nil (key : String) : Dict.get [] key = .null := rfl

@[simp] theorem has_cons (k : String) (v : Json) (d : Dict) (key : String) :
    Dict.has ((k, v) :: d) key = (decide (key = k) || Dict.has d key) := by
  unfold Dict.has
  by_cases h : key = k
  · subst h; simp
  · have : (key == k) = false := by simpa using h
    simp [List.lookup_cons, this, h]

@[simp] theorem has_nil (key : String) : Dict.has [] key = false := rfl

theorem has_of_get {d : Dict} {key : String} {v : Json} (h : d.get key = v) (hv : v ≠ .null) : d.has key = true := by
  unfold Dict.get at h
  unfold Dict.has
  cases hl : d.lookup key with
  | none => rw [hl] at h; exact absurd h.symm hv
  | some w => rfl

theorem has_iff_mem_keys (key : String) : ∀ (d : Dict), d.has key = true ↔ key ∈ d.keys
  | [] => by simp [keys]
  | (k, v) :: d => by
    rw [has_cons, Bool.or_eq_true, decide_eq_true_eq, has_iff_mem_keys key d]
    simp [keys]

theorem lookup_eq_some_of_mem {β : Type} : ∀ (d : List (String × β)), (d.map Prod.fst).Nodup →
    ∀ {k : String} {v : β}, (k, v) ∈ d → d.lookup k = some v
  | [], _, _, _, h => by cases h
  | (k', w) :: d, hnd, k, v, h => by
    simp only [List.map_cons, List.nodup_cons] at hnd
    rcases List.mem_cons.1 h with heq | hm
    · obtain ⟨rfl, rfl⟩ := Prod.mk.inj heq
      simp
    · have hne : k ≠ k' := by
        rintro rfl
        exact hnd.1 (List.mem_map.2 ⟨(k, v), hm, rfl⟩)
      have : (k == k') = false := by simpa using hne
      rw [List.lookup_cons, this]
      exact lookup_eq_some_of_mem d hnd.2 hm

theorem mem_of_lookup_eq_some {β : Type} : ∀ (d : List (String × β)) {k : String} {v : β},
    d.lookup k = some v → (k, v) ∈ d
  | [], k, v, h => by cases h
  | (k', w) :: d, k, v, h => by
    rw [List.lookup_cons] at h
    by_cases hk : k = k'
    · subst hk
      simp only [beq_self_eq_true] at h
      cases h
      exact List.mem_cons_self
    · have : (k == k') = false := by simpa using hk
      rw [this] at h
      exact List.mem_cons_of_mem _ (mem_of_lookup_eq_some d h)

theorem keys_set_of_not_mem : ∀ (d : Dict) (key : String) (v : Json), key ∉ d.keys → d.set key v = d ++ [(key, v)]
  | [], _, _, _ => rfl
  | (k, w) :: d, key, v, h => by
    simp only [keys, List.map_cons, List.mem_cons, not_or] at h
    rw [set, if_neg (Ne.symm h.1), keys_set_of_not_mem d key v h.2, List.cons_append]

theorem get_set (key : String) (v : Json) (k : String) : ∀ (d : Dict), (d.set key v).get k = if k = key then v else d.get k
  | [] => by rw [set, get_cons]
  | (k', w) :: d => by
    by_cases h : k' = key
    · subst h
      rw [set, if_pos rfl, get_cons, get_cons]
      split <;> rfl
    · rw [set, if_neg h, get_cons, get_cons, get_set key v k d]
      by_cases hk : k = k'
      · rw [if_pos hk, if_pos hk, if_neg (hk ▸ h)]
      · rw [if_neg hk, if_neg hk]

theorem get_map (g : String → Json) (name : String) : ∀ (names : List String),
    Dict.get (names.map (fun n => (n, g n))) name = if name ∈ names then g name else .null
  | [] => rfl
  | n :: names => by
    rw [List.map_cons, get_cons, get_map g name names]
    by_cases h : name = n
    · rw [if_pos h, if_pos (h ▸ List.mem_cons_self), h]
    · simp [h]

theorem has_map (g : String → Json) (name : String) : ∀ (names : List String),
    Dict.has (names.map (fun n => (n, g n))) name = decide (name ∈ names)
  | [] => rfl
  | n :: names => by
    rw [List.map_cons, has_cons, has_map g name names]
    simp

theorem keys_cons (k : String) (v : Json) (d : Dict) : keys ((k, v) :: d) = k :: d.keys := rfl

theorem keys_set (key : String) (v : Json) : ∀ (d : Dict),
    (d.set key v).keys = if key ∈ d.keys then d.keys else d.keys ++ [key]
  | [] => by simp [set, keys]
  | (k, w) :: d => by
    have ih := keys_set key v d
    by_cases h : k = key
    · subst h
      rw [set, if_pos rfl, keys_cons, keys_cons, if_pos List.mem_cons_self]
    · rw [set, if_neg h, keys_cons, keys_cons, ih]
      by_cases hk : key ∈ keys d
      · rw [if_pos hk, if_pos (List.mem_cons_of_mem _ hk)]
      · rw [if_neg hk, if_neg (fun hm => (List.mem_cons.1 hm).elim (Ne.symm h) hk), List.cons_append]

theorem mem_set {key : String} {v : Json} {p : String × Json} : ∀ {d : Dict}, p ∈ d.set key v → p.2 = v ∨ p ∈ d
  | [], h => Or.inl (by rw [List.mem_singleton.1 h])
  | (k, w) :: d, h => by
    by_cases hk : k = key
    · rw [set, if_pos hk] at h
      rcases List.mem_cons.1 h with rfl | h
      · exact Or.inl rfl
      · exact Or.inr (List.mem_cons_of_mem _ h)
    · rw [set, if_neg hk] at h
      rcases List.mem_cons.1 h with rfl | h
      · exact Or.inr List.mem_cons_self
      · exact (mem_set h).imp_right (List.mem_cons_of_mem _)

end Dict

namespace Json

/-! ## Well-formed documents -/

mutual
/-- Every dictionary in the value has distinct keys. -/
def WF : Json → Prop
  | .arr xs => WFList xs
  | .obj kvs => (Dict.keys kvs).Nodup ∧ WFMembers kvs
  | _ => True
def WFList : List Json → Prop
  | [] => True
  | x :: xs => x.WF ∧ WFList xs
def WFMembers : List (String × Json) → Prop
  | [] => True
  | (_, v) :: kvs => v.WF ∧ WFMembers kvs
end

theorem wfList_iff : ∀ (xs : List Json), WFList xs ↔ ∀ x ∈ xs, x.WF
  | [] => by simp [WFList]
  | x :: xs => by rw [WFList, wfList_iff xs]; simp

theorem wfMembers_iff : ∀ (kvs : List (String × Json)), WFMembers kvs ↔ ∀ p ∈ kvs, p.2.WF
  | [] => by simp [WFMembers]
  | (k, v) :: kvs => by rw [WFMembers, wfMembers_iff kvs]; simp

/-! ## Equality and truth -/

/-- The numbers Python compares: booleans, integers and floats on one scale. -/
inductive Num where
  | fin (q : ℚ)
  | inf (negative : Bool)
deriving DecidableEq

/-- The number a value is to `==`; `nan` is equal to nothing. -/
def num? : Json → Option Num
  | .bool b => some (.fin (if b then 1 else 0))
  | .int i => some (.fin i)
  | .float (.finite x) => some (.fin x.toRat)
  | .float (.inf negative) => some (.inf negative)
  | _ => none

def numEq (v w : Json) : Bool :=
  match v.num?, w.num? with
  | some x, some y => decide (x = y)
  | _, _ => false

mutual
/-- Python's `==` on JSON values. -/
def pyEq : Json → Json → Bool
  | .null, .null => true
  | .str s, .str t => decide (s = t)
  | .arr xs, .arr ys => pyEqList xs ys
  | .obj kvs, .obj kvs' => decide (kvs.length = kvs'.length) && pyEqMembers kvs kvs'
  | v, w => numEq v w
def pyEqList : List Json → List Json → Bool
  | [], [] => true
  | x :: xs, y :: ys => pyEq x y && pyEqList xs ys
  | _, _ => false
/-- Every item of the first dictionary has an equal one of the same key in the second. -/
def pyEqMembers : List (String × Json) → List (String × Json) → Bool
  | [], _ => true
  | (k, v) :: kvs, kvs' =>
    (match kvs'.lookup k with
      | none => false
      | some w => pyEq v w) && pyEqMembers kvs kvs'
end

/-- `bool(v)`. -/
def truthy : Json → Bool
  | .null => false
  | .bool b => b
  | .int i => decide (i ≠ 0)
  | .float (.finite x) => decide (x.toRat ≠ 0)
  | .float _ => true
  | .str s => decide (s ≠ "")
  | .arr xs => !xs.isEmpty
  | .obj kvs => !kvs.isEmpty

/-- `v is None`. -/
def isNone : Json → Bool
  | .null => true
  | _ => false

/-- `v or w`. -/
def orElse (v w : Json) : Json := if v.truthy then v else w

/-- A list of texts. -/
def strs (xs : List String) : Json := .arr (xs.map .str)

theorem numEq_comm (v w : Json) : numEq v w = numEq w v := by
  unfold numEq
  cases v.num? <;> cases w.num? <;> simp [eq_comm]

@[simp] theorem pyEq_str (s t : String) : pyEq (.str s) (.str t) = decide (s = t) := rfl

@[simp] theorem pyEq_int (i j : Int) : pyEq (.int i) (.int j) = decide (i = j) := by
  simp [pyEq, numEq, num?]

@[simp] theorem pyEq_str_iff (v : Json) (s : String) : pyEq v (.str s) = true ↔ v = .str s := by
  cases v <;> simp [pyEq, numEq, num?]

@[simp] theorem pyEq_null_iff (v : Json) : pyEq v .null = true ↔ v = .null := by
  cases v <;> simp [pyEq, numEq, num?]

theorem pyEqMembers_iff (kvs' : List (String × Json)) : ∀ (kvs : List (String × Json)),
    pyEqMembers kvs kvs' = true ↔ ∀ p ∈ kvs, ∃ w, kvs'.lookup p.1 = some w ∧ pyEq p.2 w = true
  | [] => by simp [pyEqMembers]
  | (k, v) :: kvs => by
    rw [pyEqMembers, Bool.and_eq_true, pyEqMembers_iff kvs' kvs]
    simp only [List.mem_cons, forall_eq_or_imp]
    refine and_congr ?_ Iff.rfl
    cases kvs'.lookup k with
    | none => simp
    | some w => simp

/-- Two dictionaries of one size whose items agree from the left agree from the right. -/
theorem pyEqMembers_symm (kvs kvs' : List (String × Json)) (hnd : (Dict.keys kvs).Nodup)
    (hnd' : (Dict.keys kvs').Nodup) (hlen : kvs.length = kvs'.length)
    (hsym : ∀ p ∈ kvs, ∀ q ∈ kvs', pyEq p.2 q.2 = pyEq q.2 p.2) (h : pyEqMembers kvs kvs' = true) :
    pyEqMembers kvs' kvs = true := by
  rw [pyEqMembers_iff] at h ⊢
  have hsub : Dict.keys kvs ⊆ Dict.keys kvs' := fun k hk => by
    obtain ⟨p, hp, rfl⟩ := List.mem_map.1 hk
    obtain ⟨w, hw, -⟩ := h p hp
    exact List.mem_map.2 ⟨(p.1, w), Dict.mem_of_lookup_eq_some kvs' hw, rfl⟩
  have hperm : (Dict.keys kvs).Perm (Dict.keys kvs') :=
    (hnd.subperm hsub).perm_of_length_le (by simp [Dict.keys, hlen])
  rintro ⟨k, w⟩ hp
  have hk : k ∈ Dict.keys kvs := hperm.mem_iff.2 (List.mem_map.2 ⟨(k, w), hp, rfl⟩)
  obtain ⟨⟨k', v⟩, hv, rfl⟩ := List.mem_map.1 hk
  obtain ⟨w', hw', heq⟩ := h (k', v) hv
  have hww : w' = w := by
    have := Dict.lookup_eq_some_of_mem kvs' hnd' hp
    exact Option.some.inj (hw'.symm.trans this)
  subst hww
  exact ⟨v, Dict.lookup_eq_some_of_mem kvs hnd hv, by rw [← hsym _ hv _ hp]; exact heq⟩

mutual
/-- **Python's `==` is symmetric** on well-formed values. -/
theorem pyEq_comm : ∀ (v w : Json), v.WF → w.WF → pyEq v w = pyEq w v
  | .null, w, _, _ => by cases w <;> simp [pyEq, numEq, num?]
  | .bool b, w, _, _ => by cases w <;> simp only [pyEq] <;> exact numEq_comm _ _
  | .int i, w, _, _ => by cases w <;> simp only [pyEq] <;> exact numEq_comm _ _
  | .float x, w, _, _ => by cases w <;> simp only [pyEq] <;> exact numEq_comm _ _
  | .str s, w, _, _ => by cases w <;> simp [pyEq, numEq, num?, eq_comm]
  | .arr xs, w, hv, hw => by
    cases w with
    | arr ys => simp only [WF] at hv hw; simp only [pyEq]; exact pyEqList_comm xs ys hv hw
    | _ => simp [pyEq, numEq, num?]
  | .obj kvs, w, hv, hw => by
    cases w with
    | obj kvs' =>
      simp only [WF] at hv hw
      have hsym := pyEq_comm_members kvs hv.2
      by_cases hlen : kvs.length = kvs'.length
      · simp only [pyEq, hlen, decide_true, Bool.true_and]
        have hl : ∀ p ∈ kvs, ∀ q ∈ kvs', pyEq p.2 q.2 = pyEq q.2 p.2 := fun p hp q hq =>
          hsym p hp q.2 ((wfMembers_iff kvs').1 hw.2 q hq)
        exact Bool.eq_iff_iff.2 ⟨pyEqMembers_symm kvs kvs' hv.1 hw.1 hlen hl,
          pyEqMembers_symm kvs' kvs hw.1 hv.1 hlen.symm (fun q hq p hp => (hl p hp q hq).symm)⟩
      · simp [pyEq, hlen, Ne.symm hlen]
    | _ => simp [pyEq, numEq, num?]
theorem pyEqList_comm : ∀ (xs ys : List Json), WFList xs → WFList ys → pyEqList xs ys = pyEqList ys xs
  | [], ys, _, _ => by cases ys <;> rfl
  | x :: xs, [], _, _ => rfl
  | x :: xs, y :: ys, hv, hw => by
    rw [WFList] at hv hw
    rw [pyEqList, pyEqList, pyEq_comm x y hv.1 hw.1, pyEqList_comm xs ys hv.2 hw.2]
theorem pyEq_comm_members : ∀ (kvs : List (String × Json)), WFMembers kvs →
    ∀ p ∈ kvs, ∀ w : Json, w.WF → pyEq p.2 w = pyEq w p.2
  | [], _, p, hp, _, _ => by cases hp
  | (k, v) :: kvs, h, p, hp, w, hw => by
    rw [WFMembers] at h
    rcases List.mem_cons.1 hp with rfl | hp
    · exact pyEq_comm v w h.1 hw
    · exact pyEq_comm_members kvs h.2 p hp w hw
end

end Json

/-! ## Lists of texts -/

theorem Json.pyEqList_strs : ∀ (xs ys : List String), Json.pyEqList (xs.map .str) (ys.map .str) = decide (xs = ys)
  | [], [] => rfl
  | [], _ :: _ => rfl
  | _ :: _, [] => rfl
  | x :: xs, y :: ys => by
    rw [List.map_cons, List.map_cons, Json.pyEqList, Json.pyEq_str, pyEqList_strs xs ys]
    simp

theorem Json.pyEq_strs (xs ys : List String) : (Json.strs xs).pyEq (Json.strs ys) = decide (xs = ys) := by
  rw [Json.strs, Json.strs, Json.pyEq, pyEqList_strs]

theorem Json.wf_strs (xs : List String) : (Json.strs xs).WF := by
  rw [Json.strs, Json.WF, Json.wfList_iff]
  intro v hv
  obtain ⟨x, -, rfl⟩ := List.mem_map.1 hv
  trivial

/-! ## Dictionaries and documents -/

theorem Json.wf_set (d : Dict) (key : String) (v : Json) (hd : (Json.obj d).WF) (hv : v.WF) :
    (Json.obj (d.set key v)).WF := by
  rw [Json.WF, wfMembers_iff] at hd ⊢
  refine ⟨?_, fun p hp => ?_⟩
  · rw [Dict.keys_set]
    split
    · exact hd.1
    · rename_i hk
      exact List.nodup_append.2 ⟨hd.1, List.nodup_singleton key, fun a ha b hb hab => by
        rw [List.mem_singleton] at hb
        exact hk (by rwa [← hb, ← hab])⟩
  · rcases Dict.mem_set hp with h | h
    · rw [h]; exact hv
    · exact hd.2 p h

theorem Json.wf_setdefault (d : Dict) (key : String) (v : Json) (hd : (Json.obj d).WF) (hv : v.WF) :
    (Json.obj (d.setdefault key v)).WF := by
  unfold Dict.setdefault
  split
  · exact hd
  · exact Json.wf_set d key v hd hv

/-- A value a document carries: its dictionaries have distinct keys. -/
abbrev Document := {v : Json // v.WF}

/-- A dictionary a document carries. -/
abbrev Record := {d : Dict // (Json.obj d).WF}

def Record.empty : Record := ⟨[], List.nodup_nil, trivial⟩

theorem Json.wf_get (d : Record) (key : String) : (d.val.get key).WF := by
  unfold Dict.get
  cases h : d.val.lookup key with
  | none => trivial
  | some v =>
    have hd := d.property
    rw [Json.WF, Json.wfMembers_iff] at hd
    exact hd.2 _ (Dict.mem_of_lookup_eq_some _ h)

/-- `d.get(key)` of a dictionary read from a document. -/
def Record.get (d : Record) (key : String) : Document := ⟨d.val.get key, Json.wf_get d key⟩

end Py
