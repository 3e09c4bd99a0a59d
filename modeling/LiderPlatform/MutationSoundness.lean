import LiderPlatform.DirectoryMutations
import Mathlib.Logic.Relation
/-!
# MutationSoundness — what the evidence of the adapter vouches for, in every interleaving

Clients mutate the directory at once, each reading the evidence and later writing it back, while copies are removed and
the directories allow what they like.  An entry of a copy is the complete record of one postcondition that a poll showed
(`Justified`); so a capability is never verified without one, and the two readers of the evidence agree.
-/
namespace Py

theorem Record.get_set (d : Record) (key : String) (v : Document) (k : String) :
    (d.set key v).val.get k = if k = key then v.val else d.val.get k :=
  Dict.get_set ..

/-- `update` leaves the other keys. -/
theorem Record.get_update_of_not_mem {k : String} : ∀ (items : List (String × Document)) (d : Record),
    k ∉ items.map Prod.fst → (d.update items).val.get k = d.val.get k
  | [], _, _ => rfl
  | p :: items, d, h => by
    simp only [List.map_cons, List.mem_cons, not_or] at h
    show ((d.set p.1 p.2).update items).val.get k = _
    rw [get_update_of_not_mem items _ h.2, Record.get_set, if_neg h.1]

/-- `update` sets every key, when no key comes twice. -/
theorem Record.get_update_of_mem {p : String × Document} : ∀ (items : List (String × Document)) (d : Record),
    (items.map Prod.fst).Nodup → p ∈ items → (d.update items).val.get p.1 = p.2.val
  | [], _, _, h => nomatch h
  | q :: items, d, hnd, h => by
    simp only [List.map_cons, List.nodup_cons] at hnd
    show ((d.set q.1 q.2).update items).val.get p.1 = _
    rcases List.mem_cons.1 h with rfl | h
    · rw [get_update_of_not_mem items _ hnd.1, Record.get_set, if_pos rfl]
    · exact get_update_of_mem items _ hnd.2 h

end Py

namespace Lider.DirectoryMutations

open Py Replicas

/-! ## One record -/

/-- The entry is the complete record of the verification. -/
structure Records (v : Verification) (entry : Dict) : Prop where
  verified : entry.get "runtimeVerified" = .bool true
  mode : entry.get "mode" = .str v.mode
  subjectDn : ∀ dn, v.subjectDn = some dn → entry.get "subjectDn" = .str dn
  groupDn : ∀ dn, v.groupDn = some dn → entry.get "groupDn" = .str dn
  extra : ∀ p ∈ v.extra, entry.get p.1 = p.2.val

theorem get_setOptional_of_ne {key k : String} (h : k ≠ key) (v : Option String) (d : Record) :
    (setOptional key v d).val.get k = d.val.get k := by
  cases v with
  | none => rfl
  | some s => rw [setOptional, Record.get_set, if_neg h]

theorem get_setOptional (key s : String) (d : Record) : (setOptional key (some s) d).val.get key = .str s := by
  rw [setOptional, Record.get_set, if_pos rfl]
  rfl

/-- **What is written of a step is its complete record**, whatever stood there before. -/
theorem stepPayload_records (v : Verification) (before : Record) : Records v (stepPayload v before).val := by
  have hfresh : ∀ k ∈ ["runtimeVerified", "mode", "subjectDn", "groupDn"], k ∉ v.extra.map Prod.fst := by
    intro k hk hmem
    obtain ⟨p, hp, rfl⟩ := List.mem_map.1 hmem
    exact v.extra_fresh p hp hk
  constructor
  · rw [stepPayload, Record.get_update_of_not_mem _ _ (hfresh _ (by simp)), get_setOptional_of_ne (by decide),
      get_setOptional_of_ne (by decide), Record.get_set, if_neg (by decide), Record.get_set, if_pos rfl]
  · rw [stepPayload, Record.get_update_of_not_mem _ _ (hfresh _ (by simp)), get_setOptional_of_ne (by decide),
      get_setOptional_of_ne (by decide), Record.get_set, if_pos rfl]
    rfl
  · intro dn hdn
    rw [stepPayload, Record.get_update_of_not_mem _ _ (hfresh _ (by simp)), get_setOptional_of_ne (by decide), hdn,
      get_setOptional]
  · intro dn hdn
    rw [stepPayload, Record.get_update_of_not_mem _ _ (hfresh _ (by simp)), hdn, get_setOptional]
  · intro p hp
    exact Record.get_update_of_mem _ _ v.extra_nodup hp

theorem Records.marked {v : Verification} {entry : Dict} (h : Records v entry) : markedVerified (.obj entry) = true := by
  simp only [markedVerified, h.verified]

theorem Records.hasMode {v : Verification} {entry : Dict} (h : Records v entry) (mode : String) :
    hasMode mode (.obj entry) = decide (v.mode = mode) := by
  simp only [Lider.hasMode, h.mode]
  rfl

/-! ## Documents -/

/-- Every step that a document names is the record of a postcondition shown. -/
structure Justified (proofs : List Proof) (steps : Dict) : Prop where
  proven : ∀ stepName, steps.has stepName = true → ∃ p ∈ proofs, p.verification.stepName = stepName ∧
    ∃ entry, steps.get stepName = .obj entry ∧ Records p.verification entry

/-- The document's steps can be read, and are justified. -/
def JustifiedRecord (proofs : List Proof) (r : Record) : Prop :=
  ∃ steps, verifiedSteps (some (.obj r.val)) = .ok steps ∧ Justified proofs steps

theorem Justified.mono {proofs more : List Proof} {steps : Dict} (h : Justified proofs steps) :
    Justified (proofs ++ more) steps :=
  ⟨fun name hname => (h.proven name hname).imp (fun _ hp => ⟨List.mem_append_left _ hp.1, hp.2⟩)⟩

theorem JustifiedRecord.mono {proofs more : List Proof} {r : Record} (h : JustifiedRecord proofs r) :
    JustifiedRecord (proofs ++ more) r :=
  h.imp (fun _ hs => ⟨hs.1, hs.2.mono⟩)

theorem justified_empty (proofs : List Proof) : JustifiedRecord proofs .empty := ⟨[], rfl, ⟨fun _ h => nomatch h⟩⟩

theorem has_set (d : Dict) (key : String) (v : Json) (k : String) : (d.set key v).has k = (decide (k = key) || d.has k) := by
  rw [Bool.eq_iff_iff, Dict.has_iff_mem_keys, Bool.or_eq_true, decide_eq_true_eq, Dict.has_iff_mem_keys, Dict.keys_set]
  split
  · rename_i h
    constructor
    · exact .inr
    · rintro (rfl | hk)
      · exact h
      · exact hk
  · simp [or_comm]

theorem lookup_cons_of_ne {k k' : String} (h : k ≠ k') (w : Json) (d : Dict) :
    List.lookup k ((k', w) :: d) = List.lookup k d := by
  have hne : (k == k') = false := by simpa using h
  rw [List.lookup_cons, hne]

theorem lookup_set (key : String) (v : Json) (k : String) : ∀ (d : Dict),
    (d.set key v).lookup k = if k = key then some v else d.lookup k
  | [] => by
    by_cases h : k = key
    · simp [Dict.set, h]
    · rw [Dict.set, lookup_cons_of_ne h, if_neg h]
  | (k', w) :: d => by
    by_cases hk' : k' = key
    · subst hk'
      rw [Dict.set, if_pos rfl]
      by_cases h : k = k'
      · simp [h]
      · rw [lookup_cons_of_ne h, lookup_cons_of_ne h, if_neg h]
    · rw [Dict.set, if_neg hk']
      by_cases h : k = k'
      · subst h
        simp [hk']
      · rw [lookup_cons_of_ne h, lookup_cons_of_ne h, lookup_set key v k d]

theorem verifiedSteps_set (d : Dict) (steps : Dict) :
    verifiedSteps (some (.obj (d.set "verifiedSteps" (.obj steps)))) = .ok steps := by
  simp only [verifiedSteps, lookup_set, if_true]

theorem verifiedSteps_setdefault (d : Dict) {key : String} (h : key ≠ "verifiedSteps") (v : Json) :
    verifiedSteps (some (.obj (d.setdefault key v))) = verifiedSteps (some (.obj d)) := by
  unfold Dict.setdefault
  split
  · rfl
  · simp only [verifiedSteps, lookup_set, if_neg (Ne.symm h)]

theorem dictOrEmpty_obj {v : Document} {d : Dict} (h : v.val = .obj d) :
    ∃ r : Record, dictOrEmpty v = .ok r ∧ r.val = d := by
  obtain ⟨_, hv⟩ := v
  cases h
  exact ⟨_, rfl, rfl⟩

theorem dictOrEmpty_null {v : Document} (h : v.val = .null) : dictOrEmpty v = .ok .empty := by
  obtain ⟨_, hv⟩ := v
  cases h
  rfl

/-- The steps of a document, as the writer reads them. -/
theorem dictOrEmpty_steps {r : Record} {steps : Dict} (h : verifiedSteps (some (.obj r.val)) = .ok steps) :
    ∃ s : Record, dictOrEmpty (r.get "verifiedSteps") = .ok s ∧ s.val = steps := by
  rw [verifiedSteps] at h
  cases hl : r.val.lookup "verifiedSteps" with
  | none =>
    rw [hl] at h
    cases h
    exact ⟨.empty, dictOrEmpty_null (by simp [Record.get, Dict.get, hl]), rfl⟩
  | some w =>
    cases w with
    | obj d =>
      rw [hl] at h
      cases h
      exact dictOrEmpty_obj (by simp [Record.get, Dict.get, hl])
    | _ =>
      rw [hl] at h
      cases h

theorem get_eq_null_of_not_has {d : Dict} {key : String} (h : d.has key = false) : d.get key = .null := by
  unfold Dict.get
  cases hl : d.lookup key with
  | none => rfl
  | some v => simp [Dict.has, hl] at h

/-- **The payload written is justified**, and names the step with its complete record. -/
theorem verificationPayload_justified {proofs : List Proof} {payload : Record} (h : JustifiedRecord proofs payload)
    {v : Verification} (hv : ∃ p ∈ proofs, p.verification = v) :
    ∃ body, verificationPayload v payload = .ok body ∧ JustifiedRecord proofs body ∧
      ∃ steps entry, verifiedSteps (some (.obj body.val)) = .ok steps ∧ steps.get v.stepName = .obj entry ∧
        Records v entry := by
  obtain ⟨steps, hsteps, hjustified⟩ := h
  obtain ⟨s, hs, rfl⟩ := dictOrEmpty_steps hsteps
  obtain ⟨before, hbefore⟩ : ∃ before, dictOrEmpty (s.get v.stepName) = .ok before := by
    cases hhas : s.val.has v.stepName with
    | false => exact ⟨_, dictOrEmpty_null (get_eq_null_of_not_has hhas)⟩
    | true =>
      obtain ⟨-, -, -, entry, hentry, -⟩ := hjustified.proven _ hhas
      exact (dictOrEmpty_obj hentry).imp (fun _ h => h.1)
  have hread : verifiedSteps (some (.obj (((payload.set "verifiedSteps"
      (s.set v.stepName (stepPayload v before).toDocument).toDocument).setdefault "source"
        (textDocument "LiderApiAdapter")).val))) = .ok (s.val.set v.stepName (.obj (stepPayload v before).val)) :=
    (verifiedSteps_setdefault _ (by decide) _).trans (verifiedSteps_set _ _)
  have hget : (s.val.set v.stepName (.obj (stepPayload v before).val)).get v.stepName = .obj (stepPayload v before).val := by
    rw [Dict.get_set, if_pos rfl]
  have hwrite : verificationPayload v payload = .ok ((payload.set "verifiedSteps"
      (s.set v.stepName (stepPayload v before).toDocument).toDocument).setdefault "source"
        (textDocument "LiderApiAdapter")) := by
    rw [verificationPayload, hs]
    show (dictOrEmpty (s.get v.stepName) >>= _) = _
    rw [hbefore]
    rfl
  refine ⟨_, hwrite, ⟨_, hread, ⟨fun name hname => ?_⟩⟩, _, _, hread, hget, stepPayload_records v before⟩
  by_cases heq : name = v.stepName
  · subst heq
    obtain ⟨p, hp, rfl⟩ := hv
    exact ⟨p, hp, rfl, _, hget, stepPayload_records _ before⟩
  · rw [has_set, decide_eq_false heq, Bool.false_or] at hname
    rw [Dict.get_set, if_neg heq]
    exact hjustified.proven name hname

/-! ## The invariant -/

/-- The record a call carries is that of a postcondition shown. -/
def Stage.Justified (proofs : List Proof) : Stage → Prop
  | .proven _ v _ => ∃ p ∈ proofs, p.verification = v
  | .loaded _ v _ payload => (∃ p ∈ proofs, p.verification = v) ∧ JustifiedRecord proofs payload
  | _ => True

variable {ι : Type}

/-- Every copy is justified, every call carries what a poll showed, and the polls showed what they are said to. -/
structure Inv (repr : Json → String) (nt : NumText) (paths : List String) (w : World ι) : Prop where
  copies : ∃ c, HoldsCopies nt paths w.files c ∧ ∀ p r, c p = some r → JustifiedRecord w.proofs r
  stages : ∀ i, (w.stage i).Justified w.proofs
  proofs : ∀ p ∈ w.proofs, p.Holds repr

theorem Stage.Justified.mono {proofs more : List Proof} {l : Stage} (h : l.Justified proofs) :
    l.Justified (proofs ++ more) := by
  cases l with
  | proven m v responseData => exact Exists.imp (fun _ hp => ⟨List.mem_append_left _ hp.1, hp.2⟩) h
  | loaded m v responseData payload =>
    exact ⟨Exists.imp (fun _ hp => ⟨List.mem_append_left _ hp.1, hp.2⟩) h.1, h.2.mono⟩
  | _ => trivial

theorem inv_fresh {repr : Json → String} {nt : NumText} {paths : List String} {w : World ι} (h : w.Fresh paths) :
    Inv repr nt paths w where
  copies := ⟨fun _ => none, fun p hp => ⟨h.files p hp, fun _ hr => nomatch hr⟩, fun _ _ hr => nomatch hr⟩
  stages i := by
    rw [h.stage i]
    trivial
  proofs p hp := by
    rw [h.proofs] at hp
    exact nomatch hp

section
variable {repr : Json → String} {nt : NumText} {paths : List String}

/-- A poll that ends the loop shows the postcondition. -/
theorem postcondition_of_look {m : Mutation} {api : TreeApi} {entry : TreeNode} (h : look repr m api = .ok (some entry)) :
    Postcondition repr m api entry := by
  cases m with
  | createDirectoryUser uid selectedOuDn =>
    obtain ⟨nodes, hnodes, h⟩ := bind_eq_ok (h : findDirectoryUserEntry repr uid api = _)
    have hfind := Except.ok.inj h
    exact ⟨nodes, hnodes, List.mem_of_find?_eq_some hfind, List.find?_some hfind⟩
  | addDirectoryEntriesToUserGroup groupDn checkedEntries =>
    simp only [look] at h
    obtain ⟨found, hfound, h⟩ := bind_eq_ok h
    cases found with
    | none => exact nomatch Except.ok.inj h
    | some node =>
      obtain ⟨current, hcurrent, h⟩ := bind_eq_ok h
      have h := Except.ok.inj h
      split at h
      · rename_i hall
        obtain rfl := Option.some.inj h
        obtain ⟨nodes, hnodes, hfind⟩ := bind_eq_ok (hfound : findUserGroupEntry repr groupDn api = _)
        have hfind := Except.ok.inj hfind
        refine ⟨nodes, hnodes, List.mem_of_find?_eq_some hfind, List.find?_some hfind, current, hcurrent, fun dn hdn => ?_⟩
        exact of_decide_eq_true (List.all_eq_true.1 hall dn hdn)
      · exact nomatch h

theorem shown_holds {m : Mutation} {endpoint : String} {responseData : Dict} {api : TreeApi} :
    ∀ p ∈ shown repr m endpoint responseData api, p.Holds repr := by
  intro p hp
  unfold shown at hp
  split at hp
  · rename_i entry hlook
    cases hv : verificationOf repr m endpoint responseData entry with
    | none => simp [hv] at hp
    | some v =>
      simp only [hv, Option.map_some, Option.toList_some, List.mem_singleton] at hp
      subst hp
      exact ⟨postcondition_of_look hlook, hv⟩
  · exact absurd hp List.not_mem_nil

/-- What a poll leaves to be recorded is what it showed. -/
theorem poll_justified (proofs : List Proof) (m : Mutation) (endpoint : String) (responseData : Dict) (api : TreeApi) :
    (Stage.poll repr m endpoint responseData api).Justified (proofs ++ shown repr m endpoint responseData api) := by
  unfold Stage.poll shown
  cases hlook : look repr m api with
  | error e => trivial
  | ok found =>
    cases found with
    | none => trivial
    | some entry =>
      cases hv : verificationOf repr m endpoint responseData entry with
      | none => simp only [hv]; trivial
      | some v =>
        simp only [hv]
        exact ⟨_, List.mem_append_right _ List.mem_cons_self, rfl⟩

theorem request_justified (proofs : List Proof) (env : String → Option String) (m : Mutation)
    (response : Except AdapterError Response) : (Stage.request repr env m response).Justified proofs := by
  unfold Stage.request
  cases configuredEndpoint env (endpointEnv m) with
  | none => trivial
  | some endpoint =>
    cases response with
    | error e => trivial
    | ok r =>
      dsimp only
      cases raiseForStatus r with
      | error e => trivial
      | ok _ =>
        dsimp only
        split <;> trivial

variable {w w' : World ι}

/-- What a load returns is justified, or it finds no copy. -/
theorem Inv.load (h : Inv repr nt paths w) {access : String → Access} {v : Option Json}
    (hload : loadUiMutationEvidence nt access paths w.files = .ok v) :
    v = none ∨ ∃ r : Record, v = some (.obj r.val) ∧ JustifiedRecord w.proofs r := by
  obtain ⟨c, hc, hjustified⟩ := h.copies
  rw [load_eq nt access w.files c v paths hc hload]
  cases hfirst : readFirst paths (fun p => (access p).read) c with
  | none => exact .inl rfl
  | some r =>
    obtain ⟨p, -, hp⟩ := List.exists_of_findSome?_eq_some hfirst
    refine .inr ⟨r, rfl, hjustified p r ?_⟩
    split at hp
    · exact hp
    · exact nomatch hp

/-- What is known of more proofs. -/
theorem Inv.learn (h : Inv repr nt paths w) {more : List Proof} (hmore : ∀ p ∈ more, p.Holds repr) :
    Inv repr nt paths { w with proofs := w.proofs ++ more } where
  copies := by
    obtain ⟨c, hc, hjustified⟩ := h.copies
    exact ⟨c, hc, fun p r hr => (hjustified p r hr).mono⟩
  stages i := (h.stages i).mono
  proofs p hp := (List.mem_append.1 hp).elim (h.proofs p) (hmore p)

theorem load_justified (h : Inv repr nt paths w) {access : String → Access} {m : Mutation} {v : Verification}
    (hv : ∃ p ∈ w.proofs, p.verification = v) (responseData : Dict) {evidence : Except PyExc (Option Document)}
    (hload : loadUiMutationEvidence nt access paths w.files = evidence.map (Option.map Subtype.val)) :
    (Stage.load m v responseData evidence).Justified w.proofs := by
  cases evidence with
  | error e => trivial
  | ok loaded =>
    rcases loaded with _ | ⟨d, hd⟩
    · exact ⟨hv, justified_empty _⟩
    · rcases h.load hload with hnone | ⟨r, hr, hjustified⟩
      · exact nomatch hnone
      · obtain rfl : d = .obj r.val := Option.some.inj hr
        exact ⟨hv, hjustified⟩

/-- The first copy a load meets. -/
theorem readFirst_of_find? {access : String → Access} {fs : Files} {c : String → Option Record} {p : String} :
    ∀ {paths : List String}, HoldsCopies nt paths fs c →
      paths.find? (fun p => (access p).read && (fs p).isSome) = some p → readFirst paths (fun p => (access p).read) c = c p
  | [], _, h => nomatch h
  | q :: paths, hc, h => by
    have hq := (hc q List.mem_cons_self).1
    unfold readFirst
    rw [List.findSome?_cons]
    rw [List.find?_cons] at h
    cases hread : (access q).read && (fs q).isSome with
    | true =>
      rw [hread] at h
      obtain rfl := Option.some.inj h
      rw [Bool.and_eq_true] at hread
      rw [hq, Option.isSome_map] at hread
      obtain ⟨r, hr⟩ := Option.isSome_iff_exists.1 hread.2
      rw [if_pos hread.1, hr]
    | false =>
      rw [hread] at h
      have hskip : (if (access q).read = true then c q else none) = none := by
        cases hr : (access q).read with
        | false => rfl
        | true =>
          rw [hr, hq, Option.isSome_map, Bool.true_and] at hread
          simpa using hread
      rw [hskip]
      exact readFirst_of_find? (fun p hp => hc p (List.mem_cons_of_mem _ hp)) h

/-- The copies after a write that reached some path. -/
theorem write_copies {access : String → Access} {body : Record} {generatedAt first : String} {fs fs' : Files}
    {c : String → Option Record} (hc : HoldsCopies nt paths fs c)
    (hwrite : writeUiMutationEvidence nt access paths body generatedAt fs = .ok (first, fs')) :
    HoldsCopies nt paths fs' (fun p => if (access p).write then some (evidenceBody body generatedAt) else c p) := by
  have hrun : runStep nt paths ⟨.write body generatedAt, access⟩ fs = .ok ([], fs') := by
    show (writeUiMutationEvidence nt access paths body generatedAt fs).map (fun p => ([], p.2)) = _
    rw [hwrite]
    rfl
  exact (runStep_op nt paths _ _ _ _ c hc hrun).1

theorem evidenceBody_justified {proofs : List Proof} {body : Record} (h : JustifiedRecord proofs body)
    (generatedAt : String) : JustifiedRecord proofs (evidenceBody body generatedAt) := by
  obtain ⟨steps, hsteps, hjustified⟩ := h
  exact ⟨steps, (verifiedSteps_setdefault _ (by decide) _).trans hsteps, hjustified⟩

theorem Inv.unlink (h : Inv repr nt paths w) (path : String) : Inv repr nt paths { w with files := w.files.unlink path } where
  copies := by
    obtain ⟨c, hc, hcopies⟩ := h.copies
    refine ⟨Function.update c path none, fun p hp => ?_, fun p r hr => ?_⟩
    · by_cases heq : p = path
      · subst heq
        simp
      · rw [Function.update_of_ne heq]
        show w.files.unlink path p = _ ∧ _
        rw [Files.unlink_other _ heq]
        exact hc p hp
    · by_cases heq : p = path
      · subst heq
        simp at hr
      · rw [Function.update_of_ne heq] at hr
        exact hcopies p r hr
  stages := h.stages
  proofs := h.proofs

/-- The steps of what a load returns are justified. -/
theorem Inv.steps (h : Inv repr nt paths w) {access : String → Access} {v : Option Json}
    (hload : loadUiMutationEvidence nt access paths w.files = .ok v) :
    ∃ steps, verifiedSteps v = .ok steps ∧ Justified w.proofs steps := by
  rcases h.load hload with rfl | ⟨r, rfl, hr⟩
  · exact ⟨[], rfl, ⟨fun _ hname => nomatch hname⟩⟩
  · exact hr

variable [DecidableEq ι]

theorem Inv.setStage (h : Inv repr nt paths w) (i : ι) {l : Stage} (hl : l.Justified w.proofs) :
    Inv repr nt paths (w.setStage i l) where
  copies := h.copies
  stages j := by
    by_cases hj : j = i
    · subst hj
      simpa [World.setStage] using hl
    · simpa [World.setStage, Function.update_of_ne hj] using h.stages j
  proofs := h.proofs

/-- A write that returns wrote a justified payload. -/
theorem write_returned {access : String → Access} {generatedAt : String} {m : Mutation} {v : Verification}
    {responseData : Dict} {payload body : Record} {fs : Files} (hbody : verificationPayload v payload = .ok body) :
    (∃ e, Stage.write nt access paths generatedAt m v responseData payload fs = (.raised (.python e), fs)) ∨
      ∃ first fs', writeUiMutationEvidence nt access paths body generatedAt fs = .ok (first, fs') ∧
        Stage.write nt access paths generatedAt m v responseData payload fs = (.returned (answerOf m v responseData), fs') := by
  unfold Stage.write
  rw [hbody]
  cases hwrite : writeUiMutationEvidence nt access paths body generatedAt fs with
  | error e => exact .inl ⟨e, by simp [Except.bind, hwrite]⟩
  | ok written => exact .inr ⟨written.1, written.2, rfl, by simp [Except.bind, hwrite]⟩

/-- A write leaves justified copies, and ends the call. -/
theorem Inv.write (h : Inv repr nt paths w) (i : ι) {access : String → Access} {generatedAt : String} {m : Mutation}
    {v : Verification} {responseData : Dict} {payload : Record} (hv : ∃ p ∈ w.proofs, p.verification = v)
    (hpayload : JustifiedRecord w.proofs payload) :
    Inv repr nt paths
      { w.setStage i (Stage.write nt access paths generatedAt m v responseData payload w.files).1 with
        files := (Stage.write nt access paths generatedAt m v responseData payload w.files).2 } := by
  obtain ⟨body, hbody, hjustified, -⟩ := verificationPayload_justified hpayload hv
  rcases @write_returned nt paths access generatedAt m v responseData payload body w.files hbody with
    ⟨e, hraised⟩ | ⟨first, fs', hwrite, hreturned⟩
  · rw [hraised]
    exact h.setStage i (l := .raised (.python e)) trivial
  · rw [hreturned]
    obtain ⟨c, hc, hcopies⟩ := h.copies
    have hset := h.setStage i (l := .returned (answerOf m v responseData)) trivial
    refine ⟨⟨_, write_copies hc hwrite, fun p r hr => ?_⟩, hset.stages, hset.proofs⟩
    split at hr
    · obtain rfl := Option.some.inj hr
      exact evidenceBody_justified hjustified generatedAt
    · exact hcopies p r hr

/-- **Every step keeps the invariant.** -/
theorem Inv.step (h : Inv repr nt paths w) (hstep : Step repr nt paths w w') : Inv repr nt paths w' := by
  cases hstep with
  | request i env m response => exact h.setStage i (request_justified _ env m response)
  | poll i api hwaiting => exact (h.learn shown_holds).setStage i (poll_justified _ _ _ _ _)
  | timeout i text hwaiting => exact h.setStage i (l := .raised (.lookupError _)) trivial
  | load i access evidence hproven hload =>
    have hstage := h.stages i
    rw [hproven] at hstage
    exact h.setStage i (load_justified h hstage _ hload)
  | write i access generatedAt hloaded =>
    have hstage := h.stages i
    rw [hloaded] at hstage
    exact h.write i hstage.1 hstage.2
  | unlink path => exact h.unlink path

theorem inv_reach (hfresh : w.Fresh paths) (hreach : Relation.ReflTransGen (Step repr nt paths) w w') :
    Inv repr nt paths w' := by
  induction hreach with
  | refl => exact inv_fresh hfresh
  | tail _ hstep ih => exact ih.step hstep

/-! ## What the readers see -/

/-- A step marked as verified is that of a postcondition shown, under its mode. -/
theorem Justified.marked {proofs : List Proof} {steps : Dict} (h : Justified proofs steps) {stepName mode : String}
    (hmarked : (markedVerified (steps.get stepName) && hasMode mode (steps.get stepName)) = true) :
    ∃ p ∈ proofs, p.verification.stepName = stepName ∧ p.verification.mode = mode ∧
      ∃ entry, steps.get stepName = .obj entry ∧ Records p.verification entry := by
  cases hhas : steps.has stepName with
  | false =>
    rw [get_eq_null_of_not_has hhas] at hmarked
    exact nomatch hmarked
  | true =>
    obtain ⟨p, hp, hname, entry, hentry, hrecords⟩ := h.proven stepName hhas
    rw [hentry, hrecords.marked, Bool.true_and, hrecords.hasMode] at hmarked
    exact ⟨p, hp, hname, of_decide_eq_true hmarked, entry, hentry, hrecords⟩

/-- A record of the first step is one of a user created. -/
theorem Proof.Holds.created {p : Proof} (h : p.Holds repr) (hname : p.verification.stepName = "create_user_via_ui") :
    p.verification.mode = "ui-first-postcondition" ∧ ∃ uid selectedOuDn, p.mutation = .createDirectoryUser uid selectedOuDn := by
  obtain ⟨-, hv⟩ := h
  cases hm : p.mutation with
  | createDirectoryUser uid selectedOuDn =>
    rw [hm] at hv
    rw [← Option.some.inj hv]
    exact ⟨rfl, uid, selectedOuDn, rfl⟩
  | addDirectoryEntriesToUserGroup groupDn checkedEntries =>
    rw [hm] at hv
    simp only [verificationOf] at hv
    split at hv
    · exact nomatch hv
    · rw [← Option.some.inj hv] at hname
      exact absurd hname (show "assign_user_to_group_via_ui" ≠ "create_user_via_ui" by decide)

/-- A record of the second is one of members added. -/
theorem Proof.Holds.assigned {p : Proof} (h : p.Holds repr)
    (hname : p.verification.stepName = "assign_user_to_group_via_ui") :
    ∃ groupDn checkedEntries, p.mutation = .addDirectoryEntriesToUserGroup groupDn checkedEntries := by
  obtain ⟨-, hv⟩ := h
  cases hm : p.mutation with
  | addDirectoryEntriesToUserGroup groupDn checkedEntries => exact ⟨groupDn, checkedEntries, rfl⟩
  | createDirectoryUser uid selectedOuDn =>
    rw [hm] at hv
    rw [← Option.some.inj hv] at hname
    exact absurd hname (show "create_user_via_ui" ≠ "assign_user_to_group_via_ui" by decide)

section
variable {env : String → Option String} {probe : Option (String → Dict)} {access : String → Access} {v : Option Json}

/-- **No capability is verified without a postcondition**: whatever clients do in between, one that reads as verified has
a poll behind it that showed the user, or the group with all its members, and of which the evidence holds the complete
record. -/
theorem verified_proven (hfresh : w.Fresh paths) (hreach : Relation.ReflTransGen (Step repr nt paths) w w')
    (hload : loadUiMutationEvidence nt access paths w'.files = .ok v) :
    (∀ descriptor, directoryUserCreateCapability env probe v = .ok descriptor →
      descriptor.get "runtimeVerified" = .bool true →
      ∃ p ∈ w'.proofs, Postcondition repr p.mutation p.api p.entry ∧
        (∃ uid selectedOuDn, p.mutation = .createDirectoryUser uid selectedOuDn) ∧
        ∃ entry, stepEvidence v "create_user_via_ui" = .obj entry ∧ Records p.verification entry) ∧
    (∀ descriptor, userGroupMembershipUpdateCapability env probe v = .ok descriptor →
      descriptor.get "runtimeVerified" = .bool true →
      ∃ p ∈ w'.proofs, Postcondition repr p.mutation p.api p.entry ∧
        (∃ groupDn checkedEntries, p.mutation = .addDirectoryEntriesToUserGroup groupDn checkedEntries) ∧
        ∃ entry, stepEvidence v "assign_user_to_group_via_ui" = .obj entry ∧ Records p.verification entry) := by
  have hinv := inv_reach hfresh hreach
  obtain ⟨steps, hsteps, hjustified⟩ := hinv.steps hload
  have hevidence : ∀ name, stepEvidence v name = steps.get name := fun name => by rw [stepEvidence, hsteps]
  constructor
  · intro descriptor hdescriptor hflag
    obtain ⟨d, hd, hget⟩ := verifiedCapability_flag env probe hsteps "create_user_via_ui"
      "LIDER_DIRECTORY_USER_CREATE_ENDPOINT" "ui-first-postcondition"
      "Official directory user create flow is runtime-verified by a postcondition proof."
    rw [directoryUserCreateCapability, hd] at hdescriptor
    obtain rfl := Except.ok.inj hdescriptor
    obtain ⟨p, hp, hname, -, entry, hentry, hrecords⟩ := hjustified.marked (Json.bool.inj (hget.symm.trans hflag))
    exact ⟨p, hp, (hinv.proofs p hp).1, ((hinv.proofs p hp).created hname).2, entry, (hevidence _).trans hentry, hrecords⟩
  · intro descriptor hdescriptor hflag
    obtain ⟨d, hd, hget⟩ := verifiedCapability_flag env probe hsteps "assign_user_to_group_via_ui"
      "LIDER_USER_GROUP_ADD_MEMBER_ENDPOINT" "existing_group_membership_update"
      "Official existing-group membership update flow is runtime-verified by a postcondition proof."
    rw [userGroupMembershipUpdateCapability, hd] at hdescriptor
    obtain rfl := Except.ok.inj hdescriptor
    obtain ⟨p, hp, hname, -, entry, hentry, hrecords⟩ := hjustified.marked (Json.bool.inj (hget.symm.trans hflag))
    exact ⟨p, hp, (hinv.proofs p hp).1, (hinv.proofs p hp).assigned hname, entry, (hevidence _).trans hentry, hrecords⟩

omit [DecidableEq ι] in
/-- What a load returns has the same flags for both readers. -/
theorem Inv.flagsAgree (hinv : Inv repr nt paths w) (hload : loadUiMutationEvidence nt access paths w.files = .ok v) :
    FlagsAgree env probe v := by
  obtain ⟨steps, hsteps, hjustified⟩ := hinv.steps hload
  obtain ⟨support, hsupport, hcreate, hassign⟩ := mutationStepSupport_createUserFlag env hsteps
  obtain ⟨created, hcreated, hcreatedFlag⟩ := verifiedCapability_flag env probe hsteps "create_user_via_ui"
    "LIDER_DIRECTORY_USER_CREATE_ENDPOINT" "ui-first-postcondition"
    "Official directory user create flow is runtime-verified by a postcondition proof."
  obtain ⟨assigned, hassigned, hassignedFlag⟩ := verifiedCapability_flag env probe hsteps "assign_user_to_group_via_ui"
    "LIDER_USER_GROUP_ADD_MEMBER_ENDPOINT" "existing_group_membership_update"
    "Official existing-group membership update flow is runtime-verified by a postcondition proof."
  refine ⟨support, created, assigned, hsupport, hcreated, hassigned, ?_, hassign.trans hassignedFlag.symm⟩
  rw [hcreate, hcreatedFlag]
  cases hhas : steps.has "create_user_via_ui" with
  | false => rw [get_eq_null_of_not_has hhas]; rfl
  | true =>
    obtain ⟨p, hp, hname, entry, hentry, hrecords⟩ := hjustified.proven _ hhas
    rw [hentry, hrecords.marked, hrecords.hasMode, ((hinv.proofs p hp).created hname).1]
    rfl

/-- **The two readers of the evidence agree** on whatever the adapter's clients have left behind: a load returns where the
directories can be searched, and of all it may return the support table and the adapter give the same flags. -/
theorem readers_agree (hfresh : w.Fresh paths) (hreach : Relation.ReflTransGen (Step repr nt paths) w w') :
    ((∀ p ∈ paths, (access p).stat = true) → ∃ v, loadUiMutationEvidence nt access paths w'.files = .ok v) ∧
      ∀ v, loadUiMutationEvidence nt access paths w'.files = .ok v → FlagsAgree env probe v := by
  have hinv := inv_reach hfresh hreach
  obtain ⟨c, hc, -⟩ := hinv.copies
  exact ⟨load_returns nt access w'.files c paths hc, fun v => hinv.flagsAgree⟩

/-- **A mutation reads what it wrote**: after its write, a load whose first copy is one that the write reached finds the
step verified. -/
theorem write_verified (hfresh : w.Fresh paths) (hreach : Relation.ReflTransGen (Step repr nt paths) w w') {i : ι}
    {m : Mutation} {verification : Verification} {responseData answer : Dict} {payload : Record}
    (hloaded : w'.stage i = .loaded m verification responseData payload) {writable : String → Access}
    {generatedAt : String} {fs : Files}
    (hwrite : Stage.write nt writable paths generatedAt m verification responseData payload w'.files = (.returned answer, fs))
    (hload : loadUiMutationEvidence nt access paths fs = .ok v)
    (hfirst : ∃ p, paths.find? (fun p => (access p).read && (fs p).isSome) = some p ∧ (writable p).write = true) :
    mutationStepRuntimeVerified v verification.stepName (some verification.mode) = .ok true := by
  have hinv := inv_reach hfresh hreach
  have hstage := hinv.stages i
  rw [hloaded] at hstage
  obtain ⟨body, hbody, -, steps, entry, hsteps, hentry, hrecords⟩ := verificationPayload_justified hstage.2 hstage.1
  rcases @write_returned nt paths writable generatedAt m verification responseData payload body w'.files hbody with
    ⟨e, hraised⟩ | ⟨first, fs', hwrote, hreturned⟩
  · exact nomatch (Prod.mk.inj (hraised.symm.trans hwrite)).1
  obtain rfl : fs' = fs := (Prod.mk.inj (hreturned.symm.trans hwrite)).2
  obtain ⟨c, hc, -⟩ := hinv.copies
  have hc' := write_copies hc hwrote
  obtain ⟨p, hfind, hp⟩ := hfirst
  have hv : v = some (.obj (evidenceBody body generatedAt).val) := by
    rw [load_eq nt access _ _ _ paths hc' hload, readFirst_of_find? hc' hfind, if_pos hp]
    rfl
  have hread : verifiedSteps v = .ok steps := by
    rw [hv]
    exact (verifiedSteps_setdefault _ (by decide) _).trans hsteps
  rw [mutationStepRuntimeVerified, verifiedSteps_orElse, hread]
  simp [bind, Except.bind, pure, Except.pure, hentry, hrecords.marked, hrecords.hasMode]

end

end

/-! ## A user created while a membership times out -/

def ada : Mutation := .createDirectoryUser "ada" "ou=users"

def adaEntry : TreeNode := .mk [("uid", .str "ada"), ("distinguishedName", .str "uid=ada,ou=users")] (some []) none

/-- A server that answers every tree with this one node. -/
def adaApi : TreeApi := ⟨fun _ => .ok [adaEntry], fun _ _ => .ok []⟩

def adaVerification : Verification := createVerification "/create" "ada" "uid=ada,ou=users"

/-- The new user is to join a group that no tree shows. -/
def team : Mutation :=
  .addDirectoryEntriesToUserGroup "cn=team,ou=groups" [.obj [("distinguishedName", .str "uid=ada,ou=users")]]

theorem adaApi_nodes : iterTreeNodes [adaEntry] = [adaEntry] := by
  rw [iterTreeNodes_eq, Worklist.Forest.order_cons, show Worklist.queue.push [] (entryTree.kids adaEntry) = [] from rfl,
    Worklist.Forest.order]

theorem ada_look : look (fun _ => "") ada adaApi = .ok (some adaEntry) := by
  show Except.ok ((iterTreeNodes [adaEntry]).find? (isDirectoryUser (fun _ => "") "ada")) = _
  rw [adaApi_nodes, List.find?_cons_of_pos (by decide)]

theorem team_look : look (fun _ => "") team adaApi = .ok none := by
  have hfind : findUserGroupEntry (fun _ => "") "cn=team,ou=groups" adaApi = .ok none := by
    show Except.ok ((iterTreeNodes [adaEntry]).find? (isUserGroup (fun _ => "") "cn=team,ou=groups")) = _
    rw [adaApi_nodes, List.find?_cons_of_neg (by decide), List.find?_nil]
  rw [team, look, hfind]
  rfl

def adaProof : Proof := ⟨ada, "/create", [], adaApi, adaEntry, adaVerification⟩

/-- The payload of the first write. -/
def adaBody : Record :=
  (Record.empty.set "verifiedSteps" ((Record.empty.set "create_user_via_ui"
    (stepPayload adaVerification .empty).toDocument).toDocument)).setdefault "source" (textDocument "LiderApiAdapter")

def adaPaths : List String := ["evidence.json"]

def adaFiles : Files := Files.write (fun _ => none) "evidence.json" (jsonFile .bits (.obj (evidenceBody adaBody "").val))

/-- Two clients: the first creates the user, the second adds it to the group. -/
def clients (fs : Files) (first second : Stage) (proofs : List Proof) : World Bool :=
  ⟨fs, fun i => if i then first else second, proofs⟩

def freshWorld : World Bool := clients (fun _ => none) .idle .idle []

theorem freshWorld_fresh : freshWorld.Fresh adaPaths := ⟨fun _ _ => rfl, fun i => by cases i <;> rfl, rfl⟩

theorem setStage_first (fs : Files) (first second l : Stage) (proofs : List Proof) :
    (clients fs first second proofs).setStage true l = clients fs l second proofs := by
  simp only [World.setStage, clients, World.mk.injEq, true_and, and_true]
  funext i
  cases i <;> simp

theorem setStage_second (fs : Files) (first second l : Stage) (proofs : List Proof) :
    (clients fs first second proofs).setStage false l = clients fs first l proofs := by
  simp only [World.setStage, clients, World.mk.injEq, true_and, and_true]
  funext i
  cases i <;> simp

/-- Both requests are answered, and both clients wait. -/
def adaWaiting : World Bool := clients (fun _ => none) (.waiting ada "/create" []) (.waiting team "/create" []) []

/-- The tree shows the user and not the group. -/
def adaProven : World Bool :=
  clients (fun _ => none) (.proven ada adaVerification []) (.waiting team "/create" []) [adaProof]

/-- The first client has loaded the evidence when the second gives up. -/
def adaLoaded : World Bool :=
  clients (fun _ => none) (.loaded ada adaVerification [] .empty)
    (.raised (.lookupError (lookupMessage (fun _ => "") (fun _ => "") team))) [adaProof]

def adaReturned : World Bool :=
  clients adaFiles (.returned (answerOf ada adaVerification []))
    (.raised (.lookupError (lookupMessage (fun _ => "") (fun _ => "") team))) [adaProof]

theorem ada_poll : Stage.poll (fun _ => "") ada "/create" [] adaApi = .proven ada adaVerification [] ∧
    shown (fun _ => "") ada "/create" [] adaApi = [adaProof] := by
  unfold Stage.poll shown
  rw [ada_look]
  exact ⟨rfl, rfl⟩

theorem team_poll : Stage.poll (fun _ => "") team "/create" [] adaApi = .waiting team "/create" [] ∧
    shown (fun _ => "") team "/create" [] adaApi = [] := by
  unfold Stage.poll shown
  rw [team_look]
  exact ⟨rfl, rfl⟩

theorem adaWaiting_reach : Relation.ReflTransGen (Step (fun _ => "") .bits adaPaths) freshWorld adaWaiting := by
  have hfirst : Step (fun _ => "") .bits adaPaths freshWorld _ :=
    .request freshWorld true (fun _ => some "/create") ada (.ok ⟨200, .json (.obj [])⟩)
  rw [freshWorld, setStage_first] at hfirst
  have hsecond : Step (fun _ => "") .bits adaPaths (clients (fun _ => none) (.waiting ada "/create" []) .idle []) _ :=
    .request _ false (fun _ => some "/create") team (.ok ⟨200, .json (.obj [])⟩)
  rw [setStage_second] at hsecond
  exact (Relation.ReflTransGen.single hfirst).tail hsecond

theorem adaProven_reach : Relation.ReflTransGen (Step (fun _ => "") .bits adaPaths) freshWorld adaProven := by
  have hsecond : Step (fun _ => "") .bits adaPaths adaWaiting _ := .poll adaWaiting false adaApi rfl
  rw [adaWaiting, setStage_second, team_poll.1, team_poll.2] at hsecond
  have hfirst : Step (fun _ => "") .bits adaPaths adaWaiting _ := .poll adaWaiting true adaApi rfl
  rw [adaWaiting, setStage_first, ada_poll.1, ada_poll.2] at hfirst
  exact (adaWaiting_reach.tail hsecond).tail hfirst

theorem adaLoaded_reach : Relation.ReflTransGen (Step (fun _ => "") .bits adaPaths) freshWorld adaLoaded := by
  have hload : Step (fun _ => "") .bits adaPaths adaProven _ :=
    .load adaProven true (fun _ => allowed) (.ok none) rfl rfl
  rw [adaProven, setStage_first] at hload
  have htimeout : Step (fun _ => "") .bits adaPaths
      (clients (fun _ => none) (.loaded ada adaVerification [] .empty) (.waiting team "/create" []) [adaProof]) _ :=
    .timeout _ false (fun _ => "") rfl
  rw [setStage_second] at htimeout
  exact (adaProven_reach.tail hload).tail htimeout

theorem adaBody_fits : (Json.obj (evidenceBody adaBody "").val).fits NumText.bits.maxStrDigits = true := rfl

theorem ada_write : Stage.write .bits (fun _ => allowed) adaPaths "" ada adaVerification [] .empty (fun _ => none) =
    (.returned (answerOf ada adaVerification []), adaFiles) := rfl

theorem adaReturned_reach : Relation.ReflTransGen (Step (fun _ => "") .bits adaPaths) freshWorld adaReturned := by
  have h : Step (fun _ => "") .bits adaPaths adaLoaded _ := .write adaLoaded true (fun _ => allowed) "" rfl
  rw [show adaLoaded.files = fun _ => none from rfl, ada_write, adaLoaded, setStage_first] at h
  exact adaLoaded_reach.tail h

theorem adaFiles_load : loadUiMutationEvidence .bits (fun _ => allowed) adaPaths adaFiles =
    .ok (some (.obj (evidenceBody adaBody "").val)) := by
  have hread := loadsFile_jsonFile .bits _ (evidenceBody adaBody "").property adaBody_fits
  simp [loadUiMutationEvidence, adaPaths, adaFiles, allowed, hread]

theorem ada_descriptor : ∃ descriptor,
    directoryUserCreateCapability (fun _ => none) none (some (.obj (evidenceBody adaBody "").val)) = .ok descriptor ∧
      descriptor.get "runtimeVerified" = .bool true :=
  ⟨_, rfl, rfl⟩

theorem team_descriptor : ∃ descriptor, userGroupMembershipUpdateCapability (fun _ => none) none
      (some (.obj (evidenceBody adaBody "").val)) = .ok descriptor ∧ descriptor.get "runtimeVerified" = .bool false :=
  ⟨_, rfl, rfl⟩

/-- **The user's creation has its proof, and the membership that timed out is not verified.** -/
theorem ada_proven : (∃ p ∈ adaReturned.proofs, Postcondition (fun _ => "") p.mutation p.api p.entry ∧
    (∃ uid selectedOuDn, p.mutation = .createDirectoryUser uid selectedOuDn) ∧
    ∃ entry, stepEvidence (some (.obj (evidenceBody adaBody "").val)) "create_user_via_ui" = .obj entry ∧
      Records p.verification entry) ∧
    ∃ descriptor, userGroupMembershipUpdateCapability (fun _ => none) none
      (some (.obj (evidenceBody adaBody "").val)) = .ok descriptor ∧ descriptor.get "runtimeVerified" = .bool false := by
  obtain ⟨descriptor, hdescriptor, hflag⟩ := ada_descriptor
  exact ⟨(verified_proven freshWorld_fresh adaReturned_reach adaFiles_load).1 descriptor hdescriptor hflag, team_descriptor⟩

theorem ada_agree : ∃ v, loadUiMutationEvidence .bits (fun _ => allowed) adaPaths adaReturned.files = .ok v ∧
    FlagsAgree (fun _ => none) none v := by
  obtain ⟨hreturns, hagree⟩ : ((∀ p ∈ adaPaths, allowed.stat = true) →
        ∃ v, loadUiMutationEvidence .bits (fun _ => allowed) adaPaths adaReturned.files = .ok v) ∧
      ∀ v, loadUiMutationEvidence .bits (fun _ => allowed) adaPaths adaReturned.files = .ok v →
        FlagsAgree (fun _ => none) none v := readers_agree freshWorld_fresh adaReturned_reach
  obtain ⟨v, hload⟩ := hreturns (fun _ _ => rfl)
  exact ⟨v, hload, hagree v hload⟩

theorem ada_verified : mutationStepRuntimeVerified (some (.obj (evidenceBody adaBody "").val)) "create_user_via_ui"
    (some "ui-first-postcondition") = .ok true :=
  write_verified freshWorld_fresh adaLoaded_reach (i := true) rfl ada_write adaFiles_load ⟨"evidence.json", rfl, rfl⟩

end Lider.DirectoryMutations
