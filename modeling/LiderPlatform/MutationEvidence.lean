import LiderPlatform.PyJsonCut
import LiderPlatform.PyFiles
import LiderPlatform.Replicas
/-!
# MutationEvidence — the UI mutation evidence store (`platform_runtime/readiness/mutation_evidence.py`)

The evidence file is kept in a primary and a fallback artifact directory.  A write goes to every directory that takes
it and swallows a refusal, a load returns the first copy it can read, a clear removes both.  What each path allows may
change between calls: it is an argument of every call (`Access`).  The store is `Replicas` with one copy a path; an
older copy left behind where a write was refused can come back, and `loads_register` says when none does.
-/
namespace Lider

open Py Replicas

def evidenceFilename : String := "ui-user-policy-roundtrip-evidence.json"

/-- `_artifact_directories`, the directories named as they resolve: one that both settings name is visited once. -/
def artifactDirectories (primary fallback : String) : List String :=
  if fallback = primary then [primary] else [primary, fallback]

def mutationEvidencePaths (primary fallback : String) : List String :=
  (artifactDirectories primary fallback).map (fun directory => directory ++ "/" ++ evidenceFilename)

/-- What one path allows during a call: its directory can be searched, the file read, written, removed. -/
structure Access where
  stat : Bool
  read : Bool
  write : Bool
  unlink : Bool

section
variable (nt : NumText) (access : String → Access)

/-! ## The three operations -/

/-- The dictionary a write stores: the payload, with a time stamp when it has none. -/
def evidenceBody (payload : Record) (generatedAt : String) : Record :=
  ⟨payload.val.setdefault "generatedAt" (.str generatedAt), Json.wf_setdefault _ _ _ payload.property trivial⟩

/-- The loop of `write_ui_mutation_evidence`: a `PermissionError` skips the path. -/
def writeCopies (b : ByteArray) : List String → Option String → Files → Option String × Files
  | [], firstWritten, fs => (firstWritten, fs)
  | path :: paths, firstWritten, fs =>
    if (access path).write then writeCopies b paths (firstWritten.orElse fun _ => some path) (fs.write path b)
    else writeCopies b paths firstWritten fs

/-- `write_ui_mutation_evidence`: the first path written, or `PermissionError` when there is none.  A body that
`json.dumps` refuses raises before a file is opened. -/
def writeUiMutationEvidence (paths : List String) (payload : Record) (generatedAt : String) (fs : Files) :
    Except PyExc (String × Files) := do
  let b ← dumpsFile nt (.obj (evidenceBody payload generatedAt).val)
  match writeCopies access b paths none fs with
  | (none, _) => .error .permissionError
  | (some firstWritten, fs) => .ok (firstWritten, fs)

/-- `clear_ui_mutation_evidence`: a missing file is passed over, a refusal is raised. -/
def clearUiMutationEvidence : List String → Files → Except PyExc Files
  | [], fs => .ok fs
  | path :: paths, fs =>
    if !(access path).stat then .error .permissionError
    else match fs path with
      | none => clearUiMutationEvidence paths fs
      | some _ =>
        if (access path).unlink then clearUiMutationEvidence paths (fs.unlink path) else .error .permissionError

/-- `load_ui_mutation_evidence`: an unreadable or malformed copy is passed over. -/
def loadUiMutationEvidence : List String → Files → Except PyExc (Option Json)
  | [], _ => .ok none
  | path :: paths, fs =>
    -- `path.exists()` is outside the handler
    if !(access path).stat then .error .permissionError
    else match fs path with
      | none => loadUiMutationEvidence paths fs
      | some b =>
        if !(access path).read then loadUiMutationEvidence paths fs
        else match loadsFile nt b with
          | .ok v => .ok (some v)
          | .error .jsonDecodeError => loadUiMutationEvidence paths fs
          | .error e => .error e

end

/-! ## Runs -/

inductive StoreCall where
  | write (payload : Record) (generatedAt : String)
  | clear
  | load

/-- One call, and what the paths allow while it lasts. -/
structure StoreStep where
  call : StoreCall
  access : String → Access

section
variable (nt : NumText) (paths : List String)

/-- One call: the value it loads, if it is a load, and the files after it. -/
def runStep (s : StoreStep) (fs : Files) : Except PyExc (List (Option Json) × Files) :=
  match s.call with
  | .write payload generatedAt =>
    (writeUiMutationEvidence nt s.access paths payload generatedAt fs).map (fun p => ([], p.2))
  | .clear => (clearUiMutationEvidence s.access paths fs).map (fun fs' => ([], fs'))
  | .load => (loadUiMutationEvidence nt s.access paths fs).map (fun v => ([v], fs))

/-- Calls one after another, each returning normally: what the loads returned, and the files in the end. -/
def runSteps : List StoreStep → Files → Except PyExc (List (Option Json) × Files)
  | [], fs => .ok ([], fs)
  | s :: ss, fs => do
    let (loaded, fs) ← runStep nt paths s fs
    let (rest, fs) ← runSteps ss fs
    return (loaded ++ rest, fs)

/-- What one register would return at each load. -/
def registerLoads : List StoreStep → Option Record → List (Option Json)
  | [], _ => []
  | s :: ss, r => match s.call with
    | .write payload generatedAt => registerLoads ss (some (evidenceBody payload generatedAt))
    | .clear => registerLoads ss none
    | .load => (r.map fun body => .obj body.val) :: registerLoads ss r

/-- A call as an operation on the copies. -/
def StoreStep.op (s : StoreStep) : Op String Record :=
  match s.call with
  | .write payload generatedAt => .write (evidenceBody payload generatedAt) (fun p => (s.access p).write)
  | .clear => .clear
  | .load => .read (fun p => (s.access p).read)

def bodies : List StoreStep → List Record
  | [] => []
  | s :: ss => match s.call with
    | .write payload generatedAt => evidenceBody payload generatedAt :: bodies ss
    | _ => bodies ss

/-- Every load finds a copy of the last write first: the first path that may be read and holds a copy took it.  The
condition is on what the paths allow alone; `a` holds the ages of the copies before the run. -/
def FreshLoads : List StoreStep → (String → Age) → Prop
  | [], _ => True
  | s :: ss, a =>
    (match s.call with
      | .load => ReadsFresh paths (fun p => (s.access p).read) a
      | _ => True) ∧ FreshLoads ss (s.op.age a)

end

/-! ## The files hold the copies -/

section
variable (nt : NumText) (paths : List String) (access : String → Access)

/-- Each path holds its copy's document, which was serialized, or nothing. -/
def HoldsCopies (fs : Files) (c : String → Option Record) : Prop :=
  ∀ p ∈ paths, fs p = (c p).map (fun r => jsonFile nt (.obj r.val)) ∧
    ∀ r, c p = some r → (Json.obj r.val).fits nt.maxStrDigits = true

theorem writeCopies_files (b : ByteArray) (q : String) : ∀ (ps : List String) (first : Option String) (fs : Files),
    (writeCopies access b ps first fs).2 q = if q ∈ ps ∧ (access q).write = true then some b else fs q
  | [], _, _ => by simp [writeCopies]
  | p :: ps, first, fs => by
    rw [writeCopies]
    by_cases hw : (access p).write = true
    · rw [if_pos hw, writeCopies_files b q ps]
      by_cases hq : q = p
      · subst hq; simp [hw]
      · rw [Files.write_other fs b hq]; simp [hq]
    · rw [if_neg hw, writeCopies_files b q ps]
      by_cases hq : q = p
      · subst hq; simp [hw]
      · simp [hq]

theorem writeCopies_first (b : ByteArray) : ∀ (ps : List String) (first : Option String) (fs : Files),
    (writeCopies access b ps first fs).1 ≠ none → first ≠ none ∨ ∃ p ∈ ps, (access p).write = true
  | [], _, _, h => Or.inl h
  | p :: ps, first, fs, h => by
    rw [writeCopies] at h
    by_cases hw : (access p).write = true
    · exact Or.inr ⟨p, List.mem_cons_self, hw⟩
    · rw [if_neg hw] at h
      rcases writeCopies_first b ps first fs h with h | ⟨q, hq, hqw⟩
      · exact Or.inl h
      · exact Or.inr ⟨q, List.mem_cons_of_mem _ hq, hqw⟩

theorem clear_files (q : String) : ∀ (ps : List String) (fs fs' : Files),
    clearUiMutationEvidence access ps fs = .ok fs' → fs' q = if q ∈ ps then none else fs q
  | [], fs, fs', h => by cases h; simp
  | p :: ps, fs, fs', h => by
    rw [clearUiMutationEvidence] at h
    split at h
    · cases h
    split at h
    · rename_i hp
      rw [clear_files q ps fs fs' h]
      by_cases hq : q = p
      · subst hq; simp [hp]
      · simp [hq]
    · split at h
      · rw [clear_files q ps _ fs' h]
        by_cases hq : q = p
        · subst hq; simp
        · rw [Files.unlink_other fs hq]; simp [hq]
      · cases h

/-- **A load that returns normally returns the first copy it may read.** -/
theorem load_eq (fs : Files) (c : String → Option Record) (v : Option Json) : ∀ (ps : List String), HoldsCopies nt ps fs c →
    loadUiMutationEvidence nt access ps fs = .ok v →
    v = (readFirst ps (fun p => (access p).read) c).map (fun r => .obj r.val)
  | [], _, h => by cases h; rfl
  | p :: ps, hc, h => by
    have ih := load_eq fs c v ps (fun q hq => hc q (List.mem_cons_of_mem _ hq))
    obtain ⟨hp, hfits⟩ := hc p List.mem_cons_self
    rw [loadUiMutationEvidence] at h
    unfold readFirst at ih ⊢
    rw [List.findSome?_cons]
    split at h
    · cases h
    cases hcp : c p with
    | none =>
      simp only [hcp, Option.map_none] at hp
      simp only [hp] at h
      simpa using ih h
    | some r =>
      simp only [hcp, Option.map_some] at hp
      simp only [hp] at h
      by_cases hr : (access p).read = true
      · simp only [hr, Bool.not_true, Bool.false_eq_true, if_false, loadsFile_jsonFile nt _ r.property (hfits r hcp)] at h
        cases h
        simp [hr]
      · simp only [hr, Bool.not_false, if_true] at h
        simpa [hr] using ih h

/-- **A load returns** where every directory can be searched: no copy is malformed. -/
theorem load_returns (fs : Files) (c : String → Option Record) : ∀ (ps : List String), HoldsCopies nt ps fs c →
    (∀ p ∈ ps, (access p).stat = true) → ∃ v, loadUiMutationEvidence nt access ps fs = .ok v
  | [], _, _ => ⟨none, rfl⟩
  | p :: ps, hc, hstat => by
    have ih := load_returns fs c ps (fun q hq => hc q (List.mem_cons_of_mem _ hq))
      (fun q hq => hstat q (List.mem_cons_of_mem _ hq))
    obtain ⟨hp, hfits⟩ := hc p List.mem_cons_self
    rw [loadUiMutationEvidence, if_neg (by simp [hstat p List.mem_cons_self])]
    cases hcp : c p with
    | none =>
      rw [hcp, Option.map_none] at hp
      simp only [hp]
      exact ih
    | some r =>
      rw [hcp, Option.map_some] at hp
      simp only [hp, loadsFile_jsonFile nt _ r.property (hfits r hcp)]
      split
      · exact ih
      · exact ⟨_, rfl⟩

/-- **One call that returns normally is its operation on the copies.** -/
theorem runStep_op (s : StoreStep) (fs fs' : Files) (loaded : List (Option Json)) (c : String → Option Record)
    (hc : HoldsCopies nt paths fs c) (h : runStep nt paths s fs = .ok (loaded, fs')) :
    HoldsCopies nt paths fs' (s.op.apply c) ∧ s.op.Lands paths ∧
      loaded = match s.call with
        | .load => [(readFirst paths (fun p => (s.access p).read) c).map (fun r => .obj r.val)]
        | _ => [] := by
  obtain ⟨call, access⟩ := s
  cases call with
  | write payload generatedAt =>
    simp only [runStep, StoreStep.op] at h ⊢
    obtain ⟨⟨_, _⟩, hwrite, heq⟩ := except_map_eq_ok.1 h
    cases heq
    obtain ⟨b, hb, hcopies⟩ := bind_eq_ok hwrite
    obtain ⟨hfit, rfl⟩ := dumpsFile_eq_ok.1 hb
    cases heq : writeCopies access (jsonFile nt (.obj (evidenceBody payload generatedAt).val)) paths none fs with
    | mk first fs'' =>
      rw [heq] at hcopies
      cases first with
      | none => cases hcopies
      | some first =>
        cases hcopies
        have hlands := writeCopies_first access _ paths none fs (by rw [heq]; simp)
        refine ⟨fun p hp => ?_, hlands.resolve_left (by simp), rfl⟩
        have hfile := writeCopies_files access (jsonFile nt (.obj (evidenceBody payload generatedAt).val)) p paths none fs
        rw [heq] at hfile
        simp only [hp, true_and] at hfile
        simp only [hfile, Op.apply]
        split
        · exact ⟨rfl, fun r hr => Option.some.inj hr ▸ hfit⟩
        · exact hc p hp
  | clear =>
    simp only [runStep, StoreStep.op] at h ⊢
    obtain ⟨fs'', hcl, h⟩ := bind_eq_ok h
    cases h
    refine ⟨fun p hp => ?_, trivial, rfl⟩
    rw [clear_files access p paths fs fs' hcl, if_pos hp]
    exact ⟨rfl, fun _ hr => by cases hr⟩
  | load =>
    simp only [runStep, StoreStep.op] at h ⊢
    obtain ⟨v, hl, h⟩ := bind_eq_ok h
    cases h
    exact ⟨hc, trivial, by rw [load_eq nt access fs c v paths hc hl]⟩

/-! ## The register law -/

theorem bodies_write (ss : List StoreStep) (payload : Record) (generatedAt : String) (access : String → Access) :
    bodies (⟨.write payload generatedAt, access⟩ :: ss) = evidenceBody payload generatedAt :: bodies ss := rfl

theorem obj_injective (r r' : Option Record)
    (h : r.map (fun b => Json.obj b.val) = r'.map (fun b => Json.obj b.val)) : r = r' := by
  cases r with
  | none => cases r' with
    | none => rfl
    | some _ => cases h
  | some b => cases r' with
    | none => cases h
    | some b' =>
      simp only [Option.map_some, Option.some.injEq, Json.obj.injEq] at h
      rw [Subtype.ext h]

/-- **The register law along a run**, by induction on its calls; `Tracks` is the invariant each call keeps. -/
theorem runSteps_register : ∀ (ss : List StoreStep) (fs fs' : Files) (results : List (Option Json))
    (c : String → Option Record) (a : String → Age) (r : Option Record) (past : List Record),
    HoldsCopies nt paths fs c → Tracks paths c a r past → runSteps nt paths ss fs = .ok (results, fs') →
    (FreshLoads paths ss a → results = registerLoads ss r) ∧
      ((∀ v ∈ bodies ss, v ∉ r.toList ++ past) → (∀ v, r = some v → v ∉ past) → (bodies ss).Nodup →
        results = registerLoads ss r → FreshLoads paths ss a)
  | [], _, _, results, _, _, _, _, _, _, hrun => by
    cases hrun
    exact ⟨fun _ => rfl, fun _ _ _ _ => trivial⟩
  | s :: ss, fs, fs', results, c, a, r, past, hc, ht, hrun => by
    rw [runSteps] at hrun
    obtain ⟨⟨loaded, fs₁⟩, h1, hrun⟩ := bind_eq_ok hrun
    obtain ⟨⟨rest, _⟩, h2, hrun⟩ := bind_eq_ok hrun
    cases hrun
    obtain ⟨hc₁, hlands, hloaded⟩ := runStep_op nt paths s fs fs₁ loaded c hc h1
    have ht₁ := ht.apply s.op hlands
    have ih := runSteps_register ss fs₁ fs' rest _ _ _ _ hc₁ ht₁ h2
    obtain ⟨call, access⟩ := s
    subst hloaded
    cases call with
    | write payload generatedAt =>
      refine ⟨fun hf => ih.1 hf.2, fun hnew hr hnd heq => ⟨trivial, ih.2 ?_ ?_ ?_ heq⟩⟩
      · intro v hv
        rw [bodies_write] at hnew hnd
        simp only [StoreStep.op, Op.register, Op.past, Option.toList_some, List.cons_append, List.nil_append,
          List.mem_cons, not_or]
        exact ⟨fun h => (List.nodup_cons.1 hnd).1 (h ▸ hv), hnew v (List.mem_cons_of_mem _ hv)⟩
      · rintro v hv
        cases hv
        exact hnew _ List.mem_cons_self
      · exact (List.nodup_cons.1 hnd).2
    | clear =>
      exact ⟨fun hf => ih.1 hf.2, fun hnew _ hnd heq => ⟨trivial, ih.2 hnew (fun _ h => by cases h) hnd heq⟩⟩
    | load =>
      refine ⟨fun hf => ?_, fun hnew hr hnd heq => ?_⟩
      · simp only [registerLoads, List.singleton_append]
        rw [readFirst_eq ht _ hf.1, ih.1 hf.2]
        rfl
      · simp only [registerLoads, List.singleton_append, List.cons.injEq] at heq
        refine ⟨?_, ih.2 hnew hr hnd heq.2⟩
        by_contra hstale
        exact readFirst_ne ht hr _ hstale (obj_injective _ _ heq.1)

end

/-- **The store is one register on the runs whose loads are fresh**: from empty directories, in every run that returns
normally, each load returns the body of the last write since the last clear.  When no body is written twice, only on
those runs. -/
theorem loads_register (nt : NumText) (primary fallback : String) (steps : List StoreStep) (fs fs' : Files)
    (results : List (Option Json)) (hempty : ∀ p ∈ mutationEvidencePaths primary fallback, fs p = none)
    (hrun : runSteps nt (mutationEvidencePaths primary fallback) steps fs = .ok (results, fs')) :
    (FreshLoads (mutationEvidencePaths primary fallback) steps (fun _ => .missing) →
        results = registerLoads steps none) ∧
      ((bodies steps).Nodup → results = registerLoads steps none →
        FreshLoads (mutationEvidencePaths primary fallback) steps (fun _ => .missing)) := by
  have h := runSteps_register nt (mutationEvidencePaths primary fallback) steps fs fs' results (fun _ => none)
    (fun _ => .missing) none [] (fun p hp => ⟨by rw [hempty p hp]; rfl, fun _ hr => (nomatch hr)⟩) (tracks_none _ []) hrun
  exact ⟨h.1, h.2 (fun v _ => by simp) (fun v hv => (nomatch hv))⟩

/-! ## A copy left behind -/

def evidence (verified : Bool) : Record :=
  ⟨[("verified", .bool verified), ("generatedAt", .str "2026-01-01T00:00:00+00:00")], by
    refine ⟨by simp [Dict.keys], trivial, trivial, trivial⟩⟩

def allowed : Access := ⟨true, true, true, true⟩

/-- A directory that became read-only. -/
def readOnly : Access := ⟨true, true, false, false⟩

theorem paths_primary_fallback : mutationEvidencePaths "primary" "fallback" =
    ["primary/" ++ evidenceFilename, "fallback/" ++ evidenceFilename] := by decide

theorem fallback_ne_primary : "fallback/" ++ evidenceFilename ≠ "primary/" ++ evidenceFilename := by decide

/-- A write only the fallback takes, and a load. -/
def fallbackRun : List StoreStep :=
  [⟨.write (evidence true) "", fun p => if p = "primary/" ++ evidenceFilename then readOnly else allowed⟩,
    ⟨.load, fun _ => allowed⟩]

theorem fallbackRun_returns : ∃ fs', runSteps .bits (mutationEvidencePaths "primary" "fallback") fallbackRun
    (fun _ => none) = .ok ([some (.obj (evidenceBody (evidence true) "").val)], fs') := by
  have hne := fallback_ne_primary
  have hread := loadsFile_jsonFile .bits _ (evidenceBody (evidence true) "").property (by decide)
  rw [paths_primary_fallback]
  have hwritten : dumpsFile .bits (.obj (evidenceBody (evidence true) "").val) = _ := dumpsFile_of_fits (by decide)
  simp [fallbackRun, runSteps, runStep, writeUiMutationEvidence, hwritten, writeCopies, loadUiMutationEvidence, allowed,
    readOnly, Except.map, bind, Except.bind, pure, Except.pure, hne, Files.write, Function.update, hne.symm, hread]

theorem fallbackRun_fresh :
    FreshLoads (mutationEvidencePaths "primary" "fallback") fallbackRun (fun _ => .missing) := by
  have hne := fallback_ne_primary
  rw [paths_primary_fallback]
  simp [FreshLoads, fallbackRun, ReadsFresh, StoreStep.op, Op.age, allowed, readOnly, hne]

theorem fallbackRun_register : ∃ results fs',
    runSteps .bits (mutationEvidencePaths "primary" "fallback") fallbackRun (fun _ => none) = .ok (results, fs') ∧
      results = registerLoads fallbackRun none := by
  obtain ⟨fs', hrun⟩ := fallbackRun_returns
  exact ⟨_, fs', hrun, (loads_register .bits "primary" "fallback" fallbackRun (fun _ => none) fs' _
    (fun _ _ => rfl) hrun).1 fallbackRun_fresh⟩

/-- A write both directories take, a write only the fallback takes, and a load. -/
def shadowedRun : List StoreStep :=
  [⟨.write (evidence true) "", fun _ => allowed⟩,
    ⟨.write (evidence false) "", fun p => if p = "primary/" ++ evidenceFilename then readOnly else allowed⟩,
    ⟨.load, fun _ => allowed⟩]

theorem shadowedRun_returns : ∃ fs', runSteps .bits (mutationEvidencePaths "primary" "fallback") shadowedRun
    (fun _ => none) = .ok ([some (.obj (evidenceBody (evidence true) "").val)], fs') := by
  have hne := fallback_ne_primary
  have hread := loadsFile_jsonFile .bits _ (evidenceBody (evidence true) "").property (by decide)
  rw [paths_primary_fallback]
  have hwritten : ∀ verified, dumpsFile .bits (.obj (evidenceBody (evidence verified) "").val) = _ := fun verified =>
    dumpsFile_of_fits (by cases verified <;> decide)
  simp [shadowedRun, runSteps, runStep, writeUiMutationEvidence, hwritten, writeCopies, loadUiMutationEvidence, allowed,
    readOnly, Except.map, bind, Except.bind, pure, Except.pure, hne, Files.write, Function.update, hne.symm, hread]

/-- **The primary's old copy shadows the evidence written last.** -/
theorem shadowedRun_stale : ∃ results fs',
    runSteps .bits (mutationEvidencePaths "primary" "fallback") shadowedRun (fun _ => none) = .ok (results, fs') ∧
      results ≠ registerLoads shadowedRun none := by
  obtain ⟨fs', hrun⟩ := shadowedRun_returns
  refine ⟨_, fs', hrun, ?_⟩
  simp [registerLoads, shadowedRun, evidenceBody, evidence, Dict.setdefault]

end Lider
