import LiderPlatform.PyBlocks
import LiderPlatform.PyJsonCut
import LiderPlatform.PyFiles
import LiderPlatform.RuntimeReadiness
/-!
# ReportArtifacts — reports that fall back, and loaders that look for them

`write_runtime_report` and `write_registration_evidence_report` write a JSON file and a Markdown file to the primary
artifact directory, and to the fallback one after a `PermissionError` anywhere in between.  `load_runtime_artifact`
stops at the first directory that holds the file; the release signals look in the primary directory only.  What the
Markdown says plays no part, so it is any text, or an exception that rendering it raises.
-/
namespace Lider

open Py

/-- What the artifact directories allow: creating a directory, opening a file to write it, looking for it, reading it. -/
structure ArtifactAccess where
  mkdir : String → Except PyExc Unit
  openWrite : String → Except PyExc Unit
  stat : String → Bool
  read : String → Bool

/-- `directory / name`. -/
def artifactPath (directory name : String) : String := directory ++ "/" ++ name

section
variable (nt : NumText) (repr : Json → String) (access : ArtifactAccess) (primary fallback : String)

/-! ## The writers -/

/-- `path.write_text(text)`: the open comes before the file changes. -/
def writeText (path : String) (text : ByteArray) : Block Files PyExc Unit := do
  Block.ofExcept (access.openWrite path)
  Block.assign (fun fs => fs.write path text)

/-- `write_to` of both writers; `json` is what `json.dumps` makes of the report, or raises. -/
def writeTo (jsonName markdownName : String) (json : Except PyExc ByteArray) (markdown : Except PyExc ByteArray)
    (directory : String) :
    Block Files PyExc (String × String) := do
  Block.ofExcept (access.mkdir directory)
  let jsonPath := artifactPath directory jsonName
  let markdownPath := artifactPath directory markdownName
  let content ← Block.ofExcept json
  writeText access jsonPath content
  let text ← Block.ofExcept markdown
  writeText access markdownPath text
  return (jsonPath, markdownPath)

/-- `except PermissionError`. -/
def exceptPermission {α : Type} (body handler : Block Files PyExc α) : Block Files PyExc α :=
  Block.tryExcept body (fun e => if e = .permissionError then handler else Block.raise e)

/-- `write_runtime_report`.  It renders the Markdown after the JSON file is written. -/
def writeRuntimeReport (report : Record) (outputDir : Option String) (markdown : Except PyExc ByteArray) :
    Block Files PyExc (String × String) := do
  let artifactsDir := outputDir.getD primary
  let reportType ← Block.ofExcept (subscript report.val "reportType")
  let stem := pyStr repr reportType
  let write := writeTo access (stem ++ "-report.json") (stem ++ "-report.md") (dumpsFile nt (.obj report.val)) markdown
  exceptPermission (write artifactsDir) (write fallback)

/-- `write_registration_evidence_report`.  It renders the Markdown before it writes anything. -/
def writeRegistrationEvidenceReport (report : Record) (outputDir : Option String) (markdown : Except PyExc ByteArray) :
    Block Files PyExc (String × String) := do
  let lines ← Block.ofExcept markdown
  let write := writeTo access "registration-evidence-report.json" "registration-evidence-report.md"
    (dumpsFile nt (.obj report.val)) (.ok lines)
  exceptPermission (write (outputDir.getD primary)) (write fallback)

/-! ## The loaders -/

/-- The first of the directories that holds the file decides; a file that cannot be read or parsed is `None`. -/
def loadArtifact (name : String) : List String → Files → Except PyExc Json
  | [], _ => .ok .null
  | base :: bases, fs =>
    let path := artifactPath base name
    -- `path.exists()` is outside the handler
    if !access.stat path then .error .permissionError
    else match fs path with
      | none => loadArtifact name bases fs
      | some b =>
        if !access.read path then .ok .null
        else match loadsFile nt b with
          | .ok v => .ok v
          | .error _ => .ok .null

def loadPlatformArtifact (name : String) : Files → Except PyExc Json := loadArtifact nt access name [primary]

def loadRuntimeArtifact (name : String) : Files → Except PyExc Json := loadArtifact nt access name [primary, fallback]

end

/-! ## Where a write ends up -/

theorem artifactPath_inj {d d' name : String} (h : artifactPath d name = artifactPath d' name) : d = d' := by
  have := congrArg String.toList h
  simp only [artifactPath, String.toList_append, List.append_cancel_right_eq] at this
  exact String.toList_inj.1 this

/-- A path ending in `-report.json` and one ending in `-report.md` are different. -/
theorem artifactPath_json_ne_markdown (d d' stem stem' : String) :
    artifactPath d (stem ++ "-report.json") ≠ artifactPath d' (stem' ++ "-report.md") := by
  intro h
  have hlast := congrArg (fun s => s.toList.reverse.head?) h
  simp [artifactPath, String.toList_append] at hlast

/-- The directory takes the JSON file. -/
def ArtifactAccess.takes (access : ArtifactAccess) (directory jsonName : String) : Bool :=
  (access.mkdir directory).toBool && (access.openWrite (artifactPath directory jsonName)).toBool

section
variable {access : ArtifactAccess} {jsonName markdownName : String} {json : ByteArray}
  {markdown : Except PyExc ByteArray} {directory : String}

theorem writeText_of_ok {path : String} (h : access.openWrite path = .ok ()) (text : ByteArray) (fs : Files) :
    writeText access path text fs = (.ok (), fs.write path text) := by
  unfold writeText
  rw [h]
  rfl

theorem writeText_of_error {path : String} {e : PyExc} (h : access.openWrite path = .error e) (text : ByteArray)
    (fs : Files) : writeText access path text fs = (.error e, fs) := by
  unfold writeText
  rw [h]
  rfl

/-- A directory that does not take the JSON file refuses the write, and nothing changes. -/
theorem writeTo_refused (h : access.takes directory jsonName = false) (markdownName : String) (json : ByteArray)
    (markdown : Except PyExc ByteArray) (fs : Files) :
    ∃ e, writeTo access jsonName markdownName (.ok json) markdown directory fs = (.error e, fs) := by
  unfold writeTo
  cases hm : access.mkdir directory with
  | error e => exact ⟨e, rfl⟩
  | ok u =>
    cases ho : access.openWrite (artifactPath directory jsonName) with
    | error e =>
      exact ⟨e, (Block.bind_of_ok (b := Block.ofExcept (.ok u)) rfl _).trans
        ((Block.bind_of_ok (b := Block.ofExcept (.ok json)) rfl _).trans
          (Block.bind_of_error (writeText_of_error ho json fs) _))⟩
    | ok v => simp [ArtifactAccess.takes, hm, ho, Except.toBool] at h

/-- The Markdown file is the only other file a write touches. -/
theorem markdown_files (fs : Files) (q : String) (hq : q ≠ artifactPath directory markdownName) :
    ((do
      let text ← Block.ofExcept markdown
      writeText access (artifactPath directory markdownName) text
      return (artifactPath directory jsonName, artifactPath directory markdownName) :
        Block Files PyExc (String × String)) fs).2 q = fs q := by
  cases markdown with
  | error e => rfl
  | ok text =>
    cases ho : access.openWrite (artifactPath directory markdownName) with
    | error e =>
      rw [Block.bind_of_ok (b := Block.ofExcept (.ok text)) rfl, Block.bind_of_error (writeText_of_error ho text fs)]
    | ok v =>
      rw [Block.bind_of_ok (b := Block.ofExcept (.ok text)) rfl, Block.bind_of_ok (writeText_of_ok ho text fs)]
      exact Files.write_other fs text hq

/-- **However a write ends, a directory that takes the JSON file has the new one, and every other file but the Markdown
one is as it was.** -/
theorem writeTo_taken (h : access.takes directory jsonName = true) (json : ByteArray)
    (markdown : Except PyExc ByteArray) (fs : Files) (q : String) (hq : q ≠ artifactPath directory markdownName) :
    (writeTo access jsonName markdownName (.ok json) markdown directory fs).2 q =
      (fs.write (artifactPath directory jsonName) json) q := by
  unfold writeTo
  cases hm : access.mkdir directory with
  | error e => simp [ArtifactAccess.takes, hm, Except.toBool] at h
  | ok u =>
    cases ho : access.openWrite (artifactPath directory jsonName) with
    | error e => simp [ArtifactAccess.takes, hm, ho, Except.toBool] at h
    | ok v =>
      rw [Block.bind_of_ok (b := Block.ofExcept (.ok u)) rfl, Block.bind_of_ok (b := Block.ofExcept (.ok json)) rfl,
        Block.bind_of_ok (writeText_of_ok ho json fs)]
      exact markdown_files _ q hq

/-- A write that returns serialized its report. -/
theorem writeTo_serialized {json : Except PyExc ByteArray} {fs fs' : Files} {paths : String × String}
    (h : writeTo access jsonName markdownName json markdown directory fs = (.ok paths, fs')) : ∃ b, json = .ok b := by
  obtain ⟨_, _, -, h⟩ := Block.bind_inv h
  obtain ⟨b, _, hb, -⟩ := Block.bind_inv h
  exact ⟨b, (Block.ofExcept_inv hb).1⟩

/-! ## A write that falls back -/

theorem exceptPermission_ok {α : Type} {body handler : Block Files PyExc α} {fs fs' : Files} {a : α}
    (h : exceptPermission body handler fs = (.ok a, fs')) :
    body fs = (.ok a, fs') ∨ ∃ fs₁, body fs = (.error .permissionError, fs₁) ∧ handler fs₁ = (.ok a, fs') := by
  unfold exceptPermission Block.tryExcept at h
  cases hb : body fs with
  | mk r fs₁ =>
    rw [hb] at h
    cases r with
    | ok a' => exact Or.inl h
    | error e =>
      by_cases he : e = .permissionError
      · subst he
        exact Or.inr ⟨fs₁, rfl, h⟩
      · simp only [he, if_false] at h
        exact nomatch congrArg Prod.fst h

/-- A write that returns went to a directory that takes the JSON file. -/
theorem takes_of_ok {fs fs' : Files} {paths : String × String}
    (h : writeTo access jsonName markdownName (.ok json) markdown directory fs = (.ok paths, fs')) :
    access.takes directory jsonName = true := by
  by_contra hno
  obtain ⟨e, he⟩ := writeTo_refused (Bool.not_eq_true _ ▸ hno) markdownName json markdown fs
  rw [he] at h
  exact nomatch congrArg Prod.fst h

theorem fallback_serialized {json : Except PyExc ByteArray} {primary fallback : String} {fs fs' : Files}
    {paths : String × String}
    (hrun : exceptPermission (writeTo access jsonName markdownName json markdown primary)
      (writeTo access jsonName markdownName json markdown fallback) fs = (.ok paths, fs')) : ∃ b, json = .ok b := by
  rcases exceptPermission_ok hrun with h | ⟨fs₁, -, h⟩
  · exact writeTo_serialized h
  · exact writeTo_serialized h

/-- **What a write that returned leaves: the primary's JSON file is the new one if the primary takes it; otherwise it is
what it was, and the fallback has the new one.** -/
theorem fallback_files {primary fallback stem : String} {fs fs' : Files} {paths : String × String}
    (hrun : exceptPermission
      (writeTo access (stem ++ "-report.json") (stem ++ "-report.md") (.ok json) markdown primary)
      (writeTo access (stem ++ "-report.json") (stem ++ "-report.md") (.ok json) markdown fallback) fs = (.ok paths, fs')) :
    if access.takes primary (stem ++ "-report.json") then
      fs' (artifactPath primary (stem ++ "-report.json")) = some json
    else fs' (artifactPath primary (stem ++ "-report.json")) = fs (artifactPath primary (stem ++ "-report.json")) ∧
      fs' (artifactPath fallback (stem ++ "-report.json")) = some json := by
  have hne := artifactPath_json_ne_markdown
  by_cases hp : access.takes primary (stem ++ "-report.json") = true
  · rw [if_pos hp]
    have hfirst := writeTo_taken hp json markdown fs (artifactPath primary (stem ++ "-report.json"))
      (hne _ primary stem stem)
    rw [Files.write_same] at hfirst
    rcases exceptPermission_ok hrun with h | ⟨fs₁, h₁, h₂⟩
    · rwa [h] at hfirst
    · -- The Markdown was refused: the fallback is written too, and leaves the primary's copy new.
      rw [h₁] at hfirst
      have hsecond := writeTo_taken (takes_of_ok h₂) json markdown fs₁ (artifactPath primary (stem ++ "-report.json"))
        (hne _ fallback stem stem)
      rw [h₂] at hsecond
      refine hsecond.trans ?_
      by_cases hpath : artifactPath primary (stem ++ "-report.json") = artifactPath fallback (stem ++ "-report.json")
      · rw [hpath, Files.write_same]
      · exact (Files.write_other fs₁ json hpath).trans hfirst
  · rw [if_neg hp]
    obtain ⟨e, he⟩ := writeTo_refused (Bool.not_eq_true _ ▸ hp) (stem ++ "-report.md") json markdown fs
    rcases exceptPermission_ok hrun with h | ⟨fs₁, h₁, h₂⟩
    · exact absurd (takes_of_ok h) hp
    · rw [he] at h₁
      cases h₁
      have htakes := takes_of_ok h₂
      have hsecond := fun q (hq : q ≠ artifactPath fallback (stem ++ "-report.md")) =>
        writeTo_taken htakes json markdown fs q hq
      rw [h₂] at hsecond
      have hpath : artifactPath primary (stem ++ "-report.json") ≠ artifactPath fallback (stem ++ "-report.json") := by
        intro h
        rw [artifactPath_inj h] at hp
        exact hp htakes
      constructor
      · exact (hsecond _ (hne _ fallback stem stem)).trans (Files.write_other fs json hpath)
      · exact (hsecond _ (hne _ fallback stem stem)).trans (Files.write_same fs _ json)

end

/-! ## What the loaders return -/

section
variable (nt : NumText) (access : ArtifactAccess) (primary fallback : String)

/-- The first directory decides once it holds the file. -/
theorem loadArtifact_cons (name base : String) (bases : List String) (fs : Files) (r : Dict) :
    loadArtifact nt access name (base :: bases) fs = .ok (.obj r) ↔
      access.stat (artifactPath base name) = true ∧
        match fs (artifactPath base name) with
        | none => loadArtifact nt access name bases fs = .ok (.obj r)
        | some b => access.read (artifactPath base name) = true ∧ loadsFile nt b = .ok (.obj r) := by
  rw [loadArtifact]
  cases access.stat (artifactPath base name) with
  | false => simp
  | true =>
    cases fs (artifactPath base name) with
    | none => simp
    | some b =>
      cases access.read (artifactPath base name) with
      | false => simp
      | true => cases h : loadsFile nt b <;> simp [h]

/-- The states where the runtime loader finds what is written: the primary can be searched, and takes the file and lets
it be read; or does not take it, and holds no older file while the fallback's can be read, or one with the same report. -/
def RuntimeVisible (name : String) (r : Dict) (fs : Files) : Prop :=
  access.stat (artifactPath primary name) = true ∧
    if access.takes primary name then access.read (artifactPath primary name) = true
    else match fs (artifactPath primary name) with
      | none => access.stat (artifactPath fallback name) = true ∧ access.read (artifactPath fallback name) = true
      | some b => access.read (artifactPath primary name) = true ∧ loadsFile nt b = .ok (.obj r)

/-- The states where the release signals find what is written: the same, without the fallback. -/
def ReleaseVisible (name : String) (r : Dict) (fs : Files) : Prop :=
  access.stat (artifactPath primary name) = true ∧ access.read (artifactPath primary name) = true ∧
    (access.takes primary name = true ∨ ∃ b, fs (artifactPath primary name) = some b ∧ loadsFile nt b = .ok (.obj r))

variable {report : Record} {markdown : Except PyExc ByteArray} {fs fs' : Files} {paths : String × String}
  (stem : String)

theorem runtime_visible_iff
    (hrun : exceptPermission
      (writeTo access (stem ++ "-report.json") (stem ++ "-report.md") (dumpsFile nt (.obj report.val)) markdown primary)
      (writeTo access (stem ++ "-report.json") (stem ++ "-report.md") (dumpsFile nt (.obj report.val)) markdown fallback)
        fs = (.ok paths, fs')) :
    loadRuntimeArtifact nt access primary fallback (stem ++ "-report.json") fs' = .ok (.obj report.val) ↔
      RuntimeVisible nt access primary fallback (stem ++ "-report.json") report.val fs := by
  obtain ⟨b, hb⟩ := fallback_serialized hrun
  rw [hb] at hrun
  obtain ⟨hfit, rfl⟩ := dumpsFile_eq_ok.1 hb
  have hfiles := fallback_files hrun
  have hloads := loadsFile_jsonFile nt (.obj report.val) report.property hfit
  rw [loadRuntimeArtifact, loadArtifact_cons, RuntimeVisible]
  refine and_congr_right (fun _ => ?_)
  cases ht : access.takes primary (stem ++ "-report.json") with
  | true =>
    rw [ht, if_pos rfl] at hfiles
    simp [hfiles, hloads]
  | false =>
    rw [ht, if_neg (by decide)] at hfiles
    rw [hfiles.1, if_neg (by decide)]
    cases fs (artifactPath primary (stem ++ "-report.json")) with
    | some b => rfl
    | none =>
      show loadArtifact nt access _ [fallback] fs' = _ ↔ _
      rw [loadArtifact_cons, hfiles.2]
      simp [hloads]

theorem release_visible_iff
    (hrun : exceptPermission
      (writeTo access (stem ++ "-report.json") (stem ++ "-report.md") (dumpsFile nt (.obj report.val)) markdown primary)
      (writeTo access (stem ++ "-report.json") (stem ++ "-report.md") (dumpsFile nt (.obj report.val)) markdown fallback)
        fs = (.ok paths, fs')) :
    loadPlatformArtifact nt access primary (stem ++ "-report.json") fs' = .ok (.obj report.val) ↔
      ReleaseVisible nt access primary (stem ++ "-report.json") report.val fs := by
  obtain ⟨b, hb⟩ := fallback_serialized hrun
  rw [hb] at hrun
  obtain ⟨hfit, rfl⟩ := dumpsFile_eq_ok.1 hb
  have hfiles := fallback_files hrun
  have hloads := loadsFile_jsonFile nt (.obj report.val) report.property hfit
  rw [loadPlatformArtifact, loadArtifact_cons, ReleaseVisible]
  refine and_congr_right (fun _ => ?_)
  cases ht : access.takes primary (stem ++ "-report.json") with
  | true =>
    rw [ht, if_pos rfl] at hfiles
    simp [hfiles, hloads]
  | false =>
    rw [ht, if_neg (by decide)] at hfiles
    rw [hfiles.1]
    cases fs (artifactPath primary (stem ++ "-report.json")) with
    | some b => simp
    | none => simp [loadArtifact]

end

/-- The file of a runtime report. -/
def runtimeReportName (repr : Json → String) (report : Record) : String :=
  pyStr repr (Dict.get report.val "reportType") ++ "-report.json"

/-- **A report that was written is the one the loader returns exactly in these states**: the runtime report with the
loader that knows the fallback, the evidence report with the one of the release signals. -/
theorem reports_visible_iff (nt : NumText) (repr : Json → String) (access : ArtifactAccess) (primary fallback : String)
    (report : Record) (markdown : Except PyExc ByteArray) (fs : Files) :
    (∀ paths fs', writeRuntimeReport nt repr access primary fallback report none markdown fs = (.ok paths, fs') →
      (loadRuntimeArtifact nt access primary fallback (runtimeReportName repr report) fs' = .ok (.obj report.val) ↔
        RuntimeVisible nt access primary fallback (runtimeReportName repr report) report.val fs)) ∧
    (∀ paths fs', writeRegistrationEvidenceReport nt access primary fallback report none markdown fs =
        (.ok paths, fs') →
      (loadPlatformArtifact nt access primary "registration-evidence-report.json" fs' = .ok (.obj report.val) ↔
        ReleaseVisible nt access primary "registration-evidence-report.json" report.val fs)) := by
  constructor
  · intro paths fs' hrun
    obtain ⟨v, fs₁, hv, hwrite⟩ := Block.bind_inv hrun
    obtain ⟨hv, rfl⟩ := Block.ofExcept_inv hv
    have hname : Dict.get report.val "reportType" = v := by
      unfold subscript at hv
      cases hl : List.lookup "reportType" report.val with
      | none => rw [hl] at hv; cases hv
      | some w => rw [hl] at hv; cases hv; simp [Dict.get, hl]
    rw [runtimeReportName, hname]
    exact runtime_visible_iff nt access primary fallback _ hwrite
  · intro paths fs' hrun
    obtain ⟨lines, fs₁, hl, hwrite⟩ := Block.bind_inv hrun
    obtain ⟨-, rfl⟩ := Block.ofExcept_inv hl
    exact release_visible_iff nt access primary fallback "registration-evidence" hwrite

/-! ## Directories open to all, and an old report where the primary is not -/

def sampleReport (status : String) : Record :=
  ⟨[("reportType", .str "runtime-core"), ("status", .str status)],
    by simp [Dict.keys], by simp [Json.WFMembers, Json.WF]⟩

def openArtifacts : ArtifactAccess := ⟨fun _ => .ok (), fun _ => .ok (), fun _ => true, fun _ => true⟩

theorem openArtifacts_visible :
    (∃ paths fs', writeRuntimeReport .bits (fun _ => "") openArtifacts "artifacts/platform" "artifacts/platform-local"
        (sampleReport "fail") none (.ok .empty) (fun _ => none) = (.ok paths, fs') ∧
      loadRuntimeArtifact .bits openArtifacts "artifacts/platform" "artifacts/platform-local" "runtime-core-report.json"
        fs' = .ok (.obj (sampleReport "fail").val)) ∧
    (∃ paths fs', writeRegistrationEvidenceReport .bits openArtifacts "artifacts/platform" "artifacts/platform-local"
        (sampleReport "fail") none (.ok .empty) (fun _ => none) = (.ok paths, fs') ∧
      loadPlatformArtifact .bits openArtifacts "artifacts/platform" "registration-evidence-report.json" fs' =
        .ok (.obj (sampleReport "fail").val)) := by
  have h := reports_visible_iff .bits (fun _ => "") openArtifacts "artifacts/platform" "artifacts/platform-local"
    (sampleReport "fail") (.ok .empty) (fun _ => none)
  exact ⟨⟨_, _, rfl, (h.1 _ _ rfl).2 ⟨rfl, rfl⟩⟩, ⟨_, _, rfl, (h.2 _ _ rfl).2 ⟨rfl, rfl, Or.inl rfl⟩⟩⟩

/-- The files of the primary directory can be read and not written. -/
def readOnlyPrimary : ArtifactAccess where
  mkdir := fun _ => .ok ()
  openWrite := fun path =>
    if path ∈ ["artifacts/platform/runtime-core-report.json", "artifacts/platform/registration-evidence-report.json"] then
      .error .permissionError else .ok ()
  stat := fun _ => true
  read := fun _ => true

/-- An earlier run left its runtime report in the primary directory. -/
def oldReportFiles : Files := fun path =>
  if path = "artifacts/platform/runtime-core-report.json" then some (jsonFile .bits (.obj (sampleReport "pass").val))
  else none

/-- **Both reports are written, and neither loader returns them**: the runtime loader returns the earlier report, the
release signals none. -/
theorem oldReport_returned :
    (∃ paths fs', writeRuntimeReport .bits (fun _ => "") readOnlyPrimary "artifacts/platform" "artifacts/platform-local"
        (sampleReport "fail") none (.ok .empty) oldReportFiles = (.ok paths, fs') ∧
      loadRuntimeArtifact .bits readOnlyPrimary "artifacts/platform" "artifacts/platform-local"
        "runtime-core-report.json" fs' = .ok (.obj (sampleReport "pass").val)) ∧
    (∃ paths fs', writeRegistrationEvidenceReport .bits readOnlyPrimary "artifacts/platform" "artifacts/platform-local"
        (sampleReport "fail") none (.ok .empty) oldReportFiles = (.ok paths, fs') ∧
      loadPlatformArtifact .bits readOnlyPrimary "artifacts/platform" "registration-evidence-report.json" fs' =
        .ok .null) := by
  refine ⟨⟨_, _, rfl, ?_⟩, ⟨_, _, rfl, rfl⟩⟩
  exact (loadArtifact_cons ..).2 ⟨rfl, rfl, loadsFile_jsonFile .bits _ (sampleReport "pass").property rfl⟩

end Lider
