import LiderPlatform.BaselineValidator
/-!
# BaselineRuns — captures one after another in one directory (`capture_golden_baseline`)

A capture that is not refused writes five payload files and two screenshots, and then the manifest with their hashes.
It may stop anywhere: `Captures` says what it leaves.  `Runs` puts captures one after another on an empty directory;
`Runs.manifestState` is the invariant, that the manifest is what the last capture that opened it left there.  A torn
manifest is not a document, so `valid_after_runs` can read every tracked file off the last whole one.
-/
namespace Lider

open Py

/-! ## One capture -/

/-- What `_build_capture_context` reads. -/
structure CaptureContext where
  capturedByHost : String
  envFile : Option String
  sourceLabel : String
  captureUi : Bool
  apiUrl : String
  uiUrl : String
  ldapHost : String
  ldapPort : Int
  ldapBaseDn : String
  mysqlHost : String
  mysqlPort : Int
  mysqlDatabase : String
  mysqlUser : String
  xmppDomain : String

/-- `_build_capture_context`. -/
def CaptureContext.toJson (ctx : CaptureContext) : Json :=
  .obj [("capturedByHost", .str ctx.capturedByHost),
    ("envFile", match ctx.envFile with | some path => .str path | none => .null),
    ("sourceLabel", .str ctx.sourceLabel),
    ("captureUiEvidence", .bool ctx.captureUi),
    ("apiUrl", .str ctx.apiUrl),
    ("uiUrl", .str ctx.uiUrl),
    ("ldap", .obj [("host", .str ctx.ldapHost), ("port", .int ctx.ldapPort), ("baseDn", .str ctx.ldapBaseDn)]),
    ("mysql", .obj [("host", .str ctx.mysqlHost), ("port", .int ctx.mysqlPort), ("database", .str ctx.mysqlDatabase),
      ("user", .str ctx.mysqlUser)]),
    ("xmpp", .obj [("domain", .str ctx.xmppDomain)])]

/-- How a capture is called, and what the adapters, the browser, the environment and the clock answer it. -/
structure CaptureRun where
  root : String
  force : Bool
  confirmStockSource : Bool
  payload : BaselinePayload
  dashboardShot : ByteArray
  computerShot : ByteArray
  context : CaptureContext
  baselineName : String
  capturedAt : String

section
variable (nt : NumText) (sha256 : ByteArray → String) (c : BaselineContract)

/-- The checks before a capture reads anything. -/
def checkOverwrite (r : CaptureRun) (fs : Files) : Except PyExc Unit :=
  if !r.confirmStockSource then
    .error (.runtimeError ("Refusing to capture canonical golden baseline without explicit stock-source confirmation. " ++
      "Re-run with --confirm-stock-source only against a verified stock LiderAhenk installation."))
  else
    match fs c.manifest with
    | none => .ok ()
    | some b =>
      if r.force then .ok ()
      else
        match loadsFile nt b with
        | .error _ => .ok ()
        | .ok (.obj manifest) =>
          if (Dict.get manifest "status").pyEq (.str "capture-complete") then
            .error (.runtimeError ("Refusing to overwrite capture-complete baseline at " ++ r.root ++ ". " ++
              "Use --force after verifying the target is a real stock installation."))
          else .ok ()
        | .ok _ => .error .attributeError

/-- `json.dumps` refuses no document of the payload. -/
def CaptureRun.serializes (r : CaptureRun) : Bool := r.payload.files.all (fun f => f.2.fits nt.maxStrDigits)

/-- What `_capture_ui_evidence` saves. -/
def CaptureRun.shots (r : CaptureRun) : List Write :=
  [.replace "ui-evidence/dashboard.png" r.dashboardShot, .replace "ui-evidence/computer-management.png" r.computerShot]

/-- The writes before the manifest's: the payload files up to the first that `json.dumps` refuses; if it refuses none, the
screenshots too. -/
def evidenceWrites (r : CaptureRun) : List Write :=
  (r.payload.files.takeWhile (fun f => f.2.fits nt.maxStrDigits)).map (fun f => .replace f.1 (jsonFile nt f.2)) ++
    if r.serializes nt then r.shots else []

def fileMetadata (path : String) (b : ByteArray) : Dict :=
  [("path", .str path), ("size", .int b.size), ("sha256", .str (sha256 b))]

/-- `_collect_file_metadata`, from the metadata collected so far. -/
def collectFileMetadata (fs : Files) : List String → Dict → Except PyExc Dict
  | [], metadata => .ok metadata
  | path :: paths, metadata =>
    match fs path with
    | none => .error .fileNotFoundError
    | some b => collectFileMetadata fs paths (metadata.set path (.obj (fileMetadata sha256 path b)))

def buildManifest (r : CaptureRun) (files : Dict) : Dict :=
  [("schemaVersion", .int 1), ("baselineName", .str r.baselineName), ("status", .str "capture-complete"),
    ("source", .obj [("kind", .str c.sourceKind), ("label", .str r.context.sourceLabel)]),
    ("capturedAt", .str r.capturedAt), ("captureContext", r.context.toJson), ("files", .obj files)]

/-- How a capture ends, by what it did to the manifest: a capture is complete once the manifest is written, all that
follows only reads. -/
inductive CaptureEnd where
  | refused
  | interrupted
  | tornManifest
  | completed
deriving DecidableEq, Repr

/-- What a capture does to the directory.  One that raises in an adapter stops before its first write; a write that
cannot encode its text leaves the file it opened empty; a document that does not serialize ends the capture at the
writes before it. -/
inductive Captures (r : CaptureRun) (fs : Files) : CaptureEnd → Files → Prop
  | refused (e : PyExc) (h : checkOverwrite nt c r fs = .error e) : Captures r fs .refused fs
  | evidence (fs' : Files) (h : checkOverwrite nt c r fs = .ok ()) (hs : Stopped (evidenceWrites nt r) fs fs') :
    Captures r fs .interrupted fs'
  | metadata (h : checkOverwrite nt c r fs = .ok ()) : Captures r fs .interrupted (applyAll (evidenceWrites nt r) fs)
  | torn (files : Dict) (bytes b rest : ByteArray) (h : checkOverwrite nt c r fs = .ok ())
    (hr : r.serializes nt = true)
    (hm : collectFileMetadata sha256 (applyAll (evidenceWrites nt r) fs) (trackedManifestPaths c) [] = .ok files)
    (hd : dumpsFile nt (.obj (buildManifest c r files)) = .ok bytes) (hb : b ++ rest = bytes) (hne : b ≠ bytes) :
    Captures r fs .tornManifest ((applyAll (evidenceWrites nt r) fs).write c.manifest b)
  | completed (files : Dict) (bytes : ByteArray) (h : checkOverwrite nt c r fs = .ok ())
    (hr : r.serializes nt = true)
    (hm : collectFileMetadata sha256 (applyAll (evidenceWrites nt r) fs) (trackedManifestPaths c) [] = .ok files)
    (hd : dumpsFile nt (.obj (buildManifest c r files)) = .ok bytes) :
    Captures r fs .completed ((applyAll (evidenceWrites nt r) fs).write c.manifest bytes)

/-! ## Captures one after another -/

/-- A capture of the past: how it ended and the files it left. -/
structure CaptureEvent where
  ended : CaptureEnd
  files : Files

def CaptureEvent.wroteManifest (ev : CaptureEvent) : Bool := ev.ended = .tornManifest ∨ ev.ended = .completed

/-- The directory after captures, the latest first. -/
inductive Runs : List CaptureEvent → Files → Prop
  | nil : Runs [] (fun _ => none)
  | cons (history : List CaptureEvent) (fs : Files) (r : CaptureRun) (ended : CaptureEnd) (fs' : Files)
    (hruns : Runs history fs) (h : Captures nt sha256 c r fs ended fs') : Runs (⟨ended, fs'⟩ :: history) fs'

/-- The capture the present manifest is by. -/
def manifestWriter (history : List CaptureEvent) : Option CaptureEvent := history.find? CaptureEvent.wroteManifest

/-- A whole manifest, with the metadata of the files beside it. -/
def ManifestOf (fs : Files) : Prop :=
  ∃ manifest files, fs c.manifest = some (jsonFile nt (.obj manifest)) ∧ (Json.obj manifest).WF ∧
    (Json.obj manifest).fits nt.maxStrDigits = true ∧ Dict.get manifest "files" = .obj files ∧
    ∀ path ∈ trackedManifestPaths c, ∃ b, fs path = some b ∧ Dict.get files path = .obj (fileMetadata sha256 path b)

/-- The manifest file holds what the capture that opened it last left there. -/
def ManifestState (fs : Files) : Option CaptureEvent → Prop
  | none => fs c.manifest = none
  | some ev => fs c.manifest = ev.files c.manifest ∧
      match ev.ended with
      | .tornManifest => ∃ b e, ev.files c.manifest = some b ∧ loadsFile nt b = .error e
      | .completed => ManifestOf nt sha256 c ev.files
      | _ => False

/-! ## What a capture writes -/

/-- The writes of a capture whose payload serializes. -/
def allWrites (r : CaptureRun) : List Write := r.payload.files.map (fun f => .replace f.1 (jsonFile nt f.2)) ++ r.shots

theorem allWrites_paths (r : CaptureRun) : (allWrites nt r).map Write.path = trackedManifestPaths baselineContract := rfl

theorem evidenceWrites_of_serializes (r : CaptureRun) (h : r.serializes nt = true) :
    evidenceWrites nt r = allWrites nt r := by
  have hall : r.payload.files.takeWhile (fun f => f.2.fits nt.maxStrDigits) = r.payload.files :=
    List.takeWhile_eq_self_iff.2 (List.all_eq_true.1 h)
  rw [evidenceWrites, allWrites, hall, if_pos h]

theorem mem_allWrites (r : CaptureRun) (w : Write) (hw : w ∈ evidenceWrites nt r) : w ∈ allWrites nt r := by
  rcases List.mem_append.1 hw with hw | hw
  · obtain ⟨f, hf, rfl⟩ := List.mem_map.1 hw
    exact List.mem_append_left _ (List.mem_map_of_mem (List.takeWhile_subset _ hf))
  · split at hw
    · exact List.mem_append_right _ hw
    · cases hw

theorem allWrites_replace (r : CaptureRun) (w : Write) (hw : w ∈ allWrites nt r) : ∃ path b, w = .replace path b := by
  rcases List.mem_append.1 hw with hw | hw
  · obtain ⟨f, -, rfl⟩ := List.mem_map.1 hw
    exact ⟨_, _, rfl⟩
  · rcases List.mem_cons.1 hw with rfl | hw
    · exact ⟨_, _, rfl⟩
    · exact ⟨_, _, List.mem_singleton.1 hw⟩

theorem manifest_not_evidence (r : CaptureRun) : ∀ w ∈ evidenceWrites nt r, baselineContract.manifest ≠ w.path := by
  intro w hw heq
  have hmem : baselineContract.manifest ∈ (allWrites nt r).map Write.path :=
    heq ▸ List.mem_map_of_mem (mem_allWrites nt r w hw)
  rw [allWrites_paths] at hmem
  exact absurd hmem (by decide)

theorem manifest_not_tracked : baselineContract.manifest ∉ trackedManifestPaths baselineContract := by decide

/-- **Collected metadata are those of the files**, for every path collected; the others keep theirs. -/
theorem collectFileMetadata_get (fs : Files) : ∀ (paths : List String) (metadata files : Dict),
    collectFileMetadata sha256 fs paths metadata = .ok files →
      (∀ path ∈ paths, ∃ b, fs path = some b ∧ files.get path = .obj (fileMetadata sha256 path b)) ∧
        ∀ path, path ∉ paths → files.get path = metadata.get path
  | [], metadata, files, h => by
    cases h
    exact ⟨fun path hp => (nomatch hp), fun _ _ => rfl⟩
  | path :: paths, metadata, files, h => by
    rw [collectFileMetadata] at h
    split at h
    · cases h
    · rename_i b hb
      obtain ⟨hin, hout⟩ := collectFileMetadata_get fs paths _ files h
      refine ⟨fun p hp => ?_, fun p hp => ?_⟩
      · by_cases hmem : p ∈ paths
        · exact hin p hmem
        · obtain rfl : p = path := (List.mem_cons.1 hp).resolve_right hmem
          exact ⟨b, hb, by rw [hout p hmem, Dict.get_set, if_pos rfl]⟩
      · rw [List.mem_cons, not_or] at hp
        rw [hout p hp.2, Dict.get_set, if_neg hp.1]

theorem fileMetadata_wf (path : String) (b : ByteArray) : (Json.obj (fileMetadata sha256 path b)).WF := by
  simp [fileMetadata, Json.WF, Json.WFMembers, Dict.keys]

theorem collectFileMetadata_wf (fs : Files) : ∀ (paths : List String) (metadata files : Dict),
    (Json.obj metadata).WF → collectFileMetadata sha256 fs paths metadata = .ok files → (Json.obj files).WF
  | [], metadata, files, hwf, h => by cases h; exact hwf
  | path :: paths, metadata, files, hwf, h => by
    rw [collectFileMetadata] at h
    split at h
    · cases h
    · exact collectFileMetadata_wf fs paths _ files (Json.wf_set _ _ _ hwf (fileMetadata_wf sha256 path _)) h

theorem buildManifest_wf (r : CaptureRun) (files : Dict) (h : (Json.obj files).WF) :
    (Json.obj (buildManifest c r files)).WF := by
  have hcontext : r.context.toJson.WF := by
    cases henv : r.context.envFile <;> simp [CaptureContext.toJson, henv, Json.WF, Json.WFMembers, Dict.keys]
  simp only [Json.WF] at h
  simp [buildManifest, Json.WF, Json.WFMembers, Dict.keys, hcontext]
  exact h

theorem metadata_beside_manifest (fs : Files) (files : Dict) (bytes : ByteArray)
    (hc : c.manifest ∉ trackedManifestPaths c)
    (hm : collectFileMetadata sha256 fs (trackedManifestPaths c) [] = .ok files) (path : String)
    (hp : path ∈ trackedManifestPaths c) : ∃ b, fs.write c.manifest bytes path = some b ∧
      files.get path = .obj (fileMetadata sha256 path b) := by
  have hne : path ≠ c.manifest := fun h => hc (by rwa [← h])
  rw [Files.write_other fs _ hne]
  exact (collectFileMetadata_get sha256 fs _ _ _ hm).1 path hp

/-- **A completed capture leaves a whole manifest.** -/
theorem manifestOf_completed (r : CaptureRun) (fs : Files) (files : Dict) (bytes : ByteArray)
    (hc : c.manifest ∉ trackedManifestPaths c)
    (hm : collectFileMetadata sha256 fs (trackedManifestPaths c) [] = .ok files)
    (hd : dumpsFile nt (.obj (buildManifest c r files)) = .ok bytes) :
    ManifestOf nt sha256 c (fs.write c.manifest bytes) := by
  have hwf := collectFileMetadata_wf sha256 fs _ [] files ⟨List.nodup_nil, trivial⟩ hm
  obtain ⟨hfit, rfl⟩ := dumpsFile_eq_ok.1 hd
  exact ⟨buildManifest c r files, files, Files.write_same _ _ _, buildManifest_wf c r files hwf, hfit, rfl,
    metadata_beside_manifest sha256 c fs files _ hc hm⟩

/-! ## The invariant -/

/-- What does not open the manifest leaves it to its writer. -/
theorem ManifestState.frame {fs fs' : Files} {w : Option CaptureEvent} (h : ManifestState nt sha256 c fs w)
    (hsame : fs' c.manifest = fs c.manifest) : ManifestState nt sha256 c fs' w := by
  cases w with
  | none => exact hsame.trans h
  | some ev => exact ⟨hsame.trans h.1, h.2⟩

end

section
variable (nt : NumText) (sha256 : ByteArray → String)

/-- **One capture keeps the manifest its writer's.** -/
theorem Captures.manifestState {r : CaptureRun} {fs fs' : Files} {ended : CaptureEnd} {history : List CaptureEvent}
    (h : Captures nt sha256 baselineContract r fs ended fs')
    (hinv : ManifestState nt sha256 baselineContract fs (manifestWriter history)) :
    ManifestState nt sha256 baselineContract fs' (manifestWriter (⟨ended, fs'⟩ :: history)) := by
  cases h with
  | refused e h => exact hinv
  | evidence _ h hs => exact hinv.frame nt sha256 _ (hs.other (manifest_not_evidence nt r))
  | metadata h => exact hinv.frame nt sha256 _ (applyAll_other _ fs (manifest_not_evidence nt r))
  | torn files bytes b rest h hr hm hd hb hne =>
    have hwf := collectFileMetadata_wf sha256 _ _ [] files ⟨List.nodup_nil, trivial⟩ hm
    obtain ⟨hfit, rfl⟩ := dumpsFile_eq_ok.1 hd
    obtain ⟨e, he⟩ := loadsFile_prefix nt _ (buildManifest_wf baselineContract r files hwf) hfit b rest hb hne
    exact ⟨rfl, b, e, Files.write_same (applyAll (evidenceWrites nt r) fs) baselineContract.manifest b, he⟩
  | completed files bytes h hr hm hd =>
    exact ⟨rfl, manifestOf_completed nt sha256 _ r _ files bytes manifest_not_tracked hm hd⟩

/-- **The manifest is what the last capture that opened it left there.** -/
theorem Runs.manifestState {history : List CaptureEvent} {fs : Files} (h : Runs nt sha256 baselineContract history fs) :
    ManifestState nt sha256 baselineContract fs (manifestWriter history) := by
  induction h with
  | nil => rfl
  | cons history fs r ended fs' hruns h ih => exact h.manifestState nt sha256 ih

/-- **A directory that validates against a whole manifest holds the files the manifest was written over.** -/
theorem tracked_eq_of_manifest (hinj : Function.Injective sha256) {fs fs₀ : Files}
    (hof : ManifestOf nt sha256 baselineContract fs₀)
    (hsame : fs baselineContract.manifest = fs₀ baselineContract.manifest) {b : ByteArray} {manifest : Dict}
    (hb : fs baselineContract.manifest = some b) (hl : loadsFile nt b = .ok (.obj manifest))
    (hsound : ManifestSound sha256 baselineContract fs manifest) (path : String)
    (hp : path ∈ trackedManifestPaths baselineContract) : fs path = fs₀ path := by
  obtain ⟨manifest₀, files₀, hb₀, hwf, hfit, hfiles₀, htracked⟩ := hof
  -- the manifest that was read is the one that was written
  obtain rfl : manifest₀ = manifest := by
    rw [hsame, hb₀] at hb
    cases hb
    rw [loadsFile_jsonFile nt _ hwf hfit] at hl
    exact (Json.obj.inj (Except.ok.inj hl))
  obtain ⟨files, entry, hfiles, hentry, -, b₁, hb₁, -, hsha⟩ := hsound.tracked path hp
  obtain ⟨b₀, hb₀', hentry₀⟩ := htracked path hp
  obtain rfl : files₀ = files := Json.obj.inj (hfiles₀.symm.trans hfiles)
  obtain rfl : fileMetadata sha256 path b₀ = entry := Json.obj.inj (hentry₀.symm.trans hentry)
  have hhash : sha256 b₀ = sha256 b₁ := by
    rw [show Dict.get (fileMetadata sha256 path b₀) "sha256" = .str (sha256 b₀) from rfl] at hsha
    exact Json.str.inj hsha
  rw [hb₁, hb₀', hinj hhash]

/-- The capture has to be refused: it is not confirmed, or a complete baseline would be overwritten without force. -/
def MustRefuse (c : BaselineContract) (r : CaptureRun) (fs : Files) : Prop :=
  r.confirmStockSource = false ∨
    r.force = false ∧ ∃ b manifest, fs c.manifest = some b ∧ loadsFile nt b = .ok (.obj manifest) ∧
      Dict.get manifest "status" = .str "capture-complete"

theorem checkOverwrite_of_mustRefuse (c : BaselineContract) (r : CaptureRun) (fs : Files) (h : MustRefuse nt c r fs) :
    ∃ e, checkOverwrite nt c r fs = .error e := by
  unfold checkOverwrite
  rcases h with h | ⟨hforce, b, manifest, hb, hl, hstatus⟩
  · exact ⟨_, by rw [h]; rfl⟩
  · cases r.confirmStockSource with
    | false => exact ⟨_, rfl⟩
    | true =>
      have hcomplete : (Dict.get manifest "status").pyEq (.str "capture-complete") = true :=
        (Json.pyEq_str_iff _ _).2 hstatus
      rw [if_neg (by decide), hb]
      simp only [hforce, hl, hcomplete, if_true, Bool.false_eq_true, if_false]
      exact ⟨_, rfl⟩

/-- **A refused capture leaves every file unchanged.** -/
theorem refused_unchanged (c : BaselineContract) (r : CaptureRun) (fs fs' : Files) (ended : CaptureEnd)
    (hrefuse : MustRefuse nt c r fs) (h : Captures nt sha256 c r fs ended fs') : ended = .refused ∧ fs' = fs := by
  obtain ⟨e, he⟩ := checkOverwrite_of_mustRefuse nt c r fs hrefuse
  cases h with
  | refused => exact ⟨rfl, rfl⟩
  | evidence _ h _ => rw [he] at h; cases h
  | metadata h => rw [he] at h; cases h
  | torn _ _ _ _ h => rw [he] at h; cases h
  | completed _ _ h => rw [he] at h; cases h

/-- **Captures are crash consistent**: a directory validates only if the capture that last opened the manifest completed
and every tracked file is as that capture left it; and refused captures change nothing. -/
theorem capture_crash_consistent (hinj : Function.Injective sha256) {history : List CaptureEvent} {fs : Files}
    (hruns : Runs nt sha256 baselineContract history fs) :
    (∀ report, validateGoldenBaseline nt sha256 baselineContract fs = .ok report → report.valid = true →
      ∃ ev, manifestWriter history = some ev ∧ ev.ended = .completed ∧
        ∀ path ∈ trackedManifestPaths baselineContract, fs path = ev.files path) ∧
    ∀ r fs' ended, MustRefuse nt baselineContract r fs → Captures nt sha256 baselineContract r fs ended fs' → fs' = fs := by
  refine ⟨fun report hreport hvalid => ?_, fun r fs' ended hrefuse h =>
    (refused_unchanged nt sha256 _ r fs fs' ended hrefuse h).2⟩
  have hinv := hruns.manifestState nt sha256
  obtain ⟨⟨hfiles, -⟩, hmanifest⟩ := (accepted_iff nt sha256 baselineContract fs).1 ⟨report, hreport, hvalid⟩
  obtain ⟨v, b, hb, hl, hv⟩ : ∃ v b, fs baselineContract.manifest = some b ∧ loadsFile nt b = .ok v ∧
      ∀ manifest, v = .obj manifest → ManifestSound sha256 baselineContract fs manifest := by
    rcases hmanifest with ⟨b, v, hb, hl, hne⟩ | ⟨b, manifest, hb, hl, hsound⟩
    · exact ⟨v, b, hb, hl, fun manifest h => absurd h (hne manifest)⟩
    · exact ⟨_, b, hb, hl, fun manifest' h => Json.obj.inj h ▸ hsound⟩
  cases hw : manifestWriter history with
  | none =>
    rw [hw] at hinv
    exact absurd (hb.symm.trans hinv) (by simp)
  | some ev =>
    rw [hw] at hinv
    obtain ⟨hsame, hev⟩ := hinv
    cases hend : ev.ended with
    | tornManifest =>
      simp only [hend] at hev
      obtain ⟨b', e, hb', he⟩ := hev
      obtain rfl : b = b' := Option.some.inj (hb.symm.trans (hsame.trans hb'))
      rw [hl] at he
      cases he
    | completed =>
      simp only [hend] at hev
      obtain ⟨manifest, files, hb₀, hwf, hfit, -⟩ := id hev
      obtain rfl : v = .obj manifest := by
        rw [hsame, hb₀] at hb
        cases hb
        rw [loadsFile_jsonFile nt _ hwf hfit] at hl
        exact (Except.ok.inj hl).symm
      exact ⟨ev, rfl, hend, tracked_eq_of_manifest nt sha256 hinj hev hsame hb hl (hv manifest rfl)⟩
    | refused => simp only [hend] at hev
    | interrupted => simp only [hend] at hev

/-! ## Complete captures -/

/-- What a recorded configuration holds under `fields`. -/
def ConfigCapture.fieldsJson (config : ConfigCapture) : Dict := config.fields.map (fun f => (f.1, f.2.toJson))

/-- **A captured configuration is sound**: every critical field is there, and no secret has a value. -/
theorem captureRuntimeConfig_sound (c : BaselineContract) (configJson : Record) (now : String) :
    ConfigSound c (captureRuntimeConfig nt sha256 c configJson now).fieldsJson := by
  have hfields : (captureRuntimeConfig nt sha256 c configJson now).fieldsJson =
      (fromkeys c.criticalRuntimeFields).map (fun name => (name, (captureField nt sha256 c configJson name).toJson)) := by
    simp [ConfigCapture.fieldsJson, captureRuntimeConfig, Function.comp_def]
  rw [hfields]
  constructor
  · intro name hname
    rw [Dict.get_map, if_pos ((mem_fromkeys _ name).2 hname)]
    refine ⟨_, rfl, fun key hkey => ?_⟩
    simp only [List.mem_cons, List.not_mem_nil, or_false] at hkey
    rcases hkey with rfl | rfl | rfl <;> simp
  · intro name hname
    rw [secretPayload, Dict.get_map, Dict.has_map]
    by_cases h : name ∈ fromkeys c.criticalRuntimeFields
    · rw [if_pos (by simpa using h), if_pos h, captureField, ConfigField.toJson, if_neg (fun hn => hn.1 hname)]
      rfl
    · rw [if_neg (by simpa using h)]
      rfl

theorem collectFileMetadata_ok (fs : Files) : ∀ (paths : List String) (metadata : Dict),
    (∀ path ∈ paths, ∃ b, fs path = some b) → ∃ files, collectFileMetadata sha256 fs paths metadata = .ok files
  | [], metadata, _ => ⟨metadata, rfl⟩
  | path :: paths, metadata, h => by
    obtain ⟨b, hb⟩ := h path List.mem_cons_self
    rw [collectFileMetadata, hb]
    exact collectFileMetadata_ok fs paths _ (fun p hp => h p (List.mem_cons_of_mem _ hp))

/-- Collected metadata are written where the sizes of the files are. -/
theorem collectFileMetadata_fits (limit : DigitLimit) (fs : Files) : ∀ (paths : List String) (metadata files : Dict),
    (∀ path ∈ paths, ∀ b, fs path = some b → (Json.int b.size).fits limit = true) →
      (Json.obj metadata).fits limit = true → collectFileMetadata sha256 fs paths metadata = .ok files →
        (Json.obj files).fits limit = true
  | [], metadata, files, _, hfit, h => by cases h; exact hfit
  | path :: paths, metadata, files, hsizes, hfit, h => by
    rw [collectFileMetadata] at h
    split at h
    · cases h
    · rename_i b hb
      have hsize := hsizes path List.mem_cons_self b hb
      have hentry : (Json.obj (fileMetadata sha256 path b)).fits limit = true := by
        simp only [fileMetadata, Json.fits, Json.fitsMembers, Bool.true_and, Bool.and_true] at hsize ⊢
        exact hsize
      exact collectFileMetadata_fits limit fs paths _ files (fun p hp => hsizes p (List.mem_cons_of_mem _ hp))
        (Json.fits_set limit _ _ _ hfit hentry) h

theorem buildManifest_fits (limit : DigitLimit) (c : BaselineContract) (r : CaptureRun) (files : Dict)
    (hversion : (Json.int 1).fits limit = true) (hcontext : r.context.toJson.fits limit = true)
    (hfiles : (Json.obj files).fits limit = true) : (Json.obj (buildManifest c r files)).fits limit = true := by
  simp only [Json.fits] at hversion hfiles
  simp only [buildManifest, Json.fits, Json.fitsMembers, hversion, hcontext, hfiles, Bool.and_true]

/-- **A capture that is not refused can complete**, where its documents can be written. -/
theorem capture_completes (r : CaptureRun) (fs : Files) (h : checkOverwrite nt baselineContract r fs = .ok ())
    (hr : r.serializes nt = true) (hversion : (Json.int 1).fits nt.maxStrDigits = true)
    (hcontext : r.context.toJson.fits nt.maxStrDigits = true)
    (hsizes : ∀ w ∈ allWrites nt r, (Json.int w.bytes.size).fits nt.maxStrDigits = true) :
    ∃ fs', Captures nt sha256 baselineContract r fs .completed fs' := by
  have hpresent : ∀ path ∈ trackedManifestPaths baselineContract, ∃ b, applyAll (evidenceWrites nt r) fs path = some b ∧
      (Json.int b.size).fits nt.maxStrDigits = true := by
    have hnd : ((allWrites nt r).map Write.path).Nodup := by rw [allWrites_paths]; decide
    intro path hp
    rw [evidenceWrites_of_serializes nt r hr]
    rw [← allWrites_paths nt r, List.mem_map] at hp
    obtain ⟨w, hw, rfl⟩ := hp
    obtain ⟨p, b, rfl⟩ := allWrites_replace nt r w hw
    exact ⟨b, applyAll_replaced _ fs hnd hw, hsizes _ hw⟩
  obtain ⟨files, hfiles⟩ := collectFileMetadata_ok sha256 _ _ [] (fun path hp => (hpresent path hp).imp fun _ hb => hb.1)
  have hfit := collectFileMetadata_fits sha256 nt.maxStrDigits _ _ [] files (fun path hp b hb => by
    obtain ⟨b', hb', hsize⟩ := hpresent path hp
    obtain rfl : b' = b := Option.some.inj (hb'.symm.trans hb)
    exact hsize) rfl hfiles
  exact ⟨_, .completed files _ h hr hfiles
    (dumpsFile_of_fits (buildManifest_fits nt.maxStrDigits baselineContract r files hversion hcontext hfit))⟩

/-- The payload can be read back, and the screenshots are not empty. -/
structure CaptureRun.Usable (r : CaptureRun) : Prop where
  wf : ∀ f ∈ r.payload.files, f.2.WF
  config : ConfigSound baselineContract r.payload.config.fieldsJson
  dashboardShot : r.dashboardShot.size ≠ 0
  computerShot : r.computerShot.size ≠ 0

theorem buildManifest_sound (r : CaptureRun) (fs : Files) (files : Dict)
    (htracked : ∀ path ∈ trackedManifestPaths baselineContract, ∃ b, fs path = some b ∧
      Dict.get files path = .obj (fileMetadata sha256 path b)) :
    ManifestSound sha256 baselineContract fs (buildManifest baselineContract r files) where
  fields name hname := by
    simp only [baselineContract, List.mem_cons, List.not_mem_nil, or_false] at hname
    rcases hname with rfl | rfl | rfl | rfl | rfl | rfl | rfl <;> simp [buildManifest]
  status := rfl
  captureContext := ⟨_, rfl⟩
  tracked path hp := by
    obtain ⟨b, hb, hentry⟩ := htracked path hp
    exact ⟨files, _, rfl, hentry, rfl, b, hb, by simp [fileMetadata], rfl⟩

theorem evidence_written (r : CaptureRun) (fs : Files) (bytes : ByteArray) (path : String) (b : ByteArray)
    (hr : r.serializes nt = true) (h : Write.replace path b ∈ allWrites nt r) :
    ((applyAll (evidenceWrites nt r) fs).write baselineContract.manifest bytes) path = some b := by
  rw [← evidenceWrites_of_serializes nt r hr] at h
  have hne : path ≠ baselineContract.manifest := fun heq => manifest_not_evidence nt r _ h heq.symm
  have hnd : ((evidenceWrites nt r).map Write.path).Nodup := by
    rw [evidenceWrites_of_serializes nt r hr, allWrites_paths]
    decide
  rw [Files.write_other _ _ hne]
  exact applyAll_replaced _ fs hnd h

theorem payload_paths (p : BaselinePayload) : requiredRelativePaths baselineContract =
    baselineContract.manifest :: p.files.map Prod.fst ++ baselineContract.uiEvidence := rfl

theorem payload_suffixes (p : BaselinePayload) : ∀ f ∈ p.files, pathSuffix f.1 ≠ ".png" := by
  have hpaths : ∀ path ∈ p.files.map Prod.fst, pathSuffix path ≠ ".png" := by
    show ∀ path ∈ ["ldap-tree.json", "config.json", "api-captures/dashboard.json", "api-captures/agent-list.json",
      "api-captures/computer-tree.json"], pathSuffix path ≠ ".png"
    decide
  exact fun f hf => hpaths f.1 (List.mem_map_of_mem hf)

theorem config_mem_files (p : BaselinePayload) : ("config.json", captureFile p.config.capturedAt
    [("source", .str p.config.source), ("fields", .obj p.config.fieldsJson)]) ∈ p.files :=
  List.mem_cons_of_mem _ List.mem_cons_self

/-- **A completed capture validates.** -/
theorem completed_validates (r : CaptureRun) (fs fs' : Files) (hr : r.Usable)
    (h : Captures nt sha256 baselineContract r fs .completed fs') :
    ∃ report, validateGoldenBaseline nt sha256 baselineContract fs' = .ok report ∧ report.valid = true := by
  cases h with
  | completed files bytes h hs hm hd =>
    have hwf := buildManifest_wf baselineContract r files
      (collectFileMetadata_wf sha256 _ _ [] files ⟨List.nodup_nil, trivial⟩ hm)
    obtain ⟨hfit, rfl⟩ := dumpsFile_eq_ok.1 hd
    have htracked := metadata_beside_manifest sha256 baselineContract _ files
      (jsonFile nt (.obj (buildManifest baselineContract r files))) manifest_not_tracked hm
    have hwritten := fun path b => evidence_written nt r fs (jsonFile nt (.obj (buildManifest baselineContract r files)))
      path b hs
    have hpayload : ∀ f ∈ r.payload.files, Write.replace f.1 (jsonFile nt f.2) ∈ allWrites nt r := fun f hf =>
      List.mem_append_left _ (List.mem_map.2 ⟨f, hf, rfl⟩)
    have hfits : ∀ f ∈ r.payload.files, f.2.fits nt.maxStrDigits = true := List.all_eq_true.1 hs
    have hmanifest := Files.write_same (applyAll (evidenceWrites nt r) fs) baselineContract.manifest
      (jsonFile nt (.obj (buildManifest baselineContract r files)))
    generalize hfs' : (applyAll (evidenceWrites nt r) fs).write baselineContract.manifest
      (jsonFile nt (.obj (buildManifest baselineContract r files))) = fs' at htracked hwritten hmanifest ⊢
    rw [accepted_iff]
    refine ⟨⟨?_, ?_⟩, Or.inr ⟨_, _, hmanifest, loadsFile_jsonFile nt _ hwf hfit,
      buildManifest_sound sha256 r fs' files htracked⟩⟩
    · intro path hp
      rw [payload_paths r.payload, List.cons_append, List.mem_cons, List.mem_append, List.mem_map] at hp
      rcases hp with rfl | ⟨f, hf, rfl⟩ | hui
      · exact ⟨_, hmanifest, fun _ => ⟨_, loadsFile_jsonFile nt _ hwf hfit⟩, fun hpng => absurd hpng (by decide)⟩
      · refine ⟨_, hwritten _ _ (hpayload f hf), fun _ => ⟨_, loadsFile_jsonFile nt _ (hr.wf f hf) (hfits f hf)⟩,
          fun hpng => ?_⟩
        exact absurd hpng (payload_suffixes r.payload f hf)
      · simp only [baselineContract, List.mem_cons, List.not_mem_nil, or_false] at hui
        rcases hui with rfl | rfl
        · exact ⟨_, hwritten _ _ (List.mem_append_right _ List.mem_cons_self), fun hjson => absurd hjson (by decide),
            fun _ => hr.dashboardShot⟩
        · exact ⟨_, hwritten _ _ (List.mem_append_right _ (List.mem_cons_of_mem _ List.mem_cons_self)),
            fun hjson => absurd hjson (by decide), fun _ => hr.computerShot⟩
    · exact ⟨_, _, r.payload.config.fieldsJson, hwritten _ _ (hpayload _ (config_mem_files r.payload)),
        loadsFile_jsonFile nt _ (hr.wf _ (config_mem_files r.payload)) (hfits _ (config_mem_files r.payload)), rfl,
        hr.config⟩

end

/-! ## A capture into an empty directory -/

/-- A hash without collisions: the bytes themselves. -/
def bytesText (b : ByteArray) : String := String.ofList (b.data.toList.map Char.ofUInt8)

theorem bytesText_injective : Function.Injective bytesText := by
  have hchar : Function.Injective Char.ofUInt8 := fun x y h => UInt8.toUInt32_inj.1 (congrArg Char.val h)
  intro a b h
  have hlist := List.map_injective_iff.2 hchar (String.ofList_inj.1 h)
  exact ByteArray.ext (Array.toList_inj.1 hlist)

theorem captureConfig_wf (config : ConfigCapture) : (captureFile config.capturedAt
    [("source", .str config.source), ("fields", .obj config.fieldsJson)]).WF := by
  have hfields : (Json.obj config.fieldsJson).WF := by
    rw [Json.WF, Json.wfMembers_iff]
    refine ⟨?_, fun p hp => ?_⟩
    · rw [ConfigCapture.fieldsJson, Dict.keys, List.map_map]
      exact config.distinct
    · obtain ⟨f, -, rfl⟩ := List.mem_map.1 hp
      cases hv : f.2.value with
      | none => simp [ConfigField.toJson, hv, Json.WF, Json.WFMembers, Dict.keys]
      | some v => simp [ConfigField.toJson, hv, Json.WF, Json.WFMembers, Dict.keys, v.property]
  rw [Json.WF] at hfields
  simpa [captureFile, Json.WF, Json.WFMembers, Dict.keys] using hfields

/-- A confirmed capture of an installation without entries or agents. -/
def sampleCapture : CaptureRun where
  root := "platform/baselines/golden-install"
  force := false
  confirmStockSource := true
  payload := collectLiveBaselinePayload .bits bytesText (fun _ => "") id baselineContract
    { sampleLive "a" "x" with ldapTree := [] }
  dashboardShot := ⟨#[0]⟩
  computerShot := ⟨#[0]⟩
  context :=
    { capturedByHost := "host", envFile := none, sourceLabel := "stock-liderahenk-install", captureUi := true
      apiUrl := "http://localhost:8082", uiUrl := "http://localhost:3001"
      ldapHost := "localhost", ldapPort := 1389, ldapBaseDn := "dc=liderahenk,dc=org"
      mysqlHost := "127.0.0.1", mysqlPort := 3306, mysqlDatabase := "liderahenk", mysqlUser := "lider"
      xmppDomain := "liderahenk.org" }
  baselineName := "stock-liderahenk"
  capturedAt := "2026-01-01T00:00:00+00:00"

theorem sampleCapture_usable : sampleCapture.Usable where
  wf f hf := by
    simp only [BaselinePayload.files, List.mem_cons, List.not_mem_nil, or_false] at hf
    rcases hf with rfl | rfl | rfl | rfl | rfl
    · show (captureFile _ [("entries", .arr [])]).WF
      simp [captureFile, Json.WF, Json.WFMembers, Json.WFList, Dict.keys]
    · exact captureConfig_wf sampleCapture.payload.config
    · show (captureFile _ [("payload", .obj [])]).WF
      simp [captureFile, Json.WF, Json.WFMembers, Dict.keys]
    · show (captureFile _ [("payload", .arr []), ("agentIds", idsToJson _)]).WF
      simp [captureFile, Json.WF, Json.WFMembers, Json.WFList, Dict.keys, Json.wf_strs, idsToJson]
    · show (captureFile _ [("payload", .arr []), ("agentIds", idsToJson _)]).WF
      simp [captureFile, Json.WF, Json.WFMembers, Json.WFList, Dict.keys, Json.wf_strs, idsToJson]
  config := captureRuntimeConfig_sound .bits bytesText baselineContract _ _
  dashboardShot := by decide
  computerShot := by decide

/-- The same capture with `--force`. -/
def forcedCapture : CaptureRun := { sampleCapture with force := true }

theorem forcedCapture_usable : forcedCapture.Usable := { sampleCapture_usable with }

theorem forcedCapture_checked (fs : Files) : checkOverwrite .bits baselineContract forcedCapture fs = .ok () := by
  unfold checkOverwrite
  cases fs baselineContract.manifest <;> rfl

theorem forcedCapture_serializes : forcedCapture.serializes .bits = true := by decide +kernel

theorem forcedCapture_sizes : ∀ w ∈ allWrites .bits forcedCapture, w.bytes.size ≠ 0 ∧
    (Json.int w.bytes.size).fits NumText.bits.maxStrDigits = true := by
  have hfiles : ∀ f ∈ forcedCapture.payload.files, (jsonFile .bits f.2).size ≠ 0 ∧
      (Json.int (jsonFile .bits f.2).size).fits NumText.bits.maxStrDigits = true := by
    simp only [jsonFile, size_encode]
    decide +kernel
  intro w hw
  rcases List.mem_append.1 hw with hw | hw
  · obtain ⟨f, hf, rfl⟩ := List.mem_map.1 hw
    exact hfiles f hf
  · exact (by decide : ∀ w ∈ forcedCapture.shots, w.bytes.size ≠ 0 ∧
      (Json.int w.bytes.size).fits NumText.bits.maxStrDigits = true) w hw

theorem forcedCapture_completes (fs : Files) :
    ∃ fs', Captures .bits bytesText baselineContract forcedCapture fs .completed fs' :=
  capture_completes .bits bytesText forcedCapture fs (forcedCapture_checked fs) forcedCapture_serializes (by decide)
    (by decide) (fun w hw => (forcedCapture_sizes w hw).2)

theorem forcedCapture_ldapTree {fs fs' : Files}
    (h : Captures .bits bytesText baselineContract forcedCapture fs .completed fs') :
    ∃ b, fs' "ldap-tree.json" = some b ∧ b.size ≠ 0 := by
  cases h with
  | completed files bytes h hr hm hd =>
    have hmem : Write.replace "ldap-tree.json" _ ∈ allWrites .bits forcedCapture := List.mem_cons_self
    exact ⟨_, evidence_written .bits forcedCapture fs bytes _ _ hr hmem, (forcedCapture_sizes _ hmem).1⟩

/-- It may stop when it has opened its first file and written nothing. -/
theorem forcedCapture_torn (fs : Files) : ∃ fs', Captures .bits bytesText baselineContract forcedCapture fs .interrupted fs' ∧
    fs' "ldap-tree.json" = some .empty := by
  obtain ⟨bytes, ws, hws⟩ : ∃ bytes ws, evidenceWrites .bits forcedCapture = .replace "ldap-tree.json" bytes :: ws := by
    rw [evidenceWrites_of_serializes .bits _ forcedCapture_serializes]
    exact ⟨_, _, rfl⟩
  have hsize : bytes.size ≠ 0 := by
    have hmem : Write.replace "ldap-tree.json" bytes ∈ evidenceWrites .bits forcedCapture := hws ▸ List.mem_cons_self
    exact (forcedCapture_sizes _ (mem_allWrites .bits _ _ hmem)).1
  have hstopped : Stopped (evidenceWrites .bits forcedCapture) fs (Write.put fs (.replace "ldap-tree.json" bytes) .empty) :=
    hws ▸ Stopped.torn _ ws fs .empty bytes (by simp [Write.bytes]) (fun h => hsize (congrArg ByteArray.size h.symm))
  exact ⟨_, .evidence _ (forcedCapture_checked fs) hstopped, Files.write_same fs "ldap-tree.json" .empty⟩

/-- **A forced recapture that stops in its first file leaves a directory that does not validate**; the next one completes,
and leaves one that does. -/
theorem sampleCapture_consistent : ∃ fs₁ fs₂ fs₃ : Files,
    Runs .bits bytesText baselineContract [⟨.interrupted, fs₂⟩, ⟨.completed, fs₁⟩] fs₂ ∧
    (¬ ∃ report, validateGoldenBaseline .bits bytesText baselineContract fs₂ = .ok report ∧ report.valid = true) ∧
    Runs .bits bytesText baselineContract [⟨.completed, fs₃⟩, ⟨.interrupted, fs₂⟩, ⟨.completed, fs₁⟩] fs₃ ∧
    (∃ report, validateGoldenBaseline .bits bytesText baselineContract fs₃ = .ok report ∧ report.valid = true) ∧
    ∃ ev, manifestWriter [⟨.completed, fs₃⟩, ⟨.interrupted, fs₂⟩, ⟨.completed, fs₁⟩] = some ev ∧
      ev.ended = .completed ∧ ∀ path ∈ trackedManifestPaths baselineContract, fs₃ path = ev.files path := by
  obtain ⟨fs₁, h₁⟩ := forcedCapture_completes (fun _ => none)
  obtain ⟨fs₂, h₂, hopened⟩ := forcedCapture_torn fs₁
  obtain ⟨fs₃, h₃⟩ := forcedCapture_completes fs₂
  have hruns₂ : Runs .bits bytesText baselineContract [⟨.interrupted, fs₂⟩, ⟨.completed, fs₁⟩] fs₂ :=
    .cons _ _ _ _ _ (.cons _ _ _ _ _ .nil h₁) h₂
  have hruns₃ := Runs.cons _ _ _ _ _ hruns₂ h₃
  obtain ⟨report, hreport, hvalid⟩ := completed_validates .bits bytesText _ _ fs₃ forcedCapture_usable h₃
  have hconsistent := capture_crash_consistent .bits bytesText bytesText_injective hruns₃
  refine ⟨fs₁, fs₂, fs₃, hruns₂, ?_, hruns₃, ⟨report, hreport, hvalid⟩, hconsistent.1 report hreport hvalid⟩
  -- a directory that validated would have the first file as the first capture left it
  rintro ⟨report₂, hreport₂, hvalid₂⟩
  have hconsistent₂ := capture_crash_consistent .bits bytesText bytesText_injective hruns₂
  obtain ⟨ev, hev, -, hsame⟩ := hconsistent₂.1 report₂ hreport₂ hvalid₂
  obtain rfl : ⟨.completed, fs₁⟩ = ev := Option.some.inj hev
  obtain ⟨b, hb, hsize⟩ := forcedCapture_ldapTree h₁
  have hfile : some ByteArray.empty = some b := hopened.symm.trans ((hsame "ldap-tree.json" (by decide)).trans hb)
  exact hsize (congrArg ByteArray.size (Option.some.inj hfile).symm)

end Lider
