import LiderPlatform.BaselineCapture
import LiderPlatform.PyJsonCut
import LiderPlatform.PyFiles
import Mathlib.Data.List.Infix
/-!
# BaselineValidator — when a baseline directory is accepted (`validate_golden_baseline`)

The validator checks that every required file is there and can be read, compares the manifest's metadata with the files
and looks for plaintext secrets in the configuration.  All checks of the manifest stand under one test that it is a
dictionary, with no other branch: `validator_sound_iff` says which directories pass without them.
-/
namespace Lider

open Py

/-! ## Single files -/

/-- `Path.suffix`: the last component from its last dot on, when that is neither its first nor its last character. -/
def pathSuffix (path : String) : String :=
  let backwards := path.toList.reverse.takeWhile (· != '/')
  let extension := backwards.takeWhile (· != '.')
  if extension ≠ [] ∧ extension.length + 1 < backwards.length then String.ofList ('.' :: extension.reverse) else ""

section
variable (nt : NumText) (sha256 : ByteArray → String) (c : BaselineContract) (fs : Files)

/-- What is wrong with the content of a required file. -/
def contentErrors (path : String) : List String :=
  match fs path with
  | none => []
  | some b =>
    if pathSuffix path = ".json" then
      match loadsFile nt b with
      | .ok _ => []
      | .error e => [path ++ ": invalid json (" ++ e.text ++ ")"]
    else if pathSuffix path = ".png" ∧ b.size = 0 then [path ++ ": empty png evidence"]
    else []

def missingErrors (path : String) : List String :=
  match fs path with
  | none => ["missing required file: " ++ path]
  | some _ => []

/-! ## The manifest -/

/-- What is wrong with the metadata of one tracked file. -/
def metadataErrors (filesMetadata : Dict) (path : String) : List String :=
  match filesMetadata.get path with
  | .obj metadata =>
    (if (Dict.get metadata "path").pyEq (.str path) then [] else ["manifest path mismatch: " ++ path]) ++
    (match fs path with
      | none => []
      | some b =>
        (if (Dict.get metadata "sha256").pyEq (.str (sha256 b)) then [] else ["manifest hash mismatch: " ++ path]) ++
        (if (Dict.get metadata "size").pyEq (.int b.size) then [] else ["manifest size mismatch: " ++ path]))
  | _ => ["manifest file metadata missing: " ++ path]

def statusErrors (status : Json) : List String :=
  if status.pyEq (.str "capture-pending") then
    ["canonical golden baseline not captured yet (manifest status: capture-pending)"]
  else if status.pyEq (.str "capture-complete") then []
  else ["manifest status must be capture-complete"]

def captureContextErrors : Json → List String
  | .obj _ => []
  | _ => ["manifest captureContext must be an object"]

/-- `manifest.get("files", {})`, with what is wrong with it. -/
def filesMetadataOf (manifest : Dict) : List String × Dict :=
  if Dict.has manifest "files" then
    match Dict.get manifest "files" with
    | .obj files => ([], files)
    | _ => (["manifest files must be an object"], [])
  else ([], [])

def manifestErrors (manifest : Dict) : List String :=
  (c.manifestRequiredFields.filter (fun name => !manifest.has name)).map (fun name => "manifest missing field: " ++ name) ++
  statusErrors (Dict.get manifest "status") ++
  captureContextErrors (Dict.get manifest "captureContext") ++
  (filesMetadataOf manifest).1 ++
  (trackedManifestPaths c).flatMap (metadataErrors sha256 fs (filesMetadataOf manifest).2)

def checkManifest : List String × Json :=
  match fs c.manifest with
  | none => ([], .null)
  | some b =>
    match loadsFile nt b with
    | .error e => ([c.manifest ++ ": invalid json (" ++ e.text ++ ")"], .null)
    | .ok (.obj manifest) => (manifestErrors sha256 c fs manifest, Dict.get manifest "status")
    | .ok _ => ([], .null)

/-! ## The configuration -/

/-- `"value" in payload`. -/
def containsValue : Json → Except PyExc Bool
  | .obj payload => .ok (Dict.has payload "value")
  | .arr xs => .ok (xs.any (fun x => x.pyEq (.str "value")))
  | .str s => .ok (decide ("value".toList <:+: s.toList))
  | _ => .error .typeError

def configFieldErrors (fields : Dict) (name : String) : List String :=
  match fields.get name with
  | .obj payload =>
    (["present", "source", "sha256"].filter (fun key => !Dict.has payload key)).map
      (fun key => "config field " ++ name ++ " missing key: " ++ key)
  | _ => ["config field missing: " ++ name]

/-- `fields.get(secret_field, {})`. -/
def secretPayload (fields : Dict) (name : String) : Json := if fields.has name then fields.get name else .obj []

def secretErrors (fields : Dict) : List String → Except PyExc (List String)
  | [] => .ok []
  | name :: names => do
    let exposed ← containsValue (secretPayload fields name)
    let rest ← secretErrors fields names
    return (if exposed then ["secret field exposed in plaintext: " ++ name] else []) ++ rest

/-- `config.get("fields", {})`. -/
def configFields (config : Dict) : Json := if config.has "fields" then config.get "fields" else .obj []

/-- The block about the configuration file; what it cannot read it raises. -/
def checkConfig : Except PyExc (List String) :=
  match fs c.config with
  | none => .ok []
  | some b => do
    let config ← loadsFile nt b
    match config with
    | .obj config =>
      match configFields config with
      | .obj fields =>
        let secrets ← secretErrors fields c.secretRuntimeFields
        return c.criticalRuntimeFields.flatMap (configFieldErrors fields) ++ secrets
      | _ => .error .attributeError
    | _ => .error .attributeError

/-! ## The report -/

inductive BaselineStatus where
  | pass
  | pendingCapture
  | fail
deriving DecidableEq, Repr

structure BaselineReport where
  status : BaselineStatus
  manifestStatus : Json
  valid : Bool
  errors : List String

def validateGoldenBaseline : Except PyExc BaselineReport := do
  let paths := requiredRelativePaths c
  let manifest := checkManifest nt sha256 c fs
  let configErrs ← checkConfig nt c fs
  let errors := paths.flatMap (contentErrors nt fs) ++ paths.flatMap (missingErrors fs) ++ manifest.1 ++ configErrs
  return {
    status :=
      if errors.isEmpty then .pass
      else if manifest.2.pyEq (.str "capture-pending") then .pendingCapture
      else .fail
    manifestStatus := manifest.2
    valid := errors.isEmpty
    errors := errors }

/-! ## What acceptance says, block by block -/

structure FileInOrder (path : String) (b : ByteArray) : Prop where
  present : fs path = some b
  json : pathSuffix path = ".json" → ∃ v, loadsFile nt b = .ok v
  png : pathSuffix path = ".png" → b.size ≠ 0

structure ManifestSound (manifest : Dict) : Prop where
  fields : ∀ name ∈ c.manifestRequiredFields, manifest.has name = true
  status : manifest.get "status" = .str "capture-complete"
  captureContext : ∃ context, manifest.get "captureContext" = .obj context
  tracked : ∀ path ∈ trackedManifestPaths c, ∃ files entry, manifest.get "files" = .obj files ∧
    Dict.get files path = .obj entry ∧ Dict.get entry "path" = .str path ∧ ∃ b, fs path = some b ∧
    (Dict.get entry "size").pyEq (.int b.size) = true ∧ Dict.get entry "sha256" = .str (sha256 b)

structure ConfigSound (fields : Dict) : Prop where
  critical : ∀ name ∈ c.criticalRuntimeFields, ∃ payload, fields.get name = .obj payload ∧
    ∀ key ∈ ["present", "source", "sha256"], Dict.has payload key = true
  secret : ∀ name ∈ c.secretRuntimeFields, containsValue (secretPayload fields name) = .ok false

/-- The configuration file holds a dictionary with sound fields. -/
def ConfigInOrder : Prop :=
  ∃ b config fields, fs c.config = some b ∧ loadsFile nt b = .ok (.obj config) ∧ configFields config = .obj fields ∧
    ConfigSound c fields

theorem contentErrors_nil_iff (path : String) (b : ByteArray) (hb : fs path = some b) :
    contentErrors nt fs path = [] ↔
      (pathSuffix path = ".json" → ∃ v, loadsFile nt b = .ok v) ∧ (pathSuffix path = ".png" → b.size ≠ 0) := by
  unfold contentErrors
  rw [hb]
  by_cases hjson : pathSuffix path = ".json"
  · cases hl : loadsFile nt b <;> simp [hjson, hl]
  · simp [hjson]

theorem fileInOrder_iff (path : String) :
    contentErrors nt fs path = [] ∧ missingErrors fs path = [] ↔ ∃ b, FileInOrder nt fs path b := by
  cases hb : fs path with
  | none =>
    refine ⟨fun h => ?_, fun ⟨b, h⟩ => ?_⟩
    · simp [missingErrors, hb] at h
    · rw [h.present] at hb; cases hb
  | some b =>
    have hmissing : missingErrors fs path = [] := by simp [missingErrors, hb]
    rw [contentErrors_nil_iff nt fs path b hb, and_iff_left hmissing]
    refine ⟨fun h => ⟨b, hb, h.1, h.2⟩, fun ⟨b', h⟩ => ?_⟩
    obtain rfl : b = b' := Option.some.inj (hb.symm.trans h.present)
    exact ⟨h.json, h.png⟩

theorem metadataErrors_nil_iff (files : Dict) (path : String) (b : ByteArray) (hb : fs path = some b) :
    metadataErrors sha256 fs files path = [] ↔ ∃ entry, files.get path = .obj entry ∧
      Dict.get entry "path" = .str path ∧ (Dict.get entry "size").pyEq (.int b.size) = true ∧
      Dict.get entry "sha256" = .str (sha256 b) := by
  unfold metadataErrors
  rw [hb]
  cases files.get path with
  | obj entry => simp [and_comm]
  | _ => simp

theorem statusErrors_nil_iff (status : Json) : statusErrors status = [] ↔ status = .str "capture-complete" := by
  unfold statusErrors
  split
  · rename_i h
    rw [Json.pyEq_str_iff] at h
    subst h
    simp
  · simp

theorem captureContextErrors_nil_iff (v : Json) : captureContextErrors v = [] ↔ ∃ context, v = .obj context := by
  cases v <;> simp [captureContextErrors]

theorem tracked_required (path : String) (h : path ∈ trackedManifestPaths c) : path ∈ requiredRelativePaths c :=
  List.mem_of_mem_drop h

theorem ldapTree_tracked : c.ldapTree ∈ trackedManifestPaths c := List.mem_cons_self

theorem filesMetadataOf_obj (manifest files : Dict) (h : manifest.get "files" = .obj files) :
    filesMetadataOf manifest = ([], files) := by
  rw [filesMetadataOf, if_pos (Dict.has_of_get h (by simp)), h]

theorem files_of_filesMetadataOf (manifest entry : Dict) (path : String)
    (hentry : (filesMetadataOf manifest).2.get path = .obj entry) :
    manifest.get "files" = .obj (filesMetadataOf manifest).2 := by
  unfold filesMetadataOf at hentry ⊢
  split at hentry
  · rename_i hhas
    rw [if_pos hhas]
    split at hentry
    · rename_i files hfiles
      rw [hfiles]
    · cases hentry
  · cases hentry

/-- **A manifest that is a dictionary has no errors exactly when it is sound**, all required files being there. -/
theorem manifestErrors_nil_iff (manifest : Dict) (hfiles : ∀ path ∈ requiredRelativePaths c, ∃ b, fs path = some b) :
    manifestErrors sha256 c fs manifest = [] ↔ ManifestSound sha256 c fs manifest := by
  have hsplit : manifestErrors sha256 c fs manifest = [] ↔
      (∀ name ∈ c.manifestRequiredFields, manifest.has name = true) ∧ manifest.get "status" = .str "capture-complete" ∧
        (∃ context, manifest.get "captureContext" = .obj context) ∧ (filesMetadataOf manifest).1 = [] ∧
        ∀ path ∈ trackedManifestPaths c, metadataErrors sha256 fs (filesMetadataOf manifest).2 path = [] := by
    simp only [manifestErrors, List.append_eq_nil_iff, List.map_eq_nil_iff, List.filter_eq_nil_iff, Bool.not_eq_true',
      Bool.not_eq_false, statusErrors_nil_iff, captureContextErrors_nil_iff, List.flatMap_eq_nil_iff, and_assoc]
  rw [hsplit]
  constructor
  · rintro ⟨hreq, hstatus, hcontext, -, htracked⟩
    refine ⟨hreq, hstatus, hcontext, fun path hpath => ?_⟩
    obtain ⟨b, hb⟩ := hfiles path (tracked_required c path hpath)
    obtain ⟨entry, hentry, hp, hsize, hsha⟩ := (metadataErrors_nil_iff sha256 fs _ path b hb).1 (htracked path hpath)
    exact ⟨_, entry, files_of_filesMetadataOf manifest entry path hentry, hentry, hp, b, hb, hsize, hsha⟩
  · intro h
    obtain ⟨files, _, hobj, -⟩ := h.tracked c.ldapTree (ldapTree_tracked c)
    have hmeta := filesMetadataOf_obj manifest files hobj
    refine ⟨h.fields, h.status, h.captureContext, by rw [hmeta], fun path hpath => ?_⟩
    obtain ⟨files', entry, hobj', hentry, hp, b, hb, hsize, hsha⟩ := h.tracked path hpath
    rw [hmeta]
    rw [hobj] at hobj'
    cases hobj'
    exact (metadataErrors_nil_iff sha256 fs files path b hb).2 ⟨entry, hentry, hp, hsize, hsha⟩

theorem secretErrors_nil_iff (fields : Dict) : ∀ (names : List String), secretErrors fields names = .ok [] ↔
    ∀ name ∈ names, containsValue (secretPayload fields name) = .ok false
  | [] => by simp [secretErrors]
  | name :: names => by
    have ih := secretErrors_nil_iff fields names
    simp only [secretErrors, List.forall_mem_cons, ← ih]
    cases containsValue (secretPayload fields name) with
    | error e => simp [bind, Except.bind]
    | ok exposed =>
      cases secretErrors fields names with
      | error e => simp [bind, Except.bind]
      | ok rest => cases exposed <;> simp [bind, Except.bind, pure, Except.pure]

theorem configFieldErrors_nil_iff (fields : Dict) (name : String) : configFieldErrors fields name = [] ↔
    ∃ payload, fields.get name = .obj payload ∧ ∀ key ∈ ["present", "source", "sha256"], Dict.has payload key = true := by
  unfold configFieldErrors
  cases fields.get name with
  | obj payload => simp [List.filter_eq_nil_iff]
  | _ => simp

theorem configSound_iff (fields : Dict) (secrets : List String)
    (hs : secretErrors fields c.secretRuntimeFields = .ok secrets) :
    c.criticalRuntimeFields.flatMap (configFieldErrors fields) ++ secrets = [] ↔ ConfigSound c fields := by
  have hsecret : secrets = [] ↔ ∀ name ∈ c.secretRuntimeFields, containsValue (secretPayload fields name) = .ok false := by
    rw [← secretErrors_nil_iff, hs, Except.ok.injEq]
  rw [List.append_eq_nil_iff, List.flatMap_eq_nil_iff, hsecret]
  simp only [configFieldErrors_nil_iff]
  exact ⟨fun h => ⟨h.1, h.2⟩, fun h => ⟨h.critical, h.secret⟩⟩

/-- **The configuration has no errors exactly when it is in order**, its file being there. -/
theorem checkConfig_nil_iff (b : ByteArray) (hb : fs c.config = some b) :
    checkConfig nt c fs = .ok [] ↔ ConfigInOrder nt c fs := by
  unfold checkConfig
  rw [hb]
  constructor
  · intro h
    cases hl : loadsFile nt b with
    | error e => simp [hl, bind, Except.bind] at h
    | ok v =>
      simp only [hl, bind, Except.bind] at h
      split at h
      · rename_i config
        split at h
        · rename_i fields hfields
          cases hs : secretErrors fields c.secretRuntimeFields with
          | error e => simp [hs] at h
          | ok secrets =>
            simp only [hs, pure, Except.pure, Except.ok.injEq] at h
            exact ⟨b, config, fields, hb, hl, hfields, (configSound_iff c fields secrets hs).1 h⟩
        · cases h
      · cases h
  · rintro ⟨b', config, fields, hb', hl, hfields, hsound⟩
    obtain rfl : b = b' := Option.some.inj (hb.symm.trans hb')
    have hs := (secretErrors_nil_iff fields c.secretRuntimeFields).2 hsound.secret
    simp only [hl, hfields, hs, bind, Except.bind, pure, Except.pure]
    rw [(configSound_iff c fields [] hs).2 hsound]

/-! ## Soundness -/

/-- The manifest is a JSON document of another shape than a dictionary. -/
def ManifestNotObject : Prop :=
  ∃ b v, fs c.manifest = some b ∧ loadsFile nt b = .ok v ∧ ∀ manifest, v ≠ .obj manifest

def FilesInOrder : Prop :=
  (∀ path ∈ requiredRelativePaths c, ∃ b, FileInOrder nt fs path b) ∧ ConfigInOrder nt c fs

def BaselineSound : Prop :=
  (∃ b manifest, fs c.manifest = some b ∧ loadsFile nt b = .ok (.obj manifest) ∧
      ManifestSound sha256 c fs manifest) ∧
    (∃ b config, fs c.config = some b ∧ loadsFile nt b = .ok (.obj config) ∧
      ∃ fields, configFields config = .obj fields ∧
        (∀ name ∈ c.criticalRuntimeFields, ∃ payload, Dict.get fields name = .obj payload ∧
          ∀ key ∈ ["present", "source", "sha256"], Dict.has payload key = true) ∧
        ∀ name ∈ c.secretRuntimeFields, ∀ payload, Dict.get fields name = .obj payload → Dict.has payload "value" = false)

theorem valid_iff_nil : (∃ report, validateGoldenBaseline nt sha256 c fs = .ok report ∧ report.valid = true) ↔
    (∀ path ∈ requiredRelativePaths c, contentErrors nt fs path = [] ∧ missingErrors fs path = []) ∧
      (checkManifest nt sha256 c fs).1 = [] ∧ checkConfig nt c fs = .ok [] := by
  unfold validateGoldenBaseline
  cases checkConfig nt c fs with
  | error e => simp [bind, Except.bind]
  | ok errs =>
    simp only [bind, Except.bind, pure, Except.pure, Except.ok.injEq, exists_eq_left', List.isEmpty_iff,
      List.append_eq_nil_iff, List.flatMap_eq_nil_iff]
    constructor
    · rintro ⟨⟨⟨hcontent, hmissing⟩, hm⟩, herrs⟩
      exact ⟨fun p hp => ⟨hcontent p hp, hmissing p hp⟩, hm, herrs⟩
    · rintro ⟨hfiles, hm, herrs⟩
      exact ⟨⟨⟨fun p hp => (hfiles p hp).1, fun p hp => (hfiles p hp).2⟩, hm⟩, herrs⟩

theorem manifest_required : c.manifest ∈ requiredRelativePaths c := List.mem_cons_self

theorem config_required : c.config ∈ requiredRelativePaths c := by simp [requiredRelativePaths]

/-- The manifest's block has no error exactly when the manifest is sound, or no dictionary. -/
theorem checkManifest_nil_iff (hfiles : ∀ path ∈ requiredRelativePaths c, ∃ b, fs path = some b) :
    (checkManifest nt sha256 c fs).1 = [] ↔ ManifestNotObject nt c fs ∨
      ∃ b manifest, fs c.manifest = some b ∧ loadsFile nt b = .ok (.obj manifest) ∧ ManifestSound sha256 c fs manifest := by
  obtain ⟨b, hb⟩ := hfiles c.manifest (manifest_required c)
  have huniq : ∀ b', fs c.manifest = some b' → b' = b := fun b' h => Option.some.inj (h.symm.trans hb)
  cases hl : loadsFile nt b with
  | error e =>
    have hcheck : (checkManifest nt sha256 c fs).1 = [c.manifest ++ ": invalid json (" ++ e.text ++ ")"] := by
      simp only [checkManifest, hb, hl]
    rw [hcheck]
    refine ⟨fun h => (nomatch h), fun h => ?_⟩
    rcases h with ⟨b', v, hb', hv, -⟩ | ⟨b', m, hb', hv, -⟩ <;> rw [huniq b' hb', hl] at hv <;> cases hv
  | ok v =>
    by_cases hobj : ∃ manifest, v = .obj manifest
    · obtain ⟨manifest, rfl⟩ := hobj
      have hcheck : (checkManifest nt sha256 c fs).1 = manifestErrors sha256 c fs manifest := by
        simp only [checkManifest, hb, hl]
      rw [hcheck, manifestErrors_nil_iff sha256 c fs manifest hfiles]
      refine ⟨fun h => Or.inr ⟨b, manifest, hb, hl, h⟩, fun h => ?_⟩
      rcases h with ⟨b', v, hb', hv, hne⟩ | ⟨b', m, hb', hv, hm⟩
      · rw [huniq b' hb', hl] at hv
        cases hv
        exact absurd rfl (hne manifest)
      · rw [huniq b' hb', hl] at hv
        cases hv
        exact hm
    · -- no branch of the source looks at a manifest of this shape
      have hcheck : (checkManifest nt sha256 c fs).1 = [] := by
        cases v with
        | obj manifest => exact absurd ⟨manifest, rfl⟩ hobj
        | _ => simp only [checkManifest, hb, hl]
      exact iff_of_true hcheck (Or.inl ⟨b, v, hb, hl, fun manifest h => hobj ⟨manifest, h⟩⟩)

/-- **A directory is accepted exactly when its files are in order and its manifest is sound, or no dictionary.** -/
theorem accepted_iff : (∃ report, validateGoldenBaseline nt sha256 c fs = .ok report ∧ report.valid = true) ↔
    FilesInOrder nt c fs ∧ (ManifestNotObject nt c fs ∨
      ∃ b manifest, fs c.manifest = some b ∧ loadsFile nt b = .ok (.obj manifest) ∧
        ManifestSound sha256 c fs manifest) := by
  have hrequired : (∀ path ∈ requiredRelativePaths c, contentErrors nt fs path = [] ∧ missingErrors fs path = []) ↔
      ∀ path ∈ requiredRelativePaths c, ∃ b, FileInOrder nt fs path b :=
    forall₂_congr (fun path _ => fileInOrder_iff nt fs path)
  rw [valid_iff_nil, hrequired, FilesInOrder, and_assoc]
  refine and_congr_right (fun hfiles => ?_)
  have hpresent : ∀ path ∈ requiredRelativePaths c, ∃ b, fs path = some b := fun path hp => by
    obtain ⟨b, hb⟩ := hfiles path hp
    exact ⟨b, hb.present⟩
  obtain ⟨b, hb⟩ := hpresent c.config (config_required c)
  rw [checkManifest_nil_iff nt sha256 c fs hpresent, checkConfig_nil_iff nt c fs b hb, and_comm]

/-- A configuration in order is what a sound directory holds. -/
theorem ConfigInOrder.noValue (h : ConfigInOrder nt c fs) :
    ∃ b config, fs c.config = some b ∧ loadsFile nt b = .ok (.obj config) ∧
      ∃ fields, configFields config = .obj fields ∧
        (∀ name ∈ c.criticalRuntimeFields, ∃ payload, Dict.get fields name = .obj payload ∧
          ∀ key ∈ ["present", "source", "sha256"], Dict.has payload key = true) ∧
        ∀ name ∈ c.secretRuntimeFields, ∀ payload, Dict.get fields name = .obj payload →
          Dict.has payload "value" = false := by
  obtain ⟨b, config, fields, hb, hl, hfields, hsound⟩ := h
  refine ⟨b, config, hb, hl, fields, hfields, hsound.critical, fun name hname payload hpayload => ?_⟩
  have hsecret := hsound.secret name hname
  rw [secretPayload, if_pos (Dict.has_of_get hpayload (by simp)), hpayload, containsValue] at hsecret
  exact Except.ok.inj hsecret

/-- **The validator is sound exactly when the manifest of a directory otherwise in order is a dictionary**: on any other
directory, whatever its files hold, acceptance means what it says. -/
theorem validator_sound_iff :
    (∀ report, validateGoldenBaseline nt sha256 c fs = .ok report → report.valid = true → BaselineSound nt sha256 c fs) ↔
      ¬ (ManifestNotObject nt c fs ∧ FilesInOrder nt c fs) := by
  constructor
  · rintro hsound ⟨hnot, hfiles⟩
    obtain ⟨report, hreport, hvalid⟩ := (accepted_iff nt sha256 c fs).2 ⟨hfiles, Or.inl hnot⟩
    obtain ⟨⟨b, manifest, hb, hl, -⟩, -⟩ := hsound report hreport hvalid
    obtain ⟨b', v, hb', hv, hne⟩ := hnot
    obtain rfl : b = b' := Option.some.inj (hb.symm.trans hb')
    rw [hl] at hv
    exact hne manifest (Except.ok.inj hv).symm
  · intro hno report hreport hvalid
    obtain ⟨hfiles, hmanifest⟩ := (accepted_iff nt sha256 c fs).1 ⟨report, hreport, hvalid⟩
    rcases hmanifest with hnot | hmanifest
    · exact absurd ⟨hnot, hfiles⟩ hno
    · exact ⟨hmanifest, hfiles.2.noValue⟩

end

/-! ## A directory without a manifest dictionary -/

def plainField : Dict := [("present", .bool true), ("source", .str ""), ("sha256", .str "")]

def plainFields (names : List String) : Dict := names.map (fun name => (name, .obj plainField))

theorem plainFields_sound : ConfigSound baselineContract (plainFields baselineContract.criticalRuntimeFields) where
  critical name hname := ⟨plainField, by rw [plainFields, Dict.get_map, if_pos hname], by decide⟩
  secret name _ := by
    rw [secretPayload, plainFields, Dict.get_map, Dict.has_map]
    by_cases h : name ∈ baselineContract.criticalRuntimeFields
    · rw [if_pos (by simpa using h), if_pos h]; rfl
    · rw [if_neg (by simpa using h)]; rfl

theorem plainFields_wf (names : List String) (h : names.Nodup) : (Json.obj (plainFields names)).WF := by
  rw [Json.WF, Json.wfMembers_iff]
  refine ⟨by simpa [plainFields, Dict.keys, Function.comp_def] using h, fun p hp => ?_⟩
  obtain ⟨name, -, rfl⟩ := List.mem_map.1 hp
  simp [plainField, Json.WF, Json.WFMembers, Dict.keys]

def plainConfig : Dict := [("fields", .obj (plainFields baselineContract.criticalRuntimeFields))]

theorem plainConfig_wf : (Json.obj plainConfig).WF := by
  have h := plainFields_wf baselineContract.criticalRuntimeFields (by decide)
  rw [plainConfig, Json.WF, Json.wfMembers_iff]
  exact ⟨List.nodup_singleton _, by simpa using h⟩

theorem plainConfig_fits (limit : DigitLimit) : (Json.obj plainConfig).fits limit = true := rfl

/-- What the directory's files hold: `[]` stands where the manifest should, and no file is tracked. -/
def bareFiles (nt : NumText) (path : String) : Option ByteArray :=
  if path = "config.json" then some (jsonFile nt (.obj plainConfig))
  else if path ∈ baselineContract.uiEvidence then some ⟨#[0]⟩
  else some (jsonFile nt (.arr []))

theorem required_suffixes : ∀ path ∈ requiredRelativePaths baselineContract,
    (path ∉ baselineContract.uiEvidence ∧ pathSuffix path = ".json") ∨
      (path ∈ baselineContract.uiEvidence ∧ path ≠ "config.json" ∧ pathSuffix path = ".png") := by decide

theorem bareFiles_inOrder (nt : NumText) (path : String) (h : path ∈ requiredRelativePaths baselineContract) :
    ∃ b, FileInOrder nt (bareFiles nt) path b := by
  rcases required_suffixes path h with ⟨hui, hjson⟩ | ⟨hui, hconfig, hpng⟩
  · obtain ⟨v, hwf, hfit, hb⟩ : ∃ v : Json, v.WF ∧ v.fits nt.maxStrDigits = true ∧
        bareFiles nt path = some (jsonFile nt v) := by
      by_cases hc : path = "config.json"
      · exact ⟨.obj plainConfig, plainConfig_wf, plainConfig_fits _, by rw [bareFiles, if_pos hc]⟩
      · exact ⟨.arr [], by simp [Json.WF, Json.WFList], rfl, by rw [bareFiles, if_neg hc, if_neg hui]⟩
    exact ⟨_, hb, fun _ => ⟨v, loadsFile_jsonFile nt v hwf hfit⟩, fun h => absurd (hjson.symm.trans h) (by decide)⟩
  · exact ⟨⟨#[0]⟩, by rw [bareFiles, if_neg hconfig, if_pos hui], fun h => absurd (hpng.symm.trans h) (by decide),
      fun _ => by decide⟩

/-- **The directory is accepted, and it has no manifest that could be sound.** -/
theorem bareFiles_unsound : ¬ ∀ report, validateGoldenBaseline .bits (fun _ => "") baselineContract (bareFiles .bits) =
    .ok report → report.valid = true → BaselineSound .bits (fun _ => "") baselineContract (bareFiles .bits) := by
  have hmanifest : bareFiles .bits baselineContract.manifest = some (jsonFile .bits (.arr [])) := by
    rw [bareFiles, if_neg (by decide), if_neg (by decide)]
  have hloads := loadsFile_jsonFile .bits (.arr []) (by simp [Json.WF, Json.WFList]) rfl
  have hconfig : ConfigInOrder .bits baselineContract (bareFiles .bits) :=
    ⟨_, plainConfig, _, rfl, loadsFile_jsonFile .bits _ plainConfig_wf (plainConfig_fits _), rfl, plainFields_sound⟩
  obtain ⟨report, hreport, hvalid⟩ := (accepted_iff .bits (fun _ => "") baselineContract (bareFiles .bits)).2
    ⟨⟨bareFiles_inOrder .bits, hconfig⟩, Or.inl ⟨_, _, hmanifest, hloads, by simp⟩⟩
  intro hsound
  obtain ⟨⟨b, manifest, hb, hl, -⟩, -⟩ := hsound report hreport hvalid
  rw [hmanifest] at hb
  cases hb
  rw [hloads] at hl
  cases hl

/-! ## Whether there is a report -/

/-- `in` can be asked of the value. -/
def isContainer : Json → Bool
  | .obj _ | .arr _ | .str _ => true
  | _ => false

/-- The configuration file is missing, or holds a dictionary whose `fields`, if it has any, are one too, each secret field
present among them a dictionary, a list or a text. -/
def ConfigReadable (nt : NumText) (c : BaselineContract) (fs : Files) : Prop :=
  ∀ b, fs c.config = some b → ∃ config fields : Dict, loadsFile nt b = .ok (.obj config) ∧
    configFields config = .obj fields ∧
      ∀ name ∈ c.secretRuntimeFields, fields.has name = true → isContainer (fields.get name) = true

theorem containsValue_ok_iff (v : Json) : (∃ exposed, containsValue v = .ok exposed) ↔ isContainer v = true := by
  cases v <;> simp [containsValue, isContainer]

theorem secretErrors_ok_iff (fields : Dict) : ∀ (names : List String), (∃ errors, secretErrors fields names = .ok errors) ↔
    ∀ name ∈ names, fields.has name = true → isContainer (fields.get name) = true
  | [] => by simp [secretErrors]
  | name :: names => by
    have ih := secretErrors_ok_iff fields names
    have hname : (∃ exposed, containsValue (secretPayload fields name) = .ok exposed) ↔
        (fields.has name = true → isContainer (fields.get name) = true) := by
      rw [containsValue_ok_iff]
      unfold secretPayload
      cases fields.has name <;> simp [isContainer]
    rw [List.forall_mem_cons, ← ih, ← hname]
    simp only [secretErrors]
    cases containsValue (secretPayload fields name) with
    | error e => simp [bind, Except.bind]
    | ok exposed => cases secretErrors fields names <;> simp [bind, Except.bind, pure, Except.pure]

theorem checkConfig_ok_iff (nt : NumText) (c : BaselineContract) (fs : Files) :
    (∃ errors, checkConfig nt c fs = .ok errors) ↔ ConfigReadable nt c fs := by
  unfold checkConfig ConfigReadable
  cases fs c.config with
  | none => simp
  | some b =>
    simp only [Option.some.injEq, forall_eq']
    cases loadsFile nt b with
    | error e => simp [bind, Except.bind]
    | ok v =>
      cases v with
      | obj config =>
        cases hfields : configFields config with
        | obj fields =>
          rw [show (∃ config' fields', (Except.ok (Json.obj config) : Except PyExc Json) = .ok (.obj config') ∧
              configFields config' = .obj fields' ∧ ∀ name ∈ c.secretRuntimeFields, Dict.has fields' name = true →
                isContainer (Dict.get fields' name) = true) ↔
              ∀ name ∈ c.secretRuntimeFields, Dict.has fields name = true → isContainer (Dict.get fields name) = true by
            simp [hfields], ← secretErrors_ok_iff]
          cases hs : secretErrors fields c.secretRuntimeFields <;>
            simp [bind, Except.bind, pure, Except.pure, hfields, hs]
        | _ => simp [bind, Except.bind, hfields]
      | _ => simp [bind, Except.bind]

/-- **A report comes back exactly when the configuration can be read**, whatever the other files hold; then it is valid or
lists errors. -/
theorem validateGoldenBaseline_returns_iff (nt : NumText) (sha256 : ByteArray → String) (c : BaselineContract)
    (fs : Files) :
    (∃ report, validateGoldenBaseline nt sha256 c fs = .ok report ∧ (report.valid = true ∨ report.errors ≠ [])) ↔
      ConfigReadable nt c fs := by
  rw [← checkConfig_ok_iff]
  unfold validateGoldenBaseline
  cases checkConfig nt c fs with
  | error e => simp [bind, Except.bind]
  | ok errs =>
    simp only [bind, Except.bind, pure, Except.pure, Except.ok.injEq, exists_eq_left', exists_eq', iff_true,
      List.isEmpty_iff]
    exact em _

/-- A directory with one file, a configuration that is a list. -/
def listConfigFiles (path : String) : Option ByteArray :=
  if path = "config.json" then some (jsonFile .bits (.arr [])) else none

theorem listConfig_raises : ¬ ∃ report, validateGoldenBaseline .bits (fun _ => "") baselineContract listConfigFiles =
    .ok report ∧ (report.valid = true ∨ report.errors ≠ []) := by
  rintro ⟨report, hreport, -⟩
  have hloads := loadsFile_jsonFile .bits (.arr []) (by simp [Json.WF, Json.WFList]) rfl
  have hraises : checkConfig .bits baselineContract listConfigFiles = .error .attributeError := by
    have hfile : listConfigFiles baselineContract.config = some (jsonFile .bits (.arr [])) := rfl
    simp [checkConfig, hfile, hloads, bind, Except.bind]
  simp [validateGoldenBaseline, hraises, bind, Except.bind] at hreport

end Lider
