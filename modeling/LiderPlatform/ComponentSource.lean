import LiderPlatform.FileTrees
import LiderPlatform.PySorted
import LiderPlatform.UpstreamPromotions
/-!
# ComponentSource — the source a component is built from (`platform/scripts/prepare_component_source.sh`)

The script clones the upstream repository at the pinned reference, applies the queue of patches, and copies the overlay
and the extension over it.  It succeeds exactly when git does and no copy puts a file where a directory is, and each
file is then the topmost one (`build_layers`).  After any promotions, the reference that is cloned is the one promoted
last for the component, unless the environment names another (`prepare_promotions`).
-/
namespace Lider.ComponentSource

open Py Manifest FileTrees

/-- What the script works with: the environment, the directories of the platform's repository by their paths,
`git clone` with `git checkout`, and `git apply` of a file. -/
structure Surroundings (β : Type) where
  printenv : Text → Option Text
  directory : Text → Option (Tree Text β)
  clone : Text → Text → Option (Tree Text β)
  apply : β → Tree Text β → Option (Tree Text β)

inductive Failure where
  | manifest (message : Text)
  | git
  | patch
  | copy

def joinPath (path : List Text) : Text := ['/'].intercalate path

/-- `tr '[:lower:]-' '[:upper:]_'`. -/
def translate (c : Char) : Char := if c.isLower then c.toUpper else if c = '-' then '_' else c

def overrideVar (component : Text) : Text := component.map translate ++ "_UPSTREAM_REF".toList

/-- The files named `*.patch`, sorted by their paths. -/
def patchFiles {β : Type} (queue : Tree Text β) : List (List Text × β) :=
  sortedBy (fun f => joinPath f.1) (queue.files.filter (fun f => ".patch".toList.isSuffixOf (f.1.getLast?.getD [])))

namespace Surroundings

variable {β : Type} (s : Surroundings β)

def overrideRef (component : Text) : Text :=
  let overrideRef := ((s.printenv (overrideVar component)).getD []).rdropWhile (· = '\n')
  if component = "ahenk".toList ∧ overrideRef = [] then (s.printenv "AHENK_UPSTREAM_SHA".toList).getD [] else overrideRef

/-- A directory of the repository, when it is there, in its place below the target. -/
def layerAt (path : Text) (place : List Text) : Option (Tree Text β) :=
  (s.directory (path ++ place.flatMap (fun segment => '/' :: segment))).map (Tree.under place)

/-- The directories that are copied from the extension, in their order. -/
def extensionLayers (component extensionDir : Text) : List (Tree Text β) :=
  if (s.directory extensionDir).isNone then []
  else if component = "liderapi".toList then
    [["src".toList, "main".toList, "java".toList], ["src".toList, "main".toList, "resources".toList]].filterMap
      (s.layerAt extensionDir)
  else if component = "liderui".toList then [["src".toList]].filterMap (s.layerAt extensionDir)
  else []

/-- What is copied over the patched source, the overlay first. -/
def layers (component patchQueuePath extensionSourcePath : Text) : List (Tree Text β) :=
  (s.directory (patchQueuePath ++ "/overlay".toList)).toList ++ s.extensionLayers component extensionSourcePath

/-- The patches, one after the other; the first that does not apply ends the script. -/
def applyQueue (patchQueuePath : Text) (base : Tree Text β) : Option (Tree Text β) :=
  let patches := ((s.directory (patchQueuePath ++ "/queue".toList)).map patchFiles).getD []
  patches.foldlM (fun t patch => s.apply patch.2 t) base

/-- The script from the clone on, with the target directory that it leaves. -/
def build (component upstreamUrl upstreamRef patchQueuePath extensionSourcePath : Text) :
    Except Failure (Tree Text β) :=
  match s.clone upstreamUrl upstreamRef with
  | none => .error .git
  | some base =>
    match s.applyQueue patchQueuePath base with
    | none => .error .patch
    | some patched =>
      match stack (s.layers component patchQueuePath extensionSourcePath) patched with
      | none => .error .copy
      | some target => .ok target

/-- `prepare_component_source.sh component`. -/
def prepare (manifest component text : Text) : Except Failure (Tree Text β) := do
  let manifestGet (field : Text) := (manifestGet manifest component field text).mapError Failure.manifest
  let upstreamUrl ← manifestGet "upstream_url".toList
  let upstreamRef ← manifestGet "upstream_ref".toList
  let patchQueuePath ← manifestGet "patch_queue_path".toList
  let extensionSourcePath ← manifestGet "extension_source_path".toList
  let overrideRef := s.overrideRef component
  let upstreamRef := if overrideRef = [] then upstreamRef else overrideRef
  s.build component upstreamUrl upstreamRef patchQueuePath extensionSourcePath

/-! ## What is built -/

section
variable {s} {component upstreamUrl upstreamRef patchQueuePath extensionSourcePath : Text}

theorem build_eq_ok_iff {target : Tree Text β} :
    s.build component upstreamUrl upstreamRef patchQueuePath extensionSourcePath = .ok target ↔
      ∃ base patched, s.clone upstreamUrl upstreamRef = some base ∧ s.applyQueue patchQueuePath base = some patched ∧
        stack (s.layers component patchQueuePath extensionSourcePath) patched = some target := by
  rw [build]
  cases hbase : s.clone upstreamUrl upstreamRef with
  | none => simp
  | some base =>
    cases hpatched : s.applyQueue patchQueuePath base with
    | none => simp [hpatched]
    | some patched =>
      cases htarget : stack (s.layers component patchQueuePath extensionSourcePath) patched with
      | none => simp [hpatched, htarget]
      | some t => simp [hpatched, htarget]

end

/-- **A component's source is its layers**: it is built exactly when the clone and the patches succeed and no two of the
trees clash, and each file is that of the topmost layer that has it, or the patched one. -/
theorem build_layers (component upstreamUrl upstreamRef patchQueuePath extensionSourcePath : Text) :
    ((s.build component upstreamUrl upstreamRef patchQueuePath extensionSourcePath).isOk ↔
      ∃ base patched, s.clone upstreamUrl upstreamRef = some base ∧ s.applyQueue patchQueuePath base = some patched ∧
        (patched :: s.layers component patchQueuePath extensionSourcePath).Pairwise
          (fun lower upper => Agree upper lower)) ∧
    ∀ target, s.build component upstreamUrl upstreamRef patchQueuePath extensionSourcePath = .ok target →
      ∃ base patched, s.clone upstreamUrl upstreamRef = some base ∧ s.applyQueue patchQueuePath base = some patched ∧
        ∀ path, target.find? path =
          ((s.layers component patchQueuePath extensionSourcePath).reverse.findSome? (·.find? path)).or
            (patched.find? path) := by
  constructor
  · constructor
    · intro hok
      obtain ⟨target, htarget⟩ : ∃ target,
          s.build component upstreamUrl upstreamRef patchQueuePath extensionSourcePath = .ok target := by
        cases hbuild : s.build component upstreamUrl upstreamRef patchQueuePath extensionSourcePath with
        | ok target => exact ⟨target, rfl⟩
        | error failure =>
          rw [hbuild] at hok
          cases hok
      obtain ⟨base, patched, hbase, hpatched, hstack⟩ := build_eq_ok_iff.1 htarget
      exact ⟨base, patched, hbase, hpatched, (stack_isSome_iff _ _).1 (by rw [hstack]; rfl)⟩
    · rintro ⟨base, patched, hbase, hpatched, hclash⟩
      obtain ⟨target, hstack⟩ := Option.isSome_iff_exists.1 ((stack_isSome_iff _ _).2 hclash)
      rw [build_eq_ok_iff.2 ⟨base, patched, hbase, hpatched, hstack⟩]
      rfl
  · intro target htarget
    obtain ⟨base, patched, hbase, hpatched, hstack⟩ := build_eq_ok_iff.1 htarget
    exact ⟨base, patched, hbase, hpatched, find?_stack _ _ hstack⟩

/-! ## What is promoted is built -/

section
variable {s} {component : Name} {lines : List Line}

def urlField : Name := ⟨"upstream_url".toList, by decide, by decide⟩

def queueField : Name := ⟨"patch_queue_path".toList, by decide, by decide⟩

def extensionField : Name := ⟨"extension_source_path".toList, by decide, by decide⟩

/-- A component with the fields that are asked for. -/
structure Entry (lines : List Line) (component : Name) (url ref queue extension : Value) : Prop where
  hasUrl : lookup component urlField lines = some url
  hasRef : lookup component upstreamRef lines = some ref
  hasQueue : lookup component queueField lines = some queue
  hasExtension : lookup component extensionField lines = some extension
  filled : ∀ value ∈ [url, queue, extension], unquote value.text ≠ []

theorem answer_some (manifest : Text) (field : Name) {value : Value} (hfilled : unquote value.text ≠ []) :
    answer manifest component field (some value) = .ok (unquote value.text) :=
  if_neg hfilled

/-- A promotion leaves the other fields. -/
theorem manifestGet_other (manifest : Text) (ps : List (Name × Value)) {field : Name} (hfield : field ≠ upstreamRef)
    {value : Value} (hvalue : lookup component field lines = some value) (hfilled : unquote value.text ≠ []) :
    manifestGet manifest component.text field.text (promotions (textOf lines) ps) = .ok (unquote value.text) := by
  rw [promotions_textOf, manifestGet_textOf, lookup, Sections.lookup_overwrite_of_ne hfield,
    show Sections.lookup format component field none lines = _ from hvalue, answer_some manifest field hfilled]

theorem manifestGet_ref (manifest : Text) (ps : List (Name × Value)) {ref : Value}
    (href : lookup component upstreamRef lines = some ref)
    (hfilled : unquote ((Sections.lastOf ps component).getD ref).text ≠ []) :
    manifestGet manifest component.text upstreamRef.text (promotions (textOf lines) ps) =
      .ok (unquote ((Sections.lastOf ps component).getD ref).text) := by
  rw [promotions_textOf, manifestGet_textOf, lookup, Sections.lookup_overwrite,
    show Sections.lookup format component upstreamRef none lines = _ from href, Option.map_some,
    answer_some manifest upstreamRef hfilled]

theorem prepare_of_ok {manifest component text url ref queue extension : Text}
    (hurl : manifestGet manifest component "upstream_url".toList text = .ok url)
    (href : manifestGet manifest component "upstream_ref".toList text = .ok ref)
    (hqueue : manifestGet manifest component "patch_queue_path".toList text = .ok queue)
    (hextension : manifestGet manifest component "extension_source_path".toList text = .ok extension) :
    s.prepare manifest component text =
      s.build component url (if s.overrideRef component = [] then ref else s.overrideRef component) queue extension := by
  have hget : ∀ {field value : Text}, manifestGet manifest component field text = .ok value →
      (manifestGet manifest component field text).mapError Failure.manifest = .ok value := by
    intro field value h
    rw [h]
    rfl
  unfold prepare
  dsimp only
  rw [hget hurl, hget href, hget hqueue, hget hextension]
  rfl

/-- **What is built is what was promoted last**, unless the environment names another reference: promotions of other
components do not matter, nor do those before it. -/
theorem prepare_promotions {url ref queue extension : Value} (hentry : Entry lines component url ref queue extension)
    (ps : List (Name × Value)) (hfilled : unquote ((Sections.lastOf ps component).getD ref).text ≠ [])
    (manifest : Text) :
    s.prepare manifest component.text (promotions (textOf lines) ps) =
      s.build component.text (unquote url.text)
        (if s.overrideRef component.text = [] then unquote ((Sections.lastOf ps component).getD ref).text
        else s.overrideRef component.text)
        (unquote queue.text) (unquote extension.text) := by
  have hne : urlField ≠ upstreamRef ∧ queueField ≠ upstreamRef ∧ extensionField ≠ upstreamRef := by decide
  refine prepare_of_ok ?_ (manifestGet_ref manifest ps hentry.hasRef hfilled) ?_ ?_
  · exact manifestGet_other manifest ps hne.1 hentry.hasUrl (hentry.filled url List.mem_cons_self)
  · exact manifestGet_other manifest ps hne.2.1 hentry.hasQueue
      (hentry.filled queue (List.mem_cons_of_mem _ List.mem_cons_self))
  · exact manifestGet_other manifest ps hne.2.2 hentry.hasExtension
      (hentry.filled extension (List.mem_cons_of_mem _ (List.mem_cons_of_mem _ List.mem_cons_self)))

end

end Surroundings

/-! A manifest of one component, promoted twice, in a repository with a patch, an overlay and an extension. -/

def sampleUrl : Value := ⟨"upstream".toList, by decide, by decide⟩

def samplePatches : Value := ⟨"patches".toList, by decide, by decide⟩

def sampleExtension : Value := ⟨"extension".toList, by decide, by decide⟩

def sampleIndent : Indent := ⟨"    ".toList, by decide⟩

def sampleLines : List Line :=
  .component sampleIndent liderapi ::
    [(Surroundings.urlField, sampleUrl), (upstreamRef, sampleRef), (Surroundings.queueField, samplePatches),
      (Surroundings.extensionField, sampleExtension)].map (fun f => .field sampleIndent f.1 f.2)

/-- A tree of one file. -/
def fileTree (path : List Text) (content : Text) : Tree Text Text where
  files := [(path, content)]
  nodup := List.nodup_singleton _
  separate := fun _ hp _ hq _ => (List.mem_singleton.1 hp).trans (List.mem_singleton.1 hq).symm

/-- Each clone has a build file of its reference; the patch adds a file, and the overlay has another build file. -/
def sampleSurroundings : Surroundings Text where
  printenv _ := none
  directory path :=
    [("patches/queue".toList, fileTree ["01.patch".toList] "port".toList),
      ("patches/overlay".toList, fileTree ["pom.xml".toList] "overlay".toList),
      ("extension".toList, fileTree ["readme".toList] []),
      ("extension/src/main/java".toList, fileTree ["Api.java".toList] "api".toList)].lookup path
  clone _ ref := (fileTree ["REF".toList] ref).copy (fileTree ["pom.xml".toList] "upstream".toList)
  apply patch t := (fileTree ["PATCHED".toList] patch).copy t

/-- The source has the reference promoted last, the patch, the overlay's build file and the extension. -/
theorem sampleSurroundings_promoted :
    (sampleSurroundings.prepare "manifest".toList liderapi.text
        (promotions (textOf sampleLines) [(liderapi, laterRef), (ahenk, sampleRef), (liderapi, laterRef)])).toOption.map
      Tree.files =
    some [(["src".toList, "main".toList, "java".toList, "Api.java".toList], "api".toList),
      (["pom.xml".toList], "overlay".toList), (["PATCHED".toList], "port".toList),
      (["REF".toList], unquote laterRef.text)] := by
  rw [Surroundings.prepare_promotions ⟨rfl, rfl, rfl, rfl, by decide⟩ _ (by decide)]
  decide

end Lider.ComponentSource
