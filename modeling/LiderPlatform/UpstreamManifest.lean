import LiderPlatform.PyText
import LiderPlatform.Sections
/-!
# UpstreamManifest — the pinned upstream references (`platform/scripts/manifest_get.sh`, `promote_candidate.sh`)

`platform/upstream-manifest.yaml` is read by an awk program and rewritten, line by line, by a Python one; neither knows
YAML.  The first half follows the two programs on any text.  The second says what the file is: lines that open a
component, fields of a component, comments and blank lines.
-/
namespace Lider.Manifest

open Py

/-! ## `manifest_get.sh` -/

/-- What separates the fields of an awk record. -/
def isBlank (c : Char) : Bool := c = ' ' || c = '\t' || c = '\n'

/-- `[[:space:]]`. -/
def isAwkSpace (c : Char) : Bool := c ∈ [' ', '\t', '\n', '\x0b', '\x0c', '\r']

/-- The records of a file; the newline at its end opens none. -/
def records (text : Text) : List Text :=
  let parts := text.splitOnP (· = '\n')
  if parts.getLast? = some [] then parts.dropLast else parts

def fields (record : Text) : List Text := (record.splitOnP isBlank).filter (fun field => !field.isEmpty)

/-- `$1`, `$2`, ..; a field that is not there is empty. -/
def fieldAt (record : Text) (i : Nat) : Text := ((fields record)[i - 1]?).getD []

/-- `sub("^[^:]+:[[:space:]]*", "", $0)`. -/
def afterKey (record : Text) : Text :=
  if splitHead ':' record ≠ [] ∧ ':' ∈ record then (splitTail ':' record).dropWhile isAwkSpace else record

/-- `gsub(/^"|"$/, "", $0)`. -/
def unquote (record : Text) : Text :=
  let opened := if record.head? = some '"' then record.tail else record
  if opened.getLast? = some '"' then opened.dropLast else opened

/-- What the awk program prints.  Names are texts: two that look like numbers it would compare as numbers. -/
def awkValue (component field : Text) : Bool → List Text → Text
  | _, [] => []
  | inComponent, record :: rest =>
    if fieldAt record 1 = "-".toList ∧ fieldAt record 2 = "component:".toList then
      awkValue component field (fieldAt record 3 = component) rest
    else if inComponent ∧ fieldAt record 1 = field ++ [':'] then unquote (afterKey record)
    else awkValue component field inComponent rest

def missingField (manifest component field : Text) : Text :=
  "missing field '".toList ++ field ++ "' for component '".toList ++ component ++ "' in ".toList ++ manifest

/-- `manifest_get.sh component field manifest`: its output, or its complaint. -/
def manifestGet (manifest component field : Text) (text : Text) : Except Text Text :=
  let value := awkValue component field false (records text)
  if value = [] then .error (missingField manifest component field) else .ok value

/-! ## `promote_candidate.sh` -/

/-- The locals of the loop. -/
structure Promotion where
  out : List Text
  inComponent : Bool
  updated : Bool

/-- One turn of the loop.  The first `: ` of a line that opens a component is the one after that word. -/
def Promotion.line (component newRef : Text) (p : Promotion) (line : Text) : Promotion :=
  let stripped := strip line
  let inComponent :=
    if "- component: ".toList.isPrefixOf stripped then decide (stripped.drop "- component: ".length = component)
    else p.inComponent
  if inComponent && "upstream_ref: ".toList.isPrefixOf stripped then
    ⟨p.out ++ [line.takeWhile isSpace ++ "upstream_ref: ".toList ++ newRef], inComponent, true⟩
  else ⟨p.out ++ [line], inComponent, p.updated⟩

/-- The text that `promote_candidate.sh component ref` writes, or its complaint. -/
def promote (component newRef : Text) (text : Text) : Except Text Text :=
  let p := (splitlines (universalNewlines text)).foldl (Promotion.line component newRef) ⟨[], false, false⟩
  if p.updated then .ok (['\n'].intercalate p.out ++ ['\n'])
  else .error ("component not found: ".toList ++ component)

/-- The manifest after a promotion: one that fails writes nothing. -/
def promoted (text : Text) (component newRef : Text) : Text := (promote component newRef text).toOption.getD text

/-! ## The file -/

def isLetter (c : Char) : Bool :=
  let n := c.toNat
  (65 ≤ n && n ≤ 90) || (97 ≤ n && n ≤ 122)

def isNameChar (c : Char) : Bool :=
  let n := c.toNat
  isLetter c || (48 ≤ n && n ≤ 57) || c = '_' || c = '-' || c = '.'

/-- The name of a component or of a field. -/
@[ext]
structure Name where
  text : Text
  head : text.head?.any isLetter = true
  plain : ∀ c ∈ text, isNameChar c = true
deriving DecidableEq

/-- The value of a field, its quotes included. -/
structure Value where
  text : Text
  head : text.head?.any (fun c => !isSpace c) = true
  oneLine : ∀ c ∈ text, isLineBreak c = false

structure Indent where
  text : Text
  blank : ∀ c ∈ text, c = ' ' ∨ c = '\t'

/-- A blank line or a comment. -/
structure Note where
  indent : Indent
  comment : Text
  mark : comment.head?.all (· = '#') = true
  oneLine : ∀ c ∈ comment, isLineBreak c = false

inductive Line where
  | component (indent : Indent) (name : Name)
  | field (indent : Indent) (key : Name) (value : Value)
  | note (remark : Note)

def Line.text : Line → Text
  | .component indent name => indent.text ++ "- component: ".toList ++ name.text
  | .field indent key value => indent.text ++ key.text ++ ": ".toList ++ value.text
  | .note remark => remark.indent.text ++ remark.comment

def textOf (lines : List Line) : Text := lines.flatMap (fun l => l.text ++ ['\n'])

def upstreamRef : Name := ⟨"upstream_ref".toList, by decide, by decide⟩

/-- The manifest as sections of fields. -/
def format : Sections.Format Line Name Name Value where
  view
    | .component _ name => .heading name
    | .field _ key value => .entry key value
    | .note _ => .other
  write
    | .field indent key _, value => .field indent key value
    | l, _ => l
  view_write := by
    rintro (_ | _ | _) _ _ _ h
    · cases h
    · cases h
      rfl
    · cases h
  write_write := by rintro (_ | _ | _) _ _ <;> rfl

@[simp]
theorem view_component (indent : Indent) (name : Name) : format.view (.component indent name) = .heading name := rfl

@[simp]
theorem view_field (indent : Indent) (key : Name) (value : Value) :
    format.view (.field indent key value) = .entry key value := rfl

@[simp]
theorem view_note (remark : Note) : format.view (.note remark) = .other := rfl

@[simp]
theorem write_field (indent : Indent) (key : Name) (value new : Value) :
    format.write (.field indent key value) new = .field indent key new := rfl

/-- What a component's field holds. -/
abbrev lookup (component field : Name) (lines : List Line) : Option Value :=
  Sections.lookup format component field none lines

end Lider.Manifest
