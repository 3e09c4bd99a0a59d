import LiderPlatform.PyText
/-!
# PyPaths — the pure paths of `pathlib`

A path is its root and its parts: empty parts and dots are dropped, `..` stays.  An absolute path that is joined to a
directory stands for itself.  The name of a file is what follows the last slash (`name_join`), its stem that name
without the last suffix (`stem_of_name`).
-/
namespace Py

structure PurePath where
  root : Text
  parts : List Text
deriving DecidableEq

/-- What follows the last slash. -/
def lastPart (text : Text) : Text := text.rtakeWhile (· != '/')

namespace PurePath

/-- The root of a path: POSIX tells two slashes from one, and from three. -/
def rootOf : Text → Text
  | '/' :: '/' :: '/' :: _ => ['/']
  | '/' :: '/' :: _ => ['/', '/']
  | '/' :: _ => ['/']
  | _ => []

/-- `PurePath(text)`. -/
def parse (text : Text) : PurePath := ⟨rootOf text, (text.splitOn '/').filter (fun part => part ≠ [] ∧ part ≠ ['.'])⟩

/-- `dir / text`. -/
def join (dir : PurePath) (text : Text) : PurePath :=
  if (parse text).root = [] then ⟨dir.root, dir.parts ++ (parse text).parts⟩ else parse text

/-- `path.name`. -/
def name (path : PurePath) : Text := path.parts.getLast?.getD []

/-- `path.stem`: what stands before the last dot of the name, unless the name begins or ends there. -/
def stem (path : PurePath) : Text :=
  let before := (path.name.rdropWhile (· != '.')).dropLast
  let after := path.name.rtakeWhile (· != '.')
  if before = [] ∨ after = [] then path.name else before

end PurePath

theorem slash_not_mem_lastPart (text : Text) : '/' ∉ lastPart text := fun h => by
  simpa using List.mem_rtakeWhile_imp h

theorem lastPart_eq_self {text : Text} (h : '/' ∉ text) : lastPart text = text :=
  List.rtakeWhile_eq_self_iff.2 (fun _ hc => bne_iff_ne.2 (fun heq => h (heq ▸ hc)))

/-- What is written behind a text without slashes ends its last part. -/
theorem lastPart_append (text : Text) {suffix : Text} (h : '/' ∉ suffix) :
    lastPart (text ++ suffix) = lastPart text ++ suffix := by
  have hfree : ∀ c ∈ suffix.reverse, (c != '/') = true := fun c hc =>
    bne_iff_ne.2 (fun heq => h (heq ▸ List.mem_reverse.1 hc))
  rw [lastPart, lastPart, List.rtakeWhile, List.rtakeWhile, List.reverse_append, List.takeWhile_append_of_pos hfree,
    List.reverse_append, List.reverse_reverse]

namespace PurePath

/-- The last part of a path ends its parts, when it is one. -/
theorem getLast?_parts {text : Text} (hne : lastPart text ≠ []) (hdot : lastPart text ≠ ['.']) :
    (parse text).parts.getLast? = some (lastPart text) := by
  have hkeep : decide (lastPart text ≠ [] ∧ lastPart text ≠ ['.']) = true := decide_eq_true ⟨hne, hdot⟩
  have hlast : [lastPart text].filter (fun part => part ≠ [] ∧ part ≠ ['.']) = [lastPart text] := by
    rw [List.filter_cons, if_pos hkeep, List.filter_nil]
  have hsplit : (lastPart text).splitOn '/' = [lastPart text] := List.splitOn_eq_singleton (slash_not_mem_lastPart text)
  have htext : text.rdropWhile (· != '/') ++ lastPart text = text := List.rdropWhile_append_rtakeWhile
  by_cases hbefore : text.rdropWhile (· != '/') = []
  · rw [hbefore, List.nil_append] at htext
    rw [parse, ← htext]
    simp only [lastPart_eq_self (slash_not_mem_lastPart text), hsplit, hlast]
    rfl
  · have hslash : (text.rdropWhile (· != '/')).getLast hbefore = '/' := by
      simpa using List.rdropWhile_last_not (· != '/') text hbefore
    have hpre : text = (text.rdropWhile (· != '/')).dropLast ++ '/' :: lastPart text := by
      conv_lhs => rw [← htext, ← List.dropLast_append_getLast hbefore, hslash]
      rw [List.append_assoc, List.singleton_append]
    have hparts : (parse text).parts = (((text.rdropWhile (· != '/')).dropLast).splitOn '/').filter
        (fun part => part ≠ [] ∧ part ≠ ['.']) ++ [lastPart text] := by
      rw [parse]
      conv_lhs => rw [hpre]
      rw [List.splitOn_append_cons_self, List.filter_append, hsplit, hlast]
    rw [hparts, List.getLast?_append]
    rfl

/-- **The name of a joined path is what follows its last slash**, when it is a part. -/
theorem name_join (dir : PurePath) {text : Text} (hne : lastPart text ≠ []) (hdot : lastPart text ≠ ['.']) :
    (dir.join text).name = lastPart text := by
  rw [name, join]
  split
  · rw [List.getLast?_append, getLast?_parts hne hdot]
    rfl
  · rw [getLast?_parts hne hdot]
    rfl

/-- **A stem is the name without its suffix**; a name that is all suffix is its own stem. -/
theorem stem_of_name {path : PurePath} {base suffix : Text} (hname : path.name = base ++ '.' :: suffix)
    (hne : suffix ≠ []) (hfree : '.' ∉ suffix) : path.stem = if base = [] then '.' :: suffix else base := by
  have hsuffix : ∀ c ∈ suffix.reverse, (c != '.') = true := fun c hc =>
    bne_iff_ne.2 (fun heq => hfree (heq ▸ List.mem_reverse.1 hc))
  have hreverse : (base ++ '.' :: suffix).reverse = suffix.reverse ++ '.' :: base.reverse := by simp
  have hafter : path.name.rtakeWhile (· != '.') = suffix := by
    rw [hname, List.rtakeWhile, hreverse, List.takeWhile_append_of_pos hsuffix, List.takeWhile_cons_of_neg (by simp),
      List.append_nil, List.reverse_reverse]
  have hbefore : (path.name.rdropWhile (· != '.')).dropLast = base := by
    rw [hname, List.rdropWhile, hreverse, List.dropWhile_append_of_pos hsuffix, List.dropWhile_cons_of_neg (by simp),
      List.reverse_cons, List.reverse_reverse, List.dropLast_concat]
  simp only [stem, hafter, hbefore, hne, or_false]
  split
  · rename_i hnil
    rw [hname, hnil, List.nil_append]
  · rfl

end PurePath

end Py
