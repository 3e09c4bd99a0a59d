import Mathlib.Logic.Function.Basic
/-!
# PyFiles — the files of a directory, and a sequence of writes that may stop

`write_text` replaces a file, opening with `"a"` adds to one.  A sequence of writes either completes (`applyAll`) or
stops: before one of its writes, or inside one, when the file it opened holds a proper prefix of what was to be
written (`Stopped`).
-/
namespace Py

/-- The files below a directory, by relative path. -/
abbrev Files := String → Option ByteArray

namespace Files

def write (fs : Files) (path : String) (b : ByteArray) : Files := Function.update fs path (some b)

def unlink (fs : Files) (path : String) : Files := Function.update fs path none

@[simp] theorem write_same (fs : Files) (path : String) (b : ByteArray) : fs.write path b path = some b :=
  Function.update_self path _ fs

theorem write_other (fs : Files) {path path' : String} (b : ByteArray) (h : path' ≠ path) :
    fs.write path b path' = fs path' := Function.update_of_ne h _ fs

@[simp] theorem unlink_same (fs : Files) (path : String) : fs.unlink path path = none :=
  Function.update_self path _ fs

theorem unlink_other (fs : Files) {path path' : String} (h : path' ≠ path) : fs.unlink path path' = fs path' :=
  Function.update_of_ne h _ fs

end Files

/-! ## Writes -/

/-- One write: a whole file, or what an open for appending adds. -/
inductive Write where
  | replace (path : String) (b : ByteArray)
  | append (path : String) (b : ByteArray)

namespace Write

def path : Write → String
  | .replace p _ => p
  | .append p _ => p

/-- The bytes the write puts into its file. -/
def bytes : Write → ByteArray
  | .replace _ b => b
  | .append _ b => b

/-- The files after `b` of the write's bytes reached its file. -/
def put (fs : Files) : Write → ByteArray → Files
  | .replace p _, b => fs.write p b
  | .append p _, b => fs.write p ((fs p).getD .empty ++ b)

def apply (fs : Files) (w : Write) : Files := w.put fs w.bytes

theorem put_other (fs : Files) (w : Write) (b : ByteArray) {p : String} (h : p ≠ w.path) : w.put fs b p = fs p := by
  cases w <;> exact Files.write_other fs _ h

theorem apply_other (fs : Files) (w : Write) {p : String} (h : p ≠ w.path) : w.apply fs p = fs p := put_other fs w _ h

end Write

def applyAll (ws : List Write) (fs : Files) : Files := ws.foldl Write.apply fs

@[simp] theorem applyAll_nil (fs : Files) : applyAll [] fs = fs := rfl

@[simp] theorem applyAll_cons (w : Write) (ws : List Write) (fs : Files) :
    applyAll (w :: ws) fs = applyAll ws (w.apply fs) := rfl

/-- A file no write names keeps its content. -/
theorem applyAll_other : ∀ (ws : List Write) (fs : Files) {p : String}, (∀ w ∈ ws, p ≠ w.path) → applyAll ws fs p = fs p
  | [], _, _, _ => rfl
  | w :: ws, fs, p, h => by
    rw [applyAll_cons, applyAll_other ws _ (fun w' hw' => h w' (List.mem_cons_of_mem _ hw')),
      Write.apply_other fs w (h w List.mem_cons_self)]

theorem applyAll_replaced {p : String} {b : ByteArray} : ∀ (ws : List Write) (fs : Files), (ws.map Write.path).Nodup →
    Write.replace p b ∈ ws → applyAll ws fs p = some b
  | w :: ws, fs, hnd, hmem => by
    rw [List.map_cons, List.nodup_cons] at hnd
    rw [applyAll_cons]
    rcases List.mem_cons.1 hmem with rfl | hmem
    · have hrest : ∀ w ∈ ws, p ≠ w.path := fun w hw h => hnd.1 (List.mem_map.2 ⟨w, hw, h.symm⟩)
      rw [applyAll_other ws _ hrest]
      exact Files.write_same fs p b
    · exact applyAll_replaced ws _ hnd.2 hmem

/-! ## Stops -/

/-- The files a sequence of writes leaves when it stops before its end. -/
inductive Stopped : List Write → Files → Files → Prop
  | before (w : Write) (ws : List Write) (fs : Files) : Stopped (w :: ws) fs fs
  | torn (w : Write) (ws : List Write) (fs : Files) (b r : ByteArray) (hb : b ++ r = w.bytes) (hne : b ≠ w.bytes) :
    Stopped (w :: ws) fs (w.put fs b)
  | later (w : Write) (ws : List Write) (fs fs' : Files) (h : Stopped ws (w.apply fs) fs') : Stopped (w :: ws) fs fs'

/-- **A stop leaves alone every file the sequence does not write.** -/
theorem Stopped.other {ws : List Write} {fs fs' : Files} (h : Stopped ws fs fs') {p : String}
    (hp : ∀ w ∈ ws, p ≠ w.path) : fs' p = fs p := by
  induction h with
  | before w ws fs => rfl
  | torn w ws fs b r hb hne => exact Write.put_other fs w b (hp w List.mem_cons_self)
  | later w ws fs fs' h ih =>
    rw [ih (fun w' hw' => hp w' (List.mem_cons_of_mem _ hw')), Write.apply_other fs w (hp w List.mem_cons_self)]

end Py
