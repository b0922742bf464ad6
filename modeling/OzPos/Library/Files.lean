import Mathlib.Data.Option.Basic

/-! Files by path, and operations on them of which each may fail. -/

def Files (φ : Type) := String → Option φ

/-- A copy that fails has not opened its destination, or leaves something in it. -/
inductive CopyFault (φ : Type) where
  | refused (text : String)
  | cutShort (text : String) (left : φ)

namespace Files

variable {φ : Type}

variable (fs : Files φ) (path : String)

def read : Option φ := fs path

variable (file : Option φ)

def write : Files φ :=
  fun p => if p = path then file else fs p

def noSuchFile : String := "No such file or directory (os error 2)"

/-- The source is read as it was before the destination is opened: the two are not one. -/
def copy (fault : Option (CopyFault φ)) (source destination : String) :
    Files φ × Except String Unit :=
  match fs.read source, fault with
  | none, _ => (fs, .error noSuchFile)
  | some file, none => (fs.write destination (some file), .ok ())
  | some _, some (.refused text) => (fs, .error text)
  | some _, some (.cutShort text left) => (fs.write destination (some left), .error text)

variable (fault : Option String)

def remove (path : String) : Files φ × Except String Unit :=
  match fs.read path, fault with
  | none, _ => (fs, .error noSuchFile)
  | some _, none => (fs.write path none, .ok ())
  | some _, some text => (fs, .error text)

def rename (source destination : String) : Files φ × Except String Unit :=
  match fs.read source, fault with
  | none, _ => (fs, .error noSuchFile)
  | some file, none => ((fs.write source none).write destination (some file), .ok ())
  | some _, some text => (fs, .error text)

@[simp] theorem read_write_same : (fs.write path file).read path = file := by
  simp [read, write]

theorem read_write_other {path other : String} (h : other ≠ path) :
    (fs.write path file).read other = fs.read other := by
  simp [read, write, h]

theorem read_copy_other (fault : Option (CopyFault φ)) (source : String)
    {destination other : String} (h : other ≠ destination) :
    (fs.copy fault source destination).1.read other = fs.read other := by
  unfold copy
  cases fs.read source with
  | none => rfl
  | some file =>
    cases fault with
    | none => exact read_write_other fs _ h
    | some fault =>
      cases fault with
      | refused text => rfl
      | cutShort text left => exact read_write_other fs _ h

theorem read_remove_other {path other : String}
    (h : other ≠ path) : (fs.remove fault path).1.read other = fs.read other := by
  unfold remove
  cases fs.read path with
  | none => rfl
  | some file =>
    cases fault with
    | none => exact read_write_other fs _ h
    | some text => rfl

theorem read_remove_same (path : String) :
    (fs.remove fault path).1.read path = if fault.isSome then fs.read path else none := by
  unfold remove
  cases hread : fs.read path with
  | none => simp [hread]
  | some file => cases fault <;> simp [hread]

theorem read_rename_other {source destination : String}
    {other : String} (hsource : other ≠ source) (hdestination : other ≠ destination) :
    (fs.rename fault source destination).1.read other = fs.read other := by
  unfold rename
  cases fs.read source with
  | none => rfl
  | some file =>
    cases fault with
    | none => rw [read_write_other _ _ hdestination, read_write_other _ _ hsource]
    | some text => rfl

end Files
