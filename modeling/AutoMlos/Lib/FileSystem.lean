import Mathlib.Data.Nat.Basic

/-!
# AutoMlos.Lib.FileSystem

Files, and the names that lead to them.

Two names can lead to one file: opening the one for writing then empties what is
read under the other.  Which names can be opened for writing does not change.
-/

namespace Lib

/-- The files of a program.  A name leads to a file whether it exists or not;
the contents of one that does not are `none`. -/
structure FileSystem (Path File : Type) where
  file : Path → File
  contents : File → Option (List UInt8)
  writable : Path → Bool

namespace FileSystem

variable {Path File : Type} [DecidableEq File] (fs : FileSystem Path File)

/-- What can be read under a name. -/
def read (path : Path) : Option (List UInt8) := fs.contents (fs.file path)

/-- The files once one of them holds some data. -/
def store (path : Path) (data : List UInt8) : FileSystem Path File :=
  { fs with contents := fun file => if file = fs.file path then some data else fs.contents file }

/-- Opening a file for writing leaves it empty. -/
def openWrite (path : Path) : Option (FileSystem Path File) :=
  if fs.writable path then some (fs.store path []) else none

@[simp] theorem file_store (path : Path) (data : List UInt8) :
    (fs.store path data).file = fs.file :=
  rfl

variable {fs} {path path' : Path} {data data' : List UInt8}

theorem read_store_of_eq (h : fs.file path' = fs.file path) :
    (fs.store path data).read path' = some data :=
  if_pos h

theorem read_store_of_ne (h : fs.file path' ≠ fs.file path) :
    (fs.store path data).read path' = fs.read path' :=
  if_neg h

theorem store_store : (fs.store path data).store path data' = fs.store path data' := by
  simp only [store, mk.injEq, true_and, and_true]
  funext file
  split <;> rfl


end FileSystem

end Lib
