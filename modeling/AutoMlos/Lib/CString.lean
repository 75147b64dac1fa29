import Mathlib.Data.List.Basic

/-!
# AutoMlos.Lib.CString

NUL-terminated strings: the bytes before the terminator.
-/

namespace Lib

/-- A C string, without its terminator. -/
structure CString where
  bytes : List UInt8
  noNul : 0 ∉ bytes
  deriving DecidableEq, Repr

/-- The bytes of an ASCII literal. -/
def asciiBytes (s : String) : List UInt8 := s.toList.map fun c => UInt8.ofNat c.toNat

namespace CString

/-- A string literal. -/
def ofAscii (s : String) (h : 0 ∉ asciiBytes s := by decide) : CString := ⟨asciiBytes s, h⟩

@[simp] theorem bytes_ofAscii (s : String) (h : 0 ∉ asciiBytes s) :
    (ofAscii s h).bytes = asciiBytes s :=
  rfl

/-- `strlen`. -/
def length (s : CString) : Nat := s.bytes.length

/-- `strncmp(s, t, strlen(t)) == 0`. -/
def startsWith (s t : CString) : Bool := t.bytes.isPrefixOf s.bytes

theorem startsWith_iff (s t : CString) : s.startsWith t = true ↔ t.bytes <+: s.bytes :=
  List.isPrefixOf_iff_prefix

/-- `strstr(s, t) != NULL`. -/
def contains (s t : CString) : Bool := s.bytes.tails.any t.bytes.isPrefixOf

/-- The string a `strncpy` of at most `n` bytes, terminated, leaves. -/
def truncate (s : CString) (n : Nat) : CString where
  bytes := s.bytes.take n
  noNul := fun h => s.noNul (List.mem_of_mem_take h)

theorem truncate_of_length_le {s : CString} (h : s.length ≤ n) : s.truncate n = s := by
  cases s
  simp only [truncate, List.take_of_length_le h]

end CString

end Lib
