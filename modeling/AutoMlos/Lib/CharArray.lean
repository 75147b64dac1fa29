import AutoMlos.Lib.CString
import AutoMlos.Lib.Outcome
import Mathlib.Data.List.TakeWhile

/-!
# AutoMlos.Lib.CharArray

Strings in character arrays.

An array of characters holds a string up to its first NUL.  Storing a string
needs room for its NUL (`storeText` is undefined without), while a bounded copy
cuts the string to the room there is (`copyText`).
-/

namespace Lib

/-- The string at the start of some bytes. -/
def CString.ofBuffer (buffer : List UInt8) : CString where
  bytes := buffer.takeWhile (· ≠ 0)
  noNul := fun h => by simpa using List.mem_takeWhile_imp h

/-- A character array that starts with some text and is zero after it. -/
def charArray (size : Nat) (text : List UInt8) : Vector UInt8 size :=
  ⟨(text.take size ++ List.replicate (size - text.length) 0).toArray, by
    simp only [List.size_toArray, List.length_append, List.length_take, List.length_replicate]
    omega⟩

/-- Storing a text and a NUL in an array of zeros. -/
def storeText (size : Nat) (text : List UInt8) : Outcome (Vector UInt8 size) :=
  if text.length < size then .ok (charArray size text) else .undefined

/-- `strncpy` into all but the last character of an array, and a NUL there. -/
def copyText (size : Nat) (source : CString) : Vector UInt8 size :=
  charArray size (source.bytes.take (size - 1))

section Text

variable {size : Nat} {text : List UInt8}

theorem takeWhile_append_zero {rest : List UInt8} (h : rest.head? = some 0) :
    (text ++ rest).takeWhile (· ≠ 0) = text.takeWhile (· ≠ 0) := by
  induction text with
  | nil =>
      obtain ⟨rest, rfl⟩ := List.head?_eq_some_iff.mp h
      rfl
  | cons b text ih =>
      by_cases hb : b = 0
      · simp [hb]
      · simpa [hb] using ih

/-- An array with room for a NUL behind a text holds the string of the text. -/
theorem ofBuffer_charArray (h : text.length < size) :
    CString.ofBuffer (charArray size text).toList = CString.ofBuffer text := by
  obtain ⟨n, hn⟩ : ∃ n, size - text.length = n + 1 := ⟨size - text.length - 1, by omega⟩
  have htake : text.take size = text := List.take_of_length_le (Nat.le_of_lt h)
  have hzero : (List.replicate (n + 1) (0 : UInt8)).head? = some 0 := rfl
  simp only [CString.ofBuffer, charArray, Vector.toList_mk, htake, hn, takeWhile_append_zero hzero]

/-- Such an array has a NUL. -/
theorem nul_mem_charArray (h : text.length < size) : 0 ∈ charArray size text := by
  have hroom : size - text.length ≠ 0 := by omega
  simp [charArray, hroom]

/-- A string that fits is copied whole. -/
theorem ofBuffer_copyText {source : CString} (h : source.length < size) :
    CString.ofBuffer (copyText size source).toList = source := by
  have htake : source.bytes.take (size - 1) = source.bytes :=
    List.take_of_length_le (Nat.le_sub_one_of_lt h)
  rw [copyText, htake, ofBuffer_charArray h]
  obtain ⟨bytes, noNul⟩ := source
  simp only [CString.ofBuffer, CString.mk.injEq, List.takeWhile_eq_self_iff]
  intro b hb
  exact decide_eq_true fun hzero => noNul (hzero ▸ hb)

/-- A copy always has a NUL. -/
theorem nul_mem_copyText (hsize : 0 < size) (source : CString) : 0 ∈ copyText size source := by
  refine nul_mem_charArray ?_
  rw [List.length_take]
  omega

end Text

end Lib
