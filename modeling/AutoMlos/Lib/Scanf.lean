import AutoMlos.Lib.CString
import Mathlib.Algebra.Ring.Nat
import Mathlib.Data.List.TakeWhile

/-!
# AutoMlos.Lib.Scanf

The `sscanf` of C, for the directives of numbers and of strings.

A directive takes a prefix of the input, or fails: at the end of the input, or
because the input does not match.  What has been converted before the first
failure is assigned, and the number of assigned values is the result; it is
`EOF` if the input ended before the first conversion.

A number is read by `strtol` or `strtoul`, which stop at the limits of a 64-bit
`long`, and stored in the object that the length modifier names.
-/

namespace Lib

/-- `isspace`. -/
def isSpace (b : UInt8) : Bool := b = 32 ∨ (9 ≤ b ∧ b ≤ 13)

/-- `isdigit`. -/
def isDigit (b : UInt8) : Bool := 48 ≤ b ∧ b ≤ 57

/-- The number that decimal digits spell. -/
def digitsValue (digits : List UInt8) : Nat :=
  digits.foldl (fun n digit => 10 * n + (digit.toNat - 48)) 0

/-- `strtoul`: a minus sign negates the result, and a number that is too large
gives the largest one. -/
def strtoul (negative : Bool) (digits : List UInt8) : Nat :=
  let n := digitsValue digits
  if n ≥ 2 ^ 64 then 2 ^ 64 - 1 else if negative then (2 ^ 64 - n) % 2 ^ 64 else n

/-- `strtol`, in two's complement. -/
def strtol (negative : Bool) (digits : List UInt8) : Nat :=
  let n := digitsValue digits
  if negative then (2 ^ 64 - min n (2 ^ 63)) % 2 ^ 64 else min n (2 ^ 63 - 1)

/-- A directive of a format. -/
inductive ScanDirective where
  /-- `%u` into an object of some bits. -/
  | unsigned (bits : Nat)
  /-- `%d` into an object of some bits. -/
  | signed (bits : Nat)
  /-- `%[^c]` with a width. -/
  | upTo (width : Nat) (stop : UInt8)
  /-- `%s` with a width. -/
  | word (width : Nat)
  /-- A character that is not a space. -/
  | literal (b : UInt8)
  deriving DecidableEq, Repr

/-- An assigned value. -/
inductive ScanValue where
  | number (n : Nat)
  | text (bytes : List UInt8)
  deriving DecidableEq, Repr

/-- What a directive does. -/
inductive ScanStep where
  /-- It takes a prefix of the input and converts it, unless it is a literal. -/
  | taken (value : Option ScanValue) (rest : List UInt8)
  /-- It fails at the end of the input. -/
  | ended
  /-- It fails on the input. -/
  | mismatch
  deriving DecidableEq, Repr

/-- The input after an optional sign. -/
def dropSign (input : List UInt8) : List UInt8 :=
  if input.head? = some 43 ∨ input.head? = some 45 then input.tail else input

/-- Read a number. -/
def scanNumber (convert : Bool → List UInt8 → Nat) (bits : Nat) (input : List UInt8) : ScanStep :=
  let input := input.dropWhile isSpace
  let negative : Bool := input.head? = some 45
  let digits := (dropSign input).takeWhile isDigit
  if input = [] then .ended
  else if digits = [] then .mismatch
  else
    .taken (some (.number (convert negative digits % 2 ^ bits)))
      ((dropSign input).dropWhile isDigit)

/-- Read characters that satisfy `p`, no more than the width. -/
def scanText (p : UInt8 → Bool) (width : Nat) (input : List UInt8) : ScanStep :=
  let text := (input.take width).takeWhile p
  if input = [] then .ended
  else if text = [] then .mismatch
  else .taken (some (.text text)) (input.drop text.length)

/-- Run one directive. -/
def ScanDirective.scan (input : List UInt8) : ScanDirective → ScanStep
  | .unsigned bits => scanNumber strtoul bits input
  | .signed bits => scanNumber strtol bits input
  | .upTo width stop => scanText (· ≠ stop) width input
  | .word width => scanText (fun b => ¬ isSpace b) width (input.dropWhile isSpace)
  | .literal b =>
      match input with
      | [] => .ended
      | c :: rest => if c = b then .taken none rest else .mismatch

/-- Run the directives of a format up to the first failure: the values, and
whether the input ended there. -/
def scanValues : List ScanDirective → List UInt8 → List ScanValue × Bool
  | [], _ => ([], false)
  | directive :: format, input =>
      match directive.scan input with
      | .taken value rest =>
          let (values, ended) := scanValues format rest
          (value.toList ++ values, ended)
      | .ended => ([], true)
      | .mismatch => ([], false)

/-- `sscanf`: its result, and the assigned values. -/
def sscanf (input : CString) (format : List ScanDirective) : Int × List ScanValue :=
  let (values, ended) := scanValues format input.bytes
  (if values = [] ∧ ended then -1 else values.length, values)

/-- The number assigned to an argument, if one is. -/
def scannedNumber (values : List ScanValue) (i : Nat) : Nat :=
  match values[i]? with
  | some (.number n) => n
  | _ => 0

/-- The text assigned to an argument, if one is. -/
def scannedText (values : List ScanValue) (i : Nat) : List UInt8 :=
  match values[i]? with
  | some (.text bytes) => bytes
  | _ => []

example : sscanf (.ofAscii " 65541|%u left|x") [.unsigned 16, .literal 124, .upTo 255 124,
    .literal 124, .signed 32] = (2, [.number 5, .text (asciiBytes "%u left")]) := by
  decide

/-! ## what is assigned -/

/-- The length of the longest text that a directive assigns. -/
def ScanDirective.textWidth : ScanDirective → Nat
  | .upTo width _ => width
  | .word width => width
  | _ => 0

/-- A value that a directive may assign is a number, or a text that is not too
long. -/
def ScanDirective.Assigns (directive : ScanDirective) : ScanValue → Prop
  | .number _ => True
  | .text bytes => bytes.length ≤ directive.textWidth

/-- The directives of a format that assign a value. -/
def conversions (format : List ScanDirective) : List ScanDirective :=
  format.filter fun
    | .literal _ => false
    | _ => true

section Scan

variable {input rest : List UInt8} {value : Option ScanValue}

theorem length_dropSign_le (input : List UInt8) : (dropSign input).length ≤ input.length := by
  rw [dropSign]
  split <;> simp

/-- A number is at least one digit. -/
theorem scanNumber_taken {convert : Bool → List UInt8 → Nat} {bits : Nat}
    (h : scanNumber convert bits input = .taken value rest) :
    (∃ n, value = some (.number n)) ∧ rest.length < input.length := by
  have hspaces := (List.dropWhile_suffix isSpace (l := input)).length_le
  simp only [scanNumber] at h
  split at h
  · contradiction
  · split at h
    · contradiction
    · next hdigits =>
      cases h
      refine ⟨⟨_, rfl⟩, ?_⟩
      have hsign := length_dropSign_le (input.dropWhile isSpace)
      have hsplit := congrArg List.length (List.takeWhile_append_dropWhile (p := isDigit)
        (l := dropSign (input.dropWhile isSpace)))
      have hpos := List.length_pos_iff.mpr hdigits
      rw [List.length_append] at hsplit
      omega

/-- A text is at least one character, and no more than its width. -/
theorem scanText_taken {p : UInt8 → Bool} {width : Nat}
    (h : scanText p width input = .taken value rest) :
    (∃ bytes, value = some (.text bytes) ∧ bytes.length ≤ width) ∧
      rest.length < input.length := by
  simp only [scanText] at h
  split at h
  · contradiction
  · split at h
    · contradiction
    · next hinput htext =>
      cases h
      have hwidth := (List.takeWhile_prefix p (l := input.take width)).length_le
      rw [List.length_take] at hwidth
      refine ⟨⟨_, rfl, by omega⟩, ?_⟩
      have hpos := List.length_pos_iff.mpr htext
      have hinput := List.length_pos_iff.mpr hinput
      rw [List.length_drop]
      omega

/-- **One directive** takes something, and what it assigns is of its kind. -/
theorem scan_taken {directive : ScanDirective} (h : directive.scan input = .taken value rest) :
    rest.length < input.length ∧
      conversions [directive] = value.toList.map (fun _ => directive) ∧
      ∀ v, value = some v → directive.Assigns v := by
  cases directive with
  | unsigned bits =>
      obtain ⟨⟨n, rfl⟩, hless⟩ := scanNumber_taken h
      refine ⟨hless, rfl, ?_⟩
      rintro _ ⟨⟩
      trivial
  | signed bits =>
      obtain ⟨⟨n, rfl⟩, hless⟩ := scanNumber_taken h
      refine ⟨hless, rfl, ?_⟩
      rintro _ ⟨⟩
      trivial
  | upTo width stop =>
      obtain ⟨⟨bytes, rfl, hwidth⟩, hless⟩ := scanText_taken h
      refine ⟨hless, rfl, ?_⟩
      rintro _ ⟨⟩
      exact hwidth
  | word width =>
      obtain ⟨⟨bytes, rfl, hwidth⟩, hless⟩ := scanText_taken h
      have hspaces := (List.dropWhile_suffix isSpace (l := input)).length_le
      refine ⟨Nat.lt_of_lt_of_le hless hspaces, rfl, ?_⟩
      rintro _ ⟨⟩
      exact hwidth
  | literal b =>
      cases input with
      | nil => contradiction
      | cons c rest =>
          simp only [ScanDirective.scan] at h
          split at h
          · cases h
            exact ⟨Nat.lt_succ_self _, rfl, by simp⟩
          · contradiction

end Scan

/-- **The values of a run** are those of the conversions in order, as far as they
go; each of them has taken some of the input. -/
theorem scanValues_assigned (format : List ScanDirective) (input : List UInt8) :
    (scanValues format input).1.length ≤ input.length ∧
      ∀ (i : Nat) (value : ScanValue), (scanValues format input).1[i]? = some value →
        ∃ directive, (conversions format)[i]? = some directive ∧ directive.Assigns value := by
  induction format generalizing input with
  | nil => simp [scanValues]
  | cons directive format ih =>
      rw [scanValues]
      cases hscan : directive.scan input with
      | ended => simp
      | mismatch => simp
      | taken value rest =>
          obtain ⟨hless, hkind, hassigns⟩ := scan_taken hscan
          obtain ⟨hlength, hvalues⟩ := ih rest
          have hsplit : conversions (directive :: format) =
              value.toList.map (fun _ => directive) ++ conversions format := by
            rw [← hkind, conversions, conversions, conversions, ← List.filter_append,
              List.singleton_append]
          rw [hsplit]
          cases value with
          | none => exact ⟨Nat.le_of_lt (Nat.lt_of_le_of_lt hlength hless), hvalues⟩
          | some value =>
              refine ⟨Nat.lt_of_le_of_lt hlength hless, fun i v hv => ?_⟩
              cases i with
              | zero =>
                  cases hv
                  exact ⟨directive, rfl, hassigns _ rfl⟩
              | succ i => exact hvalues i v hv

/-- A text that `sscanf` stores is no longer than the width of its conversion. -/
theorem length_scannedText_le {format : List ScanDirective} (input : CString) {i : Nat}
    {directive : ScanDirective} (h : (conversions format)[i]? = some directive) :
    (scannedText (sscanf input format).2 i).length ≤ directive.textWidth := by
  have hassigned := (scanValues_assigned format input.bytes).2 i
  rw [scannedText]
  split
  · next bytes hvalue =>
    obtain ⟨directive, hdirective, hfits⟩ := hassigned _ hvalue
    rw [h] at hdirective
    cases hdirective
    exact hfits
  · exact Nat.zero_le _

/-- No more values are assigned than there are characters. -/
theorem sscanf_le_length (format : List ScanDirective) (input : CString) :
    (sscanf input format).1 ≤ input.length := by
  have hlength := (scanValues_assigned format input.bytes).1
  rw [CString.length]
  simp only [sscanf]
  split <;> omega

end Lib
