import AutoMlos.Lib.CString
import AutoMlos.Lib.Outcome

/-!
# AutoMlos.Lib.Printf

The `printf` family of C for arguments of 32 bits.

A format is a list of bytes.  The conversions of 32-bit integers (`d`, `i`,
`u`, `o`, `x`, `X`, `c`) come with all their flags, width and precision, `*`
included, and the length modifiers `h` and `hh`; a conversion of any other
type, a conversion without an argument and a combination the standard does
not define are undefined.  Arguments left over are ignored.
-/

namespace Lib

/-- The byte of an ASCII character. -/
def charByte (c : Char) : UInt8 := UInt8.ofNat c.toNat

/-- A number in a base up to 16. -/
def digitBytes (base n : Nat) : List UInt8 := (Nat.toDigits base n).map charByte

/-- `%u`. -/
def decimal (n : Nat) : List UInt8 := digitBytes 10 n

/-- `%X`. -/
def hexUpper (n : Nat) : List UInt8 := (Nat.toDigits 16 n).map fun c => charByte c.toUpper

/-- A decimal number starts with a digit. -/
theorem head?_decimal (n : Nat) : ∃ b, (decimal n).head? = some b ∧ 48 ≤ b ∧ b ≤ 57 := by
  obtain ⟨c, cs, hdigits⟩ := List.exists_cons_of_ne_nil (Nat.toDigits_ne_nil (n := n) (b := 10))
  have hc : c.isDigit = true :=
    Nat.isDigit_of_mem_toDigits (n := n) (b := 10) (by decide) (by decide) (by simp [hdigits])
  refine ⟨charByte c, by rw [decimal, digitBytes, hdigits]; rfl, ?_⟩
  have hlow : '0'.val.toNat = 48 := rfl
  have hhigh : '9'.val.toNat = 57 := rfl
  have hlow' : (48 : UInt8).toNat = 48 := rfl
  have hhigh' : (57 : UInt8).toNat = 57 := rfl
  have hval : c.toNat = c.val.toNat := rfl
  simp only [Char.isDigit, Bool.and_eq_true, decide_eq_true_eq, ge_iff_le, UInt32.le_iff_toNat_le]
    at hc
  rw [charByte, UInt8.le_iff_toNat_le, UInt8.le_iff_toNat_le, UInt8.toNat_ofNat']
  omega

/-! ## conversion specifications -/

/-- `INT_MAX`. -/
def intMax : Nat := 2147483647

/-- How far a conversion specification has been read. -/
inductive PrintfStage where
  | flags
  | width
  | widthDone
  | dot
  | precision
  | precisionDone
  | length
  deriving DecidableEq, Repr

/-- A conversion specification up to its conversion. -/
structure PrintfSpec where
  stage : PrintfStage
  leftJustify : Bool
  plus : Bool
  space : Bool
  alternate : Bool
  zeroPad : Bool
  width : Nat
  precision : Option Nat
  shorts : Nat
  deriving DecidableEq, Repr

/-- What a character is to a conversion specification. -/
inductive PrintfToken where
  | more (spec : PrintfSpec)
  | star
  | conversion

namespace PrintfSpec

/-- The specification after its `%`. -/
def start : PrintfSpec where
  stage := .flags
  leftJustify := false
  plus := false
  space := false
  alternate := false
  zeroPad := false
  width := 0
  precision := none
  shorts := 0

/-- Read one character. -/
def read (spec : PrintfSpec) (c : Char) : PrintfToken :=
  let digit := c.toNat - '0'.toNat
  match spec.stage, c with
  | .flags, '-' => .more { spec with leftJustify := true }
  | .flags, '+' => .more { spec with plus := true }
  | .flags, ' ' => .more { spec with space := true }
  | .flags, '#' => .more { spec with alternate := true }
  | .flags, '0' => .more { spec with zeroPad := true }
  | .flags, '*' => .star
  | .dot, '*' => .star
  | .flags, '.' => .more { spec with stage := .dot, precision := some 0 }
  | .width, '.' => .more { spec with stage := .dot, precision := some 0 }
  | .widthDone, '.' => .more { spec with stage := .dot, precision := some 0 }
  | .length, 'h' =>
      if spec.shorts < 2 then .more { spec with shorts := spec.shorts + 1 } else .conversion
  | _, 'h' => .more { spec with stage := .length, shorts := 1 }
  | .flags, _ =>
      if c.isDigit then .more { spec with stage := .width, width := digit } else .conversion
  | .width, _ =>
      if c.isDigit then .more { spec with width := 10 * spec.width + digit } else .conversion
  | .dot, _ =>
      if c.isDigit then .more { spec with stage := .precision, precision := some digit }
      else .conversion
  | .precision, _ =>
      if c.isDigit then
        .more { spec with precision := spec.precision.map fun p => 10 * p + digit }
      else .conversion
  | _, _ => .conversion

/-- Read a `*`, whose argument is an `int`. -/
def takeStar (spec : PrintfSpec) (arg : UInt32) : PrintfSpec :=
  let negative : Bool := arg.toNat > intMax
  match spec.stage with
  | .dot =>
      { spec with
        stage := .precisionDone
        precision := if negative then none else some arg.toNat }
  | _ =>
      { spec with
        stage := .widthDone
        leftJustify := spec.leftJustify || negative
        width := if negative then (-arg).toNat else arg.toNat }

/-! ## conversions -/

/-- The number of values of the argument's type. -/
def modulus (spec : PrintfSpec) : Nat :=
  match spec.shorts with
  | 0 => 4294967296
  | 1 => 65536
  | _ => 256

/-- The digits of a number, no less of them than the precision says. -/
def digits (spec : PrintfSpec) (ds : List UInt8) (n : Nat) : List UInt8 :=
  let ds := if n = 0 ∧ spec.precision = some 0 then [] else ds
  List.replicate (spec.precision.getD 1 - ds.length) (charByte '0') ++ ds

/-- A number with its sign or base in its field. -/
def pad (spec : PrintfSpec) (pre body : List UInt8) : List UInt8 :=
  let missing := spec.width - pre.length - body.length
  if spec.leftJustify then pre ++ body ++ List.replicate missing (charByte ' ')
  else if spec.zeroPad ∧ spec.precision = none then
    pre ++ List.replicate missing (charByte '0') ++ body
  else List.replicate missing (charByte ' ') ++ pre ++ body

/-- `d` and `i`. -/
def signed (spec : PrintfSpec) (arg : UInt32) : List UInt8 :=
  let n := arg.toNat % spec.modulus
  let negative : Bool := n ≥ spec.modulus / 2
  let magnitude := if negative then spec.modulus - n else n
  let sign :=
    if negative then [charByte '-']
    else if spec.plus then [charByte '+']
    else if spec.space then [charByte ' ']
    else []
  spec.pad sign (spec.digits (decimal magnitude) magnitude)

/-- `o`: the alternate form starts with a 0. -/
def octal (spec : PrintfSpec) (arg : UInt32) : List UInt8 :=
  let n := arg.toNat % spec.modulus
  let ds := spec.digits (digitBytes 8 n) n
  spec.pad [] (if spec.alternate ∧ ds.head? ≠ some (charByte '0') then charByte '0' :: ds else ds)

/-- `x` and `X`: the alternate form of a number that is not 0 has a prefix. -/
def hex (spec : PrintfSpec) (upper : Bool) (arg : UInt32) : List UInt8 :=
  let n := arg.toNat % spec.modulus
  let base := if upper then asciiBytes "0X" else asciiBytes "0x"
  spec.pad (if spec.alternate ∧ n ≠ 0 then base else [])
    (spec.digits (if upper then hexUpper n else digitBytes 16 n) n)

/-- A conversion of an argument. -/
def convert (spec : PrintfSpec) (c : Char) (arg : UInt32) : Outcome (List UInt8) :=
  if spec.width > intMax ∨ spec.precision.getD 0 > intMax then .undefined
  else
    match c with
    | 'd' => if spec.alternate then .undefined else .ok (spec.signed arg)
    | 'i' => if spec.alternate then .undefined else .ok (spec.signed arg)
    | 'u' =>
        let n := arg.toNat % spec.modulus
        if spec.alternate then .undefined else .ok (spec.pad [] (spec.digits (decimal n) n))
    | 'o' => .ok (spec.octal arg)
    | 'x' => .ok (spec.hex false arg)
    | 'X' => .ok (spec.hex true arg)
    | 'c' =>
        if spec.alternate ∨ spec.zeroPad ∨ spec.precision ≠ none ∨ spec.shorts ≠ 0 then .undefined
        else .ok (spec.pad [] [arg.toUInt8])
    | _ => .undefined

end PrintfSpec

/-! ## printf -/

/-- The rest of a format, inside a conversion specification or not. -/
def printfFrom : Option PrintfSpec → List UInt8 → List UInt32 → Outcome (List UInt8)
  | none, [], _ => .ok []
  | some _, [], _ => .undefined
  | none, b :: format, args =>
      if b = charByte '%' then printfFrom (some .start) format args
      else do
        let text ← printfFrom none format args
        return b :: text
  | some spec, b :: format, args =>
      match spec.read (Char.ofNat b.toNat), args with
      | .more spec, args => printfFrom (some spec) format args
      | .star, [] => .undefined
      | .star, arg :: args => printfFrom (some (spec.takeStar arg)) format args
      | .conversion, args =>
          if b = charByte '%' then
            if spec = .start then do
              let text ← printfFrom none format args
              return b :: text
            else .undefined
          else
            match args with
            | [] => .undefined
            | arg :: args => do
                let converted ← spec.convert (Char.ofNat b.toNat) arg
                let text ← printfFrom none format args
                return converted ++ text

/-- What `printf` writes. -/
def printf (format : CString) (args : List UInt32) : Outcome (List UInt8) :=
  printfFrom none format.bytes args

example : printf (.ofAscii "ID 0x%X, %-4d|%04x %u%%") [255, 4294967295, 10, 7] =
    .ok (asciiBytes "ID 0xFF, -1  |000a 7%") := by
  decide

/-- The characters `snprintf` leaves in a buffer of this size. -/
def snprintfKept (size : Nat) (text : List UInt8) : List UInt8 := text.take (size - 1)

/-- The string a buffer holds, as `%s` prints it. -/
def bufferString (buffer : List UInt8) : List UInt8 := buffer.takeWhile (· ≠ 0)

end Lib
