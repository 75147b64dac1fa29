import AutoMlos.Lib.Printf
import Mathlib.Algebra.Ring.Nat

/-!
# AutoMlos.Lib.PrintfArgs

The arguments that a `printf` format takes.

`formatArgs` lists the types of the arguments of a format from left to right, a
`*` included.

The formats whose arguments are all of the type `unsigned int` are the ones that
can be put together from characters other than `%`, from `%%`, and from
conversions `%`, flags, width, precision and one of `o`, `u`, `x` and `X`, each
of which takes one argument (`takes_unsigned_iff`).
-/

namespace Lib

/-- The type of an argument; a conversion of another type, or one that the
standard does not define, counts as `other`. -/
inductive PrintfArg where
  | unsignedInt
  | int
  | other
  deriving DecidableEq, Repr

/-- The character of a byte. -/
def byteChar (b : UInt8) : Char := Char.ofNat b.toNat

/-- A flag of a conversion specification. -/
def isFlag (c : Char) : Bool := c = '-' ∨ c = '+' ∨ c = ' ' ∨ c = '#' ∨ c = '0'

/-- The conversions of an unsigned number. -/
def isUnsigned (c : Char) : Bool := c = 'o' ∨ c = 'u' ∨ c = 'x' ∨ c = 'X'

/-- As much of a conversion specification as decides about its arguments: how
far it has been read, its length modifiers, and whether there is nothing of it
yet. -/
structure ArgScan where
  stage : PrintfStage
  shorts : Nat
  fresh : Bool
  deriving DecidableEq, Repr

/-- What a character is to a specification. -/
inductive ArgToken where
  | more (scan : ArgScan)
  | star
  | conversion
  deriving DecidableEq, Repr

namespace ArgScan

/-- The specification after its `%`. -/
def start : ArgScan := ⟨.flags, 0, true⟩

/-- Read one character. -/
def read (scan : ArgScan) (c : Char) : ArgToken :=
  let goOn (stage : PrintfStage) (shorts : Nat) := ArgToken.more ⟨stage, shorts, false⟩
  match scan.stage with
  | .flags =>
      if isFlag c then goOn .flags scan.shorts
      else if c = '*' then .star
      else if c = '.' then goOn .dot scan.shorts
      else if c = 'h' then goOn .length 1
      else if c.isDigit then goOn .width scan.shorts
      else .conversion
  | .width =>
      if c = '.' then goOn .dot scan.shorts
      else if c = 'h' then goOn .length 1
      else if c.isDigit then goOn .width scan.shorts
      else .conversion
  | .widthDone =>
      if c = '.' then goOn .dot scan.shorts
      else if c = 'h' then goOn .length 1
      else .conversion
  | .dot =>
      if c = '*' then .star
      else if c = 'h' then goOn .length 1
      else if c.isDigit then goOn .precision scan.shorts
      else .conversion
  | .precision =>
      if c = 'h' then goOn .length 1
      else if c.isDigit then goOn .precision scan.shorts
      else .conversion
  | .precisionDone => if c = 'h' then goOn .length 1 else .conversion
  | .length => if c = 'h' ∧ scan.shorts < 2 then goOn .length (scan.shorts + 1) else .conversion

/-- Reading on leaves no fresh specification, and takes no length modifier
back. -/
theorem read_more {scan next : ArgScan} {c : Char} (h : scan.read c = .more next) :
    next.fresh = false ∧ (scan.shorts ≠ 0 → next.shorts ≠ 0) := by
  simp only [read] at h
  split at h
  all_goals (repeat' split at h) <;> first | contradiction | (cases h; simp)

/-- The specification after a `*`. -/
def afterStar (scan : ArgScan) : ArgScan :=
  ⟨if scan.stage = .dot then .precisionDone else .widthDone, scan.shorts, false⟩

/-- The argument of a conversion; where `h` applies it has been promoted. -/
def arg (scan : ArgScan) (c : Char) : PrintfArg :=
  if isUnsigned c then if scan.shorts = 0 then .unsignedInt else .int
  else if c = 'd' ∨ c = 'i' ∨ c = 'c' then .int
  else .other

end ArgScan

/-- The arguments of the rest of a format, inside a conversion specification or
not; a specification that does not end is not defined. -/
def formatArgs : Option ArgScan → List UInt8 → List PrintfArg
  | none, [] => []
  | some _, [] => [.other]
  | none, b :: format =>
      if b = charByte '%' then formatArgs (some .start) format else formatArgs none format
  | some scan, b :: format =>
      match scan.read (byteChar b) with
      | .more scan => formatArgs (some scan) format
      | .star => .int :: formatArgs (some scan.afterStar) format
      | .conversion =>
          if b = charByte '%' then
            if scan.fresh then formatArgs none format else .other :: formatArgs none format
          else scan.arg (byteChar b) :: formatArgs none format

example : formatArgs none (asciiBytes "ID 0x%04X, %*d%%") = [.unsignedInt, .int, .int] := by decide

/-! ## formats of unsigned arguments -/

/-- The bytes complete a conversion of an `unsigned int` that has been begun. -/
def Completes : ArgScan → List UInt8 → Prop
  | _, [] => False
  | scan, b :: bytes =>
      match scan.read (byteChar b) with
      | .more scan => Completes scan bytes
      | .star => False
      | .conversion =>
          bytes = [] ∧ b ≠ charByte '%' ∧ scan.arg (byteChar b) = .unsignedInt

section Completes

variable {scan : ArgScan} {bytes : List UInt8}

/-- A completed conversion takes one argument. -/
theorem formatArgs_of_completes (h : Completes scan bytes) (rest : List UInt8) :
    formatArgs (some scan) (bytes ++ rest) = .unsignedInt :: formatArgs none rest := by
  induction bytes generalizing scan with
  | nil => contradiction
  | cons b bytes ih =>
      rw [List.cons_append, formatArgs]
      cases hread : scan.read (byteChar b) with
      | more next =>
          simp only [Completes, hread] at h
          exact ih h
      | star =>
          simp only [Completes, hread] at h
      | conversion =>
          simp only [Completes, hread] at h
          obtain ⟨rfl, hpercent, harg⟩ := h
          simp only [if_neg hpercent, harg, List.nil_append]

/-- Inside a specification, a format with unsigned arguments goes on with such a
conversion, or with the second `%` of `%%`. -/
theorem exists_completes {format : List UInt8}
    (h : ∀ arg ∈ formatArgs (some scan) format, arg = .unsignedInt) :
    (∃ bytes rest, format = bytes ++ rest ∧ Completes scan bytes) ∨
      scan.fresh = true ∧ ∃ rest, format = charByte '%' :: rest ∧
        formatArgs (some scan) format = formatArgs none rest := by
  induction format generalizing scan with
  | nil => exact absurd (h _ List.mem_cons_self) (by decide)
  | cons b format ih =>
      rw [formatArgs] at h ⊢
      cases hread : scan.read (byteChar b) with
      | more next =>
          simp only [hread] at h
          obtain ⟨bytes, rest, rfl, hbytes⟩ | ⟨hfresh, -⟩ := ih h
          · refine .inl ⟨b :: bytes, rest, rfl, ?_⟩
            simp only [Completes, hread]
            exact hbytes
          · rw [(ArgScan.read_more hread).1] at hfresh
            contradiction
      | star =>
          simp only [hread] at h
          exact absurd (h _ List.mem_cons_self) (by decide)
      | conversion =>
          simp only [hread] at h
          by_cases hpercent : b = charByte '%'
          · rw [if_pos hpercent] at h
            by_cases hfresh : scan.fresh = true
            · refine .inr ⟨hfresh, format, by rw [hpercent], ?_⟩
              simp only [if_pos hpercent, if_pos hfresh]
            · rw [if_neg hfresh] at h
              exact absurd (h _ List.mem_cons_self) (by decide)
          · rw [if_neg hpercent] at h
            refine .inl ⟨[b], format, rfl, ?_⟩
            simp only [Completes, hread]
            exact ⟨trivial, hpercent, h _ List.mem_cons_self⟩

end Completes

/-- A conversion of an `unsigned int`, as it is spelled. -/
structure UnsignedConversion where
  flags : List UInt8
  width : List UInt8
  precision : Option (List UInt8)
  conversion : UInt8
  flags_ok : ∀ b ∈ flags, isFlag (byteChar b) = true
  width_ok : ∀ b ∈ width, (byteChar b).isDigit = true
  precision_ok : ∀ digits, precision = some digits → ∀ b ∈ digits, (byteChar b).isDigit = true
  conversion_ok : isUnsigned (byteChar conversion) = true

/-- A precision, as it is spelled. -/
def precisionBytes : Option (List UInt8) → List UInt8
  | none => []
  | some digits => charByte '.' :: digits

/-- What follows the `%` of a conversion. -/
def UnsignedConversion.bytes (conversion : UnsignedConversion) : List UInt8 :=
  conversion.flags ++ (conversion.width ++ (precisionBytes conversion.precision ++
    [conversion.conversion]))

/-- A piece of a format with unsigned arguments. -/
inductive FormatPiece where
  | plain (b : UInt8) (h : b ≠ charByte '%')
  | percent
  | unsigned (conversion : UnsignedConversion)

namespace FormatPiece

/-- A piece, as it is spelled. -/
def bytes : FormatPiece → List UInt8
  | plain b _ => [b]
  | percent => [charByte '%', charByte '%']
  | unsigned conversion => charByte '%' :: conversion.bytes

/-- The number of arguments of a piece. -/
def takes : FormatPiece → Nat
  | unsigned _ => 1
  | _ => 0

end FormatPiece

section Spelling

variable {stage : PrintfStage} {fresh : Bool} {c : Char} {b : UInt8} {bytes : List UInt8}

theorem isUnsigned_of_arg {scan : ArgScan} (h : scan.arg c = .unsignedInt) :
    scan.shorts = 0 ∧ isUnsigned c = true := by
  simp only [ArgScan.arg] at h
  split at h
  · next hc =>
    split at h
    · next hshorts => exact ⟨hshorts, hc⟩
    · contradiction
  · split at h <;> contradiction

/-- A length modifier rules out an `unsigned int`. -/
theorem not_completes_of_shorts {scan : ArgScan} (h : scan.shorts ≠ 0) :
    ¬ Completes scan bytes := by
  induction bytes generalizing scan with
  | nil => exact id
  | cons b bytes ih =>
      rw [Completes]
      cases hread : scan.read (byteChar b) with
      | more next => exact ih ((ArgScan.read_more hread).2 h)
      | star => exact id
      | conversion => exact fun hdone => h (isUnsigned_of_arg hdone.2.2).1

/-- A character that ends a conversion of an unsigned number ends it wherever it
may stand. -/
theorem completes_conversion (hb : isUnsigned (byteChar b) = true)
    (hstage : stage ∈ [.flags, .width, .dot, .precision]) :
    Completes ⟨stage, 0, fresh⟩ [b] := by
  have hpercent : b ≠ charByte '%' := by
    rintro rfl
    exact absurd hb (by decide)
  have harg : (ArgScan.mk stage 0 fresh).arg (byteChar b) = .unsignedInt := by
    rw [ArgScan.arg, if_pos hb, if_pos rfl]
  have hread : (ArgScan.mk stage 0 fresh).read (byteChar b) = .conversion := by
    simp only [isUnsigned, decide_eq_true_eq] at hb
    simp only [List.mem_cons, List.not_mem_nil, or_false] at hstage
    rcases hb with hb | hb | hb | hb <;> rw [hb] <;>
      rcases hstage with rfl | rfl | rfl | rfl <;> rfl
  simp only [Completes, hread]
  exact ⟨trivial, hpercent, harg⟩

theorem ne_of_isDigit {d : Char} (hc : c.isDigit = true) (hd : d.isDigit = false) : c ≠ d := by
  rintro rfl
  rw [hc] at hd
  contradiction

theorem read_digit_width (h : c.isDigit = true) :
    (ArgScan.mk .width 0 fresh).read c = .more ⟨.width, 0, false⟩ := by
  have hdot : c ≠ '.' := ne_of_isDigit h rfl
  have hshort : c ≠ 'h' := ne_of_isDigit h rfl
  simp only [ArgScan.read, if_neg hdot, if_neg hshort, if_pos h]

theorem read_digit_precision (h : c.isDigit = true)
    (hstage : stage = .dot ∨ stage = .precision) :
    (ArgScan.mk stage 0 fresh).read c = .more ⟨.precision, 0, false⟩ := by
  have hstar : c ≠ '*' := ne_of_isDigit h rfl
  have hshort : c ≠ 'h' := ne_of_isDigit h rfl
  rcases hstage with rfl | rfl
  · simp only [ArgScan.read, if_neg hstar, if_neg hshort, if_pos h]
  · simp only [ArgScan.read, if_neg hshort, if_pos h]

/-- A digit among the flags is the flag `0`, or begins the width. -/
theorem read_digit_flags (h : c.isDigit = true) :
    (ArgScan.mk .flags 0 fresh).read c = .more ⟨.flags, 0, false⟩ ∨
      (ArgScan.mk .flags 0 fresh).read c = .more ⟨.width, 0, false⟩ := by
  have hstar : c ≠ '*' := ne_of_isDigit h rfl
  have hdot : c ≠ '.' := ne_of_isDigit h rfl
  have hshort : c ≠ 'h' := ne_of_isDigit h rfl
  simp only [ArgScan.read, if_neg hstar, if_neg hdot, if_neg hshort, if_pos h]
  split
  · exact .inl rfl
  · exact .inr rfl

/-! ### what is spelled completes -/

theorem completes_precision {digits : List UInt8} (hb : isUnsigned (byteChar b) = true)
    (hdigits : ∀ d ∈ digits, (byteChar d).isDigit = true)
    (hstage : stage = .dot ∨ stage = .precision) :
    Completes ⟨stage, 0, fresh⟩ (digits ++ [b]) := by
  induction digits generalizing stage fresh with
  | nil =>
      refine completes_conversion hb ?_
      rcases hstage with rfl | rfl <;> decide
  | cons d digits ih =>
      obtain ⟨hd, hdigits⟩ := List.forall_mem_cons.mp hdigits
      simp only [List.cons_append, Completes, read_digit_precision hd hstage]
      exact ih hdigits (.inr rfl)

theorem completes_precisionBytes {precision : Option (List UInt8)}
    (hb : isUnsigned (byteChar b) = true)
    (hprecision : ∀ digits, precision = some digits → ∀ d ∈ digits, (byteChar d).isDigit = true)
    (hstage : stage = .flags ∨ stage = .width) :
    Completes ⟨stage, 0, fresh⟩ (precisionBytes precision ++ [b]) := by
  cases precision with
  | none =>
      refine completes_conversion hb ?_
      rcases hstage with rfl | rfl <;> decide
  | some digits =>
      have hread : (ArgScan.mk stage 0 fresh).read (byteChar (charByte '.')) =
          .more ⟨.dot, 0, false⟩ := by
        rcases hstage with rfl | rfl <;> rfl
      simp only [precisionBytes, List.cons_append, Completes, hread]
      exact completes_precision hb (hprecision digits rfl) (.inl rfl)

theorem completes_width {width rest : List UInt8}
    (hwidth : ∀ d ∈ width, (byteChar d).isDigit = true)
    (hrest : ∀ fresh, Completes ⟨.width, 0, fresh⟩ rest) :
    Completes ⟨.width, 0, fresh⟩ (width ++ rest) := by
  induction width generalizing fresh with
  | nil => exact hrest fresh
  | cons d width ih =>
      obtain ⟨hd, hwidth⟩ := List.forall_mem_cons.mp hwidth
      simp only [List.cons_append, Completes, read_digit_width hd]
      exact ih hwidth

theorem completes_flags_width {width rest : List UInt8}
    (hwidth : ∀ d ∈ width, (byteChar d).isDigit = true)
    (hflags : ∀ fresh, Completes ⟨.flags, 0, fresh⟩ rest)
    (hrest : ∀ fresh, Completes ⟨.width, 0, fresh⟩ rest) :
    Completes ⟨.flags, 0, fresh⟩ (width ++ rest) := by
  induction width generalizing fresh with
  | nil => exact hflags fresh
  | cons d width ih =>
      obtain ⟨hd, hwidth⟩ := List.forall_mem_cons.mp hwidth
      have hread : (ArgScan.mk .flags 0 fresh).read (byteChar d) = .more ⟨.flags, 0, false⟩ ∨
          (ArgScan.mk .flags 0 fresh).read (byteChar d) = .more ⟨.width, 0, false⟩ :=
        read_digit_flags hd
      rcases hread with hread | hread
      · simp only [List.cons_append, Completes, hread]
        exact ih hwidth
      · simp only [List.cons_append, Completes, hread]
        exact completes_width hwidth hrest

theorem completes_flags {flags rest : List UInt8} (hflags : ∀ b ∈ flags, isFlag (byteChar b) = true)
    (hrest : ∀ fresh, Completes ⟨.flags, 0, fresh⟩ rest) :
    Completes ⟨.flags, 0, fresh⟩ (flags ++ rest) := by
  induction flags generalizing fresh with
  | nil => exact hrest fresh
  | cons b flags ih =>
      obtain ⟨hb, hflags⟩ := List.forall_mem_cons.mp hflags
      have hread : (ArgScan.mk .flags 0 fresh).read (byteChar b) = .more ⟨.flags, 0, false⟩ := by
        simp only [ArgScan.read, if_pos hb]
      simp only [List.cons_append, Completes, hread]
      exact ih hflags

/-- A conversion that is spelled out completes. -/
theorem UnsignedConversion.completes (conversion : UnsignedConversion) :
    Completes .start conversion.bytes := by
  have hrest {stage : PrintfStage} (hstage : stage = .flags ∨ stage = .width) (fresh : Bool) :
      Completes ⟨stage, 0, fresh⟩
        (precisionBytes conversion.precision ++ [conversion.conversion]) :=
    completes_precisionBytes conversion.conversion_ok conversion.precision_ok hstage
  exact completes_flags conversion.flags_ok fun fresh =>
    completes_flags_width conversion.width_ok (hrest (.inl rfl)) (hrest (.inr rfl))

/-! ### what completes is spelled -/

theorem charByte_byteChar (b : UInt8) : charByte (byteChar b) = b := by
  have hvalid : b.toNat.isValidChar := .inl (Nat.lt_trans b.toNat_lt (by decide))
  have htoNat : (Char.ofNat b.toNat).toNat = b.toNat := by
    rw [Char.ofNat, dif_pos hvalid]
    rfl
  rw [charByte, byteChar, htoNat, UInt8.ofNat_toNat]

/-- What a character can do to a specification without a length modifier. -/
theorem read_more_cases {next : ArgScan} (h : (ArgScan.mk stage 0 fresh).read c = .more next) :
    next.shorts ≠ 0 ∨
    (stage = .flags ∧ isFlag c = true ∧ next = ⟨.flags, 0, false⟩) ∨
    ((stage = .flags ∨ stage = .width) ∧ c.isDigit = true ∧ next = ⟨.width, 0, false⟩) ∨
    ((stage = .flags ∨ stage = .width ∨ stage = .widthDone) ∧ c = '.' ∧
      next = ⟨.dot, 0, false⟩) ∨
    ((stage = .dot ∨ stage = .precision) ∧ c.isDigit = true ∧
      next = ⟨.precision, 0, false⟩) := by
  simp only [ArgScan.read] at h
  split at h
  all_goals (repeat' split at h) <;> first | contradiction | (cases h; simp_all)

/-- The first byte of what completes a conversion. -/
theorem completes_cons (h : Completes ⟨stage, 0, fresh⟩ (b :: bytes)) :
    (bytes = [] ∧ isUnsigned (byteChar b) = true) ∨
    (stage = .flags ∧ isFlag (byteChar b) = true ∧ Completes ⟨.flags, 0, false⟩ bytes) ∨
    ((stage = .flags ∨ stage = .width) ∧ (byteChar b).isDigit = true ∧
      Completes ⟨.width, 0, false⟩ bytes) ∨
    ((stage = .flags ∨ stage = .width ∨ stage = .widthDone) ∧ b = charByte '.' ∧
      Completes ⟨.dot, 0, false⟩ bytes) ∨
    ((stage = .dot ∨ stage = .precision) ∧ (byteChar b).isDigit = true ∧
      Completes ⟨.precision, 0, false⟩ bytes) := by
  rw [Completes] at h
  cases hread : (ArgScan.mk stage 0 fresh).read (byteChar b) with
  | more next =>
      simp only [hread] at h
      obtain hshorts | ⟨hstage, hflag, rfl⟩ | ⟨hstage, hdigit, rfl⟩ | ⟨hstage, hdot, rfl⟩ |
        ⟨hstage, hdigit, rfl⟩ := read_more_cases hread
      · exact absurd h (not_completes_of_shorts hshorts)
      · exact .inr (.inl ⟨hstage, hflag, h⟩)
      · exact .inr (.inr (.inl ⟨hstage, hdigit, h⟩))
      · have hb : b = charByte '.' := by rw [← hdot, charByte_byteChar]
        exact .inr (.inr (.inr (.inl ⟨hstage, hb, h⟩)))
      · exact .inr (.inr (.inr (.inr ⟨hstage, hdigit, h⟩)))
  | star =>
      simp only [hread] at h
  | conversion =>
      simp only [hread] at h
      exact .inl ⟨h.1, (isUnsigned_of_arg h.2.2).2⟩

/-- A conversion that is complete in its precision. -/
theorem exists_precision (h : Completes ⟨stage, 0, fresh⟩ bytes)
    (hstage : stage = .dot ∨ stage = .precision) :
    ∃ digits b, bytes = digits ++ [b] ∧ (∀ d ∈ digits, (byteChar d).isDigit = true) ∧
      isUnsigned (byteChar b) = true := by
  induction bytes generalizing stage fresh with
  | nil => contradiction
  | cons b bytes ih =>
      obtain ⟨rfl, hb⟩ | ⟨rfl, -⟩ | ⟨hwidth, -⟩ | ⟨hwidth, -⟩ | ⟨-, hdigit, hrest⟩ :=
        completes_cons h
      · exact ⟨[], b, rfl, by simp, hb⟩
      · rcases hstage with hstage | hstage <;> contradiction
      · rcases hstage with rfl | rfl <;> simp at hwidth
      · rcases hstage with rfl | rfl <;> simp at hwidth
      · obtain ⟨digits, c, rfl, hdigits, hc⟩ := ih hrest (.inr rfl)
        exact ⟨b :: digits, c, rfl, List.forall_mem_cons.mpr ⟨hdigit, hdigits⟩, hc⟩

/-- A conversion that is complete in its width. -/
theorem exists_width (h : Completes ⟨.width, 0, fresh⟩ bytes) :
    ∃ conversion : UnsignedConversion, conversion.flags = [] ∧ bytes = conversion.bytes := by
  induction bytes generalizing fresh with
  | nil => contradiction
  | cons b bytes ih =>
      obtain ⟨rfl, hb⟩ | ⟨hflags, -⟩ | ⟨-, hdigit, hrest⟩ | ⟨-, rfl, hrest⟩ | ⟨hdot, -⟩ :=
        completes_cons h
      · exact ⟨⟨[], [], none, b, by simp, by simp, by simp, hb⟩, rfl, rfl⟩
      · contradiction
      · obtain ⟨⟨flags, width, precision, c, -, hwidth, hprecision, hc⟩, rfl, rfl⟩ := ih hrest
        exact ⟨⟨[], b :: width, precision, c, by simp,
          List.forall_mem_cons.mpr ⟨hdigit, hwidth⟩, hprecision, hc⟩, rfl, rfl⟩
      · obtain ⟨digits, c, rfl, hdigits, hc⟩ := exists_precision hrest (.inl rfl)
        exact ⟨⟨[], [], some digits, c, by simp, by simp, by rintro _ ⟨⟩; exact hdigits, hc⟩,
          rfl, rfl⟩
      · simp at hdot

/-- What completes a conversion from its `%` on is one that is spelled out. -/
theorem exists_conversion (h : Completes ⟨.flags, 0, fresh⟩ bytes) :
    ∃ conversion : UnsignedConversion, bytes = conversion.bytes := by
  induction bytes generalizing fresh with
  | nil => contradiction
  | cons b bytes ih =>
      obtain ⟨rfl, hb⟩ | ⟨-, hflag, hrest⟩ | ⟨-, hdigit, hrest⟩ | ⟨-, rfl, hrest⟩ | ⟨hdot, -⟩ :=
        completes_cons h
      · exact ⟨⟨[], [], none, b, by simp, by simp, by simp, hb⟩, rfl⟩
      · obtain ⟨⟨flags, width, precision, c, hflags, hwidth, hprecision, hc⟩, rfl⟩ := ih hrest
        exact ⟨⟨b :: flags, width, precision, c, List.forall_mem_cons.mpr ⟨hflag, hflags⟩, hwidth,
          hprecision, hc⟩, rfl⟩
      · obtain ⟨⟨flags, width, precision, c, -, hwidth, hprecision, hc⟩, rfl, rfl⟩ :=
          exists_width hrest
        exact ⟨⟨[], b :: width, precision, c, by simp,
          List.forall_mem_cons.mpr ⟨hdigit, hwidth⟩, hprecision, hc⟩, rfl⟩
      · obtain ⟨digits, c, rfl, hdigits, hc⟩ := exists_precision hrest (.inl rfl)
        exact ⟨⟨[], [], some digits, c, by simp, by simp, by rintro _ ⟨⟩; exact hdigits, hc⟩, rfl⟩
      · simp at hdot

/-- A format that is spelled out takes the arguments of its pieces. -/
theorem formatArgs_pieces (pieces : List FormatPiece) :
    formatArgs none (pieces.flatMap FormatPiece.bytes) =
      List.replicate (pieces.map FormatPiece.takes).sum .unsignedInt := by
  induction pieces with
  | nil => rfl
  | cons piece pieces ih =>
      rw [List.flatMap_cons, List.map_cons, List.sum_cons]
      cases piece with
      | plain b hb =>
          have htakes : (FormatPiece.plain b hb).takes = 0 := rfl
          rw [FormatPiece.bytes, List.singleton_append, formatArgs, if_neg hb, ih, htakes,
            Nat.zero_add]
      | percent =>
          have htakes : FormatPiece.percent.takes = 0 := rfl
          rw [htakes, Nat.zero_add, ← ih]
          rfl
      | unsigned conversion =>
          rw [FormatPiece.bytes, List.cons_append, formatArgs, if_pos rfl,
            formatArgs_of_completes conversion.completes, ih, FormatPiece.takes, Nat.add_comm,
            List.replicate_succ]

/-- A format whose arguments are all unsigned is spelled out so. -/
theorem exists_pieces {format : List UInt8}
    (h : ∀ arg ∈ formatArgs none format, arg = .unsignedInt) :
    ∃ pieces : List FormatPiece, pieces.flatMap FormatPiece.bytes = format := by
  induction hn : format.length using Nat.strong_induction_on generalizing format with
  | h n ih =>
      subst hn
      cases format with
      | nil => exact ⟨[], rfl⟩
      | cons b format =>
          rw [formatArgs] at h
          by_cases hb : b = charByte '%'
          · rw [if_pos hb] at h
            obtain ⟨bytes, rest, rfl, hbytes⟩ | ⟨-, rest, rfl, hargs⟩ := exists_completes h
            · obtain ⟨conversion, rfl⟩ := exists_conversion hbytes
              rw [formatArgs_of_completes hbytes] at h
              obtain ⟨pieces, hpieces⟩ := ih rest.length
                (by rw [List.length_cons, List.length_append]; omega)
                (List.forall_mem_cons.mp h).2 rfl
              exact ⟨.unsigned conversion :: pieces, by
                rw [List.flatMap_cons, hpieces, FormatPiece.bytes, hb, List.cons_append]⟩
            · rw [hargs] at h
              obtain ⟨pieces, hpieces⟩ := ih rest.length
                (by rw [List.length_cons, List.length_cons]; omega) h rfl
              exact ⟨.percent :: pieces, by
                rw [List.flatMap_cons, hpieces, FormatPiece.bytes, hb]
                rfl⟩
          · rw [if_neg hb] at h
            obtain ⟨pieces, hpieces⟩ := ih format.length (Nat.lt_succ_self _) h rfl
            exact ⟨.plain b hb :: pieces, by
              rw [List.flatMap_cons, hpieces, FormatPiece.bytes, List.singleton_append]⟩

/-- **The formats of unsigned arguments**: at most `n` arguments, each of them an
`unsigned int`. -/
theorem takes_unsigned_iff (format : List UInt8) (n : Nat) :
    (formatArgs none format).length ≤ n ∧
        (∀ arg ∈ formatArgs none format, arg = .unsignedInt) ↔
      ∃ pieces : List FormatPiece, pieces.flatMap FormatPiece.bytes = format ∧
        (pieces.map FormatPiece.takes).sum ≤ n := by
  constructor
  · rintro ⟨hlength, hargs⟩
    obtain ⟨pieces, rfl⟩ := exists_pieces hargs
    rw [formatArgs_pieces, List.length_replicate] at hlength
    exact ⟨pieces, rfl, hlength⟩
  · rintro ⟨pieces, rfl, hsum⟩
    rw [formatArgs_pieces, List.length_replicate]
    exact ⟨hsum, fun arg harg => List.eq_of_mem_replicate harg⟩

end Spelling

end Lib
