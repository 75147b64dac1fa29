import AutoMlos.Lib.PrintfArgs
import AutoMlos.LogParser.Loading

/-!
# AutoMlos.LogParser.Rendering

The stored format strings as formats of `printf`.

Every place that prints a message passes the two data words of its record and
the string that the database has for it.  The loader stores whatever stands
between the first two bars of a line, so what the string takes is decided by the
file alone: it takes no more than two arguments of the type `unsigned int` if
and only if the field in the file is spelled so.  The shipped database has lines
that are not.
-/

namespace AutoMlos

open Lib

/-- A format takes the two data words, or less: at most two arguments, each of
them an `unsigned int`. -/
def TakesDataWords (format : CString) : Prop :=
  (formatArgs none format.bytes).length ≤ 2 ∧
    ∀ arg ∈ formatArgs none format.bytes, arg = .unsignedInt

instance (format : CString) : Decidable (TakesDataWords format) :=
  inferInstanceAs (Decidable (_ ∧ _))

/-! ## what is stored -/

/-- For every format database that is accepted and every record, the string
stored for the record takes at most two arguments, each of them an `unsigned
int`, if and only if no line of the file gives the id of the record, or the
format string of the first line that does is spelled with characters, `%%` and
at most two conversions of an `unsigned int`. -/
theorem stored_format_takes_words_iff {file : List UInt8} {table table' : LogTable FormatSlot}
    (h : loadFormatDatabase (some file) true table = .ok (0, table')) (entry : LogEntryBinary) :
    (∀ messageFormat, tableMessageText table' entry.messageId = .ok (some messageFormat) →
      TakesDataWords messageFormat) ↔
    ∀ line, ((fileEntries formatFields file).find? fun line => line.messageId = entry.messageId) =
        some line →
      ∃ pieces : List FormatPiece, pieces.flatMap FormatPiece.bytes = line.formatString.bytes ∧
        (pieces.map FormatPiece.takes).sum ≤ 2 := by
  have hspelled (messageFormat : CString) := takes_unsigned_iff messageFormat.bytes 2
  rw [(formatTableRight_of_load h).lookup]
  cases (fileEntries formatFields file).find? fun line => line.messageId = entry.messageId with
  | none => simp
  | some line =>
      constructor
      · rintro htakes _ ⟨⟩
        exact (hspelled _).mp (htakes _ rfl)
      · rintro hpieces _ ⟨⟩
        exact (hspelled _).mpr (hpieces line rfl)

/-- A database of one line. -/
def serviceReadyFile : List UInt8 := asciiBytes "2|Service %u ready|Service ready|0\n"

/-- A record of the service that is ready. -/
def serviceReady : LogEntryBinary := ⟨0, 0, 2, 0, 2, 7, 0, 4⟩

/-- Its format takes one word. -/
theorem stored_format_takes_words_iff_serviceReady :
    ∃ table', loadFormatDatabase (some serviceReadyFile) true ⟨none, 0⟩ = .ok (0, table') ∧
      ((∀ messageFormat, tableMessageText table' serviceReady.messageId = .ok (some messageFormat) →
        TakesDataWords messageFormat) ↔
      ∀ line, ((fileEntries formatFields serviceReadyFile).find? fun line =>
          line.messageId = serviceReady.messageId) = some line →
        ∃ pieces : List FormatPiece, pieces.flatMap FormatPiece.bytes = line.formatString.bytes ∧
          (pieces.map FormatPiece.takes).sum ≤ 2) := by
  obtain ⟨table', hload⟩ :=
    exists_loadFormatDatabase serviceReadyFile (by decide) (by decide) ⟨none, 0⟩
  exact ⟨table', hload, stored_format_takes_words_iff hload serviceReady⟩

/-- A line of the shipped database. -/
def securityViolationFile : List UInt8 :=
  asciiBytes "45|Security violation: user %u, resource %u, action %u|" ++
    asciiBytes "Security access violation message|4\n"

/-- It is accepted, and its format takes three words. -/
theorem stored_format_takes_three_words :
    ¬ ∀ (file : List UInt8) (table table' : LogTable FormatSlot) (entry : LogEntryBinary),
      loadFormatDatabase (some file) true table = .ok (0, table') →
        ∀ messageFormat, tableMessageText table' entry.messageId = .ok (some messageFormat) →
          TakesDataWords messageFormat := by
  intro h
  obtain ⟨table', hload⟩ :=
    exists_loadFormatDatabase securityViolationFile (by decide +kernel) (by decide +kernel)
      ⟨none, 0⟩
  have hfind : ((fileEntries formatFields securityViolationFile).find? fun line =>
      line.messageId = 45) =
      some ⟨45, CString.ofAscii "Security violation: user %u, resource %u, action %u"⟩ := by
    decide +kernel
  have hlookup := (formatTableRight_of_load hload).lookup 45
  rw [hfind] at hlookup
  have htakes := h securityViolationFile ⟨none, 0⟩ table' { serviceReady with messageId := 45 }
    hload _ hlookup
  exact absurd htakes (by decide +kernel)

end AutoMlos
