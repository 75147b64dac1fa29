import AutoMlos.Lib.CharArray
import AutoMlos.Lib.Scanf
import AutoMlos.Lib.TextFile
import AutoMlos.LogParser

/-!
# AutoMlos.LogParser.Databases

Loading the databases of the log parser (`load_format_database` and
`load_tag_database`).

Both loaders read their file twice: once to count the lines that may hold an
entry, and once to parse these into a table with as many slots.  A loader is
`loadDatabase` with the parser of its lines.  The lines of a file are the pieces
that `fgets` cuts it into, 511 bytes at most.

Next to the code stand the entries of a file, line by line: what a table is to
hold.
-/

namespace AutoMlos

open Lib

/-! ## tables -/

/-- A database in memory: its table, which is `NULL` or a number of slots, and
the number of its entries.  A slot is `none` until something is stored there. -/
structure LogTable (ε : Type) where
  slots : Option (List (Option ε))
  size : UInt32
  deriving DecidableEq, Repr

/-- `format_string_entry_t`, with its arrays. -/
structure FormatSlot where
  messageId : UInt16
  formatString : Vector UInt8 256
  description : Vector UInt8 128
  messageType : UInt32
  deriving DecidableEq, Repr

/-- `tag_name_entry_t`, with its array. -/
structure TagSlot where
  tagId : UInt8
  tagName : Vector UInt8 64
  deriving DecidableEq, Repr

section Tables

variable {ε : Type}

/-- The first of a number of slots whose entry satisfies `p`. -/
def findSlot (p : ε → Bool) : Nat → List (Option ε) → Outcome (Option ε)
  | 0, _ => .ok none
  | size + 1, some entry :: slots =>
      if p entry then .ok (some entry) else findSlot p size slots
  | _ + 1, _ => .undefined

/-- The first entry of a table that satisfies `p`. -/
def LogTable.find? (table : LogTable ε) (p : ε → Bool) : Outcome (Option ε) :=
  findSlot p table.size.toNat (table.slots.getD [])

end Tables

/-- `log_parser_get_message_text`, in the table. -/
def tableMessageText (table : LogTable FormatSlot) (messageId : UInt16) :
    Outcome (Option CString) := do
  let found ← table.find? fun slot => slot.messageId = messageId
  return found.map fun slot => CString.ofBuffer slot.formatString.toList

/-- `log_parser_get_tag_name`, in the table. -/
def tableTagName (table : LogTable TagSlot) (tagId : UInt8) : Outcome CString := do
  let found ← table.find? fun slot => slot.tagId = tagId
  return (found.map fun slot => CString.ofBuffer slot.tagName.toList).getD unknownName

/-! ## the loaders -/

/-- `buffer[0] != '#' && strlen(buffer) > 1`. -/
def lineCounts (buffer : List UInt8) : Bool :=
  buffer.head? ≠ some (charByte '#') ∧ (CString.ofBuffer buffer).length > 1

/-- The first pass of a loader: count the lines. -/
def countLines (file : List UInt8) : Outcome UInt32 :=
  whileFgets 511
    (fun lineCount buffer => return if lineCounts buffer then lineCount + 1 else lineCount)
    (file.length + 1) file 0

section Loader

variable {ε : Type} (parseLine : CString → Outcome (Option ε))

/-- Store an entry at the index of the table, and advance the index. -/
def storeEntry (table : List (Option ε) × UInt32) (entry : ε) :
    Outcome (List (Option ε) × UInt32) :=
  let (slots, index) := table
  if index.toNat < slots.length then .ok (slots.set index.toNat (some entry), index + 1)
  else .undefined

/-- The second pass of a loader: parse the lines into the slots. -/
def parseLines (lineCount : UInt32) (file : List UInt8) : Outcome (List (Option ε) × UInt32) :=
  whileFgets 511
    (fun table buffer =>
      if lineCounts buffer then do
        match ← parseLine (CString.ofBuffer buffer) with
        | some entry => storeEntry table entry
        | none => return table
      else return table)
    (file.length + 1) file (List.replicate lineCount.toNat none, 0)

/-- A loader, on the table so far; a file that cannot be opened is `none`.
`size_t` has 64 bits, so that the size of the table does not overflow. -/
def loadDatabase (file : Option (List UInt8)) (allocates : Bool) (table : LogTable ε) :
    Outcome (Int × LogTable ε) :=
  match file with
  | none => return (-1, table)
  | some file => do
      let lineCount ← countLines file
      if lineCount = 0 then return (-1, table)
      else if allocates then do
        let (slots, index) ← parseLines parseLine lineCount file
        return (0, { slots := some slots, size := index })
      else return (-1, { table with slots := none })

end Loader

/-- `"%hu|%255[^|]|%127[^|]|%d"`. -/
def formatLine : List ScanDirective :=
  [.unsigned 16, .literal (charByte '|'), .upTo 255 (charByte '|'), .literal (charByte '|'),
    .upTo 127 (charByte '|'), .literal (charByte '|'), .signed 32]

/-- `"%hhu|%63[^\n]"`. -/
def tagLine : List ScanDirective :=
  [.unsigned 8, .literal (charByte '|'), .upTo 63 lineFeed]

/-- The line parser of `load_format_database`. -/
def parseFormatLine (buffer : CString) : Outcome (Option FormatSlot) := do
  let (assigned, values) := sscanf buffer formatLine
  let formatString ← storeText 256 (scannedText values 1)
  let description ← storeText 128 (scannedText values 2)
  if assigned ≥ 3 then
    return some {
      messageId := UInt16.ofNat (scannedNumber values 0)
      formatString := copyText 256 (CString.ofBuffer formatString.toList)
      description := copyText 128 (CString.ofBuffer description.toList)
      messageType := UInt32.ofNat (scannedNumber values 3) }
  else return none

/-- The line parser of `load_tag_database`. -/
def parseTagLine (buffer : CString) : Outcome (Option TagSlot) := do
  let (assigned, values) := sscanf buffer tagLine
  let tagName ← storeText 64 (scannedText values 1)
  if assigned = 2 then
    return some {
      tagId := UInt8.ofNat (scannedNumber values 0)
      tagName := copyText 64 (CString.ofBuffer tagName.toList) }
  else return none

/-- `load_format_database`. -/
def loadFormatDatabase (file : Option (List UInt8)) (allocates : Bool)
    (table : LogTable FormatSlot) : Outcome (Int × LogTable FormatSlot) :=
  loadDatabase parseFormatLine file allocates table

/-- `load_tag_database`. -/
def loadTagDatabase (file : Option (List UInt8)) (allocates : Bool) (table : LogTable TagSlot) :
    Outcome (Int × LogTable TagSlot) :=
  loadDatabase parseTagLine file allocates table

/-- The statics of the parser. -/
structure ParserStatics where
  formats : LogTable FormatSlot
  tags : LogTable TagSlot
  stats : ParserStats

/-- `log_parser_init`: both databases are loaded before either result is looked
at. -/
def logParserInit (formatFile tagFile : Option (List UInt8)) (allocates : Bool)
    (statics : ParserStatics) : Outcome (Int × ParserStatics) := do
  let (formatLoaded, formats) ← loadFormatDatabase formatFile allocates statics.formats
  let (tagLoaded, tags) ← loadTagDatabase tagFile allocates statics.tags
  let statics := { formats, tags, stats := .zero }
  return (if formatLoaded ≠ 0 ∨ tagLoaded ≠ 0 then -1 else 0, statics)

/-! ## the lines of a file -/

/-- The entry of a line that does not start with `#`, if it parses. -/
def lineEntry {ε : Type} (fields : CString → Option ε) (buffer : List UInt8) : Option ε :=
  if buffer.head? = some (charByte '#') then none else fields (CString.ofBuffer buffer)

/-- The entries of a file, line by line. -/
def fileEntries {ε : Type} (fields : CString → Option ε) (file : List UInt8) : List ε :=
  (chunks 511 file).filterMap (lineEntry fields)

/-- The number of lines of a file that are counted. -/
def countedLines (file : List UInt8) : Nat := (chunks 511 file).countP (lineCounts ·)

/-- The id and the format string that a line gives. -/
def formatFields (buffer : CString) : Option FormatStringEntry :=
  let (assigned, values) := sscanf buffer formatLine
  if assigned ≥ 3 then
    some {
      messageId := UInt16.ofNat (scannedNumber values 0)
      formatString := CString.ofBuffer (scannedText values 1) }
  else none

/-- The id and the name that a line gives. -/
def tagFields (buffer : CString) : Option TagNameEntry :=
  let (assigned, values) := sscanf buffer tagLine
  if assigned = 2 then
    some {
      tagId := UInt8.ofNat (scannedNumber values 0)
      tagName := CString.ofBuffer (scannedText values 1) }
  else none

/-- A slot as an entry. -/
def FormatSlot.toEntry (slot : FormatSlot) : FormatStringEntry where
  messageId := slot.messageId
  formatString := CString.ofBuffer slot.formatString.toList

/-- A slot as an entry. -/
def TagSlot.toEntry (slot : TagSlot) : TagNameEntry where
  tagId := slot.tagId
  tagName := CString.ofBuffer slot.tagName.toList

end AutoMlos
