import AutoMlos.LogParser.Databases
import Mathlib.Algebra.Ring.Nat

/-!
# AutoMlos.LogParser.Loading

What the database loaders of the log parser leave in their tables.

What parses has been counted, so the table of a loader is large enough, and a
lookup finds the first line with its id.  Only where there are so many lines
that their 32-bit count has come round can a loader write outside its table
(`load_databases_right_iff`).
-/

namespace AutoMlos

open Lib

/-! ## passes over the lines -/

theorem foldlM_count (lines : List (List UInt8)) (n : UInt32) :
    lines.foldlM (fun lineCount buffer =>
      (return if lineCounts buffer then lineCount + 1 else lineCount : Outcome UInt32)) n =
      .ok (n + UInt32.ofNat (lines.countP (lineCounts ·))) := by
  induction lines generalizing n with
  | nil => simp
  | cons line lines ih =>
      rw [List.foldlM_cons, Outcome.pure_eq_ok, Outcome.ok_bind, ih, List.countP_cons]
      by_cases hline : lineCounts line = true
      · simp [hline, UInt32.ofNat_add]
        ac_rfl
      · simp [hline]

/-- **The first pass** counts the lines, in 32 bits. -/
theorem countLines_eq (file : List UInt8) :
    countLines file = .ok (UInt32.ofNat (countedLines file)) := by
  rw [countLines, whileFgets_eq (by decide) _ (Nat.lt_succ_self _), foldlM_count, UInt32.zero_add]
  rfl

section Loading

variable {ε : Type} {parseLine : CString → Outcome (Option ε)} {fields : CString → Option ε}

/-- What the second pass does with a line. -/
def parseStep (parseLine : CString → Outcome (Option ε)) (table : List (Option ε) × UInt32)
    (buffer : List UInt8) : Outcome (List (Option ε) × UInt32) :=
  if lineCounts buffer then do
    match ← parseLine (CString.ofBuffer buffer) with
    | some entry => storeEntry table entry
    | none => return table
  else return table

/-- The slots after some entries. -/
def filledSlots (room : Nat) (entries : List ε) : List (Option ε) :=
  entries.map some ++ List.replicate (room - entries.length) none

/-- Storing behind the entries so far, if there is room. -/
theorem storeEntry_eq {room : Nat} (hroom : room < 2 ^ 32) {entries : List ε}
    (hentries : entries.length ≤ room) (entry : ε) :
    storeEntry (filledSlots room entries, UInt32.ofNat entries.length) entry =
      if entries.length < room then
        .ok (filledSlots room (entries ++ [entry]), UInt32.ofNat (entries ++ [entry]).length)
      else .undefined := by
  have hindex : (UInt32.ofNat entries.length).toNat = entries.length := by
    rw [UInt32.toNat_ofNat']
    omega
  have hslots : (filledSlots room entries).length = room := by
    rw [filledSlots, List.length_append, List.length_map, List.length_replicate]
    omega
  simp only [storeEntry, hindex, hslots]
  split
  · next hfree =>
    obtain ⟨free, hfree⟩ : ∃ free, room - entries.length = free + 1 :=
      ⟨room - entries.length - 1, by omega⟩
    have hnext : room - (entries ++ [entry]).length = free := by
      rw [List.length_append, List.length_singleton]
      omega
    have hset : (filledSlots room entries).set entries.length (some entry) =
        filledSlots room (entries ++ [entry]) := by
      rw [filledSlots, filledSlots, hfree, hnext, List.set_append_right _ _ (by simp)]
      simp [List.replicate_succ]
    rw [hset, List.length_append, List.length_singleton, UInt32.ofNat_add]
    rfl
  · rfl

/-- The lines that are skipped do not give an entry. -/
theorem lineEntry_of_not_counts (hlong : ∀ buffer, fields buffer ≠ none → 1 < buffer.length)
    {buffer : List UInt8} (h : lineCounts buffer = false) : lineEntry fields buffer = none := by
  rw [lineEntry]
  split
  · rfl
  · next hcomment =>
    by_contra hfields
    have hlength := hlong _ hfields
    simp [lineCounts, hcomment] at h
    omega

/-- A line that gives an entry is counted. -/
theorem length_fileEntries_le (hlong : ∀ buffer, fields buffer ≠ none → 1 < buffer.length)
    (file : List UInt8) : (fileEntries fields file).length ≤ countedLines file := by
  rw [fileEntries, countedLines, List.length_filterMap_eq_countP]
  refine List.countP_mono_left fun line _ hline => ?_
  by_contra hcounts
  rw [lineEntry_of_not_counts hlong (Bool.eq_false_iff.mpr hcounts)] at hline
  contradiction

/-- The second pass after some entries: it goes on as long as there is room. -/
theorem foldlM_parseStep (hparse : ∀ buffer, parseLine buffer = .ok (fields buffer))
    (hlong : ∀ buffer, fields buffer ≠ none → 1 < buffer.length) {room : Nat}
    (hroom : room < 2 ^ 32) (lines : List (List UInt8)) {entries : List ε}
    (hentries : entries.length ≤ room) :
    lines.foldlM (parseStep parseLine) (filledSlots room entries, UInt32.ofNat entries.length) =
      let all := entries ++ lines.filterMap (lineEntry fields)
      if all.length ≤ room then .ok (filledSlots room all, UInt32.ofNat all.length)
      else .undefined := by
  induction lines generalizing entries with
  | nil => simp [hentries]
  | cons line lines ih =>
      have hstep : parseStep parseLine (filledSlots room entries, UInt32.ofNat entries.length)
          line = match lineEntry fields line with
            | some entry =>
                storeEntry (filledSlots room entries, UInt32.ofNat entries.length) entry
            | none => .ok (filledSlots room entries, UInt32.ofNat entries.length) := by
        rw [parseStep]
        by_cases hcounts : lineCounts line = true
        · have hcomment : line.head? ≠ some (charByte '#') := by
            simp [lineCounts] at hcounts
            exact hcounts.1
          rw [if_pos hcounts, hparse, Outcome.ok_bind, lineEntry, if_neg hcomment]
          rfl
        · rw [if_neg hcounts, lineEntry_of_not_counts hlong (Bool.eq_false_iff.mpr hcounts)]
          rfl
      rw [List.foldlM_cons, hstep]
      cases hentry : lineEntry fields line with
      | none =>
          rw [Outcome.ok_bind, ih hentries, List.filterMap_cons_none hentry]
      | some entry =>
          simp only [storeEntry_eq hroom hentries]
          rw [List.filterMap_cons_some hentry]
          by_cases hfree : entries.length < room
          · have hnext : (entries ++ [entry]).length ≤ room := by
              rw [List.length_append]
              exact hfree
            rw [if_pos hfree, Outcome.ok_bind, ih hnext, List.append_assoc]
            rfl
          · have hfull : ¬ (entries ++ entry :: lines.filterMap (lineEntry fields)).length ≤
                room := by
              rw [List.length_append, List.length_cons]
              omega
            rw [if_neg hfree, Outcome.undefined_bind]
            simp only [if_neg hfull]

/-- **The second pass** stores the entries of the lines, if there are slots for
all of them. -/
theorem parseLines_eq (hparse : ∀ buffer, parseLine buffer = .ok (fields buffer))
    (hlong : ∀ buffer, fields buffer ≠ none → 1 < buffer.length) (lineCount : UInt32)
    (file : List UInt8) :
    parseLines parseLine lineCount file =
      if (fileEntries fields file).length ≤ lineCount.toNat then
        .ok (filledSlots lineCount.toNat (fileEntries fields file),
          UInt32.ofNat (fileEntries fields file).length)
      else .undefined := by
  have hempty : ([] : List ε).length ≤ lineCount.toNat := Nat.zero_le _
  have hfold := foldlM_parseStep hparse hlong lineCount.toNat_lt (chunks 511 file) hempty
  rw [parseLines, whileFgets_eq (by decide) _ (Nat.lt_succ_self _)]
  exact hfold

/-- **A loader** on a file that can be opened, with an allocation that
succeeds. -/
theorem loadDatabase_eq (hparse : ∀ buffer, parseLine buffer = .ok (fields buffer))
    (hlong : ∀ buffer, fields buffer ≠ none → 1 < buffer.length) (file : List UInt8)
    (table : LogTable ε) :
    loadDatabase parseLine (some file) true table =
      if countedLines file % 2 ^ 32 = 0 then .ok (-1, table)
      else if (fileEntries fields file).length ≤ countedLines file % 2 ^ 32 then
        .ok (0, {
          slots := some (filledSlots (countedLines file % 2 ^ 32) (fileEntries fields file))
          size := UInt32.ofNat (fileEntries fields file).length })
      else .undefined := by
  have hcount : (UInt32.ofNat (countedLines file)).toNat = countedLines file % 2 ^ 32 :=
    UInt32.toNat_ofNat'
  have hzero : UInt32.ofNat (countedLines file) = 0 ↔ countedLines file % 2 ^ 32 = 0 := by
    rw [← UInt32.toNat_inj, hcount]
    rfl
  rw [loadDatabase, countLines_eq, Outcome.ok_bind]
  by_cases hnone : countedLines file % 2 ^ 32 = 0
  · rw [if_pos (hzero.mpr hnone), if_pos hnone]
    rfl
  · rw [if_neg (mt hzero.mp hnone), if_neg hnone, if_pos rfl, parseLines_eq hparse hlong, hcount]
    by_cases hroom : (fileEntries fields file).length ≤ countedLines file % 2 ^ 32
    · rw [if_pos hroom, if_pos hroom]
      rfl
    · rw [if_neg hroom, if_neg hroom]
      rfl

/-- A search of a table whose first slots are filled. -/
theorem findSlot_eq (p : ε → Bool) (entries : List ε) (free : List (Option ε)) :
    findSlot p entries.length (entries.map some ++ free) = .ok (entries.find? p) := by
  induction entries with
  | nil => rfl
  | cons entry entries ih =>
      rw [List.length_cons, List.map_cons, List.cons_append, findSlot, ih, List.find?_cons]
      by_cases hp : p entry
      · simp [hp]
      · simp [hp]

/-- A search of a loaded table. -/
theorem find?_loaded (p : ε → Bool) {room : Nat} {entries : List ε}
    (h : entries.length < 2 ^ 32) :
    LogTable.find? ⟨some (filledSlots room entries), UInt32.ofNat entries.length⟩ p =
      .ok (entries.find? p) := by
  have hsize : (UInt32.ofNat entries.length).toNat = entries.length := by
    rw [UInt32.toNat_ofNat', Nat.mod_eq_of_lt h]
  rw [LogTable.find?, hsize]
  exact findSlot_eq p entries _

theorem mem_filledSlots {room : Nat} {entries : List ε} {entry : ε} :
    some entry ∈ filledSlots room entries ↔ entry ∈ entries := by
  simp [filledSlots]

end Loading

/-! ## line parsers -/

/-- A line parser that does not fault, as a function. -/
def slotOf {ε : Type} (parseLine : CString → Outcome (Option ε)) (buffer : CString) : Option ε :=
  (parseLine buffer).getD none

section LineParsers

variable {ε δ : Type}

/-- What a line parser promises: it stays inside its arrays and stores what the
line gives, the strings in a slot end there, and a line that gives anything has
more than one character. -/
structure ParsesLines (parseLine : CString → Outcome (Option ε)) (toEntry : ε → δ)
    (fields : CString → Option δ) (ends : ε → Prop) : Prop where
  parsed : ∀ buffer, ∃ slot, parseLine buffer = .ok slot ∧ slot.map toEntry = fields buffer ∧
    ∀ s, slot = some s → ends s
  long : ∀ buffer, fields buffer ≠ none → 1 < buffer.length

/-- A table holds some entries: a search finds the first of them, and all strings
in its slots end there. -/
structure LogTable.Holds (toEntry : ε → δ) (ends : ε → Prop) (entries : List δ)
    (table : LogTable ε) : Prop where
  found : ∀ p : δ → Bool, ∃ slot, table.find? (fun s => p (toEntry s)) = .ok slot ∧
    slot.map toEntry = entries.find? p
  terminated : ∀ slots, table.slots = some slots → ∀ slot, some slot ∈ slots → ends slot

/-- What a load promises: it does not write outside its table, and if it returns
0 the table is right. -/
def LoadsRight (load : Outcome (Int × LogTable ε)) (right : LogTable ε → Prop) : Prop :=
  ∃ result table, load = .ok (result, table) ∧ (result = 0 → right table)

/-- Entries by their slots. -/
theorem map_fileEntries {fields : CString → Option ε} {g : ε → δ} {fields' : CString → Option δ}
    (h : ∀ buffer, (fields buffer).map g = fields' buffer) (file : List UInt8) :
    (fileEntries fields file).map g = fileEntries fields' file := by
  rw [fileEntries, List.map_filterMap]
  refine List.filterMap_congr fun line _ => ?_
  rw [lineEntry, lineEntry]
  split
  · rfl
  · exact h _

/-- What is stored in a table is what a line gives. -/
theorem exists_line_of_mem {fields : CString → Option ε} {file : List UInt8} {entry : ε}
    (h : entry ∈ fileEntries fields file) : ∃ buffer, fields buffer = some entry := by
  obtain ⟨line, -, hline⟩ := List.mem_filterMap.mp h
  rw [lineEntry] at hline
  split at hline
  · contradiction
  · exact ⟨_, hline⟩

namespace ParsesLines

variable {parseLine : CString → Outcome (Option ε)} {toEntry : ε → δ}
variable {fields : CString → Option δ} {ends : ε → Prop}

theorem eq_slotOf (h : ParsesLines parseLine toEntry fields ends) (buffer : CString) :
    parseLine buffer = .ok (slotOf parseLine buffer) := by
  obtain ⟨slot, hslot, -⟩ := h.parsed buffer
  rw [slotOf, hslot]
  rfl

theorem map_slotOf (h : ParsesLines parseLine toEntry fields ends) (buffer : CString) :
    (slotOf parseLine buffer).map toEntry = fields buffer := by
  obtain ⟨slot, hslot, hentry, -⟩ := h.parsed buffer
  rw [slotOf, hslot]
  exact hentry

theorem one_lt (h : ParsesLines parseLine toEntry fields ends) (buffer : CString)
    (hslot : slotOf parseLine buffer ≠ none) : 1 < buffer.length := by
  refine h.long buffer ?_
  rwa [← h.map_slotOf, Ne, Option.map_eq_none_iff]

/-- What a loader stores holds the entries of its file. -/
theorem holds_loaded (h : ParsesLines parseLine toEntry fields ends) (file : List UInt8)
    (room : Nat) (hlt : (fileEntries (slotOf parseLine) file).length < 2 ^ 32) :
    LogTable.Holds toEntry ends (fileEntries fields file) {
      slots := some (filledSlots room (fileEntries (slotOf parseLine) file))
      size := UInt32.ofNat (fileEntries (slotOf parseLine) file).length } where
  found p := by
    refine ⟨_, find?_loaded _ hlt, ?_⟩
    rw [← map_fileEntries h.map_slotOf, List.find?_map]
    rfl
  terminated := by
    rintro _ ⟨⟩ slot hslot
    obtain ⟨buffer, hbuffer⟩ := exists_line_of_mem (mem_filledSlots.mp hslot)
    obtain ⟨stored, hstored, -, hends⟩ := h.parsed buffer
    rw [slotOf, hstored] at hbuffer
    exact hends slot hbuffer

/-- **What a loader does**: nothing, or it stores the entries of the file, or it
writes outside its table. -/
theorem load_cases (h : ParsesLines parseLine toEntry fields ends) (file : List UInt8)
    (table : LogTable ε) :
    (countedLines file % 2 ^ 32 = 0 ∧
      loadDatabase parseLine (some file) true table = .ok (-1, table)) ∨
    (countedLines file % 2 ^ 32 ≠ 0 ∧
      (fileEntries fields file).length ≤ countedLines file % 2 ^ 32 ∧
      ∃ table', loadDatabase parseLine (some file) true table = .ok (0, table') ∧
        table'.Holds toEntry ends (fileEntries fields file)) ∨
    (countedLines file % 2 ^ 32 ≠ 0 ∧
      ¬ (fileEntries fields file).length ≤ countedLines file % 2 ^ 32 ∧
      loadDatabase parseLine (some file) true table = .undefined) := by
  have hlength : (fileEntries (slotOf parseLine) file).length =
      (fileEntries fields file).length := by
    rw [← map_fileEntries h.map_slotOf, List.length_map]
  rw [loadDatabase_eq h.eq_slotOf h.one_lt, hlength]
  by_cases hnone : countedLines file % 2 ^ 32 = 0
  · exact .inl ⟨hnone, if_pos hnone⟩
  · rw [if_neg hnone]
    by_cases hroom : (fileEntries fields file).length ≤ countedLines file % 2 ^ 32
    · have hlt : (fileEntries (slotOf parseLine) file).length < 2 ^ 32 := by
        rw [hlength]
        exact Nat.lt_of_le_of_lt hroom (Nat.mod_lt _ (by decide))
      have hholds := h.holds_loaded file (countedLines file % 2 ^ 32) hlt
      rw [hlength] at hholds
      exact .inr (.inl ⟨hnone, hroom, _, if_pos hroom, hholds⟩)
    · exact .inr (.inr ⟨hnone, hroom, if_neg hroom⟩)

/-- A loader that has returned 0 has stored the entries of its file. -/
theorem holds_of_load (h : ParsesLines parseLine toEntry fields ends) {file : List UInt8}
    {table table' : LogTable ε}
    (hload : loadDatabase parseLine (some file) true table = .ok (0, table')) :
    table'.Holds toEntry ends (fileEntries fields file) := by
  obtain ⟨-, hfailed⟩ | ⟨-, -, loaded, hloaded, hholds⟩ | ⟨-, -, hfault⟩ := h.load_cases file table
  · rw [hfailed] at hload
    cases hload
  · rw [hloaded] at hload
    cases hload
    exact hholds
  · rw [hfault] at hload
    contradiction

/-- A loader keeps its promise if and only if it loads nothing or counts at least
as many lines, in 32 bits, as there are entries. -/
theorem loadsRight_iff (h : ParsesLines parseLine toEntry fields ends) (file : List UInt8)
    (table : LogTable ε) {right : LogTable ε → Prop}
    (hright : ∀ table', table'.Holds toEntry ends (fileEntries fields file) → right table') :
    LoadsRight (loadDatabase parseLine (some file) true table) right ↔
      countedLines file % 2 ^ 32 = 0 ∨
        (fileEntries fields file).length ≤ countedLines file % 2 ^ 32 := by
  obtain ⟨hnone, hfailed⟩ | ⟨-, hroom, loaded, hloaded, hholds⟩ | ⟨hsome, hroom, hfault⟩ :=
    h.load_cases file table
  · exact iff_of_true ⟨-1, table, hfailed, fun h => absurd h (by decide)⟩ (.inl hnone)
  · exact iff_of_true ⟨0, loaded, hloaded, fun _ => hright loaded hholds⟩ (.inr hroom)
  · refine iff_of_false ?_ fun h => h.elim hsome hroom
    rintro ⟨result, loaded, hload, -⟩
    rw [hfault] at hload
    contradiction

/-- Where the lines do not come round in their count, there is room for what
parses. -/
theorem length_le (h : ParsesLines parseLine toEntry fields ends) {file : List UInt8}
    (hlt : countedLines file < 2 ^ 32) :
    (fileEntries fields file).length ≤ countedLines file % 2 ^ 32 := by
  rw [Nat.mod_eq_of_lt hlt]
  exact length_fileEntries_le h.long file

end ParsesLines

end LineParsers

/-! ## lines of the two databases -/

/-- A text that has been scanned into a local array and copied into a slot. -/
theorem ofBuffer_copyText_charArray {size : Nat} {text : List UInt8} (h : text.length < size) :
    CString.ofBuffer (copyText size (CString.ofBuffer (charArray size text).toList)).toList =
      CString.ofBuffer text := by
  have hlength : (CString.ofBuffer text).length < size :=
    Nat.lt_of_le_of_lt (List.takeWhile_prefix _).length_le h
  rw [ofBuffer_charArray h, ofBuffer_copyText hlength]

/-- A format line is parsed inside the local arrays, and its strings end in the
slot. -/
theorem parseFormatLine_ok (buffer : CString) :
    ∃ slot, parseFormatLine buffer = .ok slot ∧
      slot.map FormatSlot.toEntry = formatFields buffer ∧
      ∀ s, slot = some s → 0 ∈ s.formatString ∧ 0 ∈ s.description := by
  have hformatWidth : (conversions formatLine)[1]? = some (.upTo 255 (charByte '|')) := rfl
  have hdescriptionWidth : (conversions formatLine)[2]? = some (.upTo 127 (charByte '|')) := rfl
  have hformat : (scannedText (sscanf buffer formatLine).2 1).length < 256 :=
    Nat.lt_succ_of_le (length_scannedText_le buffer hformatWidth)
  have hdescription : (scannedText (sscanf buffer formatLine).2 2).length < 128 :=
    Nat.lt_succ_of_le (length_scannedText_le buffer hdescriptionWidth)
  simp only [parseFormatLine, formatFields, storeText, if_pos hformat, if_pos hdescription,
    Outcome.ok_bind]
  split
  · refine ⟨_, rfl, ?_, ?_⟩
    · rw [Option.map_some, FormatSlot.toEntry, ofBuffer_copyText_charArray hformat]
    · rintro _ ⟨⟩
      exact ⟨nul_mem_copyText (by decide) _, nul_mem_copyText (by decide) _⟩
  · exact ⟨none, rfl, rfl, by simp⟩

/-- A tag line is parsed inside the local array, and its name ends in the
slot. -/
theorem parseTagLine_ok (buffer : CString) :
    ∃ slot, parseTagLine buffer = .ok slot ∧ slot.map TagSlot.toEntry = tagFields buffer ∧
      ∀ s, slot = some s → 0 ∈ s.tagName := by
  have hwidth : (conversions tagLine)[1]? = some (.upTo 63 lineFeed) := rfl
  have hname : (scannedText (sscanf buffer tagLine).2 1).length < 64 :=
    Nat.lt_succ_of_le (length_scannedText_le buffer hwidth)
  simp only [parseTagLine, tagFields, storeText, if_pos hname, Outcome.ok_bind]
  split
  · refine ⟨_, rfl, ?_, ?_⟩
    · rw [Option.map_some, TagSlot.toEntry, ofBuffer_copyText_charArray hname]
    · rintro _ ⟨⟩
      exact nul_mem_copyText (by decide) _
  · exact ⟨none, rfl, rfl, by simp⟩

/-- A format line has three fields at least, so it is not short. -/
theorem one_lt_of_formatFields {buffer : CString} (h : formatFields buffer ≠ none) :
    1 < buffer.length := by
  have hlength := sscanf_le_length formatLine buffer
  simp only [formatFields] at h
  split at h
  · omega
  · contradiction

/-- A tag line has two fields. -/
theorem one_lt_of_tagFields {buffer : CString} (h : tagFields buffer ≠ none) :
    1 < buffer.length := by
  have hlength := sscanf_le_length tagLine buffer
  simp only [tagFields] at h
  split at h
  · omega
  · contradiction

theorem parsesLines_format : ParsesLines parseFormatLine FormatSlot.toEntry formatFields
    fun slot => 0 ∈ slot.formatString ∧ 0 ∈ slot.description where
  parsed := parseFormatLine_ok
  long _ := one_lt_of_formatFields

theorem parsesLines_tag : ParsesLines parseTagLine TagSlot.toEntry tagFields
    fun slot => 0 ∈ slot.tagName where
  parsed := parseTagLine_ok
  long _ := one_lt_of_tagFields

/-! ## the loaded tables -/

/-- The table of format strings after its file: a lookup finds the format string
of the first line that does not start with `#` and parses with the id, if there
is one, and all stored strings end in their arrays. -/
structure FormatTableRight (file : List UInt8) (table : LogTable FormatSlot) : Prop where
  lookup : ∀ messageId, tableMessageText table messageId =
    .ok (((fileEntries formatFields file).find? fun entry => entry.messageId = messageId).map
      (·.formatString))
  terminated : ∀ slots, table.slots = some slots → ∀ slot, some slot ∈ slots →
    0 ∈ slot.formatString ∧ 0 ∈ slot.description

/-- The table of tags after its file. -/
structure TagTableRight (file : List UInt8) (table : LogTable TagSlot) : Prop where
  lookup : ∀ tagId, tableTagName table tagId =
    .ok ((((fileEntries tagFields file).find? fun entry => entry.tagId = tagId).map
      (·.tagName)).getD unknownName)
  terminated : ∀ slots, table.slots = some slots → ∀ slot, some slot ∈ slots → 0 ∈ slot.tagName

theorem formatTableRight_of_holds {file : List UInt8} {table : LogTable FormatSlot}
    (h : table.Holds FormatSlot.toEntry (fun slot => 0 ∈ slot.formatString ∧ 0 ∈ slot.description)
      (fileEntries formatFields file)) : FormatTableRight file table where
  lookup messageId := by
    obtain ⟨slot, hslot, hentry⟩ := h.found fun entry => entry.messageId = messageId
    rw [← hentry, Option.map_map]
    exact congrArg (· >>= _) hslot
  terminated := h.terminated

theorem tagTableRight_of_holds {file : List UInt8} {table : LogTable TagSlot}
    (h : table.Holds TagSlot.toEntry (fun slot => 0 ∈ slot.tagName) (fileEntries tagFields file)) :
    TagTableRight file table where
  lookup tagId := by
    obtain ⟨slot, hslot, hentry⟩ := h.found fun entry => entry.tagId = tagId
    rw [← hentry, Option.map_map]
    exact congrArg (· >>= _) hslot
  terminated := h.terminated

/-- A format database that is accepted is loaded right. -/
theorem formatTableRight_of_load {file : List UInt8} {table table' : LogTable FormatSlot}
    (h : loadFormatDatabase (some file) true table = .ok (0, table')) :
    FormatTableRight file table' :=
  formatTableRight_of_holds (parsesLines_format.holds_of_load h)

theorem loadFormatDatabase_right_iff (file : List UInt8) (table : LogTable FormatSlot) :
    LoadsRight (loadFormatDatabase (some file) true table) (FormatTableRight file) ↔
      countedLines file % 2 ^ 32 = 0 ∨
        (fileEntries formatFields file).length ≤ countedLines file % 2 ^ 32 :=
  parsesLines_format.loadsRight_iff file table fun _ => formatTableRight_of_holds

theorem loadTagDatabase_right_iff (file : List UInt8) (table : LogTable TagSlot) :
    LoadsRight (loadTagDatabase (some file) true table) (TagTableRight file) ↔
      countedLines file % 2 ^ 32 = 0 ∨
        (fileEntries tagFields file).length ≤ countedLines file % 2 ^ 32 :=
  parsesLines_tag.loadsRight_iff file table fun _ => tagTableRight_of_holds

/-- A format database with some lines, but not too many, is accepted. -/
theorem exists_loadFormatDatabase (file : List UInt8) (hsome : countedLines file ≠ 0)
    (hlt : countedLines file < 2 ^ 32) (table : LogTable FormatSlot) :
    ∃ table', loadFormatDatabase (some file) true table = .ok (0, table') := by
  obtain ⟨hnone, -⟩ | ⟨-, -, table', hload, -⟩ | ⟨-, hroom, -⟩ :=
    parsesLines_format.load_cases file table
  · rw [Nat.mod_eq_of_lt hlt] at hnone
    contradiction
  · exact ⟨table', hload⟩
  · exact absurd (parsesLines_format.length_le hlt) hroom

/-- For every content of the two files, each loader stays inside its table and
leaves a right one if it returns 0, if and only if in 32 bits it counts no line
at all, or at least as many as there are lines that parse. -/
theorem load_databases_right_iff (formatFile tagFile : List UInt8)
    (formats : LogTable FormatSlot) (tags : LogTable TagSlot) :
    (LoadsRight (loadFormatDatabase (some formatFile) true formats)
        (FormatTableRight formatFile) ↔
      countedLines formatFile % 2 ^ 32 = 0 ∨
        (fileEntries formatFields formatFile).length ≤ countedLines formatFile % 2 ^ 32) ∧
    (LoadsRight (loadTagDatabase (some tagFile) true tags) (TagTableRight tagFile) ↔
      countedLines tagFile % 2 ^ 32 = 0 ∨
        (fileEntries tagFields tagFile).length ≤ countedLines tagFile % 2 ^ 32) :=
  ⟨loadFormatDatabase_right_iff formatFile formats, loadTagDatabase_right_iff tagFile tags⟩

/-! ## a file with too many lines -/

section Repeated

variable {line : List UInt8}

theorem chunks_replicate (hline : lineFeed ∉ line) (hfits : line.length < 511) (n : Nat) :
    chunks 511 (List.replicate n (line ++ [lineFeed])).flatten =
      List.replicate n (line ++ [lineFeed]) := by
  induction n with
  | zero => rfl
  | succ n ih =>
      rw [List.replicate_succ, List.flatten_cons, List.append_assoc, List.singleton_append,
        chunks_line hline hfits, ih]

/-- A file with one line over and over: each is counted, and each gives its
entry. -/
theorem counts_replicate {ε : Type} {fields : CString → Option ε} {entry : ε}
    (hline : lineFeed ∉ line) (hfits : line.length < 511)
    (hcounts : lineCounts (line ++ [lineFeed]) = true)
    (hentry : lineEntry fields (line ++ [lineFeed]) = some entry) (n : Nat) :
    countedLines (List.replicate n (line ++ [lineFeed])).flatten = n ∧
      (fileEntries fields (List.replicate n (line ++ [lineFeed])).flatten).length = n := by
  rw [countedLines, fileEntries, chunks_replicate hline hfits]
  constructor
  · rw [List.countP_replicate, if_pos hcounts]
  · rw [List.filterMap_replicate_of_some hentry, List.length_replicate]

end Repeated

/-- A file with the line `0|a|b` a little over `2 ^ 32` times writes outside its
table of one slot. -/
theorem load_databases_out_of_bounds :
    ¬ ∀ (formatFile tagFile : List UInt8) (formats : LogTable FormatSlot)
      (tags : LogTable TagSlot),
      LoadsRight (loadFormatDatabase (some formatFile) true formats)
          (FormatTableRight formatFile) ∧
        LoadsRight (loadTagDatabase (some tagFile) true tags) (TagTableRight tagFile) := by
  intro h
  have hentry : lineEntry formatFields (asciiBytes "0|a|b" ++ [lineFeed]) =
      some ⟨0, CString.ofAscii "a"⟩ := by
    decide
  obtain ⟨hcounted, hentries⟩ :=
    counts_replicate (by decide) (by decide) (by decide) hentry (2 ^ 32 + 1)
  have hright := (h (List.replicate (2 ^ 32 + 1) (asciiBytes "0|a|b" ++ [lineFeed])).flatten []
    ⟨none, 0⟩ ⟨none, 0⟩).1
  rw [loadFormatDatabase_right_iff, hcounted, hentries] at hright
  exact absurd hright (by decide)

end AutoMlos
