import AutoMlos.Lib.Outcome

/-!
# AutoMlos.Lib.TextFile

Reading a text file with `fgets`.

A call takes what is left of the current line, but no more than the buffer has
room for, so a file is read in the pieces that `chunks` cuts it into: after each
line feed, and wherever a piece has reached the room of the buffer.  A loop of
the form `while (fgets(…)) body` runs its body over these pieces in order
(`whileFgets_eq`), and two loops over one file see the same pieces.
-/

namespace Lib

/-- The line feed. -/
def lineFeed : UInt8 := 10

/-- `fgets` into a buffer with room for some characters and a NUL: what is
stored, and what is left of the file.  Nothing is stored at the end of the file,
where the call returns `NULL`. -/
def fgets : Nat → List UInt8 → List UInt8 × List UInt8
  | 0, file => ([], file)
  | _ + 1, [] => ([], [])
  | room + 1, b :: file =>
      if b = lineFeed then ([b], file)
      else
        let (chunk, rest) := fgets room file
        (b :: chunk, rest)

/-- `while (fgets(…)) body`.  A call that does not return `NULL` takes at least
one byte of the file. -/
def whileFgets {σ : Type} (room : Nat) (body : σ → List UInt8 → Outcome σ) :
    Nat → List UInt8 → σ → Outcome σ
  | 0, _, _ => .outOfFuel
  | fuel + 1, file, s =>
      let (chunk, rest) := fgets room file
      if chunk = [] then return s
      else do
        let s ← body s chunk
        whileFgets room body fuel rest s

/-- The pieces of a file, after the part of a piece that has been read. -/
def chunksFrom (room : Nat) : List UInt8 → List UInt8 → List (List UInt8)
  | read, [] => if read = [] then [] else [read]
  | read, b :: file =>
      if b = lineFeed ∨ read.length + 1 = room then (read ++ [b]) :: chunksFrom room [] file
      else chunksFrom room (read ++ [b]) file

/-- The pieces of a file: lines with their line feeds, cut up where they are
longer than the room. -/
def chunks (room : Nat) (file : List UInt8) : List (List UInt8) := chunksFrom room [] file

example : chunks 3 [65, 10, 66, 66, 66, 66, 10, 67] = [[65, 10], [66, 66, 66], [66, 10], [67]] := by
  decide

section Chunks

variable {room : Nat}

/-- A call of `fgets` completes the piece that has been begun. -/
theorem chunksFrom_eq {left : Nat} {read : List UInt8} (h : read.length + (left + 1) = room)
    (file : List UInt8) :
    chunksFrom room read file =
      if read ++ (fgets (left + 1) file).1 = [] then []
      else (read ++ (fgets (left + 1) file).1) :: chunks room (fgets (left + 1) file).2 := by
  induction file generalizing left read with
  | nil =>
      simp only [chunksFrom, fgets, List.append_nil]
      rfl
  | cons b file ih =>
      have hread : read ++ (fgets (left + 1) (b :: file)).1 ≠ [] := by
        rw [fgets]
        split <;> simp
      rw [if_neg hread, chunksFrom, fgets]
      by_cases hline : b = lineFeed
      · rw [if_pos (.inl hline), if_pos hline]
        rfl
      · rw [if_neg hline]
        cases left with
        | zero =>
            rw [if_pos (.inr h)]
            rfl
        | succ left =>
            have hroom : ¬ (b = lineFeed ∨ read.length + 1 = room) := by
              rintro (h | h)
              · exact hline h
              · omega
            have hnext : (read ++ [b]).length + (left + 1) = room := by
              rw [List.length_append, List.length_singleton]
              omega
            have hne : ∀ chunk : List UInt8, read ++ [b] ++ chunk ≠ [] := by simp
            rw [if_neg hroom, ih hnext, if_neg (hne _), List.append_assoc]
            rfl

/-- The first piece is what `fgets` stores. -/
theorem chunks_eq (hroom : 0 < room) (file : List UInt8) :
    chunks room file =
      if (fgets room file).1 = [] then []
      else (fgets room file).1 :: chunks room (fgets room file).2 := by
  obtain ⟨left, rfl⟩ := Nat.exists_eq_add_one.mpr hroom
  exact chunksFrom_eq (Nat.zero_add _) file

/-- A call that stores something leaves less of the file. -/
theorem length_fgets_lt {file : List UInt8} (h : (fgets room file).1 ≠ []) :
    (fgets room file).2.length < file.length := by
  induction room generalizing file with
  | zero => exact absurd rfl h
  | succ room ih =>
      cases file with
      | nil => exact absurd rfl h
      | cons b file =>
          rw [fgets]
          split
          · exact Nat.lt_succ_self _
          · by_cases hmore : (fgets room file).1 = []
            · have hrest : (fgets room file).2.length ≤ file.length := by
                cases room with
                | zero => exact Nat.le_refl _
                | succ room =>
                    cases file with
                    | nil => exact Nat.le_refl _
                    | cons b file =>
                        rw [fgets] at hmore
                        split at hmore <;> simp at hmore
              exact Nat.lt_succ_of_le hrest
            · exact Nat.lt_succ_of_lt (ih hmore)

/-- **A loop over a file** runs its body over the pieces in order. -/
theorem whileFgets_eq {σ : Type} (hroom : 0 < room) (body : σ → List UInt8 → Outcome σ)
    {fuel : Nat} {file : List UInt8} (hfuel : file.length < fuel) (s : σ) :
    whileFgets room body fuel file s = (chunks room file).foldlM body s := by
  induction fuel generalizing file s with
  | zero => omega
  | succ fuel ih =>
      have hstep : whileFgets room body (fuel + 1) file s =
          if (fgets room file).1 = [] then .ok s
          else body s (fgets room file).1 >>= whileFgets room body fuel (fgets room file).2 :=
        rfl
      rw [hstep, chunks_eq hroom]
      by_cases hend : (fgets room file).1 = []
      · rw [if_pos hend, if_pos hend]
        rfl
      · have hless := length_fgets_lt hend
        rw [if_neg hend, if_neg hend, List.foldlM_cons]
        congr 1
        funext s
        exact ih (by omega) s

/-- A line that fits is a piece. -/
theorem chunks_line {line : List UInt8} (hline : lineFeed ∉ line) (hfits : line.length < room)
    (file : List UInt8) :
    chunks room (line ++ lineFeed :: file) = (line ++ [lineFeed]) :: chunks room file := by
  suffices hfrom : ∀ read : List UInt8, read.length + line.length < room →
      chunksFrom room read (line ++ lineFeed :: file) =
        (read ++ line ++ [lineFeed]) :: chunks room file by
    exact hfrom [] (by simpa using hfits)
  clear hfits
  induction line with
  | nil =>
      intro read _
      rw [List.nil_append, chunksFrom, if_pos (.inl rfl), List.append_nil]
      rfl
  | cons b line ih =>
      intro read hread
      rw [List.length_cons] at hread
      obtain ⟨hb, hline⟩ := not_or.mp (mt List.mem_cons.mpr hline)
      have hmore : ¬ (b = lineFeed ∨ read.length + 1 = room) := by
        rintro (h | h)
        · exact hb h.symm
        · omega
      rw [List.cons_append, chunksFrom, if_neg hmore, ih hline _ (by simp; omega)]
      simp

end Chunks

end Lib
