import Mathlib.Data.List.Basic

/-!
# AutoMlos.Lib.Fields

Lists made of fields with a separator between them.

`Fields sep n s` says that `s` is a sequence of `n + 1` non-empty fields,
without separators of their own, joined by `n` separators.  A scanner does
not look for the fields: it counts the separators, looks at the two ends, and
looks for two separators in a row (`Scanned`).  The two agree
(`fields_iff_scanned`).
-/

namespace Lib

variable {α : Type} {sep : α}

/-- A non-empty piece without separators. -/
def IsField (sep : α) (s : List α) : Prop := s ≠ [] ∧ sep ∉ s

/-- One field more than separators. -/
def Fields (sep : α) : Nat → List α → Prop
  | 0, s => IsField sep s
  | n + 1, s => ∃ a rest, IsField sep a ∧ Fields sep n rest ∧ s = a ++ sep :: rest

/-! ## the first field -/

theorem head?_append_cons_eq_iff {a : List α} (ha : sep ∉ a) (rest : List α) :
    (a ++ sep :: rest).head? = some sep ↔ a = [] := by
  cases a with
  | nil => simp
  | cons x a =>
      have hx : x ≠ sep := fun heq => ha (heq ▸ List.mem_cons_self)
      simp [hx]

theorem getLast?_append_cons_eq_iff (a rest : List α) :
    (a ++ sep :: rest).getLast? = some sep ↔ rest = [] ∨ rest.getLast? = some sep := by
  cases rest with
  | nil => simp
  | cons x rest => simp [List.getLast?_append, List.getLast?_cons_cons]

/-- Two separators in a row begin at the first separator, or lie after it. -/
theorem infix_append_cons_iff {a : List α} (ha : sep ∉ a) (rest : List α) :
    [sep, sep] <:+: a ++ sep :: rest ↔ rest.head? = some sep ∨ [sep, sep] <:+: rest := by
  induction a with
  | nil =>
      have hfirst : [sep] <+: rest ↔ rest.head? = some sep := by
        cases rest <;> simp [List.cons_prefix_cons, eq_comm]
      rw [List.nil_append, List.infix_cons_iff, List.cons_prefix_cons, and_iff_right rfl, hfirst]
  | cons x a ih =>
      obtain ⟨hx, ha⟩ := not_or.mp (mt List.mem_cons.mpr ha)
      rw [List.cons_append, List.infix_cons_iff, List.cons_prefix_cons, ih ha, or_iff_right]
      exact fun h => hx h.1

/-! ## the equivalence -/

variable [DecidableEq α]

/-- What precedes the first separator is read off the list. -/
theorem takeWhile_ne_eq_iff {a : List α} (ha : sep ∉ a) (s : List α) :
    (sep ∈ s ∧ s.takeWhile (· ≠ sep) = a) ↔ a ++ [sep] <+: s := by
  constructor
  · rintro ⟨hmem, rfl⟩
    obtain ⟨first, rest, rfl, hfirst⟩ := List.eq_append_cons_of_mem hmem
    have hall : ∀ x ∈ first, decide (x ≠ sep) = true := fun x hx =>
      decide_eq_true fun heq => hfirst (heq ▸ hx)
    rw [List.takeWhile_append_of_pos hall, List.takeWhile_cons_of_neg (by simp), List.append_nil]
    exact ⟨rest, List.append_assoc _ _ _⟩
  · rintro ⟨rest, rfl⟩
    have hall : ∀ x ∈ a, decide (x ≠ sep) = true := fun x hx =>
      decide_eq_true fun heq => ha (heq ▸ hx)
    refine ⟨by simp, ?_⟩
    rw [List.append_assoc, List.takeWhile_append_of_pos hall, List.singleton_append,
      List.takeWhile_cons_of_neg (by simp), List.append_nil]

/-- What a scanner can see of this. -/
structure Scanned (sep : α) (n : Nat) (s : List α) : Prop where
  ne_nil : s ≠ []
  count : s.count sep = n
  first : s.head? ≠ some sep
  last : s.getLast? ≠ some sep
  apart : ¬ [sep, sep] <:+: s

/-- A list with separators starts with what precedes the first one. -/
theorem exists_eq_append_cons_of_count {s : List α} {n : Nat} (h : s.count sep = n + 1) :
    ∃ a rest, s = a ++ sep :: rest ∧ sep ∉ a ∧ rest.count sep = n := by
  have hmem : sep ∈ s := List.count_pos_iff.mp (by omega)
  obtain ⟨a, rest, rfl, ha⟩ := List.eq_append_cons_of_mem hmem
  refine ⟨a, rest, rfl, ha, ?_⟩
  rw [List.count_append, List.count_eq_zero.mpr ha, List.count_cons_self] at h
  omega

theorem IsField.scanned {s : List α} (h : IsField sep s) : Scanned sep 0 s where
  ne_nil := h.1
  count := List.count_eq_zero.mpr h.2
  first := fun hfirst => h.2 (List.mem_of_mem_head? hfirst)
  last := fun hlast => h.2 (List.mem_of_mem_getLast? hlast)
  apart := fun hadjacent => h.2 (hadjacent.subset List.mem_cons_self)

/-- Scanning past the first separator. -/
theorem scanned_append_cons_iff {a : List α} (ha : sep ∉ a) (n : Nat) (rest : List α) :
    Scanned sep (n + 1) (a ++ sep :: rest) ↔ a ≠ [] ∧ Scanned sep n rest := by
  have hcount : (a ++ sep :: rest).count sep = rest.count sep + 1 := by
    rw [List.count_append, List.count_eq_zero.mpr ha, List.count_cons_self, Nat.zero_add]
  constructor
  · rintro ⟨-, hn, hfirst, hlast, hapart⟩
    rw [hcount] at hn
    rw [ne_eq, head?_append_cons_eq_iff ha] at hfirst
    rw [ne_eq, getLast?_append_cons_eq_iff, not_or] at hlast
    rw [infix_append_cons_iff ha, not_or] at hapart
    exact ⟨hfirst, hlast.1, Nat.succ.inj hn, hapart.1, hlast.2, hapart.2⟩
  · rintro ⟨hne, hrest, hn, hfirst, hlast, hapart⟩
    refine ⟨by simp, by rw [hcount, hn], ?_, ?_, ?_⟩
    · rwa [ne_eq, head?_append_cons_eq_iff ha]
    · rw [ne_eq, getLast?_append_cons_eq_iff, not_or]
      exact ⟨hrest, hlast⟩
    · rw [infix_append_cons_iff ha, not_or]
      exact ⟨hfirst, hapart⟩

/-- **What the scanner accepts is a sequence of fields.** -/
theorem fields_iff_scanned (n : Nat) (s : List α) : Fields sep n s ↔ Scanned sep n s := by
  induction n generalizing s with
  | zero =>
      constructor
      · exact IsField.scanned
      · exact fun h => ⟨h.ne_nil, List.count_eq_zero.mp h.count⟩
  | succ n ih =>
      constructor
      · rintro ⟨a, rest, ha, hrest, rfl⟩
        exact (scanned_append_cons_iff ha.2 n rest).mpr ⟨ha.1, (ih rest).mp hrest⟩
      · intro h
        obtain ⟨a, rest, rfl, ha, -⟩ := exists_eq_append_cons_of_count h.count
        obtain ⟨hne, hrest⟩ := (scanned_append_cons_iff ha n rest).mp h
        exact ⟨a, rest, ⟨hne, ha⟩, (ih rest).mpr hrest, rfl⟩

end Lib
