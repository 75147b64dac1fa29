import AutoMlos.Lib.Bytes
import AutoMlos.Lib.Memory
import Mathlib.Data.List.Pairwise

/-!
# AutoMlos.Lib.Layout

Where the scalars of a C object lie in memory.

An object is a scalar or a structure; an array is a structure of equal
elements.  `scalars` lists the scalars of an object with their names and the
regions they occupy, in the order of declaration: each is aligned, and begins
after the one before it (`pairwise_scalars`).  So the places of two scalars are
disjoint (`place_disjoint`), and a store to one leaves the number in the other
(`loadNat_storeNat_of_disjoint`), whatever the order of bytes.
-/

namespace Lib

variable {ι : Type}

/-! ## alignment -/

/-- The next multiple of `a` from `n` on; `n` itself when `a` is 0. -/
def alignUp (n a : Nat) : Nat := n + (a - n % a) % a

theorem le_alignUp (n a : Nat) : n ≤ alignUp n a := Nat.le_add_right n _

/-! ## objects -/

/-- The type of a C object, with a name for each of its scalars. -/
inductive CType (ι : Type) where
  | scalar (name : ι) (size : Nat)
  | struct (members : List (CType ι))

namespace CType

/-- An array of `n` elements. -/
def array (n : Nat) (element : Fin n → CType ι) : CType ι := .struct (List.ofFn element)

mutual
/-- The alignment of an object: scalars are aligned to their size. -/
def align : CType ι → Nat
  | .scalar _ size => size
  | .struct members => alignMembers members

/-- The alignment of a structure is the largest one of its members. -/
def alignMembers : List (CType ι) → Nat
  | [] => 1
  | t :: members => max t.align (alignMembers members)
end

mutual
/-- The size of an object, with the padding at its end. -/
def size : CType ι → Nat
  | .scalar _ size => size
  | .struct members => alignUp (endOffset members 0) (alignMembers members)

/-- Where the members of a structure end that are placed from an offset on. -/
def endOffset : List (CType ι) → Nat → Nat
  | [], offset => offset
  | t :: members, offset => endOffset members (alignUp offset t.align + t.size)
end

mutual
/-- The scalars of an object at an address. -/
def scalars : CType ι → Nat → List (ι × Region)
  | .scalar name size, base => [(name, ⟨base, size⟩)]
  | .struct members, base => scalarsFrom members base 0

/-- The scalars of the members of a structure, from an offset on. -/
def scalarsFrom : List (CType ι) → Nat → Nat → List (ι × Region)
  | [], _, _ => []
  | t :: members, base, offset =>
      t.scalars (base + alignUp offset t.align) ++
        scalarsFrom members base (alignUp offset t.align + t.size)
end

theorem le_endOffset (members : List (CType ι)) (offset : Nat) :
    offset ≤ endOffset members offset := by
  induction members generalizing offset with
  | nil => exact Nat.le_refl offset
  | cons t members ih =>
      have halign := le_alignUp offset t.align
      have hrest := ih (alignUp offset t.align + t.size)
      rw [endOffset]
      omega

/-! ## bounds -/

/-- A region lies between two addresses. -/
def Within (lo hi : Nat) (r : Region) : Prop := lo ≤ r.base ∧ r.base + r.size ≤ hi

mutual
/-- The scalars of an object lie in it. -/
theorem within_of_mem_scalars : ∀ (t : CType ι) (base : Nat), ∀ x ∈ t.scalars base,
    Within base (base + t.size) x.2
  | .scalar name size, base, x, hx => by
      rw [scalars, List.mem_singleton] at hx
      rw [hx, CType.size]
      exact ⟨Nat.le_refl _, Nat.le_refl _⟩
  | .struct members, base, x, hx => by
      rw [scalars] at hx
      obtain ⟨hlo, hhi⟩ := within_of_mem_scalarsFrom members base 0 x hx
      have hpad := le_alignUp (endOffset members 0) (alignMembers members)
      rw [CType.size]
      exact ⟨hlo, by omega⟩

/-- The scalars of members lie where the members do. -/
theorem within_of_mem_scalarsFrom : ∀ (members : List (CType ι)) (base offset : Nat),
    ∀ x ∈ scalarsFrom members base offset,
      Within (base + offset) (base + endOffset members offset) x.2
  | [], base, offset, x, hx => by
      rw [scalarsFrom] at hx
      contradiction
  | t :: members, base, offset, x, hx => by
      have halign := le_alignUp offset t.align
      have hend := le_endOffset members (alignUp offset t.align + t.size)
      rw [endOffset]
      rw [scalarsFrom, List.mem_append] at hx
      rcases hx with hhead | hrest
      · obtain ⟨hlo, hhi⟩ := within_of_mem_scalars t _ x hhead
        constructor <;> omega
      · obtain ⟨hlo, hhi⟩ := within_of_mem_scalarsFrom members base _ x hrest
        constructor <;> omega
end

/-! ## order -/

/-- One scalar ends before another begins. -/
def Before (x y : ι × Region) : Prop := x.2.base + x.2.size ≤ y.2.base

mutual
/-- **The scalars of an object** follow each other. -/
theorem pairwise_scalars : ∀ (t : CType ι) (base : Nat), (t.scalars base).Pairwise Before
  | .scalar name size, base => by
      rw [scalars]
      exact List.pairwise_singleton Before _
  | .struct members, base => by
      rw [scalars]
      exact pairwise_scalarsFrom members base 0

/-- The scalars of the members of a structure do. -/
theorem pairwise_scalarsFrom : ∀ (members : List (CType ι)) (base offset : Nat),
    (scalarsFrom members base offset).Pairwise Before
  | [], base, offset => by
      rw [scalarsFrom]
      exact List.Pairwise.nil
  | t :: members, base, offset => by
      rw [scalarsFrom, List.pairwise_append]
      refine ⟨pairwise_scalars t _, pairwise_scalarsFrom members base _, fun x hx y hy => ?_⟩
      obtain ⟨-, hhi⟩ := within_of_mem_scalars t _ x hx
      obtain ⟨hlo, -⟩ := within_of_mem_scalarsFrom members base _ y hy
      rw [Before]
      omega
end

/-- The scalars of two entries are disjoint. -/
def Apart (x y : ι × Region) : Prop := x.2.Disjoint y.2

instance : Std.Symm (@Apart ι) := ⟨fun _ _ h => Region.Disjoint.symm h⟩

/-- Two scalars of an object are disjoint. -/
theorem disjoint_of_mem_scalars {t : CType ι} {base : Nat} {x y : ι × Region}
    (hx : x ∈ t.scalars base) (hy : y ∈ t.scalars base) (hne : x ≠ y) : x.2.Disjoint y.2 := by
  have hpairwise : (t.scalars base).Pairwise Apart := (pairwise_scalars t base).imp Or.inl
  exact hpairwise.forall hx hy hne

/-! ## the place of a name -/

variable [DecidableEq ι]

/-- The region of a scalar; an empty one at the start for a name that the
object does not have. -/
def place (t : CType ι) (base : Nat) (name : ι) : Region :=
  ((t.scalars base).lookup name).getD ⟨base, 0⟩

theorem place_cases (t : CType ι) (base : Nat) (name : ι) :
    (name, t.place base name) ∈ t.scalars base ∨ t.place base name = ⟨base, 0⟩ := by
  rw [place]
  cases h : (t.scalars base).lookup name with
  | none => exact Or.inr rfl
  | some r =>
      obtain ⟨before, after, hsplit, -⟩ := List.lookup_eq_some_iff.mp h
      rw [hsplit]
      exact Or.inl (List.mem_append_right before List.mem_cons_self)

/-- Scalars of different names are disjoint. -/
theorem place_disjoint {t : CType ι} {base : Nat} {a b : ι} (hne : a ≠ b) :
    (t.place base a).Disjoint (t.place base b) := by
  rcases place_cases t base a with ha | ha <;> rcases place_cases t base b with hb | hb
  · exact disjoint_of_mem_scalars ha hb fun h => hne (congrArg Prod.fst h)
  · rw [hb]
    exact Or.inr (within_of_mem_scalars t base _ ha).1
  · rw [ha]
    exact Or.inl (within_of_mem_scalars t base _ hb).1
  · rw [ha, hb]
    exact Or.inl (Nat.le_refl base)

end CType

/-! ## values -/

/-- The order in which the bytes of a number lie in memory. -/
inductive ByteOrder where
  | little
  | big
  deriving DecidableEq, Repr

namespace ByteOrder

/-- The `k` bytes of a number. -/
def encode : ByteOrder → Nat → Nat → List UInt8
  | .little, k, n => leBytes k n
  | .big, k, n => (leBytes k n).reverse

/-- The number that bytes hold. -/
def decode : ByteOrder → List UInt8 → Nat
  | .little, bs => leNat bs
  | .big, bs => leNat bs.reverse

@[simp] theorem length_encode (o : ByteOrder) (k n : Nat) : (o.encode k n).length = k := by
  cases o <;> simp [encode]

/-- A number that fits its bytes is read back. -/
theorem decode_encode (o : ByteOrder) {k n : Nat} (h : n < 256 ^ k) :
    o.decode (o.encode k n) = n := by
  cases o with
  | little => exact leNat_leBytes_of_lt h
  | big =>
      rw [encode, decode, List.reverse_reverse]
      exact leNat_leBytes_of_lt h

end ByteOrder

section Values

variable {mem : Nat → UInt8} {n : Nat}

/-- The number in a region. -/
def loadNat (o : ByteOrder) (mem : Nat → UInt8) (r : Region) : Nat :=
  o.decode (loadBytes mem r.base r.size)

/-- Write a number to a region. -/
def storeNat (o : ByteOrder) (mem : Nat → UInt8) (r : Region) (n : Nat) : Nat → UInt8 :=
  storeBytes mem r.base (o.encode r.size n)

/-- The number that was stored is loaded. -/
theorem loadNat_storeNat_self (o : ByteOrder) {r : Region} (h : n < 256 ^ r.size) :
    loadNat o (storeNat o mem r n) r = n := by
  have hback := @loadBytes_storeBytes_self mem r.base (o.encode r.size n)
  rw [ByteOrder.length_encode] at hback
  rw [loadNat, storeNat, hback, ByteOrder.decode_encode o h]

/-- A store leaves the number in every disjoint region. -/
theorem loadNat_storeNat_of_disjoint (o : ByteOrder) {r s : Region} (h : s.Disjoint r) :
    loadNat o (storeNat o mem r n) s = loadNat o mem s := by
  rw [loadNat, loadNat, storeNat, loadBytes_storeBytes_of_disjoint]
  rwa [ByteOrder.length_encode]

end Values

end Lib
