import Mathlib.Algebra.BigOperators.Group.List.Basic
import Mathlib.Algebra.Ring.Nat
import Mathlib.Data.Nat.ModEq

/-!
# AutoMlos.Lib.Bytes

Bytes of fixed-width integers, and additive checksums over bytes.

`leBytes k n` are the `k` little-endian bytes of `n` and `leNat` reads them
back; both directions of the round trip are proved, so a packed record can
be moved between its fields and its bytes.

`byteSum` is the sum of the bytes as a natural number.  A checksum loop in a
`w`-bit accumulator computes it modulo `2 ^ w` (`toNat_sum16`,
`toNat_sum32`); everything about checksums is then arithmetic on `byteSum`.
-/

namespace Lib

/-! ## little-endian bytes -/

/-- The `k` low little-endian bytes of a number. -/
def leBytes : Nat → Nat → List UInt8
  | 0, _ => []
  | k + 1, n => UInt8.ofNat n :: leBytes k (n / 256)

/-- The number whose little-endian bytes are given. -/
def leNat : List UInt8 → Nat
  | [] => 0
  | b :: bs => b.toNat + 256 * leNat bs

@[simp] theorem length_leBytes (k n : Nat) : (leBytes k n).length = k := by
  induction k generalizing n with
  | zero => rfl
  | succ k ih => simp [leBytes, ih]

/-- Reading back `k` bytes gives the number modulo `256 ^ k`. -/
theorem leNat_leBytes (k n : Nat) : leNat (leBytes k n) = n % 256 ^ k := by
  induction k generalizing n with
  | zero => simp [leBytes, leNat, Nat.mod_one]
  | succ k ih =>
      have hdigit : (UInt8.ofNat n).toNat = n % 256 := by simp
      rw [leBytes, leNat, hdigit, ih, Nat.pow_succ, Nat.mul_comm (256 ^ k) 256, Nat.mod_mul]

/-- A number that fits its width is read back exactly. -/
theorem leNat_leBytes_of_lt (h : n < 256 ^ k) : leNat (leBytes k n) = n := by
  rw [leNat_leBytes, Nat.mod_eq_of_lt h]

/-- Writing the number that was read gives the bytes back. -/
theorem leBytes_leNat (bs : List UInt8) : leBytes bs.length (leNat bs) = bs := by
  induction bs with
  | nil => rfl
  | cons b bs ih =>
      have hb : b.toNat < 256 := b.toNat_lt
      have hlow : UInt8.ofNat (b.toNat + 256 * leNat bs) = b := by
        apply UInt8.toNat_inj.mp
        rw [UInt8.toNat_ofNat']
        omega
      have hhigh : (b.toNat + 256 * leNat bs) / 256 = leNat bs := by omega
      rw [List.length_cons, leNat, leBytes, hlow, hhigh, ih]

/-- `k` bytes hold a number below `256 ^ k`. -/
theorem leNat_lt (bs : List UInt8) : leNat bs < 256 ^ bs.length := by
  induction bs with
  | nil => simp [leNat]
  | cons b bs ih =>
      have hb : b.toNat < 256 := b.toNat_lt
      rw [leNat, List.length_cons, Nat.pow_succ]
      omega

/-- A field read from bytes is written back as the same bytes. -/
theorem leBytes_leNat_take (bs : List UInt8) (h : k ≤ bs.length) :
    leBytes k (leNat (bs.take k)) = bs.take k := by
  have hlen : (bs.take k).length = k := List.length_take_of_le h
  have hback := leBytes_leNat (bs.take k)
  rwa [hlen] at hback

/-- One byte as a field of width 1. -/
theorem getD_eq_take_drop (bs : List UInt8) (h : i < bs.length) :
    [bs.getD i 0] = (bs.drop i).take 1 := by
  rw [List.drop_eq_getElem_cons h, List.getD_eq_getElem?_getD, List.getElem?_eq_getElem h]
  rfl

theorem leNat_take_lt (k : Nat) (bs : List UInt8) : leNat (bs.take k) < 256 ^ k :=
  Nat.lt_of_lt_of_le (leNat_lt _)
    (Nat.pow_le_pow_right (by decide) (List.length_take_le k bs))

/-- A 16-bit field keeps the number two bytes hold. -/
theorem toNat_ofNat_leNat_take_two (bs : List UInt8) :
    (UInt16.ofNat (leNat (bs.take 2))).toNat = leNat (bs.take 2) := by
  rw [UInt16.toNat_ofNat']
  exact Nat.mod_eq_of_lt (leNat_take_lt 2 bs)

/-- A 32-bit field keeps the number four bytes hold. -/
theorem toNat_ofNat_leNat_take_four (bs : List UInt8) :
    (UInt32.ofNat (leNat (bs.take 4))).toNat = leNat (bs.take 4) := by
  rw [UInt32.toNat_ofNat']
  exact Nat.mod_eq_of_lt (leNat_take_lt 4 bs)

/-! ## byte sums -/

/-- The sum of the bytes, as a natural number. -/
def byteSum (bs : List UInt8) : Nat := (bs.map UInt8.toNat).sum

@[simp] theorem byteSum_nil : byteSum [] = 0 := rfl

@[simp] theorem byteSum_cons (b : UInt8) (bs : List UInt8) :
    byteSum (b :: bs) = b.toNat + byteSum bs := by
  simp [byteSum]

@[simp] theorem byteSum_append (xs ys : List UInt8) :
    byteSum (xs ++ ys) = byteSum xs + byteSum ys := by
  simp [byteSum]

theorem byteSum_flatMap (f : α → List UInt8) (l : List α) :
    byteSum (l.flatMap f) = (l.map fun a => byteSum (f a)).sum := by
  induction l with
  | nil => rfl
  | cons a l ih => simp [ih]

/-- Bytes are at most 255, so a sum of bytes is bounded by their number. -/
theorem byteSum_le (bs : List UInt8) : byteSum bs ≤ 255 * bs.length := by
  induction bs with
  | nil => simp
  | cons b bs ih =>
      have hb : b.toNat < 256 := b.toNat_lt
      rw [byteSum_cons, List.length_cons]
      omega

/-- What a byte that is replaced takes from the sum and gives to it. -/
theorem byteSum_set {bs : List UInt8} {i : Nat} (h : i < bs.length) (v : UInt8) :
    byteSum (bs.set i v) + bs[i].toNat = byteSum bs + v.toNat := by
  induction bs generalizing i with
  | nil => contradiction
  | cons b bs ih =>
      cases i with
      | zero =>
          simp only [List.set_cons_zero, byteSum_cons, List.getElem_cons_zero]
          omega
      | succ i =>
          have hrest := ih (Nat.lt_of_succ_lt_succ h)
          simp only [List.set_cons_succ, byteSum_cons, List.getElem_cons_succ]
          omega

/-- Lists of bytes of one length that hold the same number are the same. -/
theorem leNat_inj {xs ys : List UInt8} (hlen : xs.length = ys.length) (h : leNat xs = leNat ys) :
    xs = ys := by
  rw [← leBytes_leNat xs, ← leBytes_leNat ys, hlen, h]

/-- **A stored byte sum gives a replaced byte away**, wherever the byte lies:
with the sum of `xs` stored in `ys`, as far as it fits there, the two do not
match after one byte of either has become another. -/
theorem leNat_ne_byteSum_of_set {xs ys xs' ys' : List UInt8} {i : Nat} {v : UInt8}
    (hstored : leNat ys = byteSum xs % 256 ^ ys.length) (hpos : 0 < ys.length)
    (hi : i < xs.length + ys.length) (hne : (xs ++ ys)[i]? ≠ some v)
    (hset : xs' ++ ys' = (xs ++ ys).set i v) (hlen : xs'.length = xs.length) :
    leNat ys' ≠ byteSum xs' := by
  intro hmatch
  by_cases hcovered : i < xs.length
  · -- a byte that is summed: the stored sum is the same and the sum is not
    rw [List.set_append_left _ _ hcovered] at hset
    obtain ⟨rfl, rfl⟩ := List.append_inj hset (by rw [hlen, List.length_set])
    have hmod : byteSum (xs.set i v) ≡ byteSum xs [MOD 256 ^ ys'.length] := by
      rw [← hmatch, hstored]
      exact Nat.mod_modEq _ _
    have hbyte : xs[i].toNat ≡ v.toNat [MOD 256 ^ ys'.length] :=
      hmod.add_left_cancel (congrArg (· % _) (byteSum_set hcovered v))
    have hle : 256 ≤ 256 ^ ys'.length := Nat.le_self_pow (Nat.ne_of_gt hpos) 256
    have hsame : xs[i].toNat = v.toNat :=
      hbyte.eq_of_lt_of_lt (Nat.lt_of_lt_of_le xs[i].toNat_lt hle)
        (Nat.lt_of_lt_of_le v.toNat_lt hle)
    apply hne
    rw [List.getElem?_append_left hcovered, List.getElem?_eq_getElem hcovered]
    exact congrArg some (UInt8.toNat_inj.mp hsame)
  · -- a byte of the stored sum: it is another number, and the sum is the same
    have hle : xs.length ≤ i := Nat.le_of_not_lt hcovered
    rw [List.set_append_right _ _ hle] at hset
    obtain ⟨rfl, rfl⟩ := List.append_inj hset hlen
    have hlt : byteSum xs' < 256 ^ ys.length := by
      have hstored' := leNat_lt (ys.set (i - xs'.length) v)
      rwa [List.length_set, hmatch] at hstored'
    rw [Nat.mod_eq_of_lt hlt, ← hmatch] at hstored
    have hsame := leNat_inj (by rw [List.length_set]) hstored
    apply hne
    rw [List.getElem?_append_right hle, hsame, List.getElem?_set_self (by omega)]

/-- The two bytes of a 16-bit counter that is below 256 sum to the counter. -/
theorem byteSum_leBytes_two_of_lt (h : n < 256) : byteSum (leBytes 2 n) = n := by
  have hhigh : n / 256 = 0 := Nat.div_eq_of_lt h
  simp only [leBytes, hhigh, byteSum_cons, byteSum_nil, UInt8.toNat_ofNat']
  omega

/-! ## checksum loops -/

/-- A checksum loop with a 16-bit accumulator. -/
def sum16 (bs : List UInt8) : UInt16 := bs.foldl (fun checksum b => checksum + b.toUInt16) 0

/-- A checksum loop with a 32-bit accumulator. -/
def sum32 (bs : List UInt8) : UInt32 := bs.foldl (fun checksum b => checksum + b.toUInt32) 0

private theorem toNat_foldl_sum16 (bs : List UInt8) (c : UInt16) :
    (bs.foldl (fun checksum b => checksum + b.toUInt16) c).toNat =
      (c.toNat + byteSum bs) % 2 ^ 16 := by
  induction bs generalizing c with
  | nil => simp
  | cons b bs ih =>
      have hadd : (c + b.toUInt16).toNat = (c.toNat + b.toNat) % 2 ^ 16 := by
        simp [UInt16.toNat_add]
      rw [List.foldl_cons, ih, hadd, byteSum_cons, Nat.mod_add_mod, Nat.add_assoc]

private theorem toNat_foldl_sum32 (bs : List UInt8) (c : UInt32) :
    (bs.foldl (fun checksum b => checksum + b.toUInt32) c).toNat =
      (c.toNat + byteSum bs) % 2 ^ 32 := by
  induction bs generalizing c with
  | nil => simp
  | cons b bs ih =>
      have hadd : (c + b.toUInt32).toNat = (c.toNat + b.toNat) % 2 ^ 32 := by
        simp [UInt32.toNat_add]
      rw [List.foldl_cons, ih, hadd, byteSum_cons, Nat.mod_add_mod, Nat.add_assoc]

/-- A 16-bit checksum is the byte sum modulo `2 ^ 16`. -/
theorem toNat_sum16 (bs : List UInt8) : (sum16 bs).toNat = byteSum bs % 2 ^ 16 := by
  rw [sum16, toNat_foldl_sum16, UInt16.toNat_zero, Nat.zero_add]

/-- A 32-bit checksum is the byte sum modulo `2 ^ 32`. -/
theorem toNat_sum32 (bs : List UInt8) : (sum32 bs).toNat = byteSum bs % 2 ^ 32 := by
  rw [sum32, toNat_foldl_sum32, UInt32.toNat_zero, Nat.zero_add]

/-- A 32-bit accumulator truncated to 16 bits is the 16-bit accumulator. -/
theorem toUInt16_sum32 (bs : List UInt8) : (sum32 bs).toUInt16 = sum16 bs := by
  apply UInt16.toNat_inj.mp
  rw [UInt32.toNat_toUInt16, toNat_sum32, toNat_sum16]
  omega

end Lib
