import AutoMlos.IpcPubsub
import AutoMlos.Lib.Run
import Mathlib.Algebra.Ring.Nat

/-!
# AutoMlos.IpcBatch

Batches of messages (`lib/libipc/ipc_batch.c`).

A batch is a record with the address of its storage, and the storage is in a
memory of bytes.  A `size_t` has `w` bits, for any `w`.  What `malloc` answers
is an argument, and a message is what the bytes from its pointer on are.
-/

namespace AutoMlos

open Lib

/-! ## sizes -/

/-- `SIZE_MAX`. -/
def sizeMax (w : Nat) : Nat := 2 ^ w - 1

/-- The product of a `size_t` and a `uint32_t`, which wraps at the wider of the
two. -/
def mixedMul (w a b : Nat) : Nat := a * b % 2 ^ max w 32

/-- A product up to `SIZE_MAX` does not wrap. -/
theorem mixedMul_of_le {w a b : Nat} (h : a * b ≤ sizeMax w) : mixedMul w a b = a * b := by
  have hpos := Nat.two_pow_pos w
  have hlt : a * b < 2 ^ w := by
    unfold sizeMax at h
    omega
  have hwider : 2 ^ w ≤ 2 ^ max w 32 := Nat.pow_le_pow_right (by decide) (Nat.le_max_left w 32)
  exact Nat.mod_eq_of_lt (Nat.lt_of_lt_of_le hlt hwider)

theorem mod_of_le_sizeMax {w n : Nat} (h : n ≤ sizeMax w) : n % 2 ^ w = n := by
  have hpos := Nat.two_pow_pos w
  refine Nat.mod_eq_of_lt ?_
  unfold sizeMax at h
  omega

/-! ## batches -/

/-- `ipc_batch_t`; `messages` is an address. -/
structure IpcBatch where
  messages : Nat
  messageSize : Nat
  messageCount : UInt32
  maxMessages : UInt32
  errorCount : UInt32
  deriving DecidableEq, Repr

/-- The `total_size` that `ipc_create_batch` asks `malloc` for. -/
def batchStorageSize (w messageSize : Nat) (maxMessages : UInt32) : Nat :=
  mixedMul w messageSize maxMessages.toNat % 2 ^ w

/-- `ipc_create_batch`; `allocated` says whether `malloc` has room for the
record, and `malloc` where it puts a storage of some size. -/
def ipcCreateBatch (w messageSize : Nat) (maxMessages : UInt32) (allocated : Bool)
    (malloc : Nat → Option Nat) : Option IpcBatch :=
  if messageSize = 0 then none
  else if maxMessages = 0 then none
  else if messageSize > sizeMax w / maxMessages.toNat then none
  else if allocated = false then none
  else
    match malloc (batchStorageSize w messageSize maxMessages) with
    | none => none
    | some messages =>
        some { messages, messageSize, messageCount := 0, maxMessages, errorCount := 0 }

/-- A batch, and the memory that its storage is in. -/
structure BatchState where
  batch : IpcBatch
  mem : Nat → UInt8

/-- `ipc_batch_add_message`. -/
def ipcBatchAddMessage (w : Nat) (message : Option (Nat → UInt8)) (s : BatchState) :
    Int × BatchState :=
  match message with
  | none => (-1, { s with batch := { s.batch with errorCount := s.batch.errorCount + 1 } })
  | some message =>
      if s.batch.messageCount ≥ s.batch.maxMessages then
        (-1, { s with batch := { s.batch with errorCount := s.batch.errorCount + 1 } })
      else
        let dest := s.batch.messages + mixedMul w s.batch.messageCount.toNat s.batch.messageSize
        (0,
          { batch := { s.batch with messageCount := s.batch.messageCount + 1 }
            mem := storeBytes s.mem dest (loadBytes message 0 s.batch.messageSize) })

/-- `ipc_batch_clear`. -/
def ipcBatchClear (s : BatchState) : Int × BatchState :=
  (0, { s with batch := { s.batch with messageCount := 0 } })

/-- `ipc_send_batch`: its result, what it publishes, and the publisher. -/
def ipcSendBatch (w : Nat) (publisher : Option IpcPublisher) (s : BatchState) :
    (Int × List Publication) × Option IpcPublisher :=
  match publisher with
  | none => ((-1, []), none)
  | some publisher =>
      if s.batch.messageCount = 0 then ((0, []), some publisher)
      else
        let totalSize := mixedMul w s.batch.messageCount.toNat s.batch.messageSize % 2 ^ w
        ipcPublish (some publisher) (some fun i => s.mem (s.batch.messages + i)) totalSize

/-! ## runs -/

/-- A call that changes a batch. -/
inductive BatchCall where
  | add (message : Option (Nat → UInt8))
  | clear

/-- One call. -/
def BatchState.step (w : Nat) (s : BatchState) : BatchCall → Int × BatchState
  | .add message => ipcBatchAddMessage w message s
  | .clear => ipcBatchClear s

/-- What a batch that is created starts with. -/
theorem ipcCreateBatch_eq_some {w messageSize : Nat} {maxMessages : UInt32} {allocated : Bool}
    {malloc : Nat → Option Nat} {batch : IpcBatch}
    (h : ipcCreateBatch w messageSize maxMessages allocated malloc = some batch) :
    0 < messageSize ∧ messageSize * maxMessages.toNat ≤ sizeMax w ∧
      malloc (messageSize * maxMessages.toNat) = some batch.messages ∧
      batch = ⟨batch.messages, messageSize, 0, maxMessages, 0⟩ := by
  simp only [ipcCreateBatch] at h
  split_ifs at h with hsize hmax hguard hroom
  have hpos : 0 < maxMessages.toNat := UInt32.lt_iff_toNat_lt.mp (UInt32.pos_iff_ne_zero.mpr hmax)
  have hle : messageSize * maxMessages.toNat ≤ sizeMax w :=
    (Nat.le_div_iff_mul_le hpos).mp (Nat.le_of_not_lt hguard)
  have htotal : batchStorageSize w messageSize maxMessages = messageSize * maxMessages.toNat := by
    rw [batchStorageSize, mixedMul_of_le hle, mod_of_le_sizeMax hle]
  rw [htotal] at h
  cases hmalloc : malloc (messageSize * maxMessages.toNat) with
  | none => simp [hmalloc] at h
  | some messages =>
      simp only [hmalloc, Option.some.injEq] at h
      subst h
      exact ⟨Nat.pos_of_ne_zero hsize, hle, rfl, rfl⟩

end AutoMlos
