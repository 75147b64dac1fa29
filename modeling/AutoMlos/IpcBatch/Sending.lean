import AutoMlos.IpcBatch.Container

/-!
# AutoMlos.IpcBatch.Sending

Which batches can be sent.

A batch is published as one message, and publishing takes at most
`IPC_MAX_MESSAGE_SIZE` bytes; creation knows no such bound.  A batch is sent
exactly if its messages fit in one.
-/

namespace AutoMlos

open Lib

/-- Publishing a message of a size that is admitted succeeds, with exactly one
publication. -/
theorem ipcPublish_of_admitted (publisher : IpcPublisher) (message : Nat → UInt8) {size : Nat}
    (hpos : 0 < size) (hle : size ≤ ipcMaxMessageSize) :
    (ipcPublish (some publisher) (some message) size).1 =
      (0, [⟨publisher.topic, loadBytes message 0 size⟩]) := by
  have hwrapper : (sysIpcPublish (some publisher.topic) false size).errorCode = errBaseOk := by
    have hadmitted : ¬(size = 0 ∨ size > 4096) := by
      unfold ipcMaxMessageSize at hle
      omega
    simp only [sysIpcPublish, if_neg hadmitted]
    rfl
  simp only [ipcPublish, if_neg (Nat.pos_iff_ne_zero.mp hpos), if_neg (Nat.not_lt.mpr hle)]
  rw [if_neg (not_not.mpr hwrapper)]

/-- Publishing a message that is too large fails, and nothing is published. -/
theorem ipcPublish_of_too_large (publisher : IpcPublisher) (message : Nat → UInt8) {size : Nat}
    (h : ipcMaxMessageSize < size) :
    (ipcPublish (some publisher) (some message) size).1 = (-1, []) := by
  have hne : size ≠ 0 := Nat.ne_of_gt (Nat.zero_lt_of_lt h)
  simp only [ipcPublish, if_neg hne, if_pos h]

theorem loadBytes_view (mem : Nat → UInt8) (a n : Nat) :
    loadBytes (fun i => mem (a + i)) 0 n = loadBytes mem a n := by
  simp only [loadBytes, Nat.zero_add]

section Sending

variable {w messageSize : Nat} {maxMessages : UInt32} {allocated : Bool} {malloc : Nat → Option Nat}
  {batch : IpcBatch}

/-- What a batch keeps along a run. -/
theorem ObservedBatch.keeps_holds_run
    (hcreate : ipcCreateBatch w messageSize maxMessages allocated malloc = some batch)
    (mem : Nat → UInt8) (calls : List BatchCall) :
    let o := (mealy (ObservedBatch.step w) (ObservedBatch.fresh batch mem) calls).2
    o.Keeps batch.messages messageSize maxMessages ∧ o.Holds w messageSize maxMessages := by
  obtain ⟨-, hfits, -, -⟩ := ipcCreateBatch_eq_some hcreate
  have hstep (o : ObservedBatch) (call : BatchCall)
      (h : o.Keeps batch.messages messageSize maxMessages ∧ o.Holds w messageSize maxMessages) :
      (o.step w call).2.Keeps batch.messages messageSize maxMessages ∧
        (o.step w call).2.Holds w messageSize maxMessages := keeps_holds_step hfits h call
  exact mealy_invariant hstep (keeps_holds_fresh hcreate mem) calls

/-- Sending a batch publishes what it holds in one message. -/
theorem ipcSendBatch_of_count {s : BatchState} (publisher : IpcPublisher)
    (hcount : s.batch.messageCount ≠ 0)
    (hsize : s.batch.messageCount.toNat * s.batch.messageSize ≤ sizeMax w) :
    ipcSendBatch w (some publisher) s =
      ipcPublish (some publisher) (some fun i => s.mem (s.batch.messages + i))
        (s.batch.messageCount.toNat * s.batch.messageSize) := by
  simp only [ipcSendBatch, if_neg hcount, mixedMul_of_le hsize, mod_of_le_sizeMax hsize]

/-- After every run on a batch that was created, sending it succeeds exactly if
its messages fit in one.  Then a batch that is not empty is published once, and
otherwise nothing is published. -/
theorem batch_sent_iff
    (hcreate : ipcCreateBatch w messageSize maxMessages allocated malloc = some batch)
    (mem : Nat → UInt8) (calls : List BatchCall) (publisher : IpcPublisher) :
    let o := (mealy (ObservedBatch.step w) (ObservedBatch.fresh batch mem) calls).2
    let size := o.state.batch.messageCount.toNat * messageSize
    let sent := (ipcSendBatch w (some publisher) o.state).1
    (size ≤ ipcMaxMessageSize → sent.1 = 0 ∧
      sent.2 = if o.state.batch.messageCount = 0 then [] else
        [⟨publisher.topic, loadBytes o.state.mem o.state.batch.messages size⟩]) ∧
    (ipcMaxMessageSize < size → sent = (-1, [])) := by
  intro o size sent
  obtain ⟨hkeeps, hholds⟩ := ObservedBatch.keeps_holds_run hcreate mem calls
  obtain ⟨hpos, -, -, -⟩ := ipcCreateBatch_eq_some hcreate
  have hle : o.state.batch.messageCount.toNat * o.state.batch.messageSize ≤ sizeMax w := by
    rw [hkeeps.messageSize]
    exact hholds.size_le
  by_cases hcount : o.state.batch.messageCount = 0
  · have hsize : size = 0 := by
      simp only [size, hcount, UInt32.toNat_zero, Nat.zero_mul]
    have hsent : sent = (0, []) := by
      simp only [sent, ipcSendBatch, if_pos hcount]
    rw [hsent, hsize, if_pos hcount]
    exact ⟨fun _ => ⟨rfl, rfl⟩, fun h => absurd h (by decide)⟩
  · have hsent := ipcSendBatch_of_count publisher hcount hle
    rw [hkeeps.messageSize] at hsent
    have hsize : 0 < size := by
      have hne : o.state.batch.messageCount.toNat ≠ 0 := fun h => hcount (UInt32.toNat_inj.mp h)
      exact Nat.mul_pos (Nat.pos_of_ne_zero hne) hpos
    rw [if_neg hcount]
    constructor
    · intro hfits
      have hpublished := ipcPublish_of_admitted publisher
        (fun i => o.state.mem (o.state.batch.messages + i)) hsize hfits
      rw [← hsent, loadBytes_view] at hpublished
      exact ⟨congrArg Prod.fst hpublished, congrArg Prod.snd hpublished⟩
    · intro hlarge
      have hfailed := ipcPublish_of_too_large publisher
        (fun i => o.state.mem (o.state.batch.messages + i)) hlarge
      rwa [← hsent] at hfailed

end Sending

/-- A publisher that counts its messages. -/
def batchPublisher : IpcPublisher := ⟨.ofAscii "vehicle/batch", 0, 0⟩

theorem batch_sent_two :
    let o := (mealy (ObservedBatch.step 64) (ObservedBatch.fresh ⟨4096, 4, 0, 2, 0⟩ fun _ => 0)
      [.add (some UInt8.ofNat), .add (some UInt8.ofNat)]).2
    let size := o.state.batch.messageCount.toNat * 4
    let sent := (ipcSendBatch 64 (some batchPublisher) o.state).1
    (size ≤ ipcMaxMessageSize → sent.1 = 0 ∧
      sent.2 = if o.state.batch.messageCount = 0 then [] else
        [⟨batchPublisher.topic, loadBytes o.state.mem o.state.batch.messages size⟩]) ∧
    (ipcMaxMessageSize < size → sent = (-1, [])) := by
  have hcreate : ipcCreateBatch 64 4 2 true (fun _ => some 4096) = some ⟨4096, 4, 0, 2, 0⟩ := by
    decide
  exact batch_sent_iff hcreate _ _ _

/-- Two messages of 4096 bytes are accepted, and then they cannot be sent. -/
theorem batch_not_sent :
    ¬ ∀ (messageSize : Nat) (maxMessages : UInt32) (allocated : Bool) (malloc : Nat → Option Nat)
        (batch : IpcBatch),
      ipcCreateBatch 64 messageSize maxMessages allocated malloc = some batch →
      ∀ (mem : Nat → UInt8) (calls : List BatchCall) (publisher : IpcPublisher),
        let o := (mealy (ObservedBatch.step 64) (ObservedBatch.fresh batch mem) calls).2
        let size := o.state.batch.messageCount.toNat * messageSize
        let sent := (ipcSendBatch 64 (some publisher) o.state).1
        sent.1 = 0 ∧ (o.state.batch.messageCount ≠ 0 →
          sent.2 = [⟨publisher.topic, loadBytes o.state.mem o.state.batch.messages size⟩]) := by
  intro h
  have hcreate : ipcCreateBatch 64 4096 2 true (fun _ => some 4096) =
      some ⟨4096, 4096, 0, 2, 0⟩ := by
    decide
  have hsent := (h 4096 2 true _ _ hcreate (fun _ => 0)
    [.add (some UInt8.ofNat), .add (some UInt8.ofNat)] batchPublisher).1
  exact absurd hsent (by decide)

end AutoMlos
