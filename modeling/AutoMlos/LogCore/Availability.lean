import AutoMlos.LogCore.Ring

/-!
# AutoMlos.LogCore.Availability

When the log ring stays available.

The buffer's checksum is a sum of 1288 bytes, computed in 32 bits and stored
in 16.  As long as the sum is below `2 ^ 16` the stored value is the sum and
every call goes through; the first record that brings the sum to `2 ^ 16`
leaves a buffer that fails its own integrity check, and so does every call
after it.  Whether a run survives is therefore a condition on the bytes the
ring holds at each record call (`LogBuffer.StoreFits`); gets never raise the
sum and cannot break a run.
-/

namespace AutoMlos

open Lib

/-- The arguments of the call are in range. -/
def LogCall.InRange : LogCall → Prop
  | .record args _ _ => args.InRange
  | .get _ => True

/-- What a call may answer when the log is available: a record succeeds, a
get succeeds or reports an empty buffer. -/
def LogCall.Served (call : LogCall) (reply : LogReply) : Prop :=
  match call with
  | .record _ _ _ => reply.error.errorCode = errBaseOk
  | .get _ => reply.error.errorCode = errBaseOk ∨ reply.error.errorCode = errBaseBufEmpty

/-- The call is served and the buffer it leaves passes the integrity check. -/
def Available (_ : LogSystem) (call : LogCall) (reply : LogReply) (log' : LogSystem) : Prop :=
  call.Served reply ∧ (logVerifyBufferIntegrity (some log'.buffer)).errorCode = errBaseOk

/-! ## the condition -/

/-- With this entry in the slot at the write index and the counters advanced,
the covered bytes of the buffer still sum to less than `2 ^ 16`. -/
def LogBuffer.StoreFits (b : LogBuffer) (e : LogEntryBinary) : Prop :=
  entriesByteSum (b.entries.toList.set b.writeIndex.toNat e) + (b.writeIndex.toNat + 1) % 64 +
      (if b.entryCount.toNat < 64 then b.readIndex.toNat else (b.readIndex.toNat + 1) % 64) +
      min (b.entryCount.toNat + 1) 64 + 64 < 2 ^ 16

/-- Before a record, the entry it makes fits; gets carry no condition. -/
def CallFits (log : LogSystem) (call : LogCall) (_ : LogReply) (_ : LogSystem) : Prop :=
  match call with
  | .record args pid time => log.buffer.StoreFits (logMakeEntry args pid time)
  | .get _ => True

theorem storeFits_iff {b : LogBuffer} {r : RingBuffer LogEntryBinary 64} (h : b.Represents r)
    (e : LogEntryBinary) : b.StoreFits e ↔ ringByteSum (r.push e) < 2 ^ 16 := by
  have hc := r.count_le
  have hcount : min (r.count + 1) 64 = if r.count < 64 then r.count + 1 else r.count := by
    split <;> omega
  simp only [LogBuffer.StoreFits, ringByteSum, RingBuffer.push, h.slots, h.write, h.read, h.count,
    hcount, Vector.toList_set]

/-! ## one call -/

/-- The invariant of an available run: the log holds some ring. -/
def LogSystem.Healthy (log : LogSystem) : Prop := ∃ r, log.Holds r

/-- **One call**: on a healthy log every call is defined, is available
exactly when its entry fits, and leaves a healthy log if it is. -/
theorem LogSystem.step_available (log : LogSystem) (call : LogCall) (hlog : log.Healthy)
    (hcall : call.InRange) :
    ∃ reply log', log.step call = .ok (reply, log') ∧
      (Available log call reply log' ↔ CallFits log call reply log') ∧
      (Available log call reply log' → log'.Healthy) := by
  obtain ⟨r, h⟩ := hlog
  cases call with
  | record args pid time =>
      obtain ⟨log', hstep, hinit, hrep, hintact⟩ := LogSystem.step_record h hcall pid time
      have havail : Available log (.record args pid time)
          { error := integrityVerdict log'.buffer, entry := none } log' ↔ log'.buffer.Intact := by
        simp only [Available, LogCall.Served, logVerifyBufferIntegrity_eq hrep,
          errorCode_integrityVerdict_iff, and_self]
      refine ⟨_, log', hstep, ?_, fun ha => ⟨_, hinit, hrep, havail.mp ha⟩⟩
      rw [havail, hintact, CallFits, storeFits_iff h.represents]
  | get out =>
      by_cases hzero : r.count = 0
      · refine ⟨_, log, LogSystem.step_get_of_empty h hzero out, ?_, fun _ => ⟨r, h⟩⟩
        refine iff_of_true ⟨Or.inr rfl, ?_⟩ trivial
        rw [logVerifyBufferIntegrity_eq h.represents, integrityVerdict_of_intact h.intact]
        rfl
      · have hpos : 0 < r.count := Nat.pos_of_ne_zero hzero
        obtain ⟨log', hstep, h'⟩ := LogSystem.step_get h hpos out
        refine ⟨_, log', hstep, ?_, fun _ => ⟨_, h'⟩⟩
        refine iff_of_true ⟨Or.inl rfl, ?_⟩ trivial
        rw [logVerifyBufferIntegrity_eq h'.represents, integrityVerdict_of_intact h'.intact]
        rfl

/-! ## whole runs -/

theorem always_available_iff {log : LogSystem} (hlog : log.Healthy) {calls : List LogCall}
    (hcalls : ∀ call ∈ calls, call.InRange) :
    Always LogSystem.step Available log calls ↔ Always LogSystem.step CallFits log calls :=
  always_iff_always_of_dom LogSystem.step_available hlog hcalls

/-- **Availability**: from initialisation, every call of a run is served and
leaves a buffer that passes its check exactly when every recorded entry fits. -/
theorem log_available_iff_fits (calls : List LogCall) (hcalls : ∀ call ∈ calls, call.InRange) :
    Always LogSystem.step Available .init calls ↔ Always LogSystem.step CallFits .init calls :=
  always_available_iff ⟨_, LogSystem.holds_init⟩ hcalls

/-- A small record and a get are available. -/
theorem log_available_iff_fits_record_get :
    Always LogSystem.step Available .init
        [.record ⟨1, 0, 0, 0x12345678, 0xABCDEF00⟩ 123 1000, .get .zero] ↔
      Always LogSystem.step CallFits .init
        [.record ⟨1, 0, 0, 0x12345678, 0xABCDEF00⟩ 123 1000, .get .zero] :=
  log_available_iff_fits _ (by simp [LogCall.InRange, LogArgs.InRange]; decide)

/-! ## a run that is cut off -/

/-- Records only: the entries of an available run keep the ring's byte sum
below `2 ^ 16`. -/
theorem ringByteSum_lt_of_available {log : LogSystem} {r : RingBuffer LogEntryBinary 64}
    (h : log.Holds r) (args : LogArgs) (hargs : args.InRange) (pid : UInt16) (time : UInt64)
    (n : Nat)
    (hrun : Always LogSystem.step Available log (List.replicate n (.record args pid time))) :
    ringByteSum ((List.replicate n (logMakeEntry args pid time)).foldl RingBuffer.push r) <
      2 ^ 16 := by
  induction n generalizing log r with
  | zero => exact h.ringByteSum_lt
  | succ n ih =>
      obtain ⟨log', hstep, hinit, hrep, -⟩ := LogSystem.step_record h hargs pid time
      rw [List.replicate_succ, always_cons_of_eq hstep] at hrun
      have hi : log'.buffer.Intact := by
        rw [← errorCode_integrityVerdict_iff]
        exact hrun.1.1
      rw [List.replicate_succ, List.foldl_cons]
      exact ih ⟨hinit, hrep, hi⟩ hrun.2

/-- The entry with the largest fields the checks accept. -/
def largestArgs : LogArgs := ⟨3, 8, 17, 0xFFFFFFFF, 0xFFFFFFFF⟩

/-- Nineteen records of large data words are enough to lose the log. -/
theorem log_not_always_available :
    ¬ ∀ calls : List LogCall, (∀ call ∈ calls, call.InRange) →
      Always LogSystem.step Available .init calls := by
  intro h
  have hargs : largestArgs.InRange := by decide
  have hrun := h (List.replicate 19 (.record largestArgs 0xFFFF 0xFFFFFFFF)) (by
    intro call hmem
    rw [List.eq_of_mem_replicate hmem]
    exact hargs)
  have hlt := ringByteSum_lt_of_available LogSystem.holds_init largestArgs hargs _ _ 19 hrun
  revert hlt
  decide +kernel

end AutoMlos
