import AutoMlos.LogCore.Guards

/-!
# AutoMlos.LogCore.Corruption

What the ring's checksum gives away.

The ring operations keep the checksum `Stamped`: it is the byte sum of the
covered bytes modulo `2 ^ 16`.  Replacing one byte changes either the sum, by
less than a multiple of `2 ^ 16`, or the stored value, so the two differ
afterwards and every further operation is refused.  A buffer from
`log_buffer_init` has not been stamped, and is refused in the same way.
-/

namespace AutoMlos

open Lib

/-! ## runs of ring operations -/

/-- What the ring operations maintain. -/
structure LogBuffer.Kept (b : LogBuffer) : Prop where
  represents : ∃ r, b.Represents r
  stamped : b.Stamped

namespace LogBuffer

variable {b : LogBuffer} {r : RingBuffer LogEntryBinary 64}

theorem not_sound_of_not_intact (h : ¬ b.Intact) : ¬ b.Sound := fun hsound => h hsound.intact

/-- A put on a ring stores its entry, or is refused. -/
theorem Kept.put (h : b.Kept) (e : LogEntryBinary) :
    ∃ error b', logBufferPutSafe (some b) (some e) = .ok (error, some b') ∧ b'.Kept := by
  obtain ⟨r, hrep⟩ := h.represents
  by_cases hintact : b.Intact
  · obtain ⟨b', heq, hrep', hstamped⟩ := logBufferPutSafe_of_intact hrep hintact e
    exact ⟨_, b', heq, ⟨_, hrep'⟩, hstamped⟩
  · have hclosed : ¬ b.Open := fun hopen => not_sound_of_not_intact hintact hopen.2
    obtain ⟨error, -, heq⟩ := logBufferPutSafe_of_not_open hclosed e
    exact ⟨error, b, heq, h⟩

/-- A get takes the oldest entry, finds none, or is refused. -/
theorem Kept.get (h : b.Kept) (out : LogEntryBinary) :
    ∃ error b' entry, logBufferGetSafe (some b) (some out) = .ok (error, some b', entry) ∧
      b'.Kept := by
  obtain ⟨r, hrep⟩ := h.represents
  by_cases hintact : b.Intact
  · by_cases hzero : r.count = 0
    · exact ⟨_, b, _, logBufferGetSafe_of_empty hrep hintact hzero out, h⟩
    · obtain ⟨b', heq, hrep', hstamped⟩ :=
        logBufferGetSafe_of_intact hrep hintact (Nat.pos_of_ne_zero hzero) out
      exact ⟨_, b', _, heq, ⟨_, hrep'⟩, hstamped⟩
  · obtain ⟨error, -, heq⟩ := logBufferGetSafe_of_not_sound (not_sound_of_not_intact hintact) out
    exact ⟨error, b, _, heq, h⟩

/-- **One ring operation** returns, and keeps the ring and its stamp. -/
theorem Kept.step (b : LogBuffer) (call : RingCall) (h : b.Kept) :
    ∃ reply b', b.step call = .ok (reply, b') ∧ b'.Kept := by
  cases call with
  | put entry =>
      cases entry with
      | none => exact ⟨_, b, rfl, h⟩
      | some e =>
          obtain ⟨error, b', heq, h'⟩ := h.put e
          refine ⟨{ error, entry := none }, b', ?_, h'⟩
          simp only [LogBuffer.step, heq, Outcome.ok_bind, Outcome.pure_eq_ok, Option.getD_some]
  | get entry =>
      cases entry with
      | none => exact ⟨_, b, rfl, h⟩
      | some out =>
          obtain ⟨error, b', taken, heq, h'⟩ := h.get out
          refine ⟨{ error, entry := taken }, b', ?_, h'⟩
          simp only [LogBuffer.step, heq, Outcome.ok_bind, Outcome.pure_eq_ok, Option.getD_some]

end LogBuffer

theorem kept_init : LogSystem.init.buffer.Kept :=
  ⟨⟨_, LogSystem.holds_init.represents⟩, LogSystem.stamped_init⟩

/-! ## one byte replaced -/

namespace LogBuffer

variable {b : LogBuffer}

/-- One byte of the buffer's memory is replaced. -/
def corrupt (b : LogBuffer) (i : Nat) (v : UInt8) : LogBuffer := ofBytes (b.toBytes.set i v)

/-- **The stamp gives the change away**, wherever the byte lies. -/
theorem Stamped.not_intact_corrupt (h : b.Stamped) {i : Nat} (hi : i < size) {v : UInt8}
    (hne : b.toBytes[i]? ≠ some v) : ¬ (b.corrupt i v).Intact := by
  have hbytes : (b.corrupt i v).toBytes = b.toBytes.set i v := toBytes_ofBytes (by simp)
  have hread (c : UInt16) : leNat (leBytes 2 c.toNat) = c.toNat := leNat_leBytes_of_lt c.toNat_lt
  have hstored : leNat (leBytes 2 b.safetyChecksum.toNat) =
      byteSum b.coveredBytes % 256 ^ (leBytes 2 b.safetyChecksum.toNat).length := by
    have hwidth : 256 ^ 2 = 2 ^ 16 := rfl
    rw [hread, length_leBytes, h.toNat_safetyChecksum, hwidth]
  have hdiffer := leNat_ne_byteSum_of_set hstored (by simp) (by simpa [size] using hi) hne hbytes
    (by simp)
  rw [hread] at hdiffer
  exact hdiffer

end LogBuffer

/-- **Corruption of the ring is detected**: after any ring operations from
`log_system_init_safe`, replacing any byte of the buffer by another one makes
the next put and the next get raise an alarm and leave everything as it is. -/
theorem ring_corruption_detected (calls : List RingCall) :
    ∃ replies b, run LogBuffer.step LogSystem.init.buffer calls = .ok (replies, b) ∧
      ∀ i < LogBuffer.size, ∀ v, b.toBytes[i]? ≠ some v → ∀ e out,
        (∃ error, systemErrorIsCritical error = true ∧
          logBufferPutSafe (some (b.corrupt i v)) (some e) = .ok (error, some (b.corrupt i v))) ∧
        (∃ error, systemErrorIsCritical error = true ∧
          logBufferGetSafe (some (b.corrupt i v)) (some out) =
            .ok (error, some (b.corrupt i v), some out)) := by
  obtain ⟨replies, b, hrun, hkept⟩ := run_of_invariant LogBuffer.Kept.step kept_init calls
  refine ⟨replies, b, hrun, fun i hi v hne e out => ?_⟩
  have hsound := LogBuffer.not_sound_of_not_intact (hkept.stamped.not_intact_corrupt hi hne)
  obtain ⟨error, halarm, hput⟩ := logBufferPutSafe_of_not_open (fun hopen => hsound hopen.2) e
  obtain ⟨error', halarm', hget⟩ := logBufferGetSafe_of_not_sound hsound out
  exact ⟨⟨error, halarm.2, hput⟩, ⟨error', halarm'.2, hget⟩⟩

/-! ## the two initialisers -/

/-- The call passes `NULL` for its entry. -/
def RingCall.EntryNull : RingCall → Prop
  | .put entry => entry = none
  | .get entry => entry = none

instance (call : RingCall) : Decidable call.EntryNull := by
  cases call <;> exact inferInstanceAs (Decidable (_ = _))

/-- What `log_buffer_init` leaves. -/
def unstampedBuffer : LogBuffer := { LogBuffer.zero with bufferSize := 64 }

theorem unstampedBuffer_represents : unstampedBuffer.Represents zeroRing :=
  ⟨rfl, rfl, rfl, rfl, rfl⟩

theorem unstampedBuffer_not_intact : ¬ unstampedBuffer.Intact := by
  have hstored : unstampedBuffer.safetyChecksum.toNat = 0 := rfl
  rw [LogBuffer.Intact, unstampedBuffer_represents.byteSum_coveredBytes, ringByteSum_zeroRing,
    hstored]
  decide

/-- The error of a call without an entry, or on a buffer without a stamp. -/
def RingCall.refusal : RingCall → RingReply
  | .put none => ⟨logCritical errSafeCriticalNull, none⟩
  | .get none => ⟨logCritical errSafeCriticalNull, none⟩
  | .put (some _) => ⟨logCorrupt, none⟩
  | .get (some out) => ⟨logCorrupt, some out⟩

/-- What a caller compares: the error code and the entry. -/
def RingReply.observed (reply : RingReply) : UInt32 × Option LogEntryBinary :=
  (reply.error.errorCode, reply.entry)

/-- A call without an entry is refused by every buffer. -/
theorem step_of_entryNull {call : RingCall} (h : call.EntryNull) (b : LogBuffer) :
    b.step call = .ok (call.refusal, b) := by
  cases call with
  | put entry => cases h; rfl
  | get entry => cases h; rfl

/-- An unstamped buffer refuses every call. -/
theorem step_unstampedBuffer (call : RingCall) :
    unstampedBuffer.step call = .ok (call.refusal, unstampedBuffer) := by
  have hverdict : logVerifyBufferIntegrity (some unstampedBuffer) = logCorrupt := by
    rw [logVerifyBufferIntegrity_eq unstampedBuffer_represents,
      integrityVerdict_of_not_intact unstampedBuffer_not_intact]
  cases call with
  | put entry =>
      cases entry with
      | none => rfl
      | some e =>
          simp [LogBuffer.step, logBufferPutSafe, hverdict,
            logCheckBufferBoundary_eq unstampedBuffer_represents, RingCall.refusal]
  | get entry =>
      cases entry with
      | none => rfl
      | some out => simp [LogBuffer.step, logBufferGetSafe, hverdict, RingCall.refusal]

/-- A first entry is small enough for the checksum. -/
theorem ringByteSum_zeroRing_push_lt (e : LogEntryBinary) :
    ringByteSum (zeroRing.push e) < 2 ^ 16 := by
  have hentry := byteSum_le e.toBytes
  have hzero : byteSum LogEntryBinary.zero.toBytes = 0 := by decide
  have hslots : (zeroRing.push e).slots.toList = e :: List.replicate 63 .zero := rfl
  have hentries : entriesByteSum (zeroRing.push e).slots.toList = byteSum e.toBytes := by
    simp [hslots, entriesByteSum, hzero]
  have hwrite : (zeroRing.push e).write = 1 := rfl
  have hread : (zeroRing.push e).read = 0 := rfl
  have hcount : (zeroRing.push e).count = 1 := rfl
  rw [LogEntryBinary.length_toBytes, LogEntryBinary.size] at hentry
  rw [ringByteSum, hentries, hwrite, hread, hcount]
  omega

/-- A stamped buffer serves the first call with an entry. -/
theorem step_init_of_not_entryNull {call : RingCall} (h : ¬ call.EntryNull) :
    ∃ reply b, LogSystem.init.buffer.step call = .ok (reply, b) ∧
      reply.observed ≠ call.refusal.observed ∧ b.Kept := by
  have hinit := LogSystem.holds_init
  cases call with
  | put entry =>
      cases entry with
      | none => exact absurd rfl h
      | some e =>
          obtain ⟨b, heq, hrep, hstamped⟩ :=
            logBufferPutSafe_of_intact hinit.represents hinit.intact e
          have hintact := (hrep.intact_iff hstamped).mpr (ringByteSum_zeroRing_push_lt e)
          refine ⟨⟨logOk, none⟩, b, ?_, fun hsame => ?_, ⟨_, hrep⟩, hstamped⟩
          · simp only [LogBuffer.step, heq, integrityVerdict_of_intact hintact, Outcome.ok_bind,
              Outcome.pure_eq_ok, Option.getD_some]
          · have hok : logOk.errorCode = logCorrupt.errorCode := congrArg Prod.fst hsame
            exact absurd hok (by decide)
  | get entry =>
      cases entry with
      | none => exact absurd rfl h
      | some out =>
          refine ⟨⟨logBufEmpty, some out⟩, _, ?_, fun hsame => ?_, kept_init⟩
          · simp only [LogBuffer.step, logBufferGetSafe_of_empty hinit.represents hinit.intact rfl,
              Outcome.ok_bind, Outcome.pure_eq_ok, Option.getD_some]
          · have hempty : logBufEmpty.errorCode = logCorrupt.errorCode := congrArg Prod.fst hsame
            exact absurd hempty (by decide)

/-- From `log_system_init_safe` all calls are refused only if none has an entry. -/
theorem run_init_refused_iff (calls : List RingCall) :
    ∃ replies b, run LogBuffer.step LogSystem.init.buffer calls = .ok (replies, b) ∧
      ((calls.map RingCall.refusal).map RingReply.observed = replies.map RingReply.observed ↔
        ∀ call ∈ calls, call.EntryNull) := by
  induction calls with
  | nil => exact ⟨[], _, rfl, by simp⟩
  | cons call calls ih =>
      by_cases hnull : call.EntryNull
      · obtain ⟨replies, b, hrun, hiff⟩ := ih
        refine ⟨_, b, run_cons_of_eq (step_of_entryNull hnull _) hrun, ?_⟩
        rw [List.map_cons, List.map_cons, List.map_cons, List.cons_inj_right, hiff,
          List.forall_mem_cons, and_iff_right hnull]
      · obtain ⟨reply, b, heq, hreply, hkept⟩ := step_init_of_not_entryNull hnull
        obtain ⟨replies, b', hrun, -⟩ := run_of_invariant LogBuffer.Kept.step hkept calls
        refine ⟨_, b', run_cons_of_eq heq hrun, iff_of_false ?_ ?_⟩
        · exact fun hsame => hreply (List.cons.inj hsame).1.symm
        · exact fun hall => hnull (hall call List.mem_cons_self)

/-- **The two initialisers are interchangeable** for the sequences of ring
operations that never pass an entry, and for no others: every other operation
on the buffer of `log_buffer_init` is refused. -/
theorem ring_initialisers_agree_iff (buffer : LogBuffer) (calls : List RingCall) :
    ∃ b₀ replies b replies' b', logBufferInit (some buffer) = some b₀ ∧
      run LogBuffer.step b₀ calls = .ok (replies, b) ∧
      run LogBuffer.step LogSystem.init.buffer calls = .ok (replies', b') ∧
      (replies.map RingReply.observed = replies'.map RingReply.observed ↔
        ∀ call ∈ calls, call.EntryNull) := by
  obtain ⟨replies', b', hrun', hiff⟩ := run_init_refused_iff calls
  exact ⟨_, _, _, replies', b', rfl, run_of_fixed step_unstampedBuffer calls, hrun', hiff⟩

/-- A get tells them apart. -/
theorem ring_initialisers_not_always_agree :
    ¬ ∀ (buffer b₀ : LogBuffer) (calls : List RingCall), logBufferInit (some buffer) = some b₀ →
      ∀ replies b replies' b', run LogBuffer.step b₀ calls = .ok (replies, b) →
        run LogBuffer.step LogSystem.init.buffer calls = .ok (replies', b') →
          replies.map RingReply.observed = replies'.map RingReply.observed := by
  intro h
  have hget : ¬ (RingCall.get (some .zero)).EntryNull := by decide
  obtain ⟨reply, b, heq, hreply, -⟩ := step_init_of_not_entryNull hget
  have hsame := h .zero unstampedBuffer [.get (some .zero)] rfl _ _ _ _
    (run_of_fixed step_unstampedBuffer _) (run_cons_of_eq heq rfl)
  exact hreply (List.cons.inj hsame).1.symm

end AutoMlos
