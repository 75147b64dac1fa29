import AutoMlos.Lib.Buckets
import AutoMlos.LogCore.Ring

/-!
# AutoMlos.LogCore.Fifo

The log ring is a bounded drop-oldest FIFO.

`fifoStep` says what the log is for, in terms of a list of unread entries: an
accepted record is appended, at the price of the oldest entry when 64 are
held; a rejected one changes nothing; a get returns the oldest.  The C code
refines it along every run in which no call reports an integrity failure
(`LogSystem.step_fifo`), so the replies of such a run are the replies of the
FIFO, and what the gets return is an ordered selection of what was recorded.
-/

namespace AutoMlos

open Lib

/-! ## the abstract log -/

/-- One call on a list of unread entries, oldest first. -/
def fifoStep (unread : List LogEntryBinary) : LogCall → LogReply × List LogEntryBinary
  | .record args pid time =>
      if args.InRange then
        ({ error := logOk, entry := none }, enqueue 64 unread (logMakeEntry args pid time))
      else ({ error := logInvalidParam, entry := none }, unread)
  | .get out =>
      match unread with
      | [] => ({ error := logBufEmpty, entry := some out }, [])
      | e :: rest => ({ error := logOk, entry := some e }, rest)

/-- The entry an accepted record call makes. -/
def LogCall.acceptedEntry : LogCall → Option LogEntryBinary
  | .record args pid time => if args.InRange then some (logMakeEntry args pid time) else none
  | .get _ => none

/-- The entry a successful get returns. -/
def LogReply.returnedEntry (reply : LogReply) : Option LogEntryBinary :=
  if reply.error.errorCode = errBaseOk then reply.entry else none

/-- The reply reports that the buffer failed its integrity check. -/
def LogReply.IntegrityFailure (reply : LogReply) : Prop :=
  reply.error.errorCode = errBaseDataCorrupt ∨ reply.error.errorCode = errBaseIndexOob

/-- The step property of the runs considered here. -/
def NoIntegrityFailure (_ : LogSystem) (_ : LogCall) (reply : LogReply) (_ : LogSystem) : Prop :=
  ¬ reply.IntegrityFailure

instance : DecidablePred LogReply.IntegrityFailure :=
  fun _ => inferInstanceAs (Decidable (_ ∨ _))

instance (log : LogSystem) (call : LogCall) (reply : LogReply) (log' : LogSystem) :
    Decidable (NoIntegrityFailure log call reply log') :=
  inferInstanceAs (Decidable (¬ _))

/-- What a call does at its own place in a run: a record is rejected exactly
when its arguments are out of range, and then changes nothing; a get reports
an empty buffer exactly when no unread entry is counted. -/
def CallContract (log : LogSystem) (call : LogCall) (reply : LogReply) (log' : LogSystem) : Prop :=
  match call with
  | .record args _ _ =>
      (reply.error.errorCode = errBaseOk ↔ args.InRange) ∧ (¬ args.InRange → log' = log)
  | .get _ => reply.error.errorCode = errBaseBufEmpty ↔ log.buffer.entryCount = 0

/-! ## facts about the abstract log -/

theorem length_fifoStep_le {unread : List LogEntryBinary} (h : unread.length ≤ 64)
    (call : LogCall) : (fifoStep unread call).2.length ≤ 64 := by
  cases call with
  | record args pid time =>
      by_cases hargs : args.InRange
      · simp only [fifoStep, if_pos hargs]
        exact length_enqueue_le (by decide) h
      · simp only [fifoStep, if_neg hargs]
        exact h
  | get out =>
      cases unread with
      | nil => exact h
      | cons e rest => exact Nat.le_of_succ_le h

theorem length_mealy_fifoStep_le {unread : List LogEntryBinary} (h : unread.length ≤ 64)
    (calls : List LogCall) : (mealy fifoStep unread calls).2.length ≤ 64 := by
  induction calls generalizing unread with
  | nil => exact h
  | cons call calls ih => exact ih (length_fifoStep_le h call)

/-- What one call returns and leaves is an ordered selection of what was held
and what it accepted. -/
theorem fifoStep_sublist (unread : List LogEntryBinary) (call : LogCall) :
    ((fifoStep unread call).1.returnedEntry.toList ++ (fifoStep unread call).2).Sublist
      (unread ++ call.acceptedEntry.toList) := by
  cases call with
  | record args pid time =>
      by_cases hargs : args.InRange
      · simpa [fifoStep, hargs, LogCall.acceptedEntry, LogReply.returnedEntry] using
          enqueue_sublist 64 unread (logMakeEntry args pid time)
      · simp [fifoStep, hargs, LogCall.acceptedEntry, LogReply.returnedEntry]
  | get out =>
      cases unread with
      | nil =>
          have hempty : logBufEmpty.errorCode ≠ errBaseOk := by decide
          simp [fifoStep, LogCall.acceptedEntry, LogReply.returnedEntry, hempty]
      | cons e rest => simp [fifoStep, LogCall.acceptedEntry, LogReply.returnedEntry]

/-- **In order, each once**: over a run, the entries returned and then the
entries still held are an ordered selection of the entries accepted. -/
theorem returnedEntries_sublist (unread : List LogEntryBinary) (calls : List LogCall) :
    ((mealy fifoStep unread calls).1.filterMap LogReply.returnedEntry ++
        (mealy fifoStep unread calls).2).Sublist
      (unread ++ calls.filterMap LogCall.acceptedEntry) := by
  have hstep (before held : List LogEntryBinary) (call : LogCall) (heq : before = held) :
      ∃ reply after left, total fifoStep before call = .ok (reply, after) ∧ after = left ∧
        (reply.returnedEntry.toList ++ left).Sublist (held ++ call.acceptedEntry.toList) :=
    ⟨_, _, _, rfl, rfl, heq ▸ fifoStep_sublist before call⟩
  obtain ⟨replies, after, _, hrun, rfl, hsub⟩ := run_sublist hstep (Eq.refl unread) calls
  rw [run_total, Outcome.ok.injEq] at hrun
  rw [hrun]
  exact hsub

/-! ## the refinement -/

/-- The log holds exactly these unread entries. -/
def LogSystem.HoldsEntries (log : LogSystem) (unread : List LogEntryBinary) : Prop :=
  ∃ r, log.Holds r ∧ r.toList = unread

theorem LogSystem.HoldsEntries.entryCount {log : LogSystem} {unread : List LogEntryBinary}
    (h : log.HoldsEntries unread) : log.buffer.entryCount.toNat = unread.length := by
  obtain ⟨r, hr, rfl⟩ := h
  rw [hr.represents.count, RingBuffer.length_toList]

/-- **What one call does** to a log that holds a list of entries: it answers and
goes on as the FIFO does, or reports that it has left a corrupt buffer. -/
theorem LogSystem.step_outcome {log : LogSystem} {unread : List LogEntryBinary}
    (hlog : log.HoldsEntries unread) (call : LogCall) :
    ∃ reply log', log.step call = .ok (reply, log') ∧
      ((reply = (fifoStep unread call).1 ∧ log'.HoldsEntries (fifoStep unread call).2) ∨
        (reply = { error := logCorrupt, entry := none } ∧ log'.initialized = true ∧
          ¬ log'.buffer.Intact)) := by
  obtain ⟨r, hr, rfl⟩ := hlog
  cases call with
  | record args pid time =>
      by_cases hargs : args.InRange
      · obtain ⟨log', heq, hinit, hrep, -⟩ := LogSystem.step_record hr hargs pid time
        refine ⟨_, log', heq, ?_⟩
        -- the verdict on the buffer is the only thing the reply can report
        by_cases hi : log'.buffer.Intact
        · rw [fifoStep, if_pos hargs, integrityVerdict_of_intact hi]
          exact Or.inl ⟨rfl, _, ⟨hinit, hrep, hi⟩, RingBuffer.toList_push r _⟩
        · rw [integrityVerdict_of_not_intact hi]
          exact Or.inr ⟨rfl, hinit, hi⟩
      · refine ⟨_, log, LogSystem.step_record_of_not_inRange hr hargs pid time, Or.inl ?_⟩
        rw [fifoStep, if_neg hargs]
        exact ⟨rfl, r, hr, rfl⟩
  | get out =>
      by_cases hzero : r.count = 0
      · have hnil : r.toList = [] := List.eq_nil_of_length_eq_zero (by simpa using hzero)
        refine ⟨_, log, LogSystem.step_get_of_empty hr hzero out, Or.inl ?_⟩
        rw [hnil]
        exact ⟨rfl, r, hr, hnil⟩
      · have hpos : 0 < r.count := Nat.pos_of_ne_zero hzero
        obtain ⟨log', heq, hr'⟩ := LogSystem.step_get hr hpos out
        refine ⟨_, log', heq, Or.inl ?_⟩
        rw [RingBuffer.toList_pop r hpos]
        exact ⟨rfl, _, hr', rfl⟩

/-- **One call refines the FIFO**: unless it reports an integrity failure, a
call on a log that holds a list of entries answers as the FIFO does and
leaves a log that holds the FIFO's list. -/
theorem LogSystem.step_fifo (log : LogSystem) (unread : List LogEntryBinary) (call : LogCall)
    (reply : LogReply) (log' : LogSystem) (hlog : log.HoldsEntries unread)
    (hstep : log.step call = .ok (reply, log')) (hok : NoIntegrityFailure log call reply log') :
    reply = (fifoStep unread call).1 ∧ log'.HoldsEntries (fifoStep unread call).2 := by
  obtain ⟨reply₁, log₁, heq, houtcome⟩ := LogSystem.step_outcome hlog call
  rw [heq] at hstep
  cases hstep
  rcases houtcome with hfifo | ⟨rfl, -, -⟩
  · exact hfifo
  · exact absurd (Or.inl rfl) hok

/-- Every call on a log that holds entries returns. -/
theorem LogSystem.step_defined {log : LogSystem} {unread : List LogEntryBinary}
    (hlog : log.HoldsEntries unread) (call : LogCall) :
    ∃ reply log', log.step call = .ok (reply, log') := by
  obtain ⟨reply, log', heq, -⟩ := LogSystem.step_outcome hlog call
  exact ⟨reply, log', heq⟩

/-- **One call keeps its contract** unless it reports an integrity failure. -/
theorem LogSystem.step_contract (log : LogSystem) (call : LogCall) (reply : LogReply)
    (log' : LogSystem) (hlog : ∃ unread, log.HoldsEntries unread)
    (hstep : log.step call = .ok (reply, log')) (hok : NoIntegrityFailure log call reply log') :
    CallContract log call reply log' ∧ ∃ unread, log'.HoldsEntries unread := by
  obtain ⟨unread, hunread⟩ := hlog
  obtain ⟨hreply, hunread'⟩ := log.step_fifo unread call reply log' hunread hstep hok
  refine ⟨?_, _, hunread'⟩
  cases call with
  | record args pid time =>
      by_cases hargs : args.InRange
      · rw [hreply, fifoStep, if_pos hargs]
        exact ⟨iff_of_true rfl hargs, fun hout => absurd hargs hout⟩
      · obtain ⟨r, hr, -⟩ := hunread
        rw [LogSystem.step_record_of_not_inRange hr hargs] at hstep
        cases hstep
        exact ⟨iff_of_false (by decide) hargs, fun _ => rfl⟩
  | get out =>
      have hcount := hunread.entryCount
      have hzero : log.buffer.entryCount = 0 ↔ unread = [] := by
        rw [← UInt16.toNat_inj, hcount]
        exact List.length_eq_zero_iff
      simp only [CallContract, hreply, hzero]
      cases unread with
      | nil => exact iff_of_true rfl rfl
      | cons e rest =>
          have hcode : logOk.errorCode ≠ errBaseBufEmpty := by decide
          exact iff_of_false hcode (List.cons_ne_nil e rest)

/-! ## whole runs -/

/-- What is true at a point of a run of calls from initialisation: the
replies are those of the FIFO, the entries held are the FIFO's, counted
exactly, and what was returned and what is held is an ordered selection of
what was accepted. -/
def IsFifoAfter (calls : List LogCall) : Prop :=
  ∃ replies log' unread,
    run LogSystem.step .init calls = .ok (replies, log') ∧
    mealy fifoStep [] calls = (replies, unread) ∧
    log'.HoldsEntries unread ∧
    log'.buffer.entryCount.toNat = unread.length ∧ unread.length ≤ 64 ∧
    (replies.filterMap LogReply.returnedEntry ++ unread).Sublist
      (calls.filterMap LogCall.acceptedEntry)

theorem LogSystem.holdsEntries_init : LogSystem.init.HoldsEntries [] :=
  ⟨zeroRing, LogSystem.holds_init, rfl⟩

/-- Calls that report no integrity failure are all defined. -/
theorem always_noIntegrityFailure {calls : List LogCall}
    (h : Along LogSystem.step NoIntegrityFailure .init calls) :
    Always LogSystem.step NoIntegrityFailure .init calls := by
  have hstep : ∀ (log : LogSystem) (call : LogCall), (∃ unread, log.HoldsEntries unread) →
      ∃ reply log', log.step call = .ok (reply, log') ∧
        (NoIntegrityFailure log call reply log' → ∃ unread, log'.HoldsEntries unread) := by
    rintro log call ⟨unread, hlog⟩
    obtain ⟨reply, log', heq⟩ := LogSystem.step_defined hlog call
    exact ⟨reply, log', heq, fun hok =>
      ⟨_, (log.step_fifo unread call reply log' hlog heq hok).2⟩⟩
  exact always_of_along hstep ⟨[], LogSystem.holdsEntries_init⟩ h

theorem isFifoAfter_of_always {calls : List LogCall}
    (h : Always LogSystem.step NoIntegrityFailure .init calls) : IsFifoAfter calls := by
  obtain ⟨log', hrun, hunread⟩ :=
    run_of_always_simulates LogSystem.step_fifo LogSystem.holdsEntries_init h
  exact ⟨_, log', _, hrun, rfl, hunread, hunread.entryCount,
    length_mealy_fifoStep_le (Nat.zero_le _) calls, returnedEntries_sublist [] calls⟩

/-! ## small entries -/

/-- The bytes of the entry sum to at most 1000, so that those of 64 fit 16 bits
with the counters. -/
def SmallEntry (e : LogEntryBinary) : Prop := byteSum e.toBytes ≤ 1000

instance (e : LogEntryBinary) : Decidable (SmallEntry e) := inferInstanceAs (Decidable (_ ≤ _))

theorem ringByteSum_lt_of_small {r : RingBuffer LogEntryBinary 64}
    (h : ∀ e ∈ r.slots.toList, SmallEntry e) : ringByteSum r < 2 ^ 16 := by
  have hslots : entriesByteSum r.slots.toList ≤ r.slots.toList.length * 1000 := sum_map_le h
  have hwrite := r.write_lt
  have hread := r.read_lt
  have hcount := r.count_le
  rw [Vector.length_toList] at hslots
  rw [ringByteSum]
  omega

/-- The log holds a ring of small entries. -/
def LogSystem.HoldsSmall (log : LogSystem) : Prop :=
  ∃ r, log.Holds r ∧ ∀ e ∈ r.slots.toList, SmallEntry e

theorem LogSystem.holdsSmall_init : LogSystem.init.HoldsSmall := by
  refine ⟨zeroRing, LogSystem.holds_init, fun e he => ?_⟩
  rw [zeroRing, RingBuffer.empty, Vector.toList_replicate] at he
  rw [List.eq_of_mem_replicate he]
  decide

theorem LogSystem.HoldsSmall.step {log : LogSystem} (h : log.HoldsSmall) {call : LogCall}
    (hcall : ∀ e ∈ call.acceptedEntry, SmallEntry e) :
    ∃ reply log', log.step call = .ok (reply, log') ∧ ¬ reply.IntegrityFailure ∧
      log'.HoldsSmall := by
  obtain ⟨r, hr, hsmall⟩ := h
  cases call with
  | record args pid time =>
      by_cases hargs : args.InRange
      · obtain ⟨log', heq, hinit, hrep, hintact⟩ := LogSystem.step_record hr hargs pid time
        have hentry : SmallEntry (logMakeEntry args pid time) := hcall _ (if_pos hargs)
        have hslots : ∀ e ∈ (r.push (logMakeEntry args pid time)).slots.toList, SmallEntry e := by
          intro e he
          rw [RingBuffer.push, Vector.toList_set] at he
          rcases List.mem_or_eq_of_mem_set he with hold | rfl
          · exact hsmall e hold
          · exact hentry
        have hi := hintact.mpr (ringByteSum_lt_of_small hslots)
        rw [integrityVerdict_of_intact hi] at heq
        exact ⟨_, log', heq, by decide, _, ⟨hinit, hrep, hi⟩, hslots⟩
      · exact ⟨_, log, LogSystem.step_record_of_not_inRange hr hargs pid time, by decide, r, hr,
          hsmall⟩
  | get out =>
      by_cases hzero : r.count = 0
      · have hok : ¬ (logBufEmpty.errorCode = errBaseDataCorrupt ∨
            logBufEmpty.errorCode = errBaseIndexOob) := by decide
        exact ⟨_, log, LogSystem.step_get_of_empty hr hzero out, hok, r, hr, hsmall⟩
      · have hpos : 0 < r.count := Nat.pos_of_ne_zero hzero
        have hok : ¬ (logOk.errorCode = errBaseDataCorrupt ∨
            logOk.errorCode = errBaseIndexOob) := by decide
        obtain ⟨log', heq, hr'⟩ := LogSystem.step_get hr hpos out
        exact ⟨_, log', heq, hok, _, hr', hsmall⟩

/-- **Small entries** never bring the log down. -/
theorem LogSystem.HoldsSmall.always {log : LogSystem} (h : log.HoldsSmall) {calls : List LogCall}
    (hcalls : ∀ call ∈ calls, ∀ e ∈ call.acceptedEntry, SmallEntry e) :
    Always LogSystem.step NoIntegrityFailure log calls := by
  induction calls generalizing log with
  | nil => trivial
  | cons call calls ih =>
      obtain ⟨hcall, hrest⟩ := List.forall_mem_cons.mp hcalls
      obtain ⟨reply, log', hstep, hok, hnext⟩ := h.step hcall
      exact ⟨reply, log', hstep, hok, ih hnext hrest⟩

/-- **The log is a bounded drop-oldest FIFO**: along every run in which no
call reports an integrity failure, each call keeps its contract, and after
every call the log is where the FIFO is. -/
theorem log_is_drop_oldest_fifo (calls : List LogCall)
    (h : Along LogSystem.step NoIntegrityFailure .init calls) :
    Always LogSystem.step CallContract .init calls ∧
      ∀ before after, calls = before ++ after → IsFifoAfter before := by
  have halways := always_noIntegrityFailure h
  constructor
  · exact (always_and_of_invariant LogSystem.step_contract
      ⟨[], LogSystem.holdsEntries_init⟩ halways).imp fun _ _ _ _ => And.right
  · rintro before after rfl
    exact isFifoAfter_of_always (always_of_append halways)

/-- As many records as there is room for and two more, with one rejected among
them, and two gets. -/
def overwritingRun : List LogCall :=
  (List.range 65).map (fun i => .record ⟨1, 0, 0, .ofNat i, 0⟩ 1 1) ++
    [.record ⟨9, 0, 0, 0, 0⟩ 1 1, .record ⟨1, 0, 0, 65, 0⟩ 1 1, .get .zero, .get .zero]

theorem log_is_drop_oldest_fifo_overwritingRun :
    Always LogSystem.step CallContract .init overwritingRun ∧
      ∀ before after, overwritingRun = before ++ after → IsFifoAfter before :=
  log_is_drop_oldest_fifo overwritingRun
    (LogSystem.holdsSmall_init.always (by decide +kernel)).along

-- the gets return the third and the fourth entry
example : (mealy fifoStep [] overwritingRun).1.filterMap LogReply.returnedEntry =
    [logMakeEntry ⟨1, 0, 0, 2, 0⟩ 1 1, logMakeEntry ⟨1, 0, 0, 3, 0⟩ 1 1] := by
  decide +kernel

end AutoMlos
