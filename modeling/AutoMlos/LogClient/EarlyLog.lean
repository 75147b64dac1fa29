import AutoMlos.LogClient.Accounting

/-!
# AutoMlos.LogClient.EarlyLog

The early buffer of a client that has a publisher: stores and flushes.

The buffer is a ring of 32 entries.  A store enqueues, at the price of the
oldest entry when 32 are held; a flush publishes from the front and stops at
the first publish that fails (`FlushesInOrder`).  The ledger keeps what was
stored and what was published: the entries held are the last ones stored,
and what was published comes, in order and each once, from those before.
-/

namespace AutoMlos

open Lib

/-! ## the flush loop -/

/-- A flush over the entries held publishes them from the front up to the first
publish that fails, and leaves the others. -/
def FlushesInOrder (publish : Nat → Bool) (held : List LogEntryBinary) (reply : EarlyReply)
    (left : List LogEntryBinary) : Prop :=
  ∃ k, (∀ j < k, publish j = true) ∧ reply.published = held.take k ∧ left = held.drop k ∧
    ((k = held.length ∧ reply.error.errorCode = errBaseOk) ∨
      (k < held.length ∧ publish k = false ∧ reply.error.errorCode ≠ errBaseOk))

/-- A flush that succeeds leaves nothing. -/
theorem FlushesInOrder.nil_of_ok {publish : Nat → Bool} {held left : List LogEntryBinary}
    {reply : EarlyReply} (h : FlushesInOrder publish held reply left)
    (hok : reply.error.errorCode = errBaseOk) : left = [] := by
  obtain ⟨k, -, -, hleft, ⟨hk, -⟩ | ⟨-, -, herror⟩⟩ := h
  · rw [hleft, hk, List.drop_length]
  · exact absurd hok herror

/-- One successful publish, and then a flush of the rest. -/
theorem FlushesInOrder.cons {publish : Nat → Bool} {e : LogEntryBinary}
    {held left published : List LogEntryBinary} {error : SystemError} (hfirst : publish 0 = true)
    (hrest : FlushesInOrder (fun j => publish (j + 1)) held { error, published } left) :
    FlushesInOrder publish (e :: held) { error, published := e :: published } left := by
  obtain ⟨k, hsucceed, hpublished, hleft, hend⟩ := hrest
  refine ⟨k + 1, ?_, congrArg (e :: ·) hpublished, hleft, ?_⟩
  · intro j hj
    cases j with
    | zero => exact hfirst
    | succ j => exact hsucceed j (Nat.lt_of_succ_lt_succ hj)
  · rcases hend with ⟨hk, hok⟩ | ⟨hk, hfail, herror⟩
    · exact Or.inl ⟨congrArg (· + 1) hk, hok⟩
    · exact Or.inr ⟨Nat.succ_lt_succ hk, hfail, herror⟩

section Loop

variable {b : EarlyLogBuffer} {r : RingBuffer LogEntryBinary 32} {publish : Nat → Bool}

/-- Advancing the read index pops the ring. -/
theorem EarlyLogBuffer.Represents.pop (h : b.Represents r) (hpos : 0 < r.count) :
    EarlyLogBuffer.Represents
      { b with readIndex := earlyNext b.readIndex, count := b.count - 1 } (r.pop hpos) where
  slots := h.slots
  write := h.write
  read := by simp only [RingBuffer.pop, toNat_earlyNext, h.read]
  count := by
    have hcount : 0 < b.count.toNat := h.count ▸ hpos
    simp only [RingBuffer.pop, RingBuffer.toNat_sub_one_of_pos hcount, h.count]

theorem EarlyLogBuffer.Represents.count_eq_zero_iff (h : b.Represents r) :
    b.count = 0 ↔ r.count = 0 := by
  rw [← UInt16.toNat_inj, h.count]
  rfl

theorem EarlyLogBuffer.Represents.readAt (h : b.Represents r) :
    Outcome.readAt b.entries b.readIndex.toNat = .ok r.front := by
  have hread : b.readIndex.toNat < 32 := h.read ▸ r.read_lt
  rw [Outcome.readAt_of_lt _ hread]
  simp only [RingBuffer.front, h.slots, h.read]

/-- **The loop** flushes the ring in order, from the `k`-th publish on. -/
theorem earlyLogBufferFlushLoop_spec (publish : Nat → Bool) (h : b.Represents r) (k : Nat) :
    ∃ error b' published r',
      earlyLogBufferFlushLoop publish r.count k b = .ok (error, b', published) ∧
      b'.initialized = b.initialized ∧ b'.Represents r' ∧
      FlushesInOrder (fun j => publish (k + j)) r.toList { error, published } r'.toList := by
  induction hn : r.count generalizing b r k with
  | zero =>
      have hnil : r.toList = [] := List.eq_nil_of_length_eq_zero (by simpa using hn)
      refine ⟨logClientOk, b, [], r, rfl, rfl, h, 0, by simp, rfl, rfl, Or.inl ⟨?_, rfl⟩⟩
      rw [hnil]
      rfl
  | succ n ih =>
      have hpos : 0 < r.count := by omega
      have hne : b.count ≠ 0 := fun hzero => by rw [h.count_eq_zero_iff.mp hzero] at hn; cases hn
      cases hpublish : publish k with
      | false =>
          refine ⟨logClientNotFound, b, [], r, ?_, rfl, h, 0, by simp, rfl, rfl,
            Or.inr ⟨by rw [r.length_toList]; exact hpos, hpublish, by decide⟩⟩
          simp only [earlyLogBufferFlushLoop, if_neg hne, h.readAt, Outcome.ok_bind, hpublish,
            if_true, Outcome.pure_eq_ok]
      | true =>
          have hcount : (r.pop hpos).count = n := by simp only [RingBuffer.pop]; omega
          obtain ⟨error, b', published, r', hloop, hinit, hr', hflush⟩ :=
            ih (h.pop hpos) (k + 1) hcount
          refine ⟨error, b', r.front :: published, r', ?_, hinit, hr', ?_⟩
          · simp only [earlyLogBufferFlushLoop, if_neg hne, h.readAt, Outcome.ok_bind, hpublish,
              Bool.true_eq_false, if_false, hloop, Outcome.pure_eq_ok]
          · rw [RingBuffer.toList_pop r hpos]
            refine FlushesInOrder.cons hpublish ?_
            simpa only [Nat.add_assoc, Nat.add_comm 1] using hflush

/-- **The loop terminates**: it ends by itself within one round more than there
are entries. -/
theorem earlyLogBufferFlushWhile_eq (h : b.Represents r) {fuel : Nat} (hfuel : r.count < fuel)
    (k : Nat) :
    earlyLogBufferFlushWhile publish fuel k b = earlyLogBufferFlushLoop publish r.count k b := by
  induction hn : r.count generalizing b r k fuel with
  | zero =>
      obtain ⟨fuel, rfl⟩ : ∃ n, fuel = n + 1 := ⟨fuel - 1, by omega⟩
      simp only [earlyLogBufferFlushWhile, if_pos (h.count_eq_zero_iff.mpr hn),
        earlyLogBufferFlushLoop]
  | succ n ih =>
      obtain ⟨fuel, rfl⟩ : ∃ n, fuel = n + 1 := ⟨fuel - 1, by omega⟩
      have hpos : 0 < r.count := by omega
      have hne : b.count ≠ 0 := fun hzero => by rw [h.count_eq_zero_iff.mp hzero] at hn; cases hn
      have hcount : (r.pop hpos).count = n := by simp only [RingBuffer.pop]; omega
      simp only [earlyLogBufferFlushWhile, earlyLogBufferFlushLoop, if_neg hne,
        ih (h.pop hpos) (show (r.pop hpos).count < fuel by omega) (k + 1) hcount]

end Loop

/-! ## the ledger of stores and flushes -/

/-- The early buffer with what was stored in it and what flushes published of
it, each in order. -/
structure EarlyLedger where
  buffer : EarlyLogBuffer
  stored : List LogEntryBinary
  published : List LogEntryBinary

/-- The entry a store is about, if it is not refused. -/
def EarlyCall.storedEntry : EarlyCall → Option LogEntryBinary
  | .store entry => entry
  | .flush _ => none

namespace EarlyLedger

/-- The ledger after `early_log_buffer_init`. -/
def start : EarlyLedger := { buffer := earlyLogBufferInit.2, stored := [], published := [] }

/-- One call. -/
def step (l : EarlyLedger) (call : EarlyCall) : Outcome (EarlyReply × EarlyLedger) := do
  let (reply, buffer) ← l.buffer.step call
  let stored :=
    if reply.error.errorCode = errBaseOk then l.stored ++ call.storedEntry.toList else l.stored
  return (reply, { buffer, stored, published := l.published ++ reply.published })

/-- The indices are those of a ring of 32, and the entries held are the last
ones stored: what was published comes in order from those before. -/
structure Sound (l : EarlyLedger) : Prop where
  count_le : l.buffer.count.toNat ≤ 32
  write_eq : l.buffer.writeIndex.toNat =
    (l.buffer.readIndex.toNat + l.buffer.count.toNat) % 32
  recent : ∃ older, l.stored = older ++ l.buffer.held ∧ l.published.Sublist older

/-- What a call does: a store of an entry enqueues it, a refused one changes
nothing; a flush ends by itself, and publishes in order. -/
def Contract (l : EarlyLedger) (call : EarlyCall) (reply : EarlyReply) (l' : EarlyLedger) : Prop :=
  match call with
  | .store none => reply.error.errorCode ≠ errBaseOk ∧ l' = l
  | .store (some e) => reply.error.errorCode = errBaseOk ∧ l'.stored = l.stored ++ [e] ∧
      l'.published = l.published ∧ l'.buffer.held = enqueue 32 l.buffer.held e
  | .flush publish =>
      (∀ fuel, l.buffer.count.toNat < fuel →
        earlyLogBufferFlushWhile publish fuel 0 l.buffer =
          .ok (reply.error, l'.buffer, reply.published)) ∧
      FlushesInOrder publish l.buffer.held reply l'.buffer.held ∧
      l'.stored = l.stored ∧ l'.published = l.published ++ reply.published

/-- What every call keeps. -/
structure Tracks (l : EarlyLedger) : Prop where
  initialized : l.buffer.initialized = true
  ring : ∃ r, l.buffer.Represents r
  recent : ∃ older, l.stored = older ++ l.buffer.held ∧ l.published.Sublist older

variable {l : EarlyLedger}

theorem Tracks.sound (h : l.Tracks) : l.Sound := by
  obtain ⟨r, hr⟩ := h.ring
  refine ⟨?_, ?_, h.recent⟩
  · rw [hr.count]
    exact r.count_le
  · rw [hr.write, hr.read, hr.count]
    exact r.write_eq

theorem tracks_start : start.Tracks :=
  ⟨rfl, ⟨earlyZeroRing, rfl, rfl, rfl, rfl⟩, [], rfl, List.Sublist.refl _⟩

/-- Storing a further entry: the held ones are still the last ones stored. -/
theorem Tracks.recent_enqueue (h : l.Tracks) (e : LogEntryBinary) :
    ∃ older, l.stored ++ [e] = older ++ enqueue 32 l.buffer.held e ∧
      l.published.Sublist older := by
  obtain ⟨older, hstored, hpublished⟩ := h.recent
  by_cases hfull : l.buffer.held.length < 32
  · refine ⟨older, ?_, hpublished⟩
    rw [enqueue_of_lt hfull, hstored, List.append_assoc]
  · -- the oldest entry held joins those before
    refine ⟨older ++ l.buffer.held.take 1, ?_, hpublished.trans (List.sublist_append_left _ _)⟩
    rw [enqueue_of_le (Nat.le_of_not_lt hfull), hstored, ← List.drop_one]
    simp only [List.append_assoc]
    rw [← List.append_assoc (l.buffer.held.take 1), List.take_append_drop]

/-- Publishing from the front: likewise, and what was published comes from those
before. -/
theorem Tracks.recent_drop (h : l.Tracks) (k : Nat) :
    ∃ older, l.stored = older ++ l.buffer.held.drop k ∧
      (l.published ++ l.buffer.held.take k).Sublist older := by
  obtain ⟨older, hstored, hpublished⟩ := h.recent
  refine ⟨older ++ l.buffer.held.take k, ?_, hpublished.append_right _⟩
  rw [hstored, List.append_assoc, List.take_append_drop]

/-- **A store** enqueues. -/
theorem Tracks.step_store (h : l.Tracks) (e : LogEntryBinary) :
    ∃ reply l', l.step (.store (some e)) = .ok (reply, l') ∧
      Contract l (.store (some e)) reply l' ∧ l'.Tracks := by
  obtain ⟨r, hr⟩ := h.ring
  obtain ⟨b', hstore, hpush, hinit⟩ := earlyLogBufferStore_spec hr h.initialized e
  have hheld : b'.held = enqueue 32 l.buffer.held e := by
    rw [hpush.held_eq, RingBuffer.toList_push, hr.held_eq]
  have hok : logClientOk.errorCode = errBaseOk := rfl
  refine ⟨{ error := logClientOk, published := [] }, ⟨b', l.stored ++ [e], l.published⟩, ?_,
    ⟨hok, rfl, rfl, hheld⟩, hinit, ⟨_, hpush⟩, ?_⟩
  · simp only [step, EarlyLogBuffer.step, earlyLogBufferStorePtr, hstore, Outcome.ok_bind,
      Outcome.pure_eq_ok, if_pos hok, EarlyCall.storedEntry, Option.toList_some, List.append_nil]
  · change ∃ older, l.stored ++ [e] = older ++ b'.held ∧ l.published.Sublist older
    rw [hheld]
    exact h.recent_enqueue e

/-- **A flush** publishes in order. -/
theorem Tracks.step_flush (h : l.Tracks) (publish : Nat → Bool) :
    ∃ reply l', l.step (.flush publish) = .ok (reply, l') ∧
      Contract l (.flush publish) reply l' ∧ l'.Tracks := by
  obtain ⟨r, hr⟩ := h.ring
  obtain ⟨error, b', published, r', hloop, hinit, hr', hflush⟩ :=
    earlyLogBufferFlushLoop_spec publish hr 0
  simp only [Nat.zero_add, ← hr.held_eq, ← hr'.held_eq] at hflush
  have hready : ¬ (l.buffer.initialized = false ∨ (true : Bool) = false) := by
    simp [h.initialized]
  refine ⟨{ error, published }, ⟨b', l.stored, l.published ++ published⟩, ?_,
    ⟨fun fuel hfuel => ?_, hflush, rfl, rfl⟩, hinit.trans h.initialized, ⟨r', hr'⟩, ?_⟩
  · simp only [step, EarlyLogBuffer.step, earlyLogBufferFlush, if_neg hready, hr.count, hloop,
      Outcome.ok_bind, Outcome.pure_eq_ok, EarlyCall.storedEntry, Option.toList_none,
      List.append_nil, ite_self]
  · rw [hr.count] at hfuel
    rw [earlyLogBufferFlushWhile_eq hr hfuel, hloop]
  · obtain ⟨k, -, hpublished, hleft, -⟩ := hflush
    change published = l.buffer.held.take k at hpublished
    rw [hpublished, hleft]
    exact h.recent_drop k

/-- **One call** keeps its contract. -/
theorem Tracks.step_contract (h : l.Tracks) (call : EarlyCall) :
    ∃ reply l', l.step call = .ok (reply, l') ∧ Contract l call reply l' ∧ l'.Tracks := by
  cases call with
  | store entry =>
      cases entry with
      | none =>
          have hcritical : (logCritical errSafeCriticalNull).errorCode ≠ errBaseOk := by decide
          refine ⟨{ error := logCritical errSafeCriticalNull, published := [] }, l, ?_,
            ⟨hcritical, rfl⟩, h⟩
          simp only [step, EarlyLogBuffer.step, earlyLogBufferStorePtr, Outcome.ok_bind,
            Outcome.pure_eq_ok, if_neg hcritical, List.append_nil]
      | some e => exact h.step_store e
  | flush publish => exact h.step_flush publish

end EarlyLedger

/-! ## whole runs -/

/-- **The early log**: after initialisation and after every call of a run of
stores and flushes, whatever the publishes do, the ledger is sound; each call
keeps its contract, and a flush that succeeds leaves the buffer empty. -/
theorem early_log_keeps_contract (calls : List EarlyCall) :
    EarlyLedger.start.Sound ∧
      Always EarlyLedger.step
        (fun l call reply l' => l'.Sound ∧ l.Contract call reply l' ∧
          ∀ publish, call = .flush publish → reply.error.errorCode = errBaseOk →
            l'.buffer.held = [])
        .start calls := by
  refine ⟨EarlyLedger.tracks_start.sound, always_of_invariant (fun l call h (_ : True) => ?_)
    EarlyLedger.tracks_start fun _ _ => trivial⟩
  obtain ⟨reply, l', hstep, hcontract, h'⟩ := h.step_contract call
  refine ⟨reply, l', hstep, ⟨h'.sound, hcontract, ?_⟩, h'⟩
  rintro publish rfl hok
  exact hcontract.2.1.nil_of_ok hok

end AutoMlos
