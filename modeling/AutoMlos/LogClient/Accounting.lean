import AutoMlos.Lib.Run
import AutoMlos.LogClient
import AutoMlos.LogCore.Ring
import Mathlib.Data.List.Perm.Subperm

/-!
# AutoMlos.LogClient.Accounting

What becomes of the entries a client accepted.

Between two initialisations the ledger balances: as a multiset, the accepted
entries are the published ones, the overwritten ones and the ones held
(`ClientLedger.Balanced`).  `log_client_init` zeroes the early buffer before
it could flush it, so it publishes nothing and whatever was held is gone:
nothing is lost in a run exactly when every initialisation finds the early
buffer empty.
-/

namespace AutoMlos

open Lib

/-! ## the early buffer is a ring -/

/-- The buffer's fields hold this ring. -/
structure EarlyLogBuffer.Represents (b : EarlyLogBuffer) (r : RingBuffer LogEntryBinary 32) :
    Prop where
  slots : b.entries = r.slots
  write : b.writeIndex.toNat = r.write
  read : b.readIndex.toNat = r.read
  count : b.count.toNat = r.count

section Ring

variable {b : EarlyLogBuffer} {r : RingBuffer LogEntryBinary 32}

theorem EarlyLogBuffer.Represents.held_eq (h : b.Represents r) : b.held = r.toList := by
  rw [EarlyLogBuffer.held, h.slots, h.read, h.count]
  rfl

theorem toNat_earlyNext (index : UInt16) : (earlyNext index).toNat = (index.toNat + 1) % 32 := by
  rw [earlyNext, UInt16.toNat_ofNat', earlyLogBufferCapacity]
  omega

/-- Storing pushes onto the ring: the oldest entry makes room when it is full. -/
theorem earlyLogBufferStore_spec (h : b.Represents r) (hinit : b.initialized = true)
    (e : LogEntryBinary) :
    ∃ b', earlyLogBufferStore b e = .ok (logClientOk, b') ∧ b'.Represents (r.push e) ∧
      b'.initialized = true := by
  have hw : b.writeIndex.toNat < 32 := h.write ▸ r.write_lt
  have hle := r.count_le
  have hcapacity : earlyLogBufferCapacity = 32 := rfl
  have hcount : b.count.toNat = r.count := h.count
  rw [earlyLogBufferStore, if_neg (by simp [hinit]), hcapacity, hcount]
  by_cases hfull : r.count < 32
  · rw [if_neg (Nat.not_le.mpr hfull)]
    simp only [Outcome.writeAt_of_lt _ _ hw, Outcome.ok_bind, Outcome.pure_eq_ok]
    refine ⟨_, rfl, ?_, hinit⟩
    exact
      { slots := by simp only [RingBuffer.push, h.slots, h.write]
        write := by simp only [RingBuffer.push, toNat_earlyNext, h.write]
        read := by simp only [RingBuffer.push, if_pos hfull, h.read]
        count := by
          simp only [RingBuffer.push, if_pos hfull, UInt16.toNat_add, hcount, UInt16.toNat_one]
          omega }
  · rw [if_pos (Nat.le_of_not_lt hfull)]
    simp only [Outcome.writeAt_of_lt _ _ hw, Outcome.ok_bind, Outcome.pure_eq_ok]
    refine ⟨_, rfl, ?_, hinit⟩
    exact
      { slots := by simp only [RingBuffer.push, h.slots, h.write]
        write := by simp only [RingBuffer.push, toNat_earlyNext, h.write]
        read := by simp only [RingBuffer.push, if_neg hfull, toNat_earlyNext, h.read]
        count := by simp only [RingBuffer.push, if_neg hfull, UInt16.sub_add_cancel, hcount] }

end Ring

theorem earlyLogBufferCapacity_pos : 0 < earlyLogBufferCapacity := by decide

/-- The ring of a zeroed buffer. -/
def earlyZeroRing : RingBuffer LogEntryBinary 32 :=
  .empty (Vector.replicate 32 LogEntryBinary.zero) earlyLogBufferCapacity_pos

/-! ## the client functions -/

/-- `log_client_init` ends with a zeroed buffer and publishes nothing; it
succeeds when there is a publisher or one can be created. -/
theorem logClientInit_eq (client : LogClient) (created : Bool) (publish : Nat → Bool) :
    logClientInit client created publish =
      .ok (if client.publisher || created then logClientOk else logClientNotFound,
        { publisher := client.publisher || created
          early := { EarlyLogBuffer.zero with initialized := true } }, []) := by
  obtain ⟨publisher, early⟩ := client
  cases publisher <;> cases created <;> rfl

/-- An entry made from arguments passes its own checksum. -/
theorem logVerifyEntryIntegritySafe_logMakeEntry (args : LogArgs) (pid : UInt16) (time : UInt64) :
    logVerifyEntryIntegritySafe (some (logMakeEntry args pid time)) = logOk :=
  if_neg (not_not.mpr rfl)

/-- Preparing an entry fails with an error, or makes the entry of the readings. -/
theorem logPrepareEntry_cases (args : LogArgs) (sys : SysReadings) :
    (∃ error, error.errorCode ≠ errBaseOk ∧ logPrepareEntry args sys = .error error) ∨
      logPrepareEntry args sys = .ok (ClientLedger.sentEntry args sys) := by
  unfold logPrepareEntry
  cases hcheck : logCheckArgs args with
  | some error =>
      have herror : error = logInvalidParam := by
        have heq := logCheckArgs_eq args
        rw [hcheck] at heq
        split at heq
        · contradiction
        · exact Option.some.inj heq
      exact Or.inl ⟨error, by rw [herror]; decide, rfl⟩
  | none =>
      by_cases hpid : sys.pid.1.errorCode ≠ errBaseOk
      · exact Or.inl ⟨sys.pid.1, hpid, if_pos hpid⟩
      · by_cases htime : sys.time.1.errorCode ≠ errBaseOk
        · exact Or.inl ⟨sys.time.1, htime, by simp only [if_neg hpid, if_pos htime]⟩
        · exact Or.inr (by simp only [if_neg hpid, if_neg htime]; rfl)

section Send

variable {client : LogClient} {args : LogArgs} {sys : SysReadings}

/-- A send whose entry cannot be made is rejected without effect. -/
theorem logClientSendEntry_of_error {error : SystemError} (herror : error.errorCode ≠ errBaseOk)
    (h : logPrepareEntry args sys = .error error) (published : Bool) :
    logClientSendEntry client args sys published = .ok (error, client, []) := by
  simp only [logClientSendEntry, logCreateEntry, h, if_pos herror, Outcome.pure_eq_ok]

/-- An entry that was made is published, or goes to the early buffer. -/
theorem logClientSendEntry_of_ok
    (h : logPrepareEntry args sys = .ok (ClientLedger.sentEntry args sys))
    (published : Bool) :
    logClientSendEntry client args sys published =
      if client.publisher ∧ published then
        .ok (logClientOk, client, [ClientLedger.sentEntry args sys])
      else do
        let (error, early) ← earlyLogBufferStore client.early (ClientLedger.sentEntry args sys)
        return (error, { client with early }, []) := by
  have hverify : logVerifyEntryIntegritySafe (some (ClientLedger.sentEntry args sys)) = logOk :=
    logVerifyEntryIntegritySafe_logMakeEntry _ _ _
  have hok : ¬ logOk.errorCode ≠ errBaseOk := by decide
  simp only [logClientSendEntry, logCreateEntry, h, if_neg hok, sendLogEntryPubsub,
    Option.getD_some, hverify, Outcome.pure_eq_ok]

end Send

/-! ## the ledger -/

/-- Every accepted entry is published, overwritten or held; after an
initialisation that succeeds nothing is held, all of it having been published. -/
def NothingLost (l : ClientLedger) (call : ClientCall) (reply : SystemError) (l' : ClientLedger) :
    Prop :=
  l'.accepted.Subperm (l'.published ++ l'.overwritten ++ l'.held) ∧
    match call with
    | .init _ _ => reply.errorCode = errBaseOk → l'.held = [] ∧ l'.published = l.published ++ l.held
    | _ => True

/-- An initialisation finds the early buffer empty. -/
def InitFindsEmpty (l : ClientLedger) (call : ClientCall) (_ : SystemError) (_ : ClientLedger) :
    Prop :=
  match call with
  | .init _ _ => l.client.early.count = 0
  | _ => True

instance (l : ClientLedger) (call : ClientCall) (reply : SystemError) (l' : ClientLedger) :
    Decidable (InitFindsEmpty l call reply l') :=
  match call with
  | .init _ _ => inferInstanceAs (Decidable (l.client.early.count = 0))
  | .send _ _ _ => instDecidableTrue
  | .cleanup => instDecidableTrue

namespace ClientLedger

/-- The ledger balances, and the early buffer is a ring. -/
structure Balanced (l : ClientLedger) : Prop where
  ring : ∃ r, l.client.early.Represents r
  perm : l.accepted.Perm (l.published ++ l.overwritten ++ l.held)

theorem balanced_start : start.Balanced where
  ring := ⟨earlyZeroRing, rfl, rfl, rfl, rfl⟩
  perm := List.Perm.refl []

variable {l : ClientLedger}

theorem Balanced.length_held_le (h : l.Balanced) : l.held.length ≤ 32 := by
  obtain ⟨r, hr⟩ := h.ring
  rw [held, hr.held_eq, RingBuffer.length_toList]
  exact r.count_le

/-- The ledger after an initialisation: a zeroed buffer, nothing published. -/
def afterInit (l : ClientLedger) (created : Bool) : ClientLedger :=
  { l with
    client :=
      { publisher := l.client.publisher || created
        early := { EarlyLogBuffer.zero with initialized := true } } }

theorem step_init_eq (l : ClientLedger) (created : Bool) (publish : Nat → Bool) :
    l.step (.init created publish) =
      .ok (if l.client.publisher || created then logClientOk else logClientNotFound,
        l.afterInit created) := by
  rw [step, logClientInit_eq]
  simp only [Outcome.ok_bind, Outcome.pure_eq_ok, List.append_nil, afterInit]

theorem count_eq_zero_iff (l : ClientLedger) : l.client.early.count = 0 ↔ l.held = [] := by
  rw [← UInt16.toNat_inj, held, EarlyLogBuffer.held, List.map_eq_nil_iff, List.range_eq_nil]
  rfl

theorem Balanced.afterInit (h : l.Balanced) (hempty : l.held = []) (created : Bool) :
    (l.afterInit created).Balanced where
  ring := ⟨earlyZeroRing, rfl, rfl, rfl, rfl⟩
  perm := by
    have hperm := h.perm
    rw [hempty] at hperm
    exact hperm

/-- **Initialisation** loses nothing exactly when it finds the buffer empty. -/
theorem Balanced.init_iff (h : l.Balanced) (created : Bool) (publish : Nat → Bool)
    (reply : SystemError) :
    NothingLost l (.init created publish) reply (l.afterInit created) ↔ l.held = [] := by
  constructor
  · rintro ⟨hsub, -⟩
    have hlen := hsub.length_le
    have hbalance := h.perm.length_eq
    have hafter : (l.afterInit created).accepted.length ≤
        (l.published ++ l.overwritten ++ []).length := hlen
    change l.accepted.length ≤ _ at hafter
    simp only [List.length_append, List.length_nil] at hafter hbalance
    rw [← List.length_eq_zero_iff]
    omega
  · intro hempty
    refine ⟨(h.afterInit hempty created).perm.subperm, fun _ => ⟨rfl, ?_⟩⟩
    rw [hempty, List.append_nil]
    rfl

/-- Storing a further entry keeps the balance: it is held, at the price of the
oldest entry when 32 are. -/
theorem Balanced.store (h : l.Balanced) {early : EarlyLogBuffer} {e : LogEntryBinary}
    (hearly : ∃ r, l.client.early.Represents r ∧ early.Represents (r.push e)) :
    ClientLedger.Balanced
      { client := { l.client with early }
        accepted := l.accepted ++ [e]
        published := l.published
        overwritten :=
          if l.held.length = 32 then l.overwritten ++ l.held.take 1 else l.overwritten } := by
  obtain ⟨r, hr, hpush⟩ := hearly
  refine ⟨⟨_, hpush⟩, ?_⟩
  have hperm := h.perm
  have hle := h.length_held_le
  have hheld : early.held = enqueue 32 l.held e := by
    rw [hpush.held_eq, RingBuffer.toList_push, held, hr.held_eq]
  change (l.accepted ++ [e]).Perm (l.published ++
    (if l.held.length = 32 then l.overwritten ++ l.held.take 1 else l.overwritten) ++ early.held)
  rw [hheld]
  by_cases hfull : l.held.length = 32
  · have hsplit : l.held.take 1 ++ (l.held.tail ++ [e]) = l.held ++ [e] := by
      rw [← List.append_assoc, ← List.drop_one, List.take_append_drop]
    rw [if_pos hfull, enqueue_of_le (by omega), ← List.append_assoc l.published,
      List.append_assoc _ (l.held.take 1), hsplit, ← List.append_assoc]
    exact hperm.append_right [e]
  · rw [if_neg hfull, enqueue_of_lt (by omega), ← List.append_assoc]
    exact hperm.append_right [e]

/-- Publishing an entry keeps the balance. -/
theorem Balanced.publish (h : l.Balanced) (e : LogEntryBinary) :
    ClientLedger.Balanced
      { l with accepted := l.accepted ++ [e], published := l.published ++ [e] } := by
  refine ⟨h.ring, ?_⟩
  have hperm := h.perm
  rw [List.perm_iff_count] at hperm ⊢
  intro a
  have ha := hperm a
  simp only [List.count_append, held] at ha ⊢
  omega

/-- **A send** keeps the balance, whatever happens to the publish. -/
theorem Balanced.step_send (h : l.Balanced) (args : LogArgs) (sys : SysReadings)
    (published : Bool) :
    ∃ reply l', l.step (.send args sys published) = .ok (reply, l') ∧ l'.Balanced := by
  rcases logPrepareEntry_cases args sys with ⟨error, herror, hprepare⟩ | hprepare
  · refine ⟨error, l, ?_, h⟩
    simp only [step, logClientSendEntry_of_error herror hprepare, Outcome.ok_bind, if_pos herror,
      Outcome.pure_eq_ok, List.append_nil]
  · have hok : ¬ logClientOk.errorCode ≠ errBaseOk := by decide
    by_cases hpublish : l.client.publisher ∧ published
    · refine ⟨logClientOk, _, ?_, h.publish (sentEntry args sys)⟩
      simp only [step, logClientSendEntry_of_ok hprepare, if_pos hpublish, Outcome.ok_bind,
        if_neg hok, Outcome.pure_eq_ok, List.cons_ne_nil, false_and, if_false]
    · obtain ⟨r, hr⟩ := h.ring
      by_cases hinit : l.client.early.initialized = true
      · obtain ⟨early, hstore, hpush, -⟩ :=
          earlyLogBufferStore_spec hr hinit (sentEntry args sys)
        refine ⟨logClientOk, _, ?_, h.store ⟨r, hr, hpush⟩⟩
        simp only [step, logClientSendEntry_of_ok hprepare, if_neg hpublish, hstore,
          Outcome.ok_bind, if_neg hok, Outcome.pure_eq_ok, List.append_nil, true_and]
      · -- before the first initialisation nothing is stored
        have hcritical : (logCritical errSafeCriticalNull).errorCode ≠ errBaseOk := by decide
        have hstore : earlyLogBufferStore l.client.early (sentEntry args sys) =
            .ok (logCritical errSafeCriticalNull, l.client.early) := by
          rw [earlyLogBufferStore, if_pos (by simpa using hinit)]
          rfl
        refine ⟨logCritical errSafeCriticalNull, l, ?_, h⟩
        simp only [step, logClientSendEntry_of_ok hprepare, if_neg hpublish, hstore,
          Outcome.ok_bind, if_pos hcritical, Outcome.pure_eq_ok, List.append_nil]

/-- **One call** loses nothing exactly when it is not an initialisation that
finds entries in the buffer. -/
theorem Balanced.step_iff (h : l.Balanced) (call : ClientCall) :
    ∃ reply l', l.step call = .ok (reply, l') ∧
      (NothingLost l call reply l' ↔ InitFindsEmpty l call reply l') ∧
      (NothingLost l call reply l' → l'.Balanced) := by
  cases call with
  | init created publish =>
      refine ⟨_, _, step_init_eq l created publish, ?_, fun hlost => ?_⟩
      · rw [InitFindsEmpty, count_eq_zero_iff]
        exact h.init_iff created publish _
      · exact h.afterInit ((h.init_iff created publish _).mp hlost) created
  | send args sys published =>
      obtain ⟨reply, l', hstep, h'⟩ := h.step_send args sys published
      exact ⟨reply, l', hstep, iff_of_true ⟨h'.perm.subperm, trivial⟩ trivial, fun _ => h'⟩
  | cleanup =>
      have hearly : (logClientCleanup l.client).early = l.client.early := by
        unfold logClientCleanup
        split <;> rfl
      have h' : ClientLedger.Balanced { l with client := logClientCleanup l.client } := by
        refine ⟨?_, ?_⟩
        · rw [hearly]
          exact h.ring
        · rw [held, hearly]
          exact h.perm
      exact ⟨logClientOk, _, rfl, iff_of_true ⟨h'.perm.subperm, trivial⟩ trivial, fun _ => h'⟩

end ClientLedger

/-! ## whole runs -/

theorem always_nothingLost_iff {l : ClientLedger} (hl : l.Balanced) (calls : List ClientCall) :
    Always ClientLedger.step NothingLost l calls ↔
      Always ClientLedger.step InitFindsEmpty l calls :=
  always_iff_always (fun _ call (h : ClientLedger.Balanced _) => h.step_iff call) hl calls

/-- **No accepted entry is lost** in a run of the client, whatever the
publisher does, exactly when every initialisation finds the early buffer
empty. -/
theorem client_nothing_lost_iff (calls : List ClientCall) :
    Always ClientLedger.step NothingLost .start calls ↔
      Always ClientLedger.step InitFindsEmpty .start calls :=
  always_nothingLost_iff ClientLedger.balanced_start calls

/-- An initialisation without a publisher, an accepted entry, and a second
initialisation: the entry is gone. -/
theorem client_not_always_nothing_lost :
    ¬ ∀ calls : List ClientCall, Always ClientLedger.step NothingLost .start calls := by
  intro h
  have hrun := (always_nothingLost_iff ClientLedger.balanced_start _).mp (h
    [.init false fun _ => true, .send ⟨1, 0, 3, 0, 0⟩ (.succeed 123 1000) true,
      .init true fun _ => true])
  revert hrun
  decide

end AutoMlos
