import AutoMlos.IpcBatch
import AutoMlos.Lib.Batching

/-!
# AutoMlos.IpcBatch.Container

A batch is a bounded list of messages.

Beside a batch stand the messages that it has accepted since it was last
cleared.  The storage is their concatenation: each message goes behind the last
one, and the guard at creation keeps every product of sizes within `SIZE_MAX`.
The calls answer as those of a bounded list do, and so the messages accepted are
the first ones that were given since the last clear.
-/

namespace AutoMlos

open Lib

/-- A batch, and the messages it has accepted since it was last cleared. -/
structure ObservedBatch where
  state : BatchState
  accepted : List (List UInt8)

/-- What a call that returns 0 does to the accepted messages. -/
def noteAccepted (messageSize : Nat) (accepted : List (List UInt8)) :
    BatchCall → Int → List (List UInt8)
  | .add (some message), 0 => accepted ++ [loadBytes message 0 messageSize]
  | .clear, 0 => []
  | _, _ => accepted

namespace ObservedBatch

/-- One call, with the accepted messages noted. -/
def step (w : Nat) (o : ObservedBatch) (call : BatchCall) : Int × ObservedBatch :=
  let (result, state) := o.state.step w call
  (result, { state, accepted := noteAccepted o.state.batch.messageSize o.accepted call result })

/-- A batch that was just created. -/
def fresh (batch : IpcBatch) (mem : Nat → UInt8) : ObservedBatch := ⟨⟨batch, mem⟩, []⟩

/-- The batch with one more error counted. -/
def countError (o : ObservedBatch) : ObservedBatch :=
  { o with state := { o.state with
      batch := { o.state.batch with errorCount := o.state.batch.errorCount + 1 } } }

/-- The storage is the concatenation of the accepted messages, which are not
too many, and their size is a `size_t`. -/
structure Holds (w messageSize : Nat) (maxMessages : UInt32) (o : ObservedBatch) : Prop where
  stored : loadBytes o.state.mem o.state.batch.messages
    (o.state.batch.messageCount.toNat * messageSize) = o.accepted.flatten
  counted : o.state.batch.messageCount.toNat = o.accepted.length
  count_le : o.state.batch.messageCount ≤ maxMessages
  size_le : o.state.batch.messageCount.toNat * messageSize ≤ sizeMax w

end ObservedBatch

/-- What a call does to a batch with this storage. -/
structure BatchLaw (w messageSize : Nat) (maxMessages : UInt32) (storage : Region)
    (o : ObservedBatch) (call : BatchCall) (result : Int) (o' : ObservedBatch) : Prop where
  holds : o'.Holds w messageSize maxMessages
  added_iff : ∀ message, call = .add message →
    (result = 0 ↔ message ≠ none ∧ o.state.batch.messageCount < maxMessages)
  added : ∀ message, call = .add (some message) → result = 0 →
    o'.accepted = o.accepted ++ [loadBytes message 0 messageSize]
  refused_iff : ∀ message, call = .add message →
    (result = -1 ↔ message = none ∨ o.state.batch.messageCount = maxMessages)
  refused : ∀ message, call = .add message → result = -1 → o' = o.countError
  cleared : call = .clear → result = 0 ∧ o'.accepted = []
  inside : ∀ a, ¬ storage.Contains a → o'.state.mem a = o.state.mem a

/-! ## one call -/

/-- The parameters of a batch that no call changes. -/
structure ObservedBatch.Keeps (base messageSize : Nat) (maxMessages : UInt32) (o : ObservedBatch) :
    Prop where
  messages : o.state.batch.messages = base
  messageSize : o.state.batch.messageSize = messageSize
  maxMessages : o.state.batch.maxMessages = maxMessages

section Call

variable {w base messageSize : Nat} {maxMessages : UInt32} {o : ObservedBatch}

/-- An empty batch holds no messages. -/
theorem ObservedBatch.Holds.empty (hcount : o.state.batch.messageCount = 0)
    (haccepted : o.accepted = []) : o.Holds w messageSize maxMessages := by
  have hzero : o.state.batch.messageCount.toNat * messageSize = 0 := by
    rw [hcount, UInt32.toNat_zero, Nat.zero_mul]
  refine ⟨?_, ?_, hcount ▸ UInt32.zero_le, hzero ▸ Nat.zero_le _⟩
  · rw [hzero, haccepted]
    rfl
  · rw [hcount, haccepted]
    rfl

theorem ObservedBatch.Keeps.countError (h : o.Keeps base messageSize maxMessages) :
    o.countError.Keeps base messageSize maxMessages :=
  ⟨h.messages, h.messageSize, h.maxMessages⟩

/-- A message that is refused is counted as an error. -/
theorem batchLaw_refuse (h : o.Holds w messageSize maxMessages) {message : Option (Nat → UInt8)}
    (hrefuse : message = none ∨ o.state.batch.messageCount = maxMessages) (storage : Region) :
    BatchLaw w messageSize maxMessages storage o (.add message) (-1) o.countError where
  holds := ⟨h.stored, h.counted, h.count_le, h.size_le⟩
  added_iff := by
    rintro _ ⟨⟩
    refine iff_of_false (by decide) fun ⟨hmessage, hroom⟩ => ?_
    rcases hrefuse with hnull | hfull
    · exact hmessage hnull
    · exact absurd hfull (UInt32.ne_of_lt hroom)
  added _ _ hadded := absurd hadded (by decide)
  refused_iff := by
    rintro _ ⟨⟩
    exact iff_of_true rfl hrefuse
  refused _ _ _ := rfl
  cleared := by rintro ⟨⟩
  inside _ _ := rfl

/-- Below the capacity there is room for one more message. -/
theorem next_size_le (messageSize : Nat) {count : UInt32} (hroom : count < maxMessages) :
    (count + 1).toNat = count.toNat + 1 ∧
      (count.toNat + 1) * messageSize ≤ messageSize * maxMessages.toNat := by
  have hlt : count.toNat < maxMessages.toNat := UInt32.lt_iff_toNat_lt.mp hroom
  have hbound := maxMessages.toNat_lt
  constructor
  · rw [UInt32.toNat_add, UInt32.toNat_one]
    omega
  · rw [Nat.mul_comm messageSize]
    exact Nat.mul_le_mul_right messageSize hlt

/-- The batch with a message behind the last one. -/
def ObservedBatch.accept (o : ObservedBatch) (message : Nat → UInt8) : ObservedBatch where
  state :=
    { batch := { o.state.batch with messageCount := o.state.batch.messageCount + 1 }
      mem := storeBytes o.state.mem
        (o.state.batch.messages + o.state.batch.messageCount.toNat * o.state.batch.messageSize)
        (loadBytes message 0 o.state.batch.messageSize) }
  accepted := o.accepted ++ [loadBytes message 0 o.state.batch.messageSize]

theorem ObservedBatch.step_add_of_full (hkeeps : o.Keeps base messageSize maxMessages)
    (hfull : o.state.batch.messageCount ≥ maxMessages) (message : Nat → UInt8) :
    o.step w (.add (some message)) = (-1, o.countError) := by
  rw [← hkeeps.maxMessages] at hfull
  simp only [step, BatchState.step, ipcBatchAddMessage, if_pos hfull]
  rfl

theorem ObservedBatch.step_add_of_room (hkeeps : o.Keeps base messageSize maxMessages)
    (hsize : o.state.batch.messageCount.toNat * messageSize ≤ sizeMax w)
    (hroom : o.state.batch.messageCount < maxMessages) (message : Nat → UInt8) :
    o.step w (.add (some message)) = (0, o.accept message) := by
  rw [← hkeeps.messageSize] at hsize
  have hnot : ¬ o.state.batch.messageCount ≥ o.state.batch.maxMessages := by
    rw [hkeeps.maxMessages]
    exact UInt32.not_le.mpr hroom
  simp only [step, BatchState.step, ipcBatchAddMessage, if_neg hnot, mixedMul_of_le hsize]
  rfl

/-- A message that is accepted goes behind the last one. -/
theorem ObservedBatch.Holds.accept (hfits : messageSize * maxMessages.toNat ≤ sizeMax w)
    (hkeeps : o.Keeps base messageSize maxMessages) (h : o.Holds w messageSize maxMessages)
    (hroom : o.state.batch.messageCount < maxMessages) (message : Nat → UInt8) :
    (o.accept message).Holds w messageSize maxMessages := by
  obtain ⟨hnext, hle⟩ := next_size_le messageSize hroom
  have hcount : (o.accept message).state.batch.messageCount.toNat =
      o.state.batch.messageCount.toNat + 1 := hnext
  refine ⟨?_, ?_, ?_, ?_⟩
  · rw [hcount]
    simp only [ObservedBatch.accept, hkeeps.messageSize, Nat.add_mul, Nat.one_mul, loadBytes_add,
      loadBytes_storeBytes_loadBytes, loadBytes_storeBytes_below (Nat.le_refl _), h.stored]
    simp
  · rw [hcount, h.counted, ObservedBatch.accept, List.length_append, List.length_singleton]
  · rw [UInt32.le_iff_toNat_le, hcount]
    exact UInt32.lt_iff_toNat_lt.mp hroom
  · rw [hcount]
    exact Nat.le_trans hle hfits

/-- It goes nowhere else. -/
theorem ObservedBatch.mem_accept (hkeeps : o.Keeps base messageSize maxMessages)
    (hroom : o.state.batch.messageCount < maxMessages) (message : Nat → UInt8) {a : Nat}
    (hout : ¬ (⟨base, messageSize * maxMessages.toNat⟩ : Region).Contains a) :
    (o.accept message).state.mem a = o.state.mem a := by
  obtain ⟨-, hle⟩ := next_size_le messageSize hroom
  refine if_neg fun hin => hout ?_
  rw [length_loadBytes, hkeeps.messages, hkeeps.messageSize, Nat.add_assoc, ← Nat.succ_mul] at hin
  exact ⟨Nat.le_trans (Nat.le_add_right _ _) hin.1,
    Nat.lt_of_lt_of_le hin.2 (Nat.add_le_add_left hle base)⟩

theorem batchLaw_accept (hfits : messageSize * maxMessages.toNat ≤ sizeMax w)
    (hkeeps : o.Keeps base messageSize maxMessages) (h : o.Holds w messageSize maxMessages)
    (hroom : o.state.batch.messageCount < maxMessages) (message : Nat → UInt8) :
    BatchLaw w messageSize maxMessages ⟨base, messageSize * maxMessages.toNat⟩ o
      (.add (some message)) 0 (o.accept message) where
  holds := h.accept hfits hkeeps hroom message
  added_iff := by
    rintro _ ⟨⟩
    exact iff_of_true rfl ⟨nofun, hroom⟩
  added := by
    rintro _ ⟨⟩ -
    rw [ObservedBatch.accept, hkeeps.messageSize]
  refused_iff := by
    rintro _ ⟨⟩
    have hnotFull := UInt32.ne_of_lt hroom
    simp [hnotFull]
  refused _ _ hfailed := absurd hfailed (by decide)
  cleared := by rintro ⟨⟩
  inside _ := ObservedBatch.mem_accept hkeeps hroom message

/-- Clearing leaves a batch without messages. -/
theorem batchLaw_clear (storage : Region) :
    BatchLaw w messageSize maxMessages storage o .clear 0 (o.step w .clear).2 where
  holds := .empty rfl rfl
  added_iff := by rintro _ ⟨⟩
  added := by rintro _ ⟨⟩
  refused_iff := by rintro _ ⟨⟩
  refused := by rintro _ ⟨⟩
  cleared _ := ⟨rfl, rfl⟩
  inside _ _ := rfl

/-- Each call keeps the parameters of the batch. -/
theorem ObservedBatch.Keeps.step (hkeeps : o.Keeps base messageSize maxMessages)
    (call : BatchCall) : (o.step w call).2.Keeps base messageSize maxMessages := by
  cases call with
  | clear => exact ⟨hkeeps.messages, hkeeps.messageSize, hkeeps.maxMessages⟩
  | add message =>
      cases message with
      | none => exact hkeeps.countError
      | some message =>
          simp only [ObservedBatch.step, BatchState.step, ipcBatchAddMessage]
          split_ifs
          · exact hkeeps.countError
          · exact ⟨hkeeps.messages, hkeeps.messageSize, hkeeps.maxMessages⟩

/-- Each call obeys the law. -/
theorem ObservedBatch.Holds.step (hfits : messageSize * maxMessages.toNat ≤ sizeMax w)
    (hkeeps : o.Keeps base messageSize maxMessages) (h : o.Holds w messageSize maxMessages)
    (call : BatchCall) :
    BatchLaw w messageSize maxMessages ⟨base, messageSize * maxMessages.toNat⟩ o call
      (o.step w call).1 (o.step w call).2 := by
  cases call with
  | clear => exact batchLaw_clear _
  | add message =>
      cases message with
      | none => exact batchLaw_refuse h (.inl rfl) _
      | some message =>
          by_cases hroom : o.state.batch.messageCount < maxMessages
          · rw [step_add_of_room hkeeps h.size_le hroom]
            exact batchLaw_accept hfits hkeeps h hroom message
          · have hge : o.state.batch.messageCount ≥ maxMessages := UInt32.not_lt.mp hroom
            rw [step_add_of_full hkeeps hge]
            exact batchLaw_refuse h (.inr (UInt32.le_antisymm h.count_le hge)) _

/-- So a batch that keeps its parameters and holds its messages goes on doing
so. -/
theorem ObservedBatch.keeps_holds_step (hfits : messageSize * maxMessages.toNat ≤ sizeMax w)
    (h : o.Keeps base messageSize maxMessages ∧ o.Holds w messageSize maxMessages)
    (call : BatchCall) :
    (o.step w call).2.Keeps base messageSize maxMessages ∧
      (o.step w call).2.Holds w messageSize maxMessages :=
  ⟨h.1.step call, (h.2.step hfits h.1 call).holds⟩

end Call

/-! ## the list of messages -/

/-- What a call does to a list of messages. -/
def BatchCall.input (messageSize : Nat) : BatchCall → BatchInput (List UInt8)
  | .add message => .give (message.map fun m => loadBytes m 0 messageSize)
  | .clear => .clear

/-- The result that shows whether a call was accepted. -/
def batchResult (accepted : Bool) : Int := if accepted then 0 else -1

/-- The accepted messages are those in the list, and `error_count` counts what it
has refused. -/
structure ObservedBatch.Shows (o : ObservedBatch) (b : Batching (List UInt8)) : Prop where
  accepted : o.accepted = b.held
  errorCount : o.state.batch.errorCount = .ofNat b.refused

section Refinement

variable {w base messageSize : Nat} {maxMessages : UInt32} {o : ObservedBatch}
  {b : Batching (List UInt8)}

theorem ObservedBatch.Shows.refuse (h : o.Shows b) : o.countError.Shows b.refuse where
  accepted := h.accepted
  errorCount := by
    rw [Batching.refuse, UInt32.ofNat_add, ← h.errorCount]
    rfl

/-- **One call** answers as the list does. -/
theorem ObservedBatch.Shows.step (hkeeps : o.Keeps base messageSize maxMessages)
    (hholds : o.Holds w messageSize maxMessages) (h : o.Shows b) (call : BatchCall) :
    (o.step w call).1 =
        batchResult (b.step maxMessages.toNat (call.input messageSize)).1 ∧
      (o.step w call).2.Shows (b.step maxMessages.toNat (call.input messageSize)).2 := by
  cases call with
  | clear => exact ⟨rfl, rfl, h.errorCount⟩
  | add message =>
      cases message with
      | none => exact ⟨rfl, h.refuse⟩
      | some message =>
          have hiff : b.held.length < maxMessages.toNat ↔
              o.state.batch.messageCount < maxMessages := by
            rw [UInt32.lt_iff_toNat_lt, hholds.counted, h.accepted]
          rw [BatchCall.input, Option.map_some, Batching.step]
          by_cases hroom : o.state.batch.messageCount < maxMessages
          · rw [step_add_of_room hkeeps hholds.size_le hroom, if_pos (hiff.mpr hroom)]
            refine ⟨rfl, ?_, h.errorCount⟩
            rw [accept, hkeeps.messageSize, h.accepted]
          · rw [step_add_of_full hkeeps (UInt32.not_lt.mp hroom), if_neg (mt hiff.mp hroom)]
            exact ⟨rfl, h.refuse⟩

end Refinement

section Runs

variable {w messageSize : Nat} {maxMessages : UInt32} {allocated : Bool} {malloc : Nat → Option Nat}
  {batch : IpcBatch}

/-- A batch that was just created has its parameters and holds no messages. -/
theorem ObservedBatch.keeps_holds_fresh
    (hcreate : ipcCreateBatch w messageSize maxMessages allocated malloc = some batch)
    (mem : Nat → UInt8) :
    (fresh batch mem).Keeps batch.messages messageSize maxMessages ∧
      (fresh batch mem).Holds w messageSize maxMessages := by
  obtain ⟨-, -, -, hbatch⟩ := ipcCreateBatch_eq_some hcreate
  rw [hbatch]
  exact ⟨⟨rfl, rfl, rfl⟩, .empty rfl rfl⟩

/-- Every batch that is created holds, along every run, the messages accepted
since it was last cleared, in the storage that was allocated for them.  Its calls
answer as those of a bounded list of messages, so that these are the first ones
given since the last clear. -/
theorem batch_container
    (hcreate : ipcCreateBatch w messageSize maxMessages allocated malloc = some batch)
    (mem : Nat → UInt8) (calls : List BatchCall) :
    let run := mealy (ObservedBatch.step w) (ObservedBatch.fresh batch mem) calls
    let inputs := calls.map (·.input messageSize)
    let list := mealy (Batching.step maxMessages.toNat) .empty inputs
    malloc (messageSize * maxMessages.toNat) = some batch.messages ∧
      (ObservedBatch.fresh batch mem).Holds w messageSize maxMessages ∧
      Always (total (ObservedBatch.step w))
        (BatchLaw w messageSize maxMessages ⟨batch.messages, messageSize * maxMessages.toNat⟩)
        (ObservedBatch.fresh batch mem) calls ∧
      run.1 = list.1.map batchResult ∧
      run.2.accepted = (Batching.given inputs).take maxMessages.toNat ∧
      run.2.state.batch.errorCount = .ofNat list.2.refused := by
  obtain ⟨-, hfits, hmalloc, hbatch⟩ := ipcCreateBatch_eq_some hcreate
  have hstart := ObservedBatch.keeps_holds_fresh hcreate mem
  have hlaw (o : ObservedBatch) (call : BatchCall)
      (hinv : o.Keeps batch.messages messageSize maxMessages ∧ o.Holds w messageSize maxMessages) :
      BatchLaw w messageSize maxMessages ⟨batch.messages, messageSize * maxMessages.toNat⟩ o call
          (o.step w call).1 (o.step w call).2 ∧
        (o.step w call).2.Keeps batch.messages messageSize maxMessages ∧
          (o.step w call).2.Holds w messageSize maxMessages :=
    ⟨hinv.2.step hfits hinv.1 call, ObservedBatch.keeps_holds_step hfits hinv call⟩
  have hshows (o : ObservedBatch) (b : Batching (List UInt8)) (call : BatchCall)
      (hinv : (o.Keeps batch.messages messageSize maxMessages ∧
        o.Holds w messageSize maxMessages) ∧ o.Shows b) (_ : True) :
      (o.step w call).1 = batchResult (b.step maxMessages.toNat (call.input messageSize)).1 ∧
        ((o.step w call).2.Keeps batch.messages messageSize maxMessages ∧
          (o.step w call).2.Holds w messageSize maxMessages) ∧
          (o.step w call).2.Shows (b.step maxMessages.toNat (call.input messageSize)).2 := by
    obtain ⟨⟨hkeeps, hholds⟩, hshows⟩ := hinv
    obtain ⟨hresult, hnext⟩ := hshows.step hkeeps hholds call
    exact ⟨hresult, ObservedBatch.keeps_holds_step hfits ⟨hkeeps, hholds⟩ call, hnext⟩
  have hempty : (ObservedBatch.fresh batch mem).Shows .empty := by
    refine ⟨rfl, ?_⟩
    rw [hbatch]
    rfl
  obtain ⟨hresults, -, hend⟩ := mealy_represents hshows ⟨hstart, hempty⟩
    (fun call (_ : call ∈ calls) => trivial)
  refine ⟨hmalloc, hstart.2, always_total hlaw hstart calls, hresults, ?_, hend.errorCount⟩
  rw [hend.accepted, Batching.held_mealy]

end Runs

theorem batch_container_full :
    let calls : List BatchCall :=
      [.add (some UInt8.ofNat), .add none, .add (some UInt8.ofNat), .clear,
        .add (some fun i => .ofNat (i + 1))]
    let run := mealy (ObservedBatch.step 64) (.fresh ⟨4096, 4, 0, 1, 0⟩ fun _ => 0) calls
    let inputs := calls.map (·.input 4)
    let list := mealy (Batching.step 1) .empty inputs
    some 4096 = some 4096 ∧
      (ObservedBatch.fresh ⟨4096, 4, 0, 1, 0⟩ fun _ => 0).Holds 64 4 1 ∧
      Always (total (ObservedBatch.step 64)) (BatchLaw 64 4 1 ⟨4096, 4 * 1⟩)
        (.fresh ⟨4096, 4, 0, 1, 0⟩ fun _ => 0) calls ∧
      run.1 = list.1.map batchResult ∧ run.2.accepted = (Batching.given inputs).take 1 ∧
      run.2.state.batch.errorCount = .ofNat list.2.refused := by
  have hcreate : ipcCreateBatch 64 4 1 true (fun _ => some 4096) = some ⟨4096, 4, 0, 1, 0⟩ := by
    decide
  exact batch_container hcreate _ _

end AutoMlos
