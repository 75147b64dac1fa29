import AutoMlos.IpcPubsub
import AutoMlos.Lib.Run

/-!
# AutoMlos.IpcPubsub.Delivery

Whether a subscriber gets the messages the kernel hands over.

`received_size` stays 0, so the callback is never called
(`ipcSubscriberReceive_reply`): a receive that fails does what it should, and
a message that arrives is lost without a trace.  Delivery is right exactly on
the runs in which nothing arrives (`ipc_delivers_iff`).
-/

namespace AutoMlos

open Lib

variable {γ υ : Type}

/-! ## what a receive owes -/

/-- The call a message owes the subscriber. -/
def IpcSubscriber.callFor (subscriber : IpcSubscriber γ υ) (message : List UInt8) :
    CallbackCall γ υ where
  callback := subscriber.callback
  message := message
  size := message.length
  userData := subscriber.userData

/-- One receive as it should be: a message that arrives is passed to the
callback once and counted, a failure is counted as an error. -/
def ReceiveDelivers (before : Option (IpcSubscriber γ υ)) (receipt : IpcReceipt)
    (reply : Int × List (CallbackCall γ υ)) (after : Option (IpcSubscriber γ υ)) : Prop :=
  ∀ subscriber, before = some subscriber →
    if receipt.result.errorCode = errBaseOk then
      reply = (0, [subscriber.callFor receipt.message]) ∧
        after = some { subscriber with messageCount := subscriber.messageCount + 1 }
    else
      reply = (-1, []) ∧
        after = some { subscriber with errorCount := subscriber.errorCount + 1 }

/-- The number of callback calls of a run. -/
def callbackCalls (replies : List (Int × List (CallbackCall γ υ))) : Nat :=
  (replies.flatMap Prod.snd).length

/-- The number of messages the kernel hands over. -/
def handedOver (receipts : List IpcReceipt) : Nat :=
  receipts.countP fun receipt => receipt.result.errorCode = errBaseOk

/-- A run of receives as it should be: each one delivers, and there are as
many callback calls as messages. -/
def Delivers (subscriber : IpcSubscriber γ υ) (receipts : List IpcReceipt) : Prop :=
  Always (total ipcSubscriberReceive) ReceiveDelivers (some subscriber) receipts ∧
    ∃ replies after,
      run (total ipcSubscriberReceive) (some subscriber) receipts = .ok (replies, after) ∧
      callbackCalls replies = handedOver receipts

/-! ## what a receive does -/

theorem ipcSubscriberReceive_of_ok {receipt : IpcReceipt}
    (h : receipt.result.errorCode = errBaseOk) (subscriber : IpcSubscriber γ υ) :
    ipcSubscriberReceive (some subscriber) receipt = ((-1, []), some subscriber) := by
  simp [ipcSubscriberReceive, h]

theorem ipcSubscriberReceive_of_error {receipt : IpcReceipt}
    (h : receipt.result.errorCode ≠ errBaseOk) (subscriber : IpcSubscriber γ υ) :
    ipcSubscriberReceive (some subscriber) receipt =
      ((-1, []), some { subscriber with errorCount := subscriber.errorCount + 1 }) := by
  simp [ipcSubscriberReceive, h]

/-- **No receive calls the callback**, whatever the kernel does. -/
theorem ipcSubscriberReceive_reply (subscriber : Option (IpcSubscriber γ υ))
    (receipt : IpcReceipt) : (ipcSubscriberReceive subscriber receipt).1 = (-1, []) := by
  cases subscriber with
  | none => rfl
  | some subscriber =>
      by_cases h : receipt.result.errorCode = errBaseOk
      · rw [ipcSubscriberReceive_of_ok h]
      · rw [ipcSubscriberReceive_of_error h]

/-- A subscriber stays a subscriber, and a receive delivers if it fails. -/
theorem ipcSubscriberReceive_spec (subscriber : IpcSubscriber γ υ) (receipt : IpcReceipt) :
    ∃ after, ipcSubscriberReceive (some subscriber) receipt = ((-1, []), some after) ∧
      (ReceiveDelivers (some subscriber) receipt (-1, []) (some after) ↔
        receipt.result.errorCode ≠ errBaseOk) := by
  by_cases h : receipt.result.errorCode = errBaseOk
  · refine ⟨subscriber, ipcSubscriberReceive_of_ok h subscriber, iff_of_false ?_ (not_not.mpr h)⟩
    intro hdelivers
    have hcall := hdelivers subscriber rfl
    rw [if_pos h] at hcall
    exact absurd hcall.1 (by simp)
  · refine ⟨_, ipcSubscriberReceive_of_error h subscriber, iff_of_true ?_ h⟩
    rintro _ ⟨⟩
    rw [if_neg h]
    exact ⟨rfl, rfl⟩

/-! ## runs -/

theorem always_receiveDelivers_iff (subscriber : IpcSubscriber γ υ) (receipts : List IpcReceipt) :
    Always (total ipcSubscriberReceive) ReceiveDelivers (some subscriber) receipts ↔
      ∀ receipt ∈ receipts, receipt.result.errorCode ≠ errBaseOk := by
  have hstep : ∀ (s : Option (IpcSubscriber γ υ)) (receipt : IpcReceipt), s.isSome →
      ∃ reply s', total ipcSubscriberReceive s receipt = .ok (reply, s') ∧
        (ReceiveDelivers s receipt reply s' ↔ receipt.result.errorCode ≠ errBaseOk) ∧
        (ReceiveDelivers s receipt reply s' → s'.isSome) := by
    intro s receipt hs
    obtain ⟨subscriber, rfl⟩ := Option.isSome_iff_exists.mp hs
    obtain ⟨after, heq, hiff⟩ := ipcSubscriberReceive_spec subscriber receipt
    exact ⟨(-1, []), some after, congrArg Outcome.ok heq, hiff, fun _ => rfl⟩
  rw [always_iff_always hstep rfl receipts, always_total_iff_forall]

/-- A run of receives makes no callback call. -/
theorem run_ipcSubscriberReceive (subscriber : Option (IpcSubscriber γ υ))
    (receipts : List IpcReceipt) :
    ∃ replies after,
      run (total ipcSubscriberReceive) subscriber receipts = .ok (replies, after) ∧
      callbackCalls replies = 0 := by
  obtain ⟨after, hrun⟩ := run_total_of_reply ipcSubscriberReceive_reply subscriber receipts
  refine ⟨_, after, hrun, ?_⟩
  simp [callbackCalls]

/-- **Publish-subscribe delivery** is right exactly on the runs in which every
`sys_ipc_receive` fails. -/
theorem ipc_delivers_iff (subscriber : IpcSubscriber γ υ) (receipts : List IpcReceipt) :
    Delivers subscriber receipts ↔
      ∀ receipt ∈ receipts, receipt.result.errorCode ≠ errBaseOk := by
  rw [Delivers, always_receiveDelivers_iff]
  refine and_iff_left_of_imp ?_
  intro h
  obtain ⟨replies, after, hrun, hcalls⟩ := run_ipcSubscriberReceive (some subscriber) receipts
  refine ⟨replies, after, hrun, ?_⟩
  rw [hcalls, handedOver, eq_comm, List.countP_eq_zero]
  simpa using h

/-- Receives from the simulated kernel are such runs: it only times out. -/
example : (sysIpcReceive false ipcMaxMessageSize).errorCode ≠ errBaseOk := by decide

/-- A message of one byte arrives. -/
def oneByteReceipt : IpcReceipt where
  result := syscallOk
  message := [0]
  nonempty := fun _ => by simp
  fits := by decide

/-- A subscriber of `"system/logging/info"` does not get a message of one
byte. -/
theorem ipc_not_always_delivers :
    ¬ ∀ topic callback userData allocated receipts, ∀ subscriber : IpcSubscriber Unit Unit,
      ipcCreateSubscriber topic callback userData allocated = some subscriber →
        Delivers subscriber receipts := by
  intro h
  have hcreated : (ipcCreateSubscriber (some (.ofAscii "system/logging/info")) (some ()) ()
      true).isSome := by decide
  obtain ⟨subscriber, hsubscriber⟩ := Option.isSome_iff_exists.mp hcreated
  have hdelivers := (h _ _ _ _ [oneByteReceipt] subscriber hsubscriber).1
  exact (always_receiveDelivers_iff subscriber _).mp hdelivers oneByteReceipt
    List.mem_cons_self rfl

end AutoMlos
