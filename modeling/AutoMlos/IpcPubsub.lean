import AutoMlos.IpcTopics
import AutoMlos.Lib.Memory
import AutoMlos.Syscalls

/-!
# AutoMlos.IpcPubsub

Publish-subscribe (`lib/libipc/ipc_pubsub.c`): the handles of publishers and
subscribers, publishing, and receiving.

What `sys_ipc_receive` does is an input of each receive, so that every
behaviour of the kernel is covered.  A callback is whatever a function
pointer is, and a receive returns the callback calls it makes.
-/

namespace AutoMlos

open Lib

/-- `IPC_MAX_MESSAGE_SIZE`. -/
def ipcMaxMessageSize : Nat := 4096

/-- `IPC_TOPIC_MAX_LENGTH`. -/
def ipcTopicMaxLength : Nat := 64

/-- `ipc_publisher_t`. -/
structure IpcPublisher where
  topic : CString
  messageCount : UInt32
  errorCount : UInt32
  deriving DecidableEq, Repr

/-- `ipc_create_publisher`; `allocated` says whether `malloc` has room. -/
def ipcCreatePublisher (topic : Option CString) (allocated : Bool) : Option IpcPublisher :=
  match topic with
  | none => none
  | some topic =>
      if ipcValidateTopic (some topic) ≠ .valid then none
      else if topic.length ≥ ipcTopicMaxLength then none
      else if allocated = false then none
      else
        let publisher : IpcPublisher :=
          { topic := topic.truncate (ipcTopicMaxLength - 1)
            messageCount := 0
            errorCount := 0 }
        if (sysIpcRegisterTopic (some topic)).errorCode ≠ errBaseOk then none else some publisher

/-- A message that the kernel is given to publish. -/
structure Publication where
  topic : CString
  message : List UInt8
  deriving DecidableEq, Repr

/-- `ipc_publish`: its result, what it publishes, and the publisher.  A message
is what the bytes from its pointer on are, or `none` for `NULL`. -/
def ipcPublish (publisher : Option IpcPublisher) (message : Option (Nat → UInt8)) (size : Nat) :
    (Int × List Publication) × Option IpcPublisher :=
  match publisher with
  | none => ((-1, []), none)
  | some publisher =>
      let failed : (Int × List Publication) × Option IpcPublisher :=
        ((-1, []), some { publisher with errorCount := publisher.errorCount + 1 })
      match message with
      | none => failed
      | some message =>
          if size = 0 then failed
          else if size > ipcMaxMessageSize then failed
          else
            let result := sysIpcPublish (some publisher.topic) false size
            if result.errorCode ≠ errBaseOk then failed
            else
              ((0, [⟨publisher.topic, loadBytes message 0 size⟩]),
                some { publisher with messageCount := publisher.messageCount + 1 })

/-- `ipc_destroy_publisher`: the topics it unregisters before it frees the
handle. -/
def ipcDestroyPublisher (_ : Option IpcPublisher) : List CString := []

/-- `ipc_subscriber_t`; `γ` is the type of function pointers and `υ` that of
user data. -/
structure IpcSubscriber (γ υ : Type) where
  topic : CString
  callback : γ
  userData : υ
  messageCount : UInt32
  errorCount : UInt32
  deriving DecidableEq, Repr

/-- `ipc_create_subscriber`; `allocated` says whether `malloc` has room. -/
def ipcCreateSubscriber (topic : Option CString) (callback : Option γ) (userData : υ)
    (allocated : Bool) : Option (IpcSubscriber γ υ) :=
  match topic, callback with
  | none, _ => none
  | _, none => none
  | some topic, some callback =>
      if ipcValidateTopic (some topic) ≠ .valid then none
      else if topic.length ≥ ipcTopicMaxLength then none
      else if allocated = false then none
      else
        let subscriber : IpcSubscriber γ υ :=
          { topic := topic.truncate (ipcTopicMaxLength - 1)
            callback
            userData
            messageCount := 0
            errorCount := 0 }
        if (sysIpcSubscribe (some topic)).errorCode ≠ errBaseOk then none else some subscriber

/-- `ipc_destroy_subscriber`: the topics it unregisters before it frees the
handle. -/
def ipcDestroySubscriber : Option (IpcSubscriber γ υ) → List CString
  | none => []
  | some subscriber => [subscriber.topic]

/-- A publisher that is created has the whole topic, which is registered, and
has counted nothing. -/
theorem ipcCreatePublisher_eq_some {topic : Option CString} {publisher : IpcPublisher}
    (h : ipcCreatePublisher topic allocated = some publisher) :
    ∃ topic', topic = some topic' ∧ publisher = ⟨topic', 0, 0⟩ ∧
      (sysIpcRegisterTopic (some topic')).errorCode = errBaseOk := by
  cases topic with
  | none => contradiction
  | some topic =>
      simp only [ipcCreatePublisher] at h
      split_ifs at h with hformat hlength hroom hregister
      have hfits : topic.length ≤ ipcTopicMaxLength - 1 :=
        Nat.le_sub_one_of_lt (Nat.lt_of_not_le hlength)
      rw [CString.truncate_of_length_le hfits] at h
      exact ⟨topic, rfl, (Option.some.inj h).symm, not_not.mp hregister⟩

/-- A subscriber that is created has the whole topic, the callback and the
user data it was given, and has counted nothing. -/
theorem ipcCreateSubscriber_eq_some {topic : Option CString} {callback : Option γ} {userData : υ}
    {subscriber : IpcSubscriber γ υ}
    (h : ipcCreateSubscriber topic callback userData allocated = some subscriber) :
    ∃ topic' callback', topic = some topic' ∧ callback = some callback' ∧
      subscriber = ⟨topic', callback', userData, 0, 0⟩ := by
  cases topic with
  | none => contradiction
  | some topic =>
      cases callback with
      | none => contradiction
      | some callback =>
          simp only [ipcCreateSubscriber] at h
          split_ifs at h with hformat hlength hroom hsubscribe
          have hfits : topic.length ≤ ipcTopicMaxLength - 1 :=
            Nat.le_sub_one_of_lt (Nat.lt_of_not_le hlength)
          rw [CString.truncate_of_length_le hfits] at h
          exact ⟨topic, callback, rfl, rfl, (Option.some.inj h).symm⟩

/-- What one call of `sys_ipc_receive` does: its answer, and the message it
places at the start of the buffer.  A success comes with a message, and the
buffer is never overrun. -/
structure IpcReceipt where
  result : SystemError
  message : List UInt8
  nonempty : result.errorCode = errBaseOk → message ≠ []
  fits : message.length ≤ ipcMaxMessageSize

/-- A call of a callback: the function, the message, its size, and the user
data it is passed. -/
structure CallbackCall (γ υ : Type) where
  callback : γ
  message : List UInt8
  size : Nat
  userData : υ
  deriving DecidableEq, Repr

/-- `ipc_subscriber_receive`: its result, the callback calls it makes, and
what the handle designates afterwards. -/
def ipcSubscriberReceive (subscriber : Option (IpcSubscriber γ υ)) (receipt : IpcReceipt) :
    (Int × List (CallbackCall γ υ)) × Option (IpcSubscriber γ υ) :=
  match subscriber with
  | none => ((-1, []), none)
  | some subscriber =>
      -- `sys_ipc_receive` is not given the address of `received_size`
      let receivedSize := 0
      if receipt.result.errorCode = errBaseOk ∧ receivedSize > 0 then
        let call : CallbackCall γ υ :=
          { callback := subscriber.callback
            message := receipt.message.take receivedSize
            size := receivedSize
            userData := subscriber.userData }
        ((0, [call]), some { subscriber with messageCount := subscriber.messageCount + 1 })
      else if receipt.result.errorCode ≠ errBaseOk then
        ((-1, []), some { subscriber with errorCount := subscriber.errorCount + 1 })
      else ((-1, []), some subscriber)

end AutoMlos
