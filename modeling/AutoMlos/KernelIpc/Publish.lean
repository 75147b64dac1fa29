import AutoMlos.KernelIpc.SharedBuffer

/-!
# AutoMlos.KernelIpc.Publish

What a publish does to `g_ipc`.

A message of more than 256 bytes is copied into the shared buffer before its
topic is looked up, so a publish to a topic that does not exist fails and
keeps the bytes (`publish_no_effect_iff`).  A smaller message goes to a stub
that reports success and does nothing: no topic makes the two paths agree
(`publish_threshold_visible`).
-/

namespace AutoMlos

open Lib

/-! ## the two outcomes -/

/-- The state after a message was copied into the shared buffer. -/
def IpcState.copied (s : IpcState) (message : List UInt8) : IpcState where
  ipc := { s.ipc with sharedBuffer := s.ipc.sharedBuffer.advance (UInt32.ofNat message.length) }
  memory := storeBytes s.memory
    (s.ipc.sharedBuffer.baseAddress + s.ipc.sharedBuffer.used.toNat) message

/-- A publish that gets as far as copying its message. -/
structure IpcPublish.Copies (call : IpcPublish) (s : IpcState) (topic : CString)
    (message : List UInt8) : Prop where
  initialized : s.ipc.initialized = true
  topic_eq : call.topic = some topic
  message_eq : call.message = some message
  large : 256 < message.length
  fits : message.length ≤ kernelIpcMaxMessageSize
  room : ¬ s.ipc.sharedBuffer.used + UInt32.ofNat message.length > s.ipc.sharedBuffer.size

/-- A publish that returned an error. -/
def IpcPublished.Failed (reply : IpcPublished) : Prop := reply.error.errorCode ≠ errSysOk

instance (reply : IpcPublished) : Decidable reply.Failed := inferInstanceAs (Decidable (_ ≠ _))

section Outcomes

variable {s : IpcState} {call : IpcPublish} {topic : CString} {message : List UInt8}
variable {route : IpcTopicRoute}

/-- A publish that copies its message then routes it. -/
theorem IpcPublish.Copies.publish_eq (h : call.Copies s topic message) :
    ipcPublishMessageZeroCopy s call =
      (let desc := ipcMessageDesc s.ipc.sharedBuffer.allocationCount message.length call.sourcePid
      let (error, ipc, deliveries) := ipcRouteMessageZeroCopy (s.copied message).ipc topic desc
      (⟨error, deliveries⟩, { s.copied message with ipc })) := by
  have hready : ¬ s.ipc.initialized = false := by simp [h.initialized]
  have hpos : message.length ≠ 0 := by have := h.large; omega
  have hfits : ¬ message.length > kernelIpcMaxMessageSize := Nat.not_lt.mpr h.fits
  simp only [ipcPublishMessageZeroCopy, if_neg hready, h.topic_eq, h.message_eq, if_neg hpos,
    if_neg hfits, if_pos h.large, ipcAllocSharedBuffer_of_initialized h.initialized, if_neg h.room]
  rfl

/-- A publish that copies its message to a topic that does not exist. -/
theorem IpcPublish.Copies.publish_of_none (h : call.Copies s topic message)
    (hroute : s.ipc.route? topic = none) :
    ipcPublishMessageZeroCopy s call = (⟨ipcConfigError, []⟩, s.copied message) := by
  have hmiss : (s.copied message).ipc.route? topic = none := hroute
  simp only [h.publish_eq, ipcRouteMessageZeroCopy, hmiss]

/-- A publish that copies its message to a topic that exists. -/
theorem IpcPublish.Copies.publish_of_some (h : call.Copies s topic message)
    (hroute : s.ipc.route? topic = some route) :
    ipcPublishMessageZeroCopy s call =
      (⟨ipcOk, route.subscriberPids.map fun pid =>
          { pid
            desc := ipcMessageDesc s.ipc.sharedBuffer.allocationCount message.length
              call.sourcePid }⟩,
        { s.copied message with ipc := (s.copied message).ipc.routed topic }) := by
  have hfound : (s.copied message).ipc.route? topic = some route := hroute
  simp only [h.publish_eq, ipcRouteMessageZeroCopy, hfound]

/-- Any other publish leaves everything as it is and delivers nothing; it
fails unless the message is small. -/
theorem publish_of_not_copies (h : ∀ topic message, ¬ call.Copies s topic message) :
    (ipcPublishMessageZeroCopy s call).2 = s ∧
      (ipcPublishMessageZeroCopy s call).1.deliveries = [] ∧
      ((ipcPublishMessageZeroCopy s call).1.Failed ∨
        ∃ message, call.message = some message ∧ message.length ≤ 256) := by
  have hinvalid : (IpcPublished.mk ipcInvalidParam []).Failed :=
    show errSysInvalidParam ≠ errSysOk by decide
  obtain ⟨topic, message, sourcePid⟩ := call
  rw [ipcPublishMessageZeroCopy]
  split
  · exact ⟨rfl, rfl, Or.inl hinvalid⟩
  · rename_i hinit
    rw [Bool.not_eq_false] at hinit
    split
    · rename_i topic' message' htopic hmessage
      dsimp only at htopic hmessage ⊢
      split_ifs with hzero hlarge hthreshold
      · exact ⟨rfl, rfl, Or.inl hinvalid⟩
      · exact ⟨rfl, rfl, Or.inl (show errSysConfigError ≠ errSysOk by decide)⟩
      · have hroom : s.ipc.sharedBuffer.used + UInt32.ofNat message'.length >
            s.ipc.sharedBuffer.size :=
          Classical.not_not.mp fun hroom =>
            h topic' message' ⟨hinit, htopic, hmessage, hthreshold, Nat.not_lt.mp hlarge, hroom⟩
        simp only [ipcAllocSharedBuffer_of_initialized hinit, if_pos hroom, true_and]
        exact Or.inl (show errSysResourceUnavail ≠ errSysOk by decide)
      · exact ⟨rfl, rfl, Or.inr ⟨message', hmessage, Nat.not_lt.mp hthreshold⟩⟩
    · exact ⟨rfl, rfl, Or.inl hinvalid⟩

/-- A small message of an initialised `g_ipc` is reported as published. -/
theorem publish_of_small (topic : CString) (hinit : s.ipc.initialized = true)
    (hpos : 0 < message.length) (hsmall : message.length ≤ 256) (sourcePid : UInt16) :
    ipcPublishMessageZeroCopy s ⟨some topic, some message, sourcePid⟩ = (⟨ipcOk, []⟩, s) := by
  have hmax : kernelIpcMaxMessageSize = 4096 := rfl
  have hfits : ¬ message.length > kernelIpcMaxMessageSize := by omega
  have hready : ¬ s.ipc.initialized = false := by simp [hinit]
  simp only [ipcPublishMessageZeroCopy, if_neg hready, if_neg (Nat.ne_of_gt hpos), if_neg hfits,
    if_neg (Nat.not_lt.mpr hsmall)]
  rfl

end Outcomes

/-! ## failed publishes -/

/-- The counters of the shared buffer and of every topic are the same. -/
structure KernelIpc.SameCounters (ipc ipc' : KernelIpc) : Prop where
  used : ipc'.sharedBuffer.used = ipc.sharedBuffer.used
  watermark : ipc'.sharedBuffer.watermark = ipc.sharedBuffer.watermark
  allocationCount : ipc'.sharedBuffer.allocationCount = ipc.sharedBuffer.allocationCount
  topics : ipc'.topics.map (fun route => (route.messageCount, route.zeroCopyCount)) =
    ipc.topics.map fun route => (route.messageCount, route.zeroCopyCount)

/-- A large message, for which the shared buffer has room, to a topic that
does not exist. -/
def IpcPublish.Wastes (call : IpcPublish) (s : IpcState) : Prop :=
  ∃ topic message, call.Copies s topic message ∧ s.ipc.route? topic = none

section Failure

variable {s : IpcState} {call : IpcPublish} {calls : List IpcPublish}

/-- A publish that wastes nothing leaves everything as it is when it fails. -/
theorem publish_of_failed (hwaste : ¬ call.Wastes s)
    (hfailed : (ipcPublishMessageZeroCopy s call).1.Failed) :
    (ipcPublishMessageZeroCopy s call).2 = s := by
  by_cases hcopies : ∃ topic message, call.Copies s topic message
  · obtain ⟨topic, message, h⟩ := hcopies
    cases hroute : s.ipc.route? topic with
    | none => exact absurd ⟨topic, message, h, hroute⟩ hwaste
    | some route =>
        rw [h.publish_of_some hroute] at hfailed
        exact absurd rfl hfailed
  · simp only [not_exists] at hcopies
    exact (publish_of_not_copies hcopies).1

/-- A publish that wastes its copy fails and uses up the bytes. -/
theorem IpcPublish.Wastes.publish (h : call.Wastes s) :
    (ipcPublishMessageZeroCopy s call).1.Failed ∧
      (ipcPublishMessageZeroCopy s call).2.ipc.sharedBuffer.used ≠ s.ipc.sharedBuffer.used := by
  obtain ⟨topic, message, h, hroute⟩ := h
  rw [h.publish_of_none hroute]
  refine ⟨show errSysConfigError ≠ errSysOk by decide, fun hused => ?_⟩
  have hlarge := h.large
  have hfits : message.length ≤ 4096 := h.fits
  have hval := congrArg UInt32.toNat hused
  simp only [IpcState.copied, IpcSharedBuffer.advance, UInt32.toNat_add,
    UInt32.toNat_ofNat'] at hval
  have hlt := UInt32.toNat_lt s.ipc.sharedBuffer.used
  omega

/-- A failed publish has no effect exactly when it wastes nothing. -/
theorem publish_sameCounters_iff :
    ((ipcPublishMessageZeroCopy s call).1.Failed →
        s.ipc.SameCounters (ipcPublishMessageZeroCopy s call).2.ipc) ↔ ¬ call.Wastes s := by
  constructor
  · intro hsame hwaste
    obtain ⟨hfailed, hused⟩ := hwaste.publish
    exact hused (hsame hfailed).used
  · intro hwaste hfailed
    rw [publish_of_failed hwaste hfailed]
    exact ⟨rfl, rfl, rfl, rfl⟩

/-- A run of failing publishes that waste nothing ends where it started. -/
theorem mealy_publish_of_failed
    (hwaste : Always (total ipcPublishMessageZeroCopy) (fun s call _ _ => ¬ call.Wastes s) s calls)
    (hfailed : ∀ reply ∈ (mealy ipcPublishMessageZeroCopy s calls).1, reply.Failed) :
    (mealy ipcPublishMessageZeroCopy s calls).2 = s := by
  induction calls generalizing s with
  | nil => rfl
  | cons call calls ih =>
      obtain ⟨hcall, hrest⟩ := always_total_cons.mp hwaste
      simp only [mealy, List.forall_mem_cons] at hfailed
      have hsame := publish_of_failed hcall hfailed.1
      rw [hsame] at hrest hfailed
      simp only [mealy, hsame]
      exact ih hrest hfailed.2

end Failure

/-- A failed publish of the run leaves the counters, and after a run of
failed publishes any later publish answers as it would have before. -/
def FailuresHaveNoEffect (s : IpcState) (calls : List IpcPublish) : Prop :=
  Always (total ipcPublishMessageZeroCopy)
      (fun s _ reply s' => reply.Failed → s.ipc.SameCounters s'.ipc) s calls ∧
    ((∀ reply ∈ (mealy ipcPublishMessageZeroCopy s calls).1, reply.Failed) →
      ∀ later, (ipcPublishMessageZeroCopy (mealy ipcPublishMessageZeroCopy s calls).2 later).1 =
        (ipcPublishMessageZeroCopy s later).1)

/-- **Failed publishes** have no effect exactly in the runs in which no large
message that fits is published to a topic that does not exist. -/
theorem publish_no_effect_iff (s : IpcState) (calls : List IpcPublish) :
    FailuresHaveNoEffect s calls ↔
      Always (total ipcPublishMessageZeroCopy) (fun s call _ _ => ¬ call.Wastes s) s calls := by
  have hstep (s : IpcState) (call : IpcPublish) (_ : True) :
      ∃ reply s', total ipcPublishMessageZeroCopy s call = .ok (reply, s') ∧
        ((reply.Failed → s.ipc.SameCounters s'.ipc) ↔ ¬ call.Wastes s) ∧
        ((reply.Failed → s.ipc.SameCounters s'.ipc) → True) :=
    ⟨_, _, rfl, publish_sameCounters_iff, fun _ => trivial⟩
  have hiff := always_iff_always (s := s) hstep trivial calls
  rw [FailuresHaveNoEffect, hiff]
  refine and_iff_left_of_imp fun hwaste hfailed later => ?_
  rw [mealy_publish_of_failed hwaste hfailed]

/-- A topic with one subscriber. -/
def statusTopic : IpcTopicRoute where
  name := .ofAscii "status"
  subscriberPids := [7]
  messageCount := 0
  zeroCopyCount := 0
  name_lt := by decide
  count_le := by decide

/-- One topic, and a shared buffer with room for 257 bytes. -/
def oneTopic : KernelIpc where
  topics := [statusTopic]
  sharedBuffer := { baseAddress := 4096, size := 65536, used := 65279, watermark := 65279,
                    allocationCount := 0 }
  initialized := true
  count_le := by decide

/-- The shortest message that goes through the shared buffer. -/
def message257 : List UInt8 := List.replicate 257 1

theorem length_message257 : message257.length = 257 := List.length_replicate

/-- Publishing 257 bytes to a topic. -/
def publish257 (topic : CString) : IpcPublish :=
  { topic := some topic, message := some message257, sourcePid := 1 }

/-- A publish to a topic that does not exist takes the room that a later
publish to one that does would have had. -/
theorem publish_failure_has_effect :
    let s : IpcState := { ipc := oneTopic, memory := fun _ => 0 }
    let wasted := (ipcPublishMessageZeroCopy s (publish257 (.ofAscii "nowhere"))).2
    ((ipcPublishMessageZeroCopy s (publish257 (.ofAscii "status"))).1.error = ipcOk ∧
        (ipcPublishMessageZeroCopy wasted (publish257 (.ofAscii "status"))).1.error =
          ipcResourceUnavail) ∧
      ¬ ∀ (s : IpcState) (calls : List IpcPublish), s.ipc.initialized = true →
        FailuresHaveNoEffect s calls := by
  refine ⟨by decide +kernel, fun h => ?_⟩
  have hrun := h { ipc := oneTopic, memory := fun _ => 0 } [publish257 (.ofAscii "nowhere")] rfl
  have hsame := (always_total_cons.mp hrun.1).1 (by decide +kernel)
  exact absurd hsame.used (by decide +kernel)

/-! ## the threshold -/

/-- Two publishes have the same effect: the same error code, the same
subscribers reached, each once, and the same change of every message count. -/
structure IpcPublish.SameEffect (s : IpcState) (call call' : IpcPublish) : Prop where
  error : (ipcPublishMessageZeroCopy s call).1.error.errorCode =
    (ipcPublishMessageZeroCopy s call').1.error.errorCode
  pids : ∀ pid, pid ∈ (ipcPublishMessageZeroCopy s call).1.deliveries.map IpcDelivery.pid ↔
    pid ∈ (ipcPublishMessageZeroCopy s call').1.deliveries.map IpcDelivery.pid
  once : ((ipcPublishMessageZeroCopy s call).1.deliveries.map IpcDelivery.pid).Nodup ∧
    ((ipcPublishMessageZeroCopy s call').1.deliveries.map IpcDelivery.pid).Nodup
  messageCount : (ipcPublishMessageZeroCopy s call).2.ipc.topics.map IpcTopicRoute.messageCount =
    (ipcPublishMessageZeroCopy s call').2.ipc.topics.map IpcTopicRoute.messageCount

section Threshold

variable {s : IpcState} {topic : CString} {small large : List UInt8}

/-- Routing to a topic that exists changes its message count. -/
theorem KernelIpc.messageCount_routed_ne (ipc : KernelIpc) (h : ipc.route? topic = some route) :
    (ipc.routed topic).topics.map IpcTopicRoute.messageCount ≠
      ipc.topics.map IpcTopicRoute.messageCount := by
  intro heq
  have hlt : (ipc.topics.findIdx fun route => route.name = topic) < ipc.topics.length := by
    rw [List.findIdx_lt_length]
    exact List.find?_isSome.mp (Option.isSome_iff_exists.mpr ⟨route, h⟩)
  have hget := congrArg (·[ipc.topics.findIdx fun route => route.name = topic]?) heq
  simp only [KernelIpc.routed, List.getElem?_map, List.getElem?_modify_eq,
    List.getElem?_eq_getElem hlt, Option.map_eq_map, Option.map_some, Option.some.injEq,
    IpcTopicRoute.routed] at hget
  simp at hget

/-- **The threshold is visible**: a message of at most 256 bytes and one of
more, published to the same topic, never have the same effect. -/
theorem publish_threshold_visible (sourcePid : UInt16) (hinit : s.ipc.initialized = true)
    (hsmall : 1 ≤ small.length ∧ small.length ≤ 256)
    (hlarge : 257 ≤ large.length ∧ large.length ≤ 4096)
    (hroom : s.ipc.sharedBuffer.used.toNat + large.length ≤ s.ipc.sharedBuffer.size.toNat) :
    ¬ IpcPublish.SameEffect s ⟨some topic, some small, sourcePid⟩
        ⟨some topic, some large, sourcePid⟩ := by
  have hsize := UInt32.toNat_lt s.ipc.sharedBuffer.size
  have hlength : (UInt32.ofNat large.length).toNat = large.length := by
    rw [UInt32.toNat_ofNat']
    omega
  have htest : ¬ s.ipc.sharedBuffer.used + UInt32.ofNat large.length > s.ipc.sharedBuffer.size := by
    rw [IpcSharedBuffer.exhausted_iff (by omega), IpcSharedBuffer.Exhausted]
    omega
  have hcopies : IpcPublish.Copies ⟨some topic, some large, sourcePid⟩ s topic large :=
    ⟨hinit, rfl, rfl, by omega, hlarge.2, htest⟩
  have hstub := publish_of_small topic hinit hsmall.1 hsmall.2 sourcePid
  intro hsame
  cases hroute : s.ipc.route? topic with
  | none =>
      have herror := hsame.error
      rw [hstub, hcopies.publish_of_none hroute] at herror
      have hne : errSysOk ≠ errSysConfigError := by decide
      exact hne herror
  | some route =>
      have hcount := hsame.messageCount
      rw [hstub, hcopies.publish_of_some hroute] at hcount
      exact KernelIpc.messageCount_routed_ne (s.copied large).ipc hroute hcount.symm

end Threshold

/-- One byte and 257 bytes to a topic with one subscriber. -/
theorem publish_threshold_visible_one_topic :
    ¬ IpcPublish.SameEffect { ipc := oneTopic, memory := fun _ => 0 }
        ⟨some (.ofAscii "status"), some [1], 1⟩
        (publish257 (.ofAscii "status")) :=
  publish_threshold_visible 1 rfl ⟨by decide, by decide⟩
    ⟨length_message257.ge, by rw [length_message257]; decide⟩ (by rw [length_message257]; decide)

/-- The 257 bytes reach the subscriber, the one byte does not, though both
are reported as published. -/
theorem publish_threshold_not_invisible :
    let s : IpcState := { ipc := oneTopic, memory := fun _ => 0 }
    let small : IpcPublish := ⟨some (.ofAscii "status"), some [1], 1⟩
    (((ipcPublishMessageZeroCopy s small).1.error = ipcOk ∧
          (ipcPublishMessageZeroCopy s small).1.deliveries = []) ∧
        ((ipcPublishMessageZeroCopy s (publish257 (.ofAscii "status"))).1.error = ipcOk ∧
          (ipcPublishMessageZeroCopy s (publish257 (.ofAscii "status"))).1.deliveries.map
            IpcDelivery.pid = [7])) ∧
      ¬ ∀ (s : IpcState) (topic : CString) (small large : List UInt8) (sourcePid : UInt16),
        s.ipc.initialized = true → 1 ≤ small.length ∧ small.length ≤ 256 →
        257 ≤ large.length ∧ large.length ≤ 4096 →
        s.ipc.sharedBuffer.used.toNat + large.length ≤ s.ipc.sharedBuffer.size.toNat →
        IpcPublish.SameEffect s ⟨some topic, some small, sourcePid⟩
          ⟨some topic, some large, sourcePid⟩ := by
  refine ⟨by decide +kernel, fun h => ?_⟩
  have hsame := h { ipc := oneTopic, memory := fun _ => 0 } (.ofAscii "status") [1]
    message257 1 rfl ⟨by decide, by decide⟩
    ⟨length_message257.ge, by rw [length_message257]; decide⟩ (by rw [length_message257]; decide)
  exact absurd hsame.messageCount (by decide +kernel)

end AutoMlos
