import AutoMlos.Lib.CString
import AutoMlos.Memory

/-!
# AutoMlos.KernelIpc

The kernel's message passing (`kernel/core/ipc.c`, `kernel/core/ipc.h`): a
table of topics with their subscribers, and a shared buffer into which the
larger messages are copied once.

The functions that fill the table of topics are not part of the repository,
so a state has any table.  Addresses are numbers and `NULL` is 0; the bytes
of memory are kept beside `g_ipc`.  Delivering a descriptor is a stub that
does nothing: publishing returns the descriptors it was called with.
-/

namespace AutoMlos

open Lib

/-- `IPC_MAX_TOPICS`. -/
def ipcMaxTopics : Nat := 256

/-- `IPC_MAX_SUBSCRIBERS_PER_TOPIC`. -/
def ipcMaxSubscribersPerTopic : Nat := 32

/-- `IPC_MAX_MESSAGE_SIZE` of the kernel. -/
def kernelIpcMaxMessageSize : Nat := 4096

/-- `IPC_SHARED_BUFFER_SIZE`. -/
def ipcSharedBufferSize : Nat := 64 * 1024

/-- `IPC_PRIORITY_NORMAL`. -/
def ipcPriorityNormal : UInt8 := 64

/-- `struct ipc_message_desc`. -/
structure IpcMessageDesc where
  bufferId : UInt32
  offset : UInt32
  size : UInt32
  sourcePid : UInt16
  priority : UInt8
  referenceCount : UInt8
  timestamp : UInt64
  sequenceNumber : UInt32
  deriving DecidableEq, Repr

/-- `struct ipc_topic_route`; the list has the first `subscriber_count`
subscribers. -/
structure IpcTopicRoute where
  name : CString
  subscriberPids : List UInt16
  messageCount : UInt32
  zeroCopyCount : UInt32
  name_lt : name.length < 64
  count_le : subscriberPids.length ≤ ipcMaxSubscribersPerTopic
  deriving DecidableEq, Repr

/-- `subscriber_count`. -/
def IpcTopicRoute.subscriberCount (route : IpcTopicRoute) : UInt8 :=
  UInt8.ofNat route.subscriberPids.length

/-- `struct ipc_shared_buffer`. -/
structure IpcSharedBuffer where
  baseAddress : Nat
  size : UInt32
  used : UInt32
  watermark : UInt32
  allocationCount : UInt32
  deriving DecidableEq, Repr

/-- `g_ipc`; the list has the first `topic_count` topics. -/
@[ext]
structure KernelIpc where
  topics : List IpcTopicRoute
  sharedBuffer : IpcSharedBuffer
  initialized : Bool
  count_le : topics.length ≤ ipcMaxTopics
  deriving DecidableEq, Repr

/-- A zeroed `g_ipc`. -/
def KernelIpc.zero : KernelIpc where
  topics := []
  sharedBuffer := { baseAddress := 0, size := 0, used := 0, watermark := 0, allocationCount := 0 }
  initialized := false
  count_le := by decide

/-! ## the errors of this file -/

def ipcOk : SystemError := systemErrorCreate errSysOk .system .low moduleIdIpc

def ipcAlreadyInit : SystemError := systemErrorCreate errSysAlreadyInit .system .medium moduleIdIpc

def ipcInvalidParam : SystemError := systemErrorCreate errSysInvalidParam .system .high moduleIdIpc

def ipcResourceUnavail : SystemError :=
  systemErrorCreate errSysResourceUnavail .system .high moduleIdIpc

def ipcConfigError : SystemError := systemErrorCreate errSysConfigError .system .high moduleIdIpc

theorem ipcOk_ne_ipcAlreadyInit : ipcOk ≠ ipcAlreadyInit := by decide

theorem ipcOk_ne_ipcResourceUnavail : ipcOk ≠ ipcResourceUnavail := by decide

/-! ## initialisation -/

section Init

variable {σ : Type} (memoryAlloc : σ → Nat → Option Nat × σ)

/-- `memory_alloc_shared`, over an allocator.  `buffer` is what the pointer
argument points to before the call, `none` when it is `NULL`. -/
def memoryAllocShared (mem : σ) (size : Nat) (buffer : Option Nat) :
    SystemError × Option Nat × σ :=
  match buffer with
  | none => (ipcInvalidParam, none, mem)
  | some old =>
      if size = 0 then (ipcInvalidParam, some old, mem)
      else
        match memoryAlloc mem size with
        | (none, mem) => (ipcResourceUnavail, some 0, mem)
        | (some address, mem) => (ipcOk, some address, mem)

/-- `ipc_kernel_init`. -/
def ipcKernelInit (mem : σ) (ipc : KernelIpc) : SystemError × KernelIpc × σ :=
  if ipc.initialized then (ipcAlreadyInit, ipc, mem)
  else
    let ipc := KernelIpc.zero
    let (ret, base, mem) :=
      memoryAllocShared memoryAlloc mem ipcSharedBufferSize (some ipc.sharedBuffer.baseAddress)
    let ipc := { ipc with
      sharedBuffer := { ipc.sharedBuffer with baseAddress := base.getD 0 } }
    if ret.errorCode ≠ errSysOk then (ret, ipc, mem)
    else
      let ipc := { ipc with
        sharedBuffer := { ipc.sharedBuffer with size := UInt32.ofNat ipcSharedBufferSize }
        initialized := true }
      (ipcOk, ipc, mem)

/-- What a successful `ipc_kernel_init` leaves: no topics, and an unused
shared buffer at the address the allocator returned. -/
def KernelIpc.ready (base : Nat) : KernelIpc where
  topics := []
  sharedBuffer :=
    { baseAddress := base
      size := UInt32.ofNat ipcSharedBufferSize
      used := 0
      watermark := 0
      allocationCount := 0 }
  initialized := true
  count_le := by decide

/-- `ipc_kernel_init` on an uninitialised `g_ipc` succeeds exactly when the
allocator serves the shared buffer. -/
theorem ipcKernelInit_of_not_initialized {mem : σ} {ipc : KernelIpc} (h : ipc.initialized = false) :
    ipcKernelInit memoryAlloc mem ipc =
      match memoryAlloc mem ipcSharedBufferSize with
      | (none, mem) => (ipcResourceUnavail, KernelIpc.zero, mem)
      | (some base, mem) => (ipcOk, .ready base, mem) := by
  have hsize : ipcSharedBufferSize ≠ 0 := by decide
  simp only [ipcKernelInit, h, Bool.false_eq_true, if_false, memoryAllocShared, if_neg hsize]
  rcases memoryAlloc mem ipcSharedBufferSize with ⟨_ | base, mem⟩
  · rfl
  · rfl

/-- A successful `ipc_kernel_init` leaves a ready `g_ipc`. -/
theorem ipcKernelInit_ok {mem : σ} {ipc : KernelIpc}
    (h : (ipcKernelInit memoryAlloc mem ipc).1 = ipcOk) :
    ∃ base, (ipcKernelInit memoryAlloc mem ipc).2.1 = .ready base := by
  cases hinit : ipc.initialized with
  | true =>
      rw [ipcKernelInit, if_pos hinit] at h
      exact absurd h.symm ipcOk_ne_ipcAlreadyInit
  | false =>
      rw [ipcKernelInit_of_not_initialized memoryAlloc hinit] at h ⊢
      rcases hbase : memoryAlloc mem ipcSharedBufferSize with ⟨_ | base, mem'⟩
      · rw [hbase] at h
        exact absurd h.symm ipcOk_ne_ipcResourceUnavail
      · exact ⟨base, rfl⟩

end Init

/-! ## the shared buffer -/

/-- `ipc_alloc_shared_buffer`; `outNull` says that one of the two result
pointers is `NULL`.  A success comes with the address and the buffer id. -/
def ipcAllocSharedBuffer (ipc : KernelIpc) (size : UInt32) (outNull : Bool) :
    SystemError × KernelIpc × Option (Nat × UInt32) :=
  if ipc.initialized = false ∨ outNull then (ipcInvalidParam, ipc, none)
  else
    let shared := ipc.sharedBuffer
    if shared.used + size > shared.size then (ipcResourceUnavail, ipc, none)
    else
      let buffer := shared.baseAddress + shared.used.toNat
      let bufferId := shared.allocationCount
      let used := shared.used + size
      let watermark := if used > shared.watermark then used else shared.watermark
      let shared := { shared with used, watermark, allocationCount := bufferId + 1 }
      (ipcOk, { ipc with sharedBuffer := shared }, some (buffer, bufferId))

/-! ## publishing -/

/-- A descriptor handed to `ipc_deliver_message_descriptor`. -/
structure IpcDelivery where
  pid : UInt16
  desc : IpcMessageDesc
  deriving DecidableEq, Repr

/-- The statistics of a topic after a message was routed. -/
def IpcTopicRoute.routed (route : IpcTopicRoute) : IpcTopicRoute :=
  { route with
    messageCount := route.messageCount + 1
    zeroCopyCount := route.zeroCopyCount + route.subscriberCount.toUInt32 }

/-- The table after a message was routed to the first topic of that name. -/
def KernelIpc.routed (ipc : KernelIpc) (topic : CString) : KernelIpc :=
  { ipc with
    topics := ipc.topics.modify (ipc.topics.findIdx fun route => route.name = topic)
      IpcTopicRoute.routed
    count_le := by simpa using ipc.count_le }

/-- The first topic of that name. -/
def KernelIpc.route? (ipc : KernelIpc) (topic : CString) : Option IpcTopicRoute :=
  ipc.topics.find? fun route => route.name = topic

/-- `ipc_route_message_zero_copy`. -/
def ipcRouteMessageZeroCopy (ipc : KernelIpc) (topic : CString) (desc : IpcMessageDesc) :
    SystemError × KernelIpc × List IpcDelivery :=
  match ipc.route? topic with
  | none => (ipcConfigError, ipc, [])
  | some route => (ipcOk, ipc.routed topic, route.subscriberPids.map fun pid => { pid, desc })

/-- `ipc_publish_message_copy`, a stub. -/
def ipcPublishMessageCopy : SystemError := ipcOk

/-- `kernel_time_get_uptime_us` of this file, a stub. -/
def KernelIpc.kernelTimeGetUptimeUs : UInt64 := 0

/-- `g_ipc` and the bytes of memory. -/
structure IpcState where
  ipc : KernelIpc
  memory : Nat → UInt8

/-- The arguments of a publish; the size is that of the message. -/
structure IpcPublish where
  topic : Option CString
  message : Option (List UInt8)
  sourcePid : UInt16
  deriving DecidableEq, Repr

/-- What a publish does for its caller and the subscribers. -/
structure IpcPublished where
  error : SystemError
  deliveries : List IpcDelivery
  deriving DecidableEq, Repr

/-- The descriptor of a message in the shared buffer. -/
def ipcMessageDesc (bufferId : UInt32) (size : Nat) (sourcePid : UInt16) : IpcMessageDesc where
  bufferId
  offset := 0
  size := UInt32.ofNat size
  sourcePid
  priority := ipcPriorityNormal
  referenceCount := 1
  timestamp := KernelIpc.kernelTimeGetUptimeUs
  sequenceNumber := 0

/-- `ipc_publish_message_zero_copy`. -/
def ipcPublishMessageZeroCopy (s : IpcState) (call : IpcPublish) : IpcPublished × IpcState :=
  if s.ipc.initialized = false then (⟨ipcInvalidParam, []⟩, s)
  else
    match call.topic, call.message with
    | some topic, some message =>
        let size := message.length
        if size = 0 then (⟨ipcInvalidParam, []⟩, s)
        else if size > kernelIpcMaxMessageSize then (⟨ipcConfigError, []⟩, s)
        else if size > 256 then
          match ipcAllocSharedBuffer s.ipc (UInt32.ofNat size) false with
          | (_, ipc, some (sharedBuffer, bufferId)) =>
              let memory := storeBytes s.memory sharedBuffer message
              let desc := ipcMessageDesc bufferId size call.sourcePid
              let (error, ipc, deliveries) := ipcRouteMessageZeroCopy ipc topic desc
              (⟨error, deliveries⟩, { ipc, memory })
          | (ret, ipc, none) => (⟨ret, []⟩, { s with ipc })
        else (⟨ipcPublishMessageCopy, []⟩, s)
    | _, _ => (⟨ipcInvalidParam, []⟩, s)

end AutoMlos
