import AutoMlos.Lib.Bytes
import AutoMlos.Lib.CString
import AutoMlos.SystemErrors
import Mathlib.Data.Set.Insert

/-!
# AutoMlos.KernelSyscalls

The kernel's system calls (`kernel/core/syscall.c`): a table of handlers, each
of which checks its arguments and what they point to and then passes one request
on to the message passing layer, or stores a value for the caller.

A handler does one thing besides checking, so its `SyscallEffect` is all there
is to know of a call.  The layer that the requests go to, the handler
`syscall_ipc_unregister_topic` and three error codes are not part of the
repository: the handler and the codes are inputs of the model, and the layer
gets the requests.  A pointer is a 32-bit address and `NULL` is 0.

A request names the process that makes the call, whatever its arguments are
(`callerPid_of_request`).  But `syscall_ipc_send` drops the process to send to:
the request for one target is the request for any other.
-/

namespace AutoMlos

open Lib

/-! ## requests -/

/-- A topic in a request: a string of the kernel, or one of the caller. -/
inductive SyscallTopic where
  | kernel (name : CString)
  | user (address : UInt32)
  deriving DecidableEq, Repr

/-- A call of the message passing layer, with its arguments. -/
inductive IpcRequest where
  | publishMessage (topic : SyscallTopic) (message size : UInt32) (sourcePid : UInt16)
  | receiveMessage (targetPid : UInt16) (buffer size timeoutMs : UInt32)
  | registerTopic (topic : SyscallTopic) (flags : UInt32)
  | subscribeTopic (topic : SyscallTopic) (subscriberPid : UInt16)
  deriving DecidableEq, Repr

/-- What a system call amounts to. -/
inductive SyscallEffect where
  /-- It returns at once. -/
  | returned (error : SystemError)
  /-- It stores bytes at an address and returns. -/
  | stored (address : UInt32) (bytes : List UInt8) (error : SystemError)
  /-- It returns what the request returns. -/
  | passed (request : IpcRequest)
  deriving DecidableEq, Repr

/-- The request that a call issues. -/
def SyscallEffect.request : SyscallEffect → Option IpcRequest
  | .passed request => some request
  | _ => none

/-- `syscall_handler_t`. -/
abbrev SyscallHandler := UInt32 → UInt32 → UInt32 → UInt32 → SyscallEffect

/-- What `syscall.c` takes from elsewhere and the repository lacks:
`ERR_SYS_INVALID_SYSCALL`, `ERR_SYS_SYSCALL_NOT_IMPLEMENTED`,
`ERR_SYS_INVALID_POINTER` and `syscall_ipc_unregister_topic`. -/
structure SyscallImports where
  errSysInvalidSyscall : UInt32
  errSysSyscallNotImplemented : UInt32
  errSysInvalidPointer : UInt32
  syscallIpcUnregisterTopic : SyscallHandler

/-! ## stubs of the dependencies -/

/-- `scheduler_get_current_pid`. -/
def schedulerGetCurrentPid : UInt16 := 1

/-- `memory_validate_user_pointer`. -/
def memoryValidateUserPointer (ptr _size : UInt32) : UInt32 := ptr

/-- `memory_validate_user_string`. -/
def memoryValidateUserString (str _maxLen : UInt32) : UInt32 := str

/-! ## the handlers -/

/-- An error of a handler. -/
def syscallError (errorCode : UInt32) : SystemError :=
  systemErrorCreate errorCode .system .high moduleIdSyscall

/-- The success value of a handler. -/
def syscallDone : SystemError := systemErrorCreate errBaseOk .system .low moduleIdSyscall

section Handlers

variable (imports : SyscallImports)

/-- Go on with the kernel's pointer for a pointer of the caller. -/
def withUserPointer (ptr size : UInt32) (next : UInt32 → SyscallEffect) : SyscallEffect :=
  let kernelPtr := memoryValidateUserPointer ptr size
  if kernelPtr = 0 then .returned (syscallError imports.errSysInvalidPointer) else next kernelPtr

/-- Go on with the kernel's pointer for a string of the caller. -/
def withUserString (str maxLen : UInt32) (next : UInt32 → SyscallEffect) : SyscallEffect :=
  let kernelStr := memoryValidateUserString str maxLen
  if kernelStr = 0 then .returned (syscallError imports.errSysInvalidPointer) else next kernelStr

/-- `syscall_ipc_send`, whose message goes to the topic `"direct"`. -/
def syscallIpcSend (targetPid messagePtr size _flags : UInt32) : SyscallEffect :=
  if targetPid = 0 ∨ messagePtr = 0 ∨ size = 0 then
    .returned (syscallError errSysInvalidParam)
  else
    let currentPid := schedulerGetCurrentPid
    withUserPointer imports messagePtr size fun kernelMessage =>
      .passed (.publishMessage (.kernel (CString.ofAscii "direct")) kernelMessage size currentPid)

/-- `syscall_ipc_receive`. -/
def syscallIpcReceive (bufferPtr size timeoutMs _flags : UInt32) : SyscallEffect :=
  if bufferPtr = 0 ∨ size = 0 then .returned (syscallError errSysInvalidParam)
  else
    withUserPointer imports bufferPtr size fun kernelBuffer =>
      .passed (.receiveMessage schedulerGetCurrentPid kernelBuffer size timeoutMs)

/-- `syscall_ipc_register_topic`. -/
def syscallIpcRegisterTopic (topicNamePtr flags _arg3 _arg4 : UInt32) : SyscallEffect :=
  if topicNamePtr = 0 then .returned (syscallError errSysInvalidParam)
  else
    withUserString imports topicNamePtr 64 fun kernelTopicName =>
      .passed (.registerTopic (.user kernelTopicName) flags)

/-- `syscall_ipc_publish`. -/
def syscallIpcPublish (topicNamePtr messagePtr size _flags : UInt32) : SyscallEffect :=
  if topicNamePtr = 0 ∨ messagePtr = 0 ∨ size = 0 then
    .returned (syscallError errSysInvalidParam)
  else
    withUserString imports topicNamePtr 64 fun kernelTopicName =>
      withUserPointer imports messagePtr size fun kernelMessage =>
        .passed (.publishMessage (.user kernelTopicName) kernelMessage size schedulerGetCurrentPid)

/-- `syscall_ipc_subscribe`. -/
def syscallIpcSubscribe (topicNamePtr _flags _arg3 _arg4 : UInt32) : SyscallEffect :=
  if topicNamePtr = 0 then .returned (syscallError errSysInvalidParam)
  else
    withUserString imports topicNamePtr 64 fun kernelTopicName =>
      .passed (.subscribeTopic (.user kernelTopicName) schedulerGetCurrentPid)

/-- `syscall_time_get_us`, which stores a placeholder. -/
def syscallTimeGetUs (timestampPtr _arg2 _arg3 _arg4 : UInt32) : SyscallEffect :=
  if timestampPtr = 0 then .returned (syscallError errSysInvalidParam)
  else
    withUserPointer imports timestampPtr 8 fun kernelTimestamp =>
      .stored kernelTimestamp (leBytes 8 0) syscallDone

/-- `syscall_getpid`. -/
def syscallGetpid (pidPtr _arg2 _arg3 _arg4 : UInt32) : SyscallEffect :=
  if pidPtr = 0 then .returned (syscallError errSysInvalidParam)
  else
    withUserPointer imports pidPtr 2 fun kernelPid =>
      .stored kernelPid (leBytes 2 schedulerGetCurrentPid.toNat) syscallDone

/-- `syscall_service_lookup`, which stores a placeholder. -/
def syscallServiceLookup (serviceNamePtr servicePidPtr _arg3 _arg4 : UInt32) : SyscallEffect :=
  if serviceNamePtr = 0 ∨ servicePidPtr = 0 then .returned (syscallError errSysInvalidParam)
  else
    withUserString imports serviceNamePtr 64 fun _ =>
      withUserPointer imports servicePidPtr 2 fun kernelServicePid =>
        .stored kernelServicePid (leBytes 2 0) syscallDone

end Handlers

/-! ## the table -/

/-- `syscall_number_t`, up to `SYSCALL_MAX`. -/
inductive SyscallNumber where
  | ipcSend
  | ipcReceive
  | ipcRegisterTopic
  | ipcUnregisterTopic
  | ipcPublish
  | ipcSubscribe
  | timeGetUs
  | getpid
  | serviceLookup
  deriving DecidableEq, Repr

/-- The value of an enumerator. -/
def SyscallNumber.toUInt32 (number : SyscallNumber) : UInt32 := UInt32.ofNat number.ctorIdx

/-- `SYSCALL_MAX`. -/
def syscallMax : Nat := 9

/-- `g_syscall_table`. -/
abbrev SyscallTable := Vector (Option SyscallHandler) syscallMax

/-- `syscall_init`. -/
def syscallInit (imports : SyscallImports) : SystemError × SyscallTable :=
  (syscallDone, #v[
    some (syscallIpcSend imports),
    some (syscallIpcReceive imports),
    some (syscallIpcRegisterTopic imports),
    some imports.syscallIpcUnregisterTopic,
    some (syscallIpcPublish imports),
    some (syscallIpcSubscribe imports),
    some (syscallTimeGetUs imports),
    some (syscallGetpid imports),
    some (syscallServiceLookup imports)])

/-- `syscall_handler`. -/
def syscallHandler (imports : SyscallImports) (table : SyscallTable) (syscallNum : UInt32) :
    SyscallHandler := fun arg1 arg2 arg3 arg4 =>
  if h : syscallNum.toNat < syscallMax then
    match table[syscallNum.toNat] with
    | none => .returned (syscallError imports.errSysSyscallNotImplemented)
    | some handler => handler arg1 arg2 arg3 arg4
  else .returned (syscallError imports.errSysInvalidSyscall)

/-- The handler that `syscall_init` registers for a number. -/
def SyscallNumber.handler (imports : SyscallImports) : SyscallNumber → SyscallHandler
  | .ipcSend => syscallIpcSend imports
  | .ipcReceive => syscallIpcReceive imports
  | .ipcRegisterTopic => syscallIpcRegisterTopic imports
  | .ipcUnregisterTopic => imports.syscallIpcUnregisterTopic
  | .ipcPublish => syscallIpcPublish imports
  | .ipcSubscribe => syscallIpcSubscribe imports
  | .timeGetUs => syscallTimeGetUs imports
  | .getpid => syscallGetpid imports
  | .serviceLookup => syscallServiceLookup imports

section Dispatch

variable {imports : SyscallImports}

/-- The system call of a number, after `syscall_init`. -/
def syscall (imports : SyscallImports) (number : SyscallNumber) : SyscallHandler :=
  syscallHandler imports (syscallInit imports).2 number.toUInt32

theorem syscall_eq_handler (number : SyscallNumber) :
    syscall imports number = number.handler imports := by
  cases number <;> rfl

/-- Every index of the table has its number. -/
theorem SyscallNumber.exists_ctorIdx_eq : ∀ i : Fin 9, ∃ number : SyscallNumber, number.ctorIdx = i
  | 0 => ⟨.ipcSend, rfl⟩
  | 1 => ⟨.ipcReceive, rfl⟩
  | 2 => ⟨.ipcRegisterTopic, rfl⟩
  | 3 => ⟨.ipcUnregisterTopic, rfl⟩
  | 4 => ⟨.ipcPublish, rfl⟩
  | 5 => ⟨.ipcSubscribe, rfl⟩
  | 6 => ⟨.timeGetUs, rfl⟩
  | 7 => ⟨.getpid, rfl⟩
  | 8 => ⟨.serviceLookup, rfl⟩

theorem SyscallNumber.exists_toUInt32_eq {syscallNum : UInt32} (h : syscallNum.toNat < syscallMax) :
    ∃ number : SyscallNumber, number.toUInt32 = syscallNum := by
  obtain ⟨number, hnumber⟩ := exists_ctorIdx_eq ⟨syscallNum.toNat, h⟩
  refine ⟨number, ?_⟩
  rw [toUInt32, hnumber, UInt32.ofNat_toNat]

/-- A number that is not in the table is refused, whatever the table has. -/
theorem syscallHandler_of_le {table : SyscallTable} {syscallNum : UInt32}
    (h : syscallMax ≤ syscallNum.toNat) (arg1 arg2 arg3 arg4 : UInt32) :
    syscallHandler imports table syscallNum arg1 arg2 arg3 arg4 =
      .returned (syscallError imports.errSysInvalidSyscall) := by
  rw [syscallHandler, dif_neg (Nat.not_lt.mpr h)]

end Dispatch

/-! ## who is named in a request -/

/-- The process that a request names. -/
def IpcRequest.callerPid : IpcRequest → Option UInt16
  | .publishMessage _ _ _ sourcePid => some sourcePid
  | .receiveMessage targetPid _ _ _ => some targetPid
  | .registerTopic _ _ => none
  | .subscribeTopic _ subscriberPid => some subscriberPid

section Caller

variable {imports : SyscallImports} {request : IpcRequest}

/-- The requests of a call that names only the process which makes it. -/
def SyscallEffect.OwnName (effect : SyscallEffect) : Prop :=
  ∀ request, effect.request = some request →
    ∀ pid, request.callerPid = some pid → pid = schedulerGetCurrentPid

theorem ownName_returned (error : SystemError) : (SyscallEffect.returned error).OwnName := by
  intro request h
  cases h

theorem ownName_stored (address : UInt32) (bytes : List UInt8) (error : SystemError) :
    (SyscallEffect.stored address bytes error).OwnName := by
  intro request h
  cases h

theorem ownName_passed (h : ∀ pid, request.callerPid = some pid → pid = schedulerGetCurrentPid) :
    (SyscallEffect.passed request).OwnName := by
  rintro _ ⟨⟩
  exact h

theorem ownName_check {condition : Prop} [Decidable condition] {error : SystemError}
    {effect : SyscallEffect} (h : effect.OwnName) :
    (if condition then .returned error else effect).OwnName := by
  split
  · exact ownName_returned error
  · exact h

theorem ownName_withUserPointer {ptr size : UInt32} {next : UInt32 → SyscallEffect}
    (h : ∀ ptr, (next ptr).OwnName) : (withUserPointer imports ptr size next).OwnName :=
  ownName_check (h _)

theorem ownName_withUserString {str maxLen : UInt32} {next : UInt32 → SyscallEffect}
    (h : ∀ str, (next str).OwnName) : (withUserString imports str maxLen next).OwnName :=
  ownName_check (h _)

/-- No number and no argument of a system call makes the kernel act for
another process than the one that made the call. -/
theorem callerPid_of_request {syscallNum : UInt32}
    (hnumber : syscallNum ≠ SyscallNumber.ipcUnregisterTopic.toUInt32)
    {arg1 arg2 arg3 arg4 : UInt32} {pid : UInt16}
    (h : (syscallHandler imports (syscallInit imports).2 syscallNum arg1 arg2 arg3 arg4).request =
      some request)
    (hpid : request.callerPid = some pid) : pid = schedulerGetCurrentPid := by
  by_cases hmax : syscallMax ≤ syscallNum.toNat
  · rw [syscallHandler_of_le hmax] at h
    exact ownName_returned _ request h pid hpid
  obtain ⟨number, rfl⟩ := SyscallNumber.exists_toUInt32_eq (Nat.not_le.mp hmax)
  have hcall : syscallHandler imports (syscallInit imports).2 number.toUInt32 =
      number.handler imports := syscall_eq_handler number
  suffices hown : (number.handler imports arg1 arg2 arg3 arg4).OwnName by
    rw [hcall] at h
    exact hown request h pid hpid
  have hpassed (request : IpcRequest)
      (h : request.callerPid = some schedulerGetCurrentPid ∨ request.callerPid = none) :
      (SyscallEffect.passed request).OwnName := by
    refine ownName_passed fun pid hpid => ?_
    rcases h with h | h
    · exact (Option.some.inj (h.symm.trans hpid)).symm
    · rw [h] at hpid
      contradiction
  cases number with
  | ipcSend => exact ownName_check (ownName_withUserPointer fun _ => hpassed _ (.inl rfl))
  | ipcReceive => exact ownName_check (ownName_withUserPointer fun _ => hpassed _ (.inl rfl))
  | ipcRegisterTopic => exact ownName_check (ownName_withUserString fun _ => hpassed _ (.inr rfl))
  | ipcUnregisterTopic => contradiction
  | ipcPublish =>
      exact ownName_check (ownName_withUserString fun _ =>
        ownName_withUserPointer fun _ => hpassed _ (.inl rfl))
  | ipcSubscribe => exact ownName_check (ownName_withUserString fun _ => hpassed _ (.inl rfl))
  | timeGetUs => exact ownName_check (ownName_withUserPointer fun _ => ownName_stored _ _ _)
  | getpid => exact ownName_check (ownName_withUserPointer fun _ => ownName_stored _ _ _)
  | serviceLookup =>
      exact ownName_check (ownName_withUserString fun _ =>
        ownName_withUserPointer fun _ => ownName_stored _ _ _)

end Caller

/-! ## sending to a process -/

/-- The request that sending a message to a process issues. -/
def sendRequest (imports : SyscallImports) (messagePtr size flags targetPid : UInt32) :
    Option IpcRequest :=
  (syscall imports .ipcSend targetPid messagePtr size flags).request

/-- The target is checked and then forgotten. -/
theorem sendRequest_eq {imports : SyscallImports} {messagePtr size flags targetPid : UInt32}
    (h : targetPid ≠ 0) :
    sendRequest imports messagePtr size flags targetPid =
      if messagePtr = 0 ∨ size = 0 then none
      else some (.publishMessage (.kernel (CString.ofAscii "direct")) messagePtr size
        schedulerGetCurrentPid) := by
  rw [sendRequest, syscall_eq_handler]
  simp only [SyscallNumber.handler, syscallIpcSend, h, false_or]
  split
  · rfl
  · next hvalid =>
    rw [withUserPointer, memoryValidateUserPointer, if_neg fun hptr => hvalid (.inl hptr)]
    rfl

/-- The requests for two different processes are one and the same, so no layer
under them delivers the first to the one process only and the second to the
other only. -/
theorem send_request_never_directed (imports : SyscallImports) (messagePtr size flags : UInt32)
    {p q : UInt32} (hp : p ≠ 0) (hq : q ≠ 0) (hpq : p ≠ q) :
    sendRequest imports messagePtr size flags p = sendRequest imports messagePtr size flags q ∧
    ∀ delivered : Option IpcRequest → Set UInt32,
      ¬ (delivered (sendRequest imports messagePtr size flags p) = {p} ∧
        delivered (sendRequest imports messagePtr size flags q) = {q}) := by
  have hsame : sendRequest imports messagePtr size flags p =
      sendRequest imports messagePtr size flags q := by
    rw [sendRequest_eq hp, sendRequest_eq hq]
  refine ⟨hsame, ?_⟩
  rintro delivered ⟨htop, htoq⟩
  rw [hsame, htoq] at htop
  exact hpq (Set.singleton_injective htop).symm

/-- Three different codes, and a system call that only returns. -/
def SyscallImports.inert : SyscallImports where
  errSysInvalidSyscall := 1
  errSysSyscallNotImplemented := 2
  errSysInvalidPointer := 3
  syscallIpcUnregisterTopic := fun _ _ _ _ => .returned syscallDone

/-- Sending 16 bytes at address 4096 to process 2, and to process 3. -/
theorem send_request_never_directed_two :
    sendRequest .inert 4096 16 0 2 = sendRequest .inert 4096 16 0 3 ∧
    ∀ delivered : Option IpcRequest → Set UInt32,
      ¬ (delivered (sendRequest .inert 4096 16 0 2) = {2} ∧
        delivered (sendRequest .inert 4096 16 0 3) = {3}) :=
  send_request_never_directed .inert 4096 16 0 (by decide) (by decide) (by decide)

theorem send_requests_equal :
    ¬ ∀ (imports : SyscallImports) (messagePtr size flags p q : UInt32),
      p ≠ 0 → q ≠ 0 → p ≠ q →
        sendRequest imports messagePtr size flags p ≠
          sendRequest imports messagePtr size flags q := by
  intro h
  exact h .inert 4096 16 0 2 3 (by decide) (by decide) (by decide) rfl

end AutoMlos
