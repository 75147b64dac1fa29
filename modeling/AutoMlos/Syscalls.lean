import AutoMlos.Lib.CString
import AutoMlos.SystemErrors

/-!
# AutoMlos.Syscalls

The system call wrappers (`lib/libsyscall/libsyscall.c`), which check their
arguments and simulate the kernel's answer.

A pointer argument is an `Option`, or a flag when only its being `NULL`
matters; time-outs and flags are ignored by the wrappers and left out.
-/

namespace AutoMlos

open Lib

/-- The success value of the wrappers. -/
def syscallOk : SystemError := systemErrorCreate errBaseOk .system .low moduleIdSyscall

/-- A critical safety error of the wrappers. -/
def syscallCritical (errorCode : UInt32) : SystemError :=
  systemErrorCreate errorCode .safety .critical moduleIdSyscall

/-- `sys_ipc_receive`: the simulated kernel never has a message. -/
def sysIpcReceive (bufferNull : Bool) (size : Nat) : SystemError :=
  if bufferNull then syscallCritical errSafeCriticalNull
  else if size = 0 ∨ size > 4096 then syscallCritical errBaseInvalidSize
  else systemErrorCreate errBaseTimeout .system .warning moduleIdSyscall

/-- `sys_ipc_register_topic`. -/
def sysIpcRegisterTopic (topicName : Option CString) : SystemError :=
  match topicName with
  | none => syscallCritical errSafeCriticalNull
  | some topicName =>
      if topicName.length = 0 ∨ topicName.length > 128 then
        syscallCritical errSysInvalidParam
      else syscallOk

/-- `sys_ipc_unregister_topic`. -/
def sysIpcUnregisterTopic (topicName : Option CString) : SystemError :=
  match topicName with
  | none => syscallCritical errSafeCriticalNull
  | some _ => syscallOk

/-- `sys_ipc_publish`. -/
def sysIpcPublish (topic : Option CString) (messageNull : Bool) (size : Nat) : SystemError :=
  match topic with
  | none => syscallCritical errSafeCriticalNull
  | some _ =>
      if messageNull then syscallCritical errSafeCriticalNull
      else if size = 0 ∨ size > 4096 then syscallCritical errBaseInvalidSize
      else syscallOk

/-- `sys_ipc_subscribe`. -/
def sysIpcSubscribe (topic : Option CString) : SystemError :=
  match topic with
  | none => syscallCritical errSafeCriticalNull
  | some _ => syscallOk

end AutoMlos
