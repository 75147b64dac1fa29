import AutoMlos.Lib.Outcome
import AutoMlos.LogCommon

/-!
# AutoMlos.LogCore

The logging core (`lib/logging/log_core.c`): entry checksums, the checksummed
ring buffer with its integrity check, and the recording function.

A pointer argument is an `Option` (`none` is `NULL`); a function that writes
through a pointer returns what the pointer designates afterwards.  The two
statics of the file are the fields of `LogSystem`.  `sys_getpid` and
`sys_time_get_us` are inputs: their result and the value they store.
-/

namespace AutoMlos

open Lib

/-! ## errors of this module -/

/-- The success value of most functions of this file. -/
def logOk : SystemError := systemErrorCreate errBaseOk .success .none moduleIdLogging

/-- A critical safety error of this file. -/
def logCritical (errorCode : UInt32) : SystemError :=
  systemErrorCreate errorCode .safety .critical moduleIdLogging

/-! ## buffer integrity -/

/-- `log_calculate_buffer_checksum`: a 32-bit sum over the covered bytes. -/
def logCalculateBufferChecksum : Option LogBuffer → UInt32
  | none => 0xFFFFFFFF
  | some buffer => sum32 buffer.coveredBytes

/-- `log_verify_buffer_integrity`.  The 16-bit stored checksum is compared
with the whole 32-bit sum. -/
def logVerifyBufferIntegrity : Option LogBuffer → SystemError
  | none => logCritical errSafeCriticalNull
  | some buffer =>
      if buffer.writeIndex.toNat ≥ logBufferCapacity then logCritical errBaseIndexOob
      else if buffer.readIndex.toNat ≥ logBufferCapacity then logCritical errBaseIndexOob
      else if buffer.safetyChecksum.toUInt32 ≠ logCalculateBufferChecksum (some buffer) then
        logCritical errBaseDataCorrupt
      else if buffer.entryCount.toNat > logBufferCapacity then logCritical errBaseDataCorrupt
      else logOk

/-- `log_check_buffer_boundary`. -/
def logCheckBufferBoundary (buffer : Option LogBuffer) (index : UInt16) : SystemError :=
  match buffer with
  | none => logCritical errSafeCriticalNull
  | some buffer => if index ≥ buffer.bufferSize then logCritical errBaseIndexOob else logOk

/-! ## ring operations -/

/-- The state change of `log_buffer_put_safe`: copy the entry into the slot
at `write_index`, advance the indices, update the checksum. -/
def logBufferStore (buffer : LogBuffer) (entry : LogEntryBinary) : Outcome LogBuffer := do
  let entries ← Outcome.writeAt buffer.entries buffer.writeIndex.toNat entry
  let writeIndex ← Outcome.umod (buffer.writeIndex.toNat + 1) buffer.bufferSize.toNat
  let buffer := { buffer with entries, writeIndex := UInt16.ofNat writeIndex }
  let buffer ←
    if buffer.entryCount < buffer.bufferSize then
      pure { buffer with entryCount := buffer.entryCount + 1 }
    else do
      let readIndex ← Outcome.umod (buffer.readIndex.toNat + 1) buffer.bufferSize.toNat
      pure { buffer with readIndex := UInt16.ofNat readIndex }
  return { buffer with safetyChecksum := (logCalculateBufferChecksum (some buffer)).toUInt16 }

/-- `log_buffer_put_safe`. -/
def logBufferPutSafe (buffer : Option LogBuffer) (entry : Option LogEntryBinary) :
    Outcome (SystemError × Option LogBuffer) :=
  match buffer, entry with
  | some buffer, some entry =>
      let boundaryCheck := logCheckBufferBoundary (some buffer) buffer.writeIndex
      if boundaryCheck.errorCode ≠ errBaseOk then return (boundaryCheck, some buffer)
      else
        let bufferCheck := logVerifyBufferIntegrity (some buffer)
        if systemErrorIsCritical bufferCheck then return (bufferCheck, some buffer)
        else do
          let buffer ← logBufferStore buffer entry
          let finalCheck := logVerifyBufferIntegrity (some buffer)
          if systemErrorIsCritical finalCheck then return (finalCheck, some buffer)
          else return (logOk, some buffer)
  | buffer, _ => return (logCritical errSafeCriticalNull, buffer)

/-- The state change of `log_buffer_get_safe` on a buffer that is not empty:
the entry at `read_index`, and the buffer without it. -/
def logBufferTake (buffer : LogBuffer) : Outcome (LogEntryBinary × LogBuffer) := do
  let entry ← Outcome.readAt buffer.entries buffer.readIndex.toNat
  let readIndex ← Outcome.umod (buffer.readIndex.toNat + 1) buffer.bufferSize.toNat
  let buffer :=
    { buffer with readIndex := UInt16.ofNat readIndex, entryCount := buffer.entryCount - 1 }
  return (entry,
    { buffer with safetyChecksum := (logCalculateBufferChecksum (some buffer)).toUInt16 })

/-- The error of a get on an empty buffer. -/
def logBufEmpty : SystemError := systemErrorCreate errBaseBufEmpty .system .medium moduleIdLogging

/-- `log_buffer_get_safe`. -/
def logBufferGetSafe (buffer : Option LogBuffer) (entry : Option LogEntryBinary) :
    Outcome (SystemError × Option LogBuffer × Option LogEntryBinary) :=
  match buffer, entry with
  | some buffer, some entry =>
      let bufferCheck := logVerifyBufferIntegrity (some buffer)
      if systemErrorIsCritical bufferCheck then return (bufferCheck, some buffer, some entry)
      else if buffer.entryCount = 0 then return (logBufEmpty, some buffer, some entry)
      else do
        let (entry, buffer) ← logBufferTake buffer
        return (logOk, some buffer, some entry)
  | buffer, entry => return (logCritical errSafeCriticalNull, buffer, entry)

/-- `log_buffer_init`, which leaves the checksum zero. -/
def logBufferInit : Option LogBuffer → Option LogBuffer
  | none => none
  | some _ => some { LogBuffer.zero with bufferSize := UInt16.ofNat logBufferCapacity }

/-- A call of a ring operation; a `NULL` entry is `none`. -/
inductive RingCall where
  | put (entry : Option LogEntryBinary)
  | get (entry : Option LogEntryBinary)
  deriving DecidableEq, Repr

/-- What a ring operation answers: its result, and for a get what the pointer
it was given designates. -/
structure RingReply where
  error : SystemError
  entry : Option LogEntryBinary
  deriving DecidableEq, Repr

/-- One ring operation on a buffer. -/
def LogBuffer.step (buffer : LogBuffer) : RingCall → Outcome (RingReply × LogBuffer)
  | .put entry => do
      let (error, after) ← logBufferPutSafe (some buffer) entry
      return ({ error, entry := none }, after.getD buffer)
  | .get entry => do
      let (error, after, entry) ← logBufferGetSafe (some buffer) entry
      return ({ error, entry }, after.getD buffer)

/-! ## entries -/

/-- `log_calculate_checksum`: a 16-bit sum over the bytes before the
checksum field. -/
def logCalculateChecksum : Option LogEntryBinary → UInt16
  | none => 0xFFFF
  | some entry => sum16 entry.payloadBytes

/-- `log_verify_entry_integrity_safe`. -/
def logVerifyEntryIntegritySafe : Option LogEntryBinary → SystemError
  | none => logCritical errSafeCriticalNull
  | some entry =>
      if logCalculateChecksum (some entry) ≠ entry.checksum then
        systemErrorCreate errBaseDataCorrupt .system .high moduleIdLogging
      else logOk

/-- The error of the `LOG_SAFETY_CHECK` macros. -/
def logInvalidParam : SystemError :=
  systemErrorCreate errSysInvalidParam .system .high moduleIdLogging

/-- A `LOG_SAFETY_CHECK` macro: the error it returns from the function, if any. -/
def logSafetyCheck (value limit : Nat) : Option SystemError :=
  if value ≥ limit then some logInvalidParam else none

/-- `LOG_SAFETY_CHECK_LEVEL`. -/
def logSafetyCheckLevel (level : UInt8) : Option SystemError :=
  logSafetyCheck level.toNat logLevelCount

/-- `LOG_SAFETY_CHECK_TAG`. -/
def logSafetyCheckTag (tagId : UInt8) : Option SystemError :=
  logSafetyCheck tagId.toNat logTagCount

/-- `LOG_SAFETY_CHECK_MESSAGE_ID`. -/
def logSafetyCheckMessageId (messageId : UInt16) : Option SystemError :=
  logSafetyCheck messageId.toNat logMsgCount

/-- The arguments of the functions that make a log entry. -/
structure LogArgs where
  level : UInt8
  tagId : UInt8
  messageId : UInt16
  data1 : UInt32
  data2 : UInt32
  deriving DecidableEq, Repr

/-- What a call of `sys_getpid` and a call of `sys_time_get_us` answer: their
result and the value they store. -/
structure SysReadings where
  pid : SystemError × UInt16
  time : SystemError × UInt64

/-- The three parameter checks, in order. -/
def logCheckArgs (args : LogArgs) : Option SystemError :=
  logSafetyCheckLevel args.level <|> logSafetyCheckTag args.tagId <|>
    logSafetyCheckMessageId args.messageId

/-- The entry that a pid and a time reading make of the arguments, its
checksum filled in. -/
def logMakeEntry (args : LogArgs) (currentPid : UInt16) (timestamp : UInt64) : LogEntryBinary :=
  let entry : LogEntryBinary :=
    { timestamp := timestamp.toUInt32
      processId := currentPid
      level := args.level
      tagId := args.tagId
      messageId := args.messageId
      data0 := args.data1
      data1 := args.data2
      checksum := 0 }
  { entry with checksum := logCalculateChecksum (some entry) }

/-- The common part of `log_record_binary_safe` and `log_create_entry`: check
the arguments, take the pid and the time, make the entry. -/
def logPrepareEntry (args : LogArgs) (sys : SysReadings) : Except SystemError LogEntryBinary :=
  match logCheckArgs args with
  | some error => .error error
  | none =>
      if sys.pid.1.errorCode ≠ errBaseOk then .error sys.pid.1
      else if sys.time.1.errorCode ≠ errBaseOk then .error sys.time.1
      else .ok (logMakeEntry args sys.pid.2 sys.time.2)

/-- `log_create_entry`. -/
def logCreateEntry (entry : Option LogEntryBinary) (args : LogArgs) (sys : SysReadings) :
    SystemError × Option LogEntryBinary :=
  match entry with
  | none => (logCritical errSafeCriticalNull, none)
  | some entry =>
      match logPrepareEntry args sys with
      | .error error => (error, some entry)
      | .ok newEntry => (logOk, some newEntry)

/-! ## the global log -/

/-- The statics `g_log_buffer` and `g_log_system_initialized`. -/
structure LogSystem where
  buffer : LogBuffer
  initialized : Bool
  deriving DecidableEq, Repr

/-- `log_system_init_safe`. -/
def logSystemInitSafe : SystemError × LogSystem :=
  let buffer := { LogBuffer.zero with bufferSize := UInt16.ofNat logBufferCapacity }
  let buffer :=
    { buffer with safetyChecksum := (logCalculateBufferChecksum (some buffer)).toUInt16 }
  (logOk, { buffer, initialized := true })

/-- `log_record_binary_safe`. -/
def logRecordBinarySafe (log : LogSystem) (args : LogArgs) (sys : SysReadings) :
    Outcome (SystemError × LogSystem) :=
  let (initError, log) := if log.initialized then (logOk, log) else logSystemInitSafe
  if initError.errorCode ≠ errBaseOk then return (initError, log)
  else match logPrepareEntry args sys with
    | .error error => return (error, log)
    | .ok entry => do
        let (bufferError, buffer) ← logBufferPutSafe (some log.buffer) (some entry)
        let log := { log with buffer := buffer.getD log.buffer }
        if bufferError.errorCode ≠ errBaseOk then return (bufferError, log)
        else return (logOk, log)

/-! ## calls on the global log -/

/-- Readings of system calls that succeed, as the wrappers of `libsyscall`
report success. -/
def SysReadings.succeed (pid : UInt16) (time : UInt64) : SysReadings :=
  let success := systemErrorCreate errBaseOk .system .low moduleIdSyscall
  { pid := (success, pid), time := (success, time) }

/-- A call of the logging API on the global buffer: a record with the pid and
the time it reads, or a get into an entry of the caller. -/
inductive LogCall where
  | record (args : LogArgs) (pid : UInt16) (time : UInt64)
  | get (out : LogEntryBinary)
  deriving DecidableEq, Repr

/-- What a call answers: its result, and for a get the caller's entry. -/
structure LogReply where
  error : SystemError
  entry : Option LogEntryBinary
  deriving DecidableEq, Repr

/-- One call on the global log. -/
def LogSystem.step (log : LogSystem) : LogCall → Outcome (LogReply × LogSystem)
  | .record args pid time => do
      let (error, log) ← logRecordBinarySafe log args (.succeed pid time)
      return ({ error, entry := none }, log)
  | .get out => do
      let (error, buffer, entry) ← logBufferGetSafe (some log.buffer) (some out)
      return ({ error, entry }, { log with buffer := buffer.getD log.buffer })

/-- The log as `log_system_init_safe` leaves it. -/
def LogSystem.init : LogSystem := logSystemInitSafe.2

end AutoMlos
