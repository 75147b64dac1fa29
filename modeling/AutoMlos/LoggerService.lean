import AutoMlos.LogCore
import AutoMlos.Syscalls
import Mathlib.Data.List.FinRange

/-!
# AutoMlos.LoggerService

The logger service (`services/logger/logger_service.c`): it checks the
records it receives, converts them to its own entry type, and keeps them in
one bounded buffer for each of six levels.

The static functions are only called with the addresses of objects, so their
`NULL` checks are left out; a message comes from outside and may be `NULL`.
-/

namespace AutoMlos

open Lib

/-- `LOGGER_SERVICE_NAME`. -/
def loggerServiceName : CString := .ofAscii "system/logger"

/-- `LOGGER_SERVICE_BUFFER_CAPACITY`. -/
def loggerServiceBufferCapacity : UInt16 := 100

/-- `LOGGER_SERVICE_LEVEL_COUNT`. -/
def loggerServiceLevelCount : Nat := 6

/-! ## service entries -/

/-- `logger_service_entry_t`: the service's own 20-byte record. -/
structure LoggerServiceEntry where
  timestamp : UInt32
  processId : UInt16
  level : UInt8
  tagId : UInt8
  messageId : UInt16
  data0 : UInt32
  data1 : UInt32
  checksum : UInt16
  deriving DecidableEq, Repr

namespace LoggerServiceEntry

/-- The bytes before the checksum field. -/
def payloadBytes (e : LoggerServiceEntry) : List UInt8 :=
  leBytes 4 e.timestamp.toNat ++ leBytes 2 e.processId.toNat ++ [e.level] ++ [e.tagId] ++
    leBytes 2 e.messageId.toNat ++ leBytes 4 e.data0.toNat ++ leBytes 4 e.data1.toNat

/-- The entry as it lies in memory. -/
def toBytes (e : LoggerServiceEntry) : List UInt8 := e.payloadBytes ++ leBytes 2 e.checksum.toNat

/-- The entry that 20 bytes of memory hold. -/
def ofBytes (bs : List UInt8) : LoggerServiceEntry where
  timestamp := UInt32.ofNat (leNat (bs.take 4))
  processId := UInt16.ofNat (leNat ((bs.drop 4).take 2))
  level := bs.getD 6 0
  tagId := bs.getD 7 0
  messageId := UInt16.ofNat (leNat ((bs.drop 8).take 2))
  data0 := UInt32.ofNat (leNat ((bs.drop 10).take 4))
  data1 := UInt32.ofNat (leNat ((bs.drop 14).take 4))
  checksum := UInt16.ofNat (leNat ((bs.drop 18).take 2))

/-- A zeroed entry. -/
def zero : LoggerServiceEntry := ⟨0, 0, 0, 0, 0, 0, 0, 0⟩

end LoggerServiceEntry

/-- `logger_service_calculate_checksum`: a 32-bit sum, truncated. -/
def loggerServiceCalculateChecksum (entry : LoggerServiceEntry) : UInt16 :=
  (sum32 entry.payloadBytes).toUInt16

/-- `logger_service_verify_entry_integrity`. -/
def loggerServiceVerifyEntryIntegrity (entry : LoggerServiceEntry) : Bool :=
  if entry.checksum ≠ loggerServiceCalculateChecksum entry then false
  else if entry.level.toNat ≥ loggerServiceLevelCount then false
  else true

/-! ## level buffers -/

/-- `logger_service_buffer_t`. -/
structure LoggerServiceBuffer where
  entries : Vector LoggerServiceEntry 100
  writeIndex : UInt16
  readIndex : UInt16
  entryCount : UInt16
  bufferSize : UInt16
  deriving DecidableEq, Repr

/-- `logger_service_buffer_init`. -/
def loggerServiceBufferInit : LoggerServiceBuffer where
  entries := Vector.replicate 100 LoggerServiceEntry.zero
  writeIndex := 0
  readIndex := 0
  entryCount := 0
  bufferSize := loggerServiceBufferCapacity

/-- The entries a level buffer holds: nothing reads from it, so they are the
first ones of the array. -/
def LoggerServiceBuffer.held (b : LoggerServiceBuffer) : List LoggerServiceEntry :=
  b.entries.toList.take b.entryCount.toNat

/-- `logger_service_buffer_put`: 0 on success, -1 for an entry that fails its
check or a full buffer. -/
def loggerServiceBufferPut (buffer : LoggerServiceBuffer) (entry : LoggerServiceEntry) :
    Outcome (Int × LoggerServiceBuffer) :=
  if loggerServiceVerifyEntryIntegrity entry = false then return (-1, buffer)
  else if buffer.entryCount ≥ buffer.bufferSize then return (-1, buffer)
  else do
    let entries ← Outcome.writeAt buffer.entries buffer.writeIndex.toNat entry
    let writeIndex ← Outcome.umod (buffer.writeIndex.toNat + 1) buffer.bufferSize.toNat
    return (0,
      { buffer with
        entries
        writeIndex := UInt16.ofNat writeIndex
        entryCount := buffer.entryCount + 1 })

/-! ## the service -/

/-- `logger_status_response_t`. -/
structure LoggerStatusResponse where
  entryCount : UInt16
  bufferCapacity : UInt16
  droppedCount : UInt16
  storageUsage : UInt32
  deriving DecidableEq, Repr

/-- The statics `g_level_buffers`, `g_logger_service` and `g_last_status`. -/
structure LoggerService where
  levelBuffers : Vector LoggerServiceBuffer 6
  currentWriteOffset : UInt32
  lastFlushTime : UInt64
  storageAvailable : Bool
  serviceRunning : Bool
  lastStatus : LoggerStatusResponse

/-- `g_level_buffers[level]`. -/
def LoggerService.levelBuffer (service : LoggerService) (level : Fin 6) : LoggerServiceBuffer :=
  service.levelBuffers.get level

/-- The error of a topic that cannot be registered. -/
def loggerServiceRegFailed : SystemError :=
  systemErrorCreate errSysServiceRegFailed .system .critical moduleIdLogging

/-- The success value of this file. -/
def loggerServiceOk : SystemError := systemErrorCreate errBaseOk .system .low moduleIdLogging

/-- `logger_service_init`, with what `sys_time_get_us` answers. -/
def loggerServiceInit (service : LoggerService) (time : SystemError × UInt64) :
    SystemError × LoggerService :=
  let service :=
    { service with
      levelBuffers := Vector.replicate 6 loggerServiceBufferInit
      currentWriteOffset := 0
      lastFlushTime := 0
      storageAvailable := false
      serviceRunning := false }
  let result := sysIpcRegisterTopic (some loggerServiceName)
  if result.errorCode ≠ errBaseOk then (loggerServiceRegFailed, service)
  else
    let service := { service with serviceRunning := true }
    let service :=
      if time.1.errorCode = errBaseOk then { service with lastFlushTime := time.2 } else service
    (loggerServiceOk, service)

/-- The field-by-field conversion of `process_log_entry_pubsub`, with the
service's own checksum. -/
def LoggerServiceEntry.ofLogEntry (entry : LogEntryBinary) : LoggerServiceEntry :=
  let serviceEntry : LoggerServiceEntry :=
    { timestamp := entry.timestamp
      processId := entry.processId
      level := entry.level
      tagId := entry.tagId
      messageId := entry.messageId
      data0 := entry.data0
      data1 := entry.data1
      checksum := 0 }
  { serviceEntry with checksum := loggerServiceCalculateChecksum serviceEntry }

/-- A message: its bytes, or `NULL`, and its size.  The bytes a size promises
are there. -/
structure ServiceMessage where
  data : Option (List UInt8)
  size : Nat
  readable : ∀ bytes, data = some bytes → bytes.length = size

/-- `process_log_entry_pubsub`.  The result of the put is ignored. -/
def processLogEntryPubsub (service : LoggerService) (message : ServiceMessage) :
    Outcome (SystemError × LoggerService) :=
  if message.size ≠ LogEntryBinary.size then
    return (logCritical errBaseInvalidSize, service)
  else
    match message.data with
    | none => return (logCritical errSafeCriticalNull, service)
    | some bytes =>
        let entry := LogEntryBinary.ofBytes bytes
        let integrityResult := logVerifyEntryIntegritySafe (some entry)
        if integrityResult.errorCode ≠ errBaseOk then return (integrityResult, service)
        else
          let serviceEntry := LoggerServiceEntry.ofLogEntry entry
          let level := serviceEntry.level.toNat
          if level < loggerServiceLevelCount then do
            let buffer ← Outcome.readAt service.levelBuffers level
            let (_, buffer) ← loggerServiceBufferPut buffer serviceEntry
            let levelBuffers ← Outcome.writeAt service.levelBuffers level buffer
            return (loggerServiceOk, { service with levelBuffers })
          else return (loggerServiceOk, service)

/-- `logger_service_process_message`. -/
def loggerServiceProcessMessage (service : LoggerService) (message : ServiceMessage) :
    Outcome (SystemError × LoggerService) :=
  if message.data = none ∨ message.size < LogEntryBinary.size then
    return (logCritical errSafeCriticalNull, service)
  else processLogEntryPubsub service message

/-! ## status -/

/-- The sum of the entry counts, in 16 bits. -/
def LoggerService.totalEntries (service : LoggerService) : UInt16 :=
  (List.finRange 6).foldl (fun total i => total + (service.levelBuffer i).entryCount) 0

/-- `LOGGER_SERVICE_BUFFER_CAPACITY * LOGGER_SERVICE_LEVEL_COUNT`, in 16 bits. -/
def loggerServiceTotalCapacity : UInt16 :=
  UInt16.ofNat (loggerServiceBufferCapacity.toNat * loggerServiceLevelCount)

/-- The percentage of `logger_service_get_status`, in 8 bits. -/
def LoggerService.usagePercentage (service : LoggerService) : UInt8 :=
  UInt8.ofNat (service.totalEntries.toNat * 100 / loggerServiceTotalCapacity.toNat)

/-- The error of a service that is not running. -/
def loggerServiceNotInit : SystemError :=
  systemErrorCreate errSysNotInit .system .medium moduleIdLogging

/-- `logger_service_get_status`.  Dropped entries are not counted. -/
def loggerServiceGetStatus (service : LoggerService) : SystemError × LoggerService :=
  if service.serviceRunning = false then (loggerServiceNotInit, service)
  else
    let status : LoggerStatusResponse :=
      { entryCount := service.totalEntries
        bufferCapacity := loggerServiceTotalCapacity
        droppedCount := 0
        storageUsage := if service.storageAvailable then service.currentWriteOffset else 0 }
    (loggerServiceOk, { service with lastStatus := status })

/-- `logger_service_get_last_status`; the argument is what the pointer
designates. -/
def loggerServiceGetLastStatus (service : LoggerService) (status : Option LoggerStatusResponse) :
    SystemError × Option LoggerStatusResponse :=
  match status with
  | none => (logCritical errSafeCriticalNull, none)
  | some status =>
      if service.serviceRunning = false then (loggerServiceNotInit, some status)
      else (loggerServiceOk, some service.lastStatus)

end AutoMlos
