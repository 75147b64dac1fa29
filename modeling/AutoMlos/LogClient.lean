import AutoMlos.Lib.RingBuffer
import AutoMlos.LogCore

/-!
# AutoMlos.LogClient

The logging client (`lib/logging/log_client.c`): entries go to a publisher
when there is one and to a 32-entry buffer of early entries otherwise.

The two statics of the file are the fields of `LogClient`; a publisher
handle is only ever tested for `NULL`.  Whether `ipc_create_publisher` and
`ipc_publish` succeed is an input of each call.  A function also returns the
entries it handed to a successful `ipc_publish`, in order.
-/

namespace AutoMlos

open Lib

/-- `EARLY_LOG_BUFFER_CAPACITY`. -/
def earlyLogBufferCapacity : Nat := 32

/-- `early_log_buffer_t`. -/
structure EarlyLogBuffer where
  entries : Vector LogEntryBinary 32
  writeIndex : UInt16
  readIndex : UInt16
  count : UInt16
  initialized : Bool
  deriving DecidableEq, Repr

/-- A zeroed buffer. -/
def EarlyLogBuffer.zero : EarlyLogBuffer where
  entries := Vector.replicate 32 LogEntryBinary.zero
  writeIndex := 0
  readIndex := 0
  count := 0
  initialized := false

/-- The statics `g_log_publisher` and `g_early_log_buffer`. -/
structure LogClient where
  publisher : Bool
  early : EarlyLogBuffer
  deriving DecidableEq, Repr

/-- The statics at startup. -/
def LogClient.zero : LogClient := { publisher := false, early := .zero }

/-! ## the early buffer -/

/-- The success value of this file. -/
def logClientOk : SystemError := systemErrorCreate errBaseOk .system .low moduleIdLogging

/-- The error of a publisher that cannot be created or used. -/
def logClientNotFound : SystemError :=
  systemErrorCreate errSysServiceNotFound .system .high moduleIdLogging

/-- `early_log_buffer_init`. -/
def earlyLogBufferInit : SystemError × EarlyLogBuffer :=
  (logClientOk, { EarlyLogBuffer.zero with initialized := true })

/-- `(index + 1) % EARLY_LOG_BUFFER_CAPACITY`. -/
def earlyNext (index : UInt16) : UInt16 := UInt16.ofNat ((index.toNat + 1) % earlyLogBufferCapacity)

/-- `early_log_buffer_store`: a full buffer gives up its oldest entry first. -/
def earlyLogBufferStore (buffer : EarlyLogBuffer) (entry : LogEntryBinary) :
    Outcome (SystemError × EarlyLogBuffer) :=
  if buffer.initialized = false then return (logCritical errSafeCriticalNull, buffer)
  else do
    let buffer :=
      if buffer.count.toNat ≥ earlyLogBufferCapacity then
        { buffer with readIndex := earlyNext buffer.readIndex, count := buffer.count - 1 }
      else buffer
    let entries ← Outcome.writeAt buffer.entries buffer.writeIndex.toNat entry
    return (logClientOk,
      { buffer with
        entries
        writeIndex := earlyNext buffer.writeIndex
        count := buffer.count + 1 })

/-- The loop of `early_log_buffer_flush`, at most `n` times round; `publish k`
is the outcome of the `k`-th publish. -/
def earlyLogBufferFlushLoop (publish : Nat → Bool) :
    Nat → Nat → EarlyLogBuffer → Outcome (SystemError × EarlyLogBuffer × List LogEntryBinary)
  | 0, _, buffer => return (logClientOk, buffer, [])
  | n + 1, k, buffer =>
      if buffer.count = 0 then return (logClientOk, buffer, [])
      else do
        let entry ← Outcome.readAt buffer.entries buffer.readIndex.toNat
        if publish k = false then return (logClientNotFound, buffer, [])
        else
          let buffer :=
            { buffer with readIndex := earlyNext buffer.readIndex, count := buffer.count - 1 }
          let (error, buffer, published) ← earlyLogBufferFlushLoop publish n (k + 1) buffer
          return (error, buffer, entry :: published)

/-- `early_log_buffer_flush`.  A round of the loop takes one entry, so `count`
rounds are enough. -/
def earlyLogBufferFlush (client : LogClient) (publish : Nat → Bool) :
    Outcome (SystemError × LogClient × List LogEntryBinary) :=
  if client.early.initialized = false ∨ client.publisher = false then
    return (systemErrorCreate errSysNotInit .system .high moduleIdLogging, client, [])
  else do
    let (error, early, published) ←
      earlyLogBufferFlushLoop publish client.early.count.toNat 0 client.early
    return (error, { client with early }, published)

/-- `early_log_buffer_store` on any pointer: a `NULL` entry is refused as an
uninitialised buffer is. -/
def earlyLogBufferStorePtr (buffer : EarlyLogBuffer) :
    Option LogEntryBinary → Outcome (SystemError × EarlyLogBuffer)
  | none => return (logCritical errSafeCriticalNull, buffer)
  | some entry => earlyLogBufferStore buffer entry

/-- The loop of `early_log_buffer_flush` as it is written, without a bound of
its own. -/
def earlyLogBufferFlushWhile (publish : Nat → Bool) :
    Nat → Nat → EarlyLogBuffer → Outcome (SystemError × EarlyLogBuffer × List LogEntryBinary)
  | 0, _, _ => .outOfFuel
  | fuel + 1, k, buffer =>
      if buffer.count = 0 then return (logClientOk, buffer, [])
      else do
        let entry ← Outcome.readAt buffer.entries buffer.readIndex.toNat
        if publish k = false then return (logClientNotFound, buffer, [])
        else
          let buffer :=
            { buffer with readIndex := earlyNext buffer.readIndex, count := buffer.count - 1 }
          let (error, buffer, published) ← earlyLogBufferFlushWhile publish fuel (k + 1) buffer
          return (error, buffer, entry :: published)

/-! ## the client functions -/

/-- `log_client_init`; `created` says whether a publisher can be created. -/
def logClientInit (client : LogClient) (created : Bool) (publish : Nat → Bool) :
    Outcome (SystemError × LogClient × List LogEntryBinary) :=
  let (error, early) := earlyLogBufferInit
  let client := { client with early }
  if error.errorCode ≠ errBaseOk then return (error, client, [])
  else if client.publisher then return (logClientOk, client, [])
  else
    let client := { client with publisher := created }
    if client.publisher = false then return (logClientNotFound, client, [])
    else do
      let (error, client, published) ← earlyLogBufferFlush client publish
      if error.errorCode ≠ errBaseOk then return (error, client, published)
      else return (logClientOk, client, published)

/-- `send_log_entry_pubsub`; `published` is the outcome of its publish. -/
def sendLogEntryPubsub (client : LogClient) (entry : LogEntryBinary) (published : Bool) :
    Outcome (SystemError × LogClient × List LogEntryBinary) :=
  let integrityCheck := logVerifyEntryIntegritySafe (some entry)
  if integrityCheck.errorCode ≠ errBaseOk then return (integrityCheck, client, [])
  else if client.publisher ∧ published then return (logClientOk, client, [entry])
  else do
    let (error, early) ← earlyLogBufferStore client.early entry
    return (error, { client with early }, [])

/-- `log_client_send_entry`. -/
def logClientSendEntry (client : LogClient) (args : LogArgs) (sys : SysReadings)
    (published : Bool) : Outcome (SystemError × LogClient × List LogEntryBinary) :=
  match logCreateEntry (some .zero) args sys with
  | (createResult, entry) =>
      if createResult.errorCode ≠ errBaseOk then return (createResult, client, [])
      else sendLogEntryPubsub client (entry.getD .zero) published

/-- `log_client_cleanup`. -/
def logClientCleanup (client : LogClient) : LogClient :=
  if client.publisher then { client with publisher := false } else client

/-! ## calls and their ledger -/

/-- A call of the client with the outcomes of its environment. -/
inductive ClientCall where
  | init (created : Bool) (publish : Nat → Bool)
  | send (args : LogArgs) (sys : SysReadings) (published : Bool)
  | cleanup

/-- The entries a buffer holds, oldest first. -/
def EarlyLogBuffer.held (buffer : EarlyLogBuffer) : List LogEntryBinary :=
  (List.range buffer.count.toNat).map fun k =>
    RingBuffer.slotAt buffer.entries (by decide) (buffer.readIndex.toNat + k)

/-- A call on the early buffer itself, with the outcomes of its publishes. -/
inductive EarlyCall where
  | store (entry : Option LogEntryBinary)
  | flush (publish : Nat → Bool)

/-- What such a call answers: its result and the entries it published. -/
structure EarlyReply where
  error : SystemError
  published : List LogEntryBinary
  deriving DecidableEq, Repr

/-- One call on the early buffer of a client that has a publisher. -/
def EarlyLogBuffer.step (buffer : EarlyLogBuffer) :
    EarlyCall → Outcome (EarlyReply × EarlyLogBuffer)
  | .store entry => do
      let (error, buffer) ← earlyLogBufferStorePtr buffer entry
      return ({ error, published := [] }, buffer)
  | .flush publish => do
      let (error, client, published) ←
        earlyLogBufferFlush { publisher := true, early := buffer } publish
      return ({ error, published }, client.early)

/-- The client with the history of its entries: those whose send was
accepted, those published, and those that were the oldest of 32 when a
further entry was stored. -/
structure ClientLedger where
  client : LogClient
  accepted : List LogEntryBinary
  published : List LogEntryBinary
  overwritten : List LogEntryBinary

namespace ClientLedger

/-- The entries the client still holds. -/
def held (l : ClientLedger) : List LogEntryBinary := l.client.early.held

/-- The ledger at startup. -/
def start : ClientLedger := { client := .zero, accepted := [], published := [], overwritten := [] }

/-- The entry a send of these arguments is about. -/
def sentEntry (args : LogArgs) (sys : SysReadings) : LogEntryBinary :=
  logMakeEntry args sys.pid.2 sys.time.2

/-- One call.  A send that is accepted without being published has stored its
entry; if 32 were held, the oldest is gone. -/
def step (l : ClientLedger) : ClientCall → Outcome (SystemError × ClientLedger)
  | .init created publish => do
      let (error, client, published) ← logClientInit l.client created publish
      return (error, { l with client, published := l.published ++ published })
  | .send args sys published => do
      let held := l.held
      let (error, client, published) ← logClientSendEntry l.client args sys published
      let l := { l with client, published := l.published ++ published }
      if error.errorCode ≠ errBaseOk then return (error, l)
      else
        let overwritten :=
          if published = [] ∧ held.length = 32 then l.overwritten ++ held.take 1 else l.overwritten
        return (error, { l with accepted := l.accepted ++ [sentEntry args sys], overwritten })
  | .cleanup => return (logClientOk, { l with client := logClientCleanup l.client })

end ClientLedger

end AutoMlos
