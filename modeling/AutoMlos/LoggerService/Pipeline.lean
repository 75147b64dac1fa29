import AutoMlos.IpcPubsub.Usable
import AutoMlos.IpcPubsub.Delivery
import AutoMlos.IpcTopics.Building
import AutoMlos.LoggerService.Contents
import AutoMlos.LogParser.Dump

/-!
# AutoMlos.LoggerService.Pipeline

From the logging client over the logger service to the parser
(`services/logger/logger_main.c`).

The three agree on one record of 20 bytes: what a client publishes, if it
reaches the callback of the service, is kept there byte for byte, and a file of
what is kept there is parsed into what was sent.  The loop of the service calls
its callback for what `ipc_subscriber_receive` delivers, and that is nothing: the
library never learns the size of what the kernel has handed it.
-/

namespace AutoMlos

open Lib ServiceMessage

/-! ## what a client publishes -/

namespace ClientLedger

variable {l : ClientLedger}

/-- What has been published are accepted entries in order, and all of them are
valid. -/
structure Clean (l : ClientLedger) : Prop where
  ring : ∃ r, l.client.early.Represents r
  sublist : l.published.Sublist l.accepted
  valid : ∀ e ∈ l.accepted, Valid e

theorem clean_start : start.Clean where
  ring := balanced_start.ring
  sublist := .slnil
  valid := by simp [start]

/-- An accepted entry that is published or not. -/
theorem Clean.accept (h : l.Clean) {client : LogClient} {e : LogEntryBinary}
    {sent : List LogEntryBinary} (hring : ∃ r, client.early.Represents r) (he : Valid e)
    (hsent : sent.Sublist [e]) (overwritten : List LogEntryBinary) :
    ClientLedger.Clean
      { client, accepted := l.accepted ++ [e], published := l.published ++ sent, overwritten } where
  ring := hring
  sublist := h.sublist.append hsent
  valid := by
    intro e' he'
    obtain he' | he' := List.mem_append.mp he'
    · exact h.valid e' he'
    · rwa [List.mem_singleton.mp he']

/-- The entry of a send that is accepted is valid. -/
theorem valid_sentEntry {args : LogArgs} {sys : SysReadings}
    (h : logPrepareEntry args sys = .ok (sentEntry args sys)) : Valid (sentEntry args sys) := by
  obtain ⟨hargs, -⟩ := logPrepareEntry_ok h
  exact ⟨rfl, hargs.1, hargs.2.1, hargs.2.2⟩

/-- **One call of the client.** -/
theorem Clean.step (l : ClientLedger) (call : ClientCall) (h : l.Clean) :
    ∃ reply l', l.step call = .ok (reply, l') ∧ l'.Clean := by
  cases call with
  | init created publish =>
      exact ⟨_, _, step_init_eq l created publish,
        ⟨earlyZeroRing, rfl, rfl, rfl, rfl⟩, h.sublist, h.valid⟩
  | send args sys published =>
      rcases logPrepareEntry_cases args sys with ⟨error, herror, hprepare⟩ | hprepare
      · refine ⟨error, l, ?_, h⟩
        simp only [ClientLedger.step, logClientSendEntry_of_error herror hprepare, Outcome.ok_bind,
          if_pos herror, Outcome.pure_eq_ok, List.append_nil]
      · have hok : ¬ logClientOk.errorCode ≠ errBaseOk := by decide
        have hvalid := valid_sentEntry hprepare
        by_cases hpublish : l.client.publisher ∧ published
        · refine ⟨logClientOk, _, ?_, h.accept h.ring hvalid (.refl _) l.overwritten⟩
          simp only [ClientLedger.step, logClientSendEntry_of_ok hprepare, if_pos hpublish,
            Outcome.ok_bind, if_neg hok, Outcome.pure_eq_ok, List.cons_ne_nil, false_and, if_false]
        · obtain ⟨r, hr⟩ := h.ring
          by_cases hinit : l.client.early.initialized = true
          · obtain ⟨early, hstore, hpush, -⟩ :=
              earlyLogBufferStore_spec hr hinit (sentEntry args sys)
            have hring : ∃ r, ({ l.client with early } : LogClient).early.Represents r :=
              ⟨_, hpush⟩
            refine ⟨logClientOk, _, ?_, h.accept hring hvalid (List.nil_sublist _)
              (if l.held.length = 32 then l.overwritten ++ l.held.take 1 else l.overwritten)⟩
            simp only [ClientLedger.step, logClientSendEntry_of_ok hprepare, if_neg hpublish,
              hstore, Outcome.ok_bind, if_neg hok, Outcome.pure_eq_ok, true_and]
          · -- before the first initialisation nothing is stored
            have hcritical : (logCritical errSafeCriticalNull).errorCode ≠ errBaseOk := by decide
            have hstore : earlyLogBufferStore l.client.early (sentEntry args sys) =
                .ok (logCritical errSafeCriticalNull, l.client.early) := by
              rw [earlyLogBufferStore, if_pos (by simpa using hinit)]
              rfl
            refine ⟨logCritical errSafeCriticalNull, l, ?_, h⟩
            simp only [ClientLedger.step, logClientSendEntry_of_ok hprepare, if_neg hpublish,
              hstore, Outcome.ok_bind, if_pos hcritical, Outcome.pure_eq_ok, List.append_nil]
  | cleanup =>
      have hearly : (logClientCleanup l.client).early = l.client.early := by
        unfold logClientCleanup
        split <;> rfl
      exact ⟨logClientOk, _, rfl, by rw [hearly]; exact h.ring, h.sublist, h.valid⟩

/-- **A run of the client.** -/
theorem run_clean (calls : List ClientCall) :
    ∃ replies l, run ClientLedger.step start calls = .ok (replies, l) ∧ l.Clean :=
  run_of_invariant Clean.step clean_start calls

end ClientLedger

/-! ## what the service keeps -/

/-- What the message of a published entry is. -/
def publicationMessage (e : LogEntryBinary) : ServiceMessage where
  data := some e.toBytes
  size := LogEntryBinary.size
  readable := by
    rintro _ ⟨⟩
    exact e.length_toBytes

/-- `log_entry_callback`: the error code that it prints, if any. -/
def logEntryCallback (service : LoggerService) (message : ServiceMessage) :
    Outcome (Option UInt32 × LoggerService) :=
  if message.data = none ∨ message.size < LogEntryBinary.size then return (none, service)
  else do
    let (result, service) ← loggerServiceProcessMessage service message
    return (if result.errorCode ≠ errBaseOk then some result.errorCode else none, service)

/-- The message of a valid entry is a valid record. -/
theorem validRecord_publicationMessage {e : LogEntryBinary} (h : Valid e) :
    (publicationMessage e).validRecord = some e := by
  have hchecksum : logCalculateChecksum (some e) = e.checksum := h.checksum
  simp only [validRecord, publicationMessage, LogEntryBinary.ofBytes_toBytes]
  exact if_pos ⟨rfl, hchecksum⟩

/-- The callback hands a published entry to the service, and prints nothing. -/
theorem logEntryCallback_of_valid {e : LogEntryBinary} (h : Valid e) {service : LoggerService}
    {messages : List ServiceMessage} (hservice : service.Holds messages) :
    ∃ service', logEntryCallback service (publicationMessage e) = .ok (none, service') ∧
      service'.Holds (messages ++ [publicationMessage e]) := by
  obtain ⟨service', hprocess, hholds⟩ :=
    loggerServiceProcessMessage_spec hservice (publicationMessage e)
  have hsize : ¬ ((publicationMessage e).data = none ∨
      (publicationMessage e).size < LogEntryBinary.size) := by
    simp [publicationMessage]
  refine ⟨service', ?_, hholds⟩
  rw [logEntryCallback, if_neg hsize, hprocess,
    verdict_of_some (validRecord_publicationMessage h)]
  rfl

/-- **The callback on a run of published entries.** -/
theorem run_logEntryCallback {entries : List LogEntryBinary} (h : ∀ e ∈ entries, Valid e)
    {service : LoggerService} {messages : List ServiceMessage} (hservice : service.Holds messages) :
    ∃ replies service', run logEntryCallback service (entries.map publicationMessage) =
        .ok (replies, service') ∧ (∀ reply ∈ replies, reply = none) ∧
      service'.Holds (messages ++ entries.map publicationMessage) := by
  induction entries generalizing service messages with
  | nil => exact ⟨[], service, rfl, by simp, by rwa [List.map_nil, List.append_nil]⟩
  | cons e entries ih =>
      obtain ⟨he, hentries⟩ := List.forall_mem_cons.mp h
      obtain ⟨service₁, hfirst, hholds₁⟩ := logEntryCallback_of_valid he hservice
      obtain ⟨replies, service', hrun, hreplies, hholds⟩ := ih hentries hholds₁
      refine ⟨none :: replies, service', run_cons_of_eq hfirst hrun, ?_, ?_⟩
      · exact List.forall_mem_cons.mpr ⟨rfl, hreplies⟩
      · rwa [List.append_assoc, List.singleton_append, ← List.map_cons] at hholds

/-- The records among the messages of valid entries are the entries. -/
theorem recordsOf_publications {entries : List LogEntryBinary} (h : ∀ e ∈ entries, Valid e)
    (level : Nat) :
    recordsOf (entries.map publicationMessage) level =
      entries.filter fun e => e.level.toNat = level := by
  have hrecords : (entries.map publicationMessage).filterMap validRecord = entries := by
    rw [List.filterMap_map]
    exact (List.filterMap_congr fun e he => validRecord_publicationMessage (h e he)).trans
      List.filterMap_some
  rw [recordsOf, hrecords, bucket]

/-- For every run of the client that starts with its statics at startup, and every
way its publishes go: what is published are accepted entries in their order.  If
each of these messages reaches the callback of a fresh service once and in order,
none is refused, each level buffer holds the first 100 of its level, and the
parser, with databases whose formats of the messages that there are take two data
words, counts the records of a buffer as valid and prints the entries that were
sent. -/
theorem parser_reads_published {db : LogDatabases} (hdb : db.SoundForMessages)
    (calls : List ClientCall) (service : LoggerService) (time : SystemError × UInt64) :
    ∃ replies l replies' service', run ClientLedger.step .start calls = .ok (replies, l) ∧
      l.published.Sublist l.accepted ∧
      run logEntryCallback (loggerServiceInit service time).2
        (l.published.map publicationMessage) = .ok (replies', service') ∧
      (∀ reply ∈ replies', reply = none) ∧
      ∀ level : Fin 6, ∃ entries,
        entries = (l.published.filter fun e => e.level.toNat = level.val).take 100 ∧
        (service'.levelBuffer level).held.map LoggerServiceEntry.toBytes =
          entries.map LogEntryBinary.toBytes ∧
        ∀ stats, logParserProcessFile db
            (some ((service'.levelBuffer level).held.flatMap LoggerServiceEntry.toBytes)) true .text
            stats = .ok {
          result := 0
          output := some (entries.flatMap (plainText db))
          stats := stats + ⟨.ofNat entries.length, .ofNat entries.length, 0, 0⟩
          rendered := entries } := by
  obtain ⟨replies, l, hrun, hclean⟩ := ClientLedger.run_clean calls
  have hvalid : ∀ e ∈ l.published, Valid e := fun e he => hclean.valid e (hclean.sublist.subset he)
  obtain ⟨replies', service', hrun', hreplies, hholds⟩ :=
    run_logEntryCallback hvalid (service.holds_init time)
  refine ⟨replies, l, replies', service', hrun, hclean.sublist, hrun', hreplies,
    fun level => ⟨_, rfl, ?_⟩⟩
  have hentries : ∀ e ∈ (l.published.filter fun e => e.level.toNat = level.val).take 100,
      Valid e :=
    fun e he => hvalid e (List.mem_of_mem_filter (List.mem_of_mem_take he))
  have hheld : (service'.levelBuffer level).held.map LoggerServiceEntry.toBytes =
      ((l.published.filter fun e => e.level.toNat = level.val).take 100).map
        LogEntryBinary.toBytes := by
    rw [(hholds.buffer level).held, List.nil_append, List.map_take, map_toBytes_ofLogEntry,
      recordsOf_publications hvalid, List.map_take]
  refine ⟨hheld, fun stats => ?_⟩
  rw [List.flatMap_def, hheld, ← List.flatMap_def]
  exact logParserProcessFile_toBytes hdb hentries stats

/-- An entry is sent before there is a publisher, and one after. -/
def twoSends : List ClientCall :=
  [.init false fun _ => true, .send ⟨1, 0, 3, 0, 0⟩ (.succeed 123 1000) true,
    .init true fun _ => true, .send ⟨2, 0, 6, 8, 9⟩ (.succeed 123 1001) true]

/-- A service whose buffers are empty. -/
def emptyService : LoggerService :=
  ⟨Vector.replicate 6 loggerServiceBufferInit, 0, 0, false, false, ⟨0, 0, 0, 0⟩⟩

theorem parser_reads_published_twoSends :
    ∃ replies l replies' service', run ClientLedger.step .start twoSends = .ok (replies, l) ∧
      l.published.Sublist l.accepted ∧
      run logEntryCallback (loggerServiceInit emptyService (syscallOk, 1000)).2
        (l.published.map publicationMessage) = .ok (replies', service') ∧
      (∀ reply ∈ replies', reply = none) ∧
      ∀ level : Fin 6, ∃ entries,
        entries = (l.published.filter fun e => e.level.toNat = level.val).take 100 ∧
        (service'.levelBuffer level).held.map LoggerServiceEntry.toBytes =
          entries.map LogEntryBinary.toBytes ∧
        ∀ stats, logParserProcessFile shippedDatabases
            (some ((service'.levelBuffer level).held.flatMap LoggerServiceEntry.toBytes)) true .text
            stats = .ok {
          result := 0
          output := some (entries.flatMap (plainText shippedDatabases))
          stats := stats + ⟨.ofNat entries.length, .ofNat entries.length, 0, 0⟩
          rendered := entries } :=
  parser_reads_published soundForMessages_shippedDatabases twoSends emptyService (syscallOk, 1000)

/-! ## the loop of the service -/

/-- The service with its subscriber, `g_log_subscriber`; its callback is
`log_entry_callback`, so that the type of callbacks has one element. -/
structure LoggerProcess where
  service : LoggerService
  subscriber : Option (IpcSubscriber Unit Unit)

/-- `logger_service_init_pubsub`; `allocated` says whether `malloc` has room. -/
def loggerServiceInitPubsub (process : LoggerProcess) (time : SystemError × UInt64)
    (allocated : Bool) : SystemError × LoggerProcess :=
  let (result, service) := loggerServiceInit process.service time
  if result.errorCode ≠ errBaseOk then (result, { process with service })
  else
    let subscriber := ipcCreateSubscriber (some systemLoggingInfo) (some ()) () allocated
    let process := { service, subscriber }
    if subscriber.isNone then
      (systemErrorCreate errSysServiceNotFound .system .high moduleIdLogging, process)
    else (loggerServiceOk, process)

/-- The message of a callback call. -/
def CallbackCall.toMessage (call : CallbackCall Unit Unit) : ServiceMessage where
  data := some call.message
  size := call.message.length
  readable := by
    rintro _ ⟨⟩
    rfl

/-- One round of `logger_service_loop`: the error codes that the callback
prints. -/
def loggerServiceLoop (process : LoggerProcess) (receipt : IpcReceipt) :
    Outcome (List (Option UInt32) × LoggerProcess) := do
  let ((_, calls), subscriber) := ipcSubscriberReceive process.subscriber receipt
  let (printed, service) ← run logEntryCallback process.service (calls.map CallbackCall.toMessage)
  return (printed, { service, subscriber })

/-- A round leaves the service as it is. -/
theorem loggerServiceLoop_eq (process : LoggerProcess) (receipt : IpcReceipt) :
    loggerServiceLoop process receipt = .ok ([],
      { process with subscriber := (ipcSubscriberReceive process.subscriber receipt).2 }) := by
  have hreceive : ipcSubscriberReceive process.subscriber receipt =
      ((-1, []), (ipcSubscriberReceive process.subscriber receipt).2) :=
    Prod.ext (ipcSubscriberReceive_reply process.subscriber receipt) rfl
  rw [loggerServiceLoop, hreceive]
  rfl

/-- The rounds of the loop, one after another. -/
theorem run_loggerServiceLoop (process : LoggerProcess) (receipts : List IpcReceipt) :
    ∃ process', run loggerServiceLoop process receipts =
        .ok (receipts.map fun _ => [], process') ∧ process'.service = process.service := by
  induction receipts generalizing process with
  | nil => exact ⟨process, rfl, rfl⟩
  | cons receipt receipts ih =>
      obtain ⟨process', hrun, hservice⟩ := ih
        { process with subscriber := (ipcSubscriberReceive process.subscriber receipt).2 }
      exact ⟨process', run_cons_of_eq (loggerServiceLoop_eq process receipt) hrun, hservice⟩

/-- **The service starves**: with memory for its subscriber it starts, and then
however long its loop runs and whatever the kernel hands it, its callback is
never called and every level buffer stays empty. -/
theorem logger_service_starves (process : LoggerProcess) (time : SystemError × UInt64)
    (receipts : List IpcReceipt) :
    ∃ started process', loggerServiceInitPubsub process time true = (loggerServiceOk, started) ∧
      run loggerServiceLoop started receipts = .ok (receipts.map fun _ => [], process') ∧
      ∀ level, (process'.service.levelBuffer level).held = [] := by
  have hvalid : ipcValidateTopic (some systemLoggingInfo) = .valid ∧
      systemLoggingInfo.length < ipcTopicMaxLength := by decide
  have hsubscribed := ipcCreateSubscriber_of_allocated systemLoggingInfo () ()
  rw [if_pos hvalid] at hsubscribed
  have hinit : (loggerServiceInit process.service time).1 = loggerServiceOk := by
    have hregister : ¬ (sysIpcRegisterTopic (some loggerServiceName)).errorCode ≠ errBaseOk := by
      decide
    rw [loggerServiceInit, if_neg hregister]
  have hholds := process.service.holds_init time
  have hstart : loggerServiceInitPubsub process time true = (loggerServiceOk,
      ⟨(loggerServiceInit process.service time).2,
        some ⟨systemLoggingInfo, (), (), 0, 0⟩⟩) := by
    simp only [loggerServiceInitPubsub, hinit, hsubscribed]
    rfl
  obtain ⟨process', hrun, hservice⟩ := run_loggerServiceLoop
    ⟨(loggerServiceInit process.service time).2, some ⟨systemLoggingInfo, (), (), 0, 0⟩⟩ receipts
  refine ⟨_, process', hstart, hrun, fun level => ?_⟩
  rw [hservice]
  exact (hholds.buffer level).held

end AutoMlos
