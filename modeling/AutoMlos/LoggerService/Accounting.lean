import AutoMlos.LoggerService.Contents

/-!
# AutoMlos.LoggerService.Accounting

Whether the logger service accounts for the messages it acknowledges.

Every valid record is acknowledged, but the result of the put is ignored:
a record of a level without a buffer, and one whose level buffer is full,
is acknowledged and neither stored nor counted as dropped.  The accounts
agree exactly on the runs without such records (`service_accounts_iff`).
-/

namespace AutoMlos

open Lib ServiceMessage

/-! ## the accounts -/

/-- The number of messages acknowledged as processed. -/
def acknowledged (replies : List SystemError) : Nat :=
  replies.countP fun reply => reply.errorCode = errBaseOk

/-- After `logger_service_init` and the messages, the acknowledged messages
are those the reported status counts as stored or as dropped. -/
def ServiceAccounts (service : LoggerService) (time : SystemError × UInt64)
    (messages : List ServiceMessage) (status : LoggerStatusResponse) : Prop :=
  ∃ replies service' report,
    run loggerServiceProcessMessage (loggerServiceInit service time).2 messages =
      .ok (replies, service') ∧
    loggerServiceReport service' status = (loggerServiceOk, some report) ∧
    acknowledged replies = report.entryCount.toNat + report.droppedCount.toNat

/-- The level a record is stored under. -/
def LogEntryBinary.levelKey (e : LogEntryBinary) : Nat := e.level.toNat

/-- The acknowledged messages are the valid records. -/
theorem acknowledged_map_verdict (messages : List ServiceMessage) :
    acknowledged (messages.map verdict) = (messages.filterMap validRecord).length := by
  rw [acknowledged, List.countP_map, List.length_filterMap_eq_countP]
  apply List.countP_congr
  intro m _
  rw [Function.comp_apply, decide_eq_true_eq, errorCode_verdict_iff]

/-- The reported total is what the six level buffers hold of the records. -/
theorem LoggerService.Holds.toNat_totalEntries_eq_storedCount {service : LoggerService}
    {messages : List ServiceMessage} (h : service.Holds messages) :
    service.totalEntries.toNat =
      storedCount LogEntryBinary.levelKey 100 6 (messages.filterMap validRecord) := by
  rw [h.toNat_totalEntries, storedCount, ← List.map_coe_finRange_eq_range, List.map_map]
  congr 1
  apply List.map_congr_left
  intro level _
  exact h.length_held level

theorem serviceAccounts_iff_storedCount (service : LoggerService) (time : SystemError × UInt64)
    (messages : List ServiceMessage) (status : LoggerStatusResponse) :
    ServiceAccounts service time messages status ↔
      storedCount LogEntryBinary.levelKey 100 6 (messages.filterMap validRecord) =
        (messages.filterMap validRecord).length := by
  obtain ⟨service', hrun, h⟩ := run_loggerServiceProcessMessage service time messages
  obtain ⟨report, hreport, hcount, hdropped⟩ := loggerServiceReport_of_running h.running status
  have hentries : report.entryCount.toNat =
      storedCount LogEntryBinary.levelKey 100 6 (messages.filterMap validRecord) := by
    rw [hcount, h.toNat_totalEntries_eq_storedCount]
  have hzero : report.droppedCount.toNat = 0 := by
    rw [hdropped]
    rfl
  constructor
  · rintro ⟨replies, service₁, report₁, hrun₁, hreport₁, heq⟩
    rw [hrun] at hrun₁
    cases hrun₁
    rw [hreport] at hreport₁
    cases hreport₁
    rw [acknowledged_map_verdict, hentries, hzero] at heq
    exact heq.symm
  · intro heq
    refine ⟨_, service', report, hrun, hreport, ?_⟩
    rw [acknowledged_map_verdict, hentries, hzero, heq, Nat.add_zero]

/-! ## when the accounts agree -/

/-- **The accounts of the logger service** agree exactly on the sequences of
messages whose valid records all have a level with a buffer, at most 100 for
each level. -/
theorem service_accounts_iff (service : LoggerService) (time : SystemError × UInt64)
    (messages : List ServiceMessage) (status : LoggerStatusResponse) :
    ServiceAccounts service time messages status ↔
      (∀ m ∈ messages, ∀ e, m.validRecord = some e → e.level.toNat < loggerServiceLevelCount) ∧
      ∀ level < loggerServiceLevelCount, (recordsOf messages level).length ≤ 100 := by
  rw [serviceAccounts_iff_storedCount, storedCount_eq_length_iff]
  refine and_congr ?_ Iff.rfl
  constructor
  · intro h m hm e he
    exact h e (List.mem_filterMap.mpr ⟨m, hm, he⟩)
  · intro h e he
    obtain ⟨m, hm, hvalid⟩ := List.mem_filterMap.mp he
    exact h m hm e hvalid

/-- A record of level 6 whose checksum verifies. -/
def levelSixMessage : ServiceMessage where
  data := some [0, 0, 0, 0, 0, 0, 6, 0, 0, 0, 0, 0, 0, 0, 0, 0, 0, 0, 6, 0]
  size := 20
  readable := by
    intro bytes h
    cases h
    rfl

/-- The level-6 record is acknowledged, and the status reports nothing. -/
theorem service_not_always_accounts :
    ¬ ∀ service time messages status, ServiceAccounts service time messages status := by
  intro h
  have hstored := (serviceAccounts_iff_storedCount
    { levelBuffers := Vector.replicate 6 loggerServiceBufferInit
      currentWriteOffset := 0
      lastFlushTime := 0
      storageAvailable := false
      serviceRunning := false
      lastStatus := ⟨0, 0, 0, 0⟩ }
    (syscallOk, 1000) [levelSixMessage] ⟨0, 0, 0, 0⟩).mp (h _ _ _ _)
  revert hstored
  decide

end AutoMlos
