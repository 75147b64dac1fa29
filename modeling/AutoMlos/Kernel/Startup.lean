import AutoMlos.Interrupt
import AutoMlos.Kernel.CoreServices
import AutoMlos.Kernel.MainLoop
import AutoMlos.KernelSyscalls
import AutoMlos.KernelTime.Usable
import AutoMlos.KernelWatchdog
import AutoMlos.LogClient.Accounting
import AutoMlos.SystemMonitor

/-!
# AutoMlos.Kernel.Startup

The phased startup of the kernel (`kernel_init`, `kernel/core/kernel.c`).

Five phases run in order and each starts the modules of one layer; the first
that fails ends the startup.  Phase 2 asks for a shared buffer that no pool can
hold, so no startup goes further (`kernel_never_starts`).  From power-on there
are two cases: with a working hardware timer phase 0 does not return, and
without one the startup stops in phase 1 or 2.

`system_monitor_service_start` is not part of the repository, nor are the
values that `kernel.c` takes the `SYSTEM_ERROR_*` values for; both are inputs.
-/

namespace AutoMlos

open Lib

/-! ## the phases -/

/-- `MODULE_ID_KERNEL`. -/
def moduleIdKernel : UInt16 := 0x10

/-- `LOG_MSG_SERVICE_READY`. -/
def logMsgServiceReady : UInt16 := 2

/-- The statics of all modules that the startup initialises. -/
structure KernelSystem (γ υ : Type) where
  time : TimeState
  interrupts : InterruptController γ υ
  core : Kernel
  monitor : SystemMonitor
  syscallTable : SyscallTable
  scheduler : SchedulerState
  rtInitialized : Bool
  watchdog : KernelWatchdog

/-- What a log call of the startup is about: a phase, or a component that was
registered. -/
inductive StartupLog where
  | phase (phase : StartupPhase)
  | component (level : KernelWatchdogLevel)
  deriving DecidableEq, Repr

/-- What the startup meets outside the kernel. -/
structure StartupPlatform where
  heapAddress : Nat
  clocks : HwClocks
  timerInit : SystemError
  rtcInit : SystemError
  publisherCreated : Bool
  flushPublish : Nat → Bool
  sys : StartupLog → SysReadings
  published : StartupLog → Bool
  monitorPort : MonitorError × UInt32
  backupMonitorPort : MonitorError × UInt32
  monitorError : MonitorError → SystemError
  systemMonitorServiceStart : SystemMonitor → Outcome (SystemError × SystemMonitor)
  imports : SyscallImports
  watchdogTopic : SystemError

section Phases

variable {γ υ : Type} (p : StartupPlatform)

/-- The success value of `kernel.c`. -/
def kernelOk : SystemError := systemErrorCreate errBaseOk .system .low moduleIdKernel

/-- Enter a phase: store it and log it. -/
def KernelSystem.enterPhase (k : KernelSystem γ υ) (phase : StartupPhase) :
    Outcome (SystemError × KernelSystem γ υ) := do
  let core := { k.core with currentPhase := phase }
  let (error, core) ←
    kernelLogPhaseTransition core core.currentPhase (p.sys (.phase phase))
      (p.published (.phase phase))
  return (error, { k with core })

/-- `kernel_init_pure_hardware`. -/
def kernelInitPureHardware (fuel : Nat) (k : KernelSystem γ υ) :
    Outcome (SystemError × KernelSystem γ υ) := do
  let (error, time) ← kernelTimeInit p.clocks (.ofResults p.timerInit p.rtcInit) fuel k.time
  let k := { k with time }
  if error.errorCode ≠ errBaseOk then return (error, k)
  else
    let (error, interrupts) := interruptControllerInit k.interrupts
    let k := { k with interrupts }
    if error.errorCode ≠ errBaseOk then return (error, k)
    else return (kernelOk, { k with core := { k.core with currentPhase := .pureHardware } })

/-- `kernel_init_early_logging`. -/
def kernelInitEarlyLogging (k : KernelSystem γ υ) : Outcome (SystemError × KernelSystem γ υ) := do
  let (error, log, _) ← logClientInit k.core.log p.publisherCreated p.flushPublish
  let k := { k with core := { k.core with log } }
  if error.errorCode ≠ errBaseOk then return (error, k)
  else k.enterPhase p .hardware

/-- `kernel_init_core_services`, among all modules. -/
def KernelSystem.initCoreServices (k : KernelSystem γ υ) :
    Outcome (SystemError × KernelSystem γ υ) := do
  let (error, core) ← kernelInitCoreServices p.heapAddress k.core (p.sys (.phase .kernelCore))
    (p.published (.phase .kernelCore))
  return (error, { k with core })

/-- `kernel_init_safety_monitor`. -/
def kernelInitSafetyMonitor (k : KernelSystem γ υ) : Outcome (SystemError × KernelSystem γ υ) :=
  let (error, monitor) := systemMonitorServiceInit p.monitorPort p.backupMonitorPort k.monitor
  let k := { k with monitor }
  if (p.monitorError error).errorCode ≠ errBaseOk then return (p.monitorError error, k)
  else do
    let (error, monitor) ← p.systemMonitorServiceStart k.monitor
    let k := { k with monitor }
    if error.errorCode ≠ errBaseOk then return (error, k)
    else k.enterPhase p .safetyMonitor

/-- The hash of a component's name; a `char` is signed. -/
def componentNameHash (name : CString) : UInt32 :=
  name.bytes.foldl (fun hash c => (hash <<< 5) - hash + c.toInt8.toInt32.toUInt32) 0

/-- `watchdog_log_component_register`. -/
def watchdogLogComponentRegister (level : KernelWatchdogLevel) (name : CString)
    (k : KernelSystem γ υ) : Outcome (KernelSystem γ υ) := do
  let args : LogArgs :=
    { level := logLevelInfo
      tagId := logTagKernel
      messageId := logMsgServiceReady
      data1 := UInt32.ofNat level.ctorIdx
      data2 := componentNameHash name }
  let (_, log, _) ← logClientSendEntry k.core.log args (p.sys (.component level))
    (p.published (.component level))
  return { k with core := { k.core with log } }

/-- A call of `kernel_watchdog_register`, whose result is not looked at; a
component that is entered is logged. -/
def KernelSystem.registerComponent (level : KernelWatchdogLevel) (timeoutMs : UInt32)
    (name : CString) (k : KernelSystem γ υ) : Outcome (KernelSystem γ υ) :=
  let (error, watchdog) :=
    kernelWatchdogRegister (UInt32.ofNat level.ctorIdx) timeoutMs name k.watchdog
  let k := { k with watchdog }
  if error.errorCode ≠ errSysOk then return k else watchdogLogComponentRegister p level name k

/-- `kernel_init_system_services`. -/
def kernelInitSystemServices (fuel : Nat) (k : KernelSystem γ υ) :
    Outcome (SystemError × KernelSystem γ υ) :=
  let (error, syscallTable) := syscallInit p.imports
  let k := { k with syscallTable }
  if error.errorCode ≠ errBaseOk then return (error, k)
  else do
    let (uptime, time) ← kernelTimeGetUptimeUs p.clocks fuel k.time
    let k := { k with time, scheduler := schedulerInit uptime, rtInitialized := true }
    if schedulerOk.errorCode ≠ errBaseOk then return (schedulerOk, k)
    else
      let (error, watchdog) := kernelWatchdogInit p.watchdogTopic k.watchdog
      let k := { k with watchdog }
      if error.errorCode ≠ errBaseOk then return (error, k)
      else
        let k ← k.registerComponent p .scheduler 1000 (.ofAscii "scheduler")
        let k ← k.registerComponent p .memory 2000 (.ofAscii "memory_manager")
        let k ← k.registerComponent p .ipc 1500 (.ofAscii "ipc_subsystem")
        k.enterPhase p .systemServices

/-- `kernel_init`. -/
def kernelInit (fuel : Nat) (k : KernelSystem γ υ) : Outcome (SystemError × KernelSystem γ υ) := do
  let (error, k) ← kernelInitPureHardware p fuel k
  if error.errorCode ≠ errBaseOk then return (error, k)
  else
    let (error, k) ← kernelInitEarlyLogging p k
    if error.errorCode ≠ errBaseOk then return (error, k)
    else
      let (error, k) ← k.initCoreServices p
      if error.errorCode ≠ errBaseOk then return (error, k)
      else
        let (error, k) ← kernelInitSafetyMonitor p k
        if error.errorCode ≠ errBaseOk then return (error, k)
        else
          let (error, k) ← kernelInitSystemServices p fuel k
          if error.errorCode ≠ errBaseOk then return (error, k)
          else
            let (_, k) ← k.enterPhase p .complete
            return (kernelOk, k)

end Phases

/-! ## what a startup leaves alone -/

/-- Nothing of phases 3 and 4 was started, and no later phase than
`STARTUP_PHASE_HARDWARE` was entered. -/
structure KernelSystem.StoppedEarly {γ υ : Type} (k k' : KernelSystem γ υ) : Prop where
  monitor : k'.monitor = k.monitor
  syscallTable : k'.syscallTable = k.syscallTable
  scheduler : k'.scheduler = k.scheduler
  rtInitialized : k'.rtInitialized = k.rtInitialized
  watchdog : k'.watchdog = k.watchdog
  currentPhase : k'.core.currentPhase ∈ [k.core.currentPhase, .pureHardware, .hardware]

section Early

variable {γ υ : Type} {p : StartupPlatform} {k k' k'' : KernelSystem γ υ} {error : SystemError}

theorem KernelSystem.StoppedEarly.trans (h : k.StoppedEarly k') (h' : k'.StoppedEarly k'') :
    k.StoppedEarly k'' where
  monitor := h'.monitor.trans h.monitor
  syscallTable := h'.syscallTable.trans h.syscallTable
  scheduler := h'.scheduler.trans h.scheduler
  rtInitialized := h'.rtInitialized.trans h.rtInitialized
  watchdog := h'.watchdog.trans h.watchdog
  currentPhase := by
    have hphase := h.currentPhase
    have hphase' := h'.currentPhase
    simp only [List.mem_cons, List.not_mem_nil, or_false] at hphase hphase' ⊢
    rcases hphase' with hsame | hlate
    · rwa [hsame]
    · exact .inr hlate

/-- Logging a phase does not change the phase. -/
theorem currentPhase_kernelLogPhaseTransition {core core' : Kernel} {phase : StartupPhase}
    {sys : SysReadings} {published : Bool}
    (h : kernelLogPhaseTransition core phase sys published = .ok (error, core')) :
    core'.currentPhase = core.currentPhase := by
  obtain ⟨sent, -, hreturn⟩ := Outcome.bind_eq_ok h
  cases hreturn
  rfl

/-- Phase 0 starts the clock and the interrupt controller. -/
theorem kernelInitPureHardware_stoppedEarly {fuel : Nat}
    (h : kernelInitPureHardware p fuel k = .ok (error, k')) : k.StoppedEarly k' := by
  obtain ⟨⟨timeError, time⟩, -, hrest⟩ := Outcome.bind_eq_ok h
  simp only at hrest
  split at hrest
  · cases hrest
    exact ⟨rfl, rfl, rfl, rfl, rfl, by simp⟩
  · split at hrest
    · cases hrest
      exact ⟨rfl, rfl, rfl, rfl, rfl, by simp⟩
    · cases hrest
      exact ⟨rfl, rfl, rfl, rfl, rfl, by simp⟩

/-- Phase 1 starts the log client. -/
theorem kernelInitEarlyLogging_stoppedEarly (h : kernelInitEarlyLogging p k = .ok (error, k')) :
    k.StoppedEarly k' := by
  obtain ⟨⟨initError, log, published⟩, -, hrest⟩ := Outcome.bind_eq_ok h
  simp only at hrest
  split at hrest
  · cases hrest
    exact ⟨rfl, rfl, rfl, rfl, rfl, by simp⟩
  · obtain ⟨⟨logError, core⟩, hlog, hreturn⟩ := Outcome.bind_eq_ok hrest
    cases hreturn
    have hphase := currentPhase_kernelLogPhaseTransition hlog
    exact ⟨rfl, rfl, rfl, rfl, rfl, by simp [hphase]⟩

/-- **Phase 2 fails**, whatever state it starts in: memory does not come up, or
message passing is up already, or no pool can hold its shared buffer. -/
theorem kernelInitCoreServices_fails {heapAddress : Nat} {core core' : Kernel} {sys : SysReadings}
    {published : Bool}
    (h : kernelInitCoreServices heapAddress core sys published = .ok (error, core')) :
    error.errorCode ≠ errBaseOk ∧ core'.currentPhase = core.currentPhase := by
  have hunavail : ipcResourceUnavail.errorCode ≠ errBaseOk := by decide
  have halready : ipcAlreadyInit.errorCode ≠ errBaseOk := by decide
  simp only [kernelInitCoreServices] at h
  split at h
  · next hmemory =>
    obtain ⟨rfl, rfl⟩ := Prod.mk.inj (Outcome.ok.inj h)
    exact ⟨hmemory, rfl⟩
  · next hmemory =>
    have hipc : (ipcKernelInit (kernelAlloc heapAddress) (memoryInit core.memory).2 core.ipc).1 =
        if core.ipc.initialized then ipcAlreadyInit else ipcResourceUnavail := by
      cases hinit : core.ipc.initialized with
      | true => rw [ipcKernelInit, if_pos hinit, if_pos rfl]
      | false =>
          exact ipcKernelInit_of_small (memoryInit_small (Classical.not_not.mp hmemory)) hinit
    have hne : (ipcKernelInit (kernelAlloc heapAddress) (memoryInit core.memory).2
        core.ipc).1.errorCode ≠ errBaseOk := by
      rw [hipc]
      split
      · exact halready
      · exact hunavail
    rw [if_pos hne] at h
    obtain ⟨rfl, rfl⟩ := Prod.mk.inj (Outcome.ok.inj h)
    exact ⟨hne, rfl⟩

/-- So `kernel_init` fails if it returns, and leaves phases 3 and 4 alone. -/
theorem kernelInit_fails {fuel : Nat} (h : kernelInit p fuel k = .ok (error, k')) :
    error.errorCode ≠ errBaseOk ∧ k.StoppedEarly k' := by
  obtain ⟨⟨error₀, k₀⟩, hphase₀, hrest⟩ := Outcome.bind_eq_ok h
  have hearly₀ := kernelInitPureHardware_stoppedEarly hphase₀
  simp only at hrest
  split at hrest
  · next hfail =>
    cases hrest
    exact ⟨hfail, hearly₀⟩
  · obtain ⟨⟨error₁, k₁⟩, hphase₁, hrest⟩ := Outcome.bind_eq_ok hrest
    have hearly₁ := hearly₀.trans (kernelInitEarlyLogging_stoppedEarly hphase₁)
    simp only at hrest
    split at hrest
    · next hfail =>
      cases hrest
      exact ⟨hfail, hearly₁⟩
    · obtain ⟨⟨error₂, k₂⟩, hphase₂, hrest⟩ := Outcome.bind_eq_ok hrest
      obtain ⟨⟨error₂, core⟩, hservices, hreturn⟩ := Outcome.bind_eq_ok hphase₂
      cases hreturn
      obtain ⟨hfail, hphase⟩ := kernelInitCoreServices_fails hservices
      simp only at hrest
      rw [if_pos hfail] at hrest
      cases hrest
      exact ⟨hfail, hearly₁.trans ⟨rfl, rfl, rfl, rfl, rfl, by simp [hphase]⟩⟩

end Early

/-! ## from power-on -/

/-- No module of phases 0 to 2 is initialised. -/
structure KernelSystem.PowerOn {γ υ : Type} (k : KernelSystem γ υ) : Prop where
  time : k.time = .zero
  interrupts : k.interrupts.initialized = false
  memory : k.core.memory = .zero
  ipc : k.core.ipc.initialized = false
  log : k.core.log = .zero

/-- What is logged when a phase is entered: the phase before it is already
overwritten. -/
def startupPhaseArgs (phase : StartupPhase) : LogArgs where
  level := logLevelInfo
  tagId := logTagKernel
  messageId := logMsgStartupPhase
  data1 := UInt32.ofNat phase.ctorIdx
  data2 := UInt32.ofNat phase.ctorIdx

/-- The clock answers 0 and stays as it is. -/
def TimeState.Stopped (hw : HwClocks) (s : TimeState) : Prop :=
  ∀ fuel, kernelTimeGetTickCount hw (fuel + 1) s = .ok (0, s)

namespace StartupPlatform

variable (p : StartupPlatform)

/-- What the log entry of phase 1 is made of, if it can be made. -/
def hardwareEntry : Except SystemError LogEntryBinary :=
  logPrepareEntry (startupPhaseArgs .hardware) (p.sys (.phase .hardware))

/-- How the startup ends when the hardware timer does not initialise. -/
def stopError : SystemError :=
  if p.publisherCreated = false then logClientNotFound
  else
    match p.hardwareEntry with
    | .error error => error
    | .ok _ => ipcResourceUnavail

/-- The phase that is reached then. -/
def stopPhase : StartupPhase := if p.publisherCreated = false then .pureHardware else .hardware

end StartupPlatform

section PowerOn

variable {γ υ : Type} {p : StartupPlatform} {k : KernelSystem γ υ}

/-- **With a working timer** phase 0 does not return: `kernel_time_init` reads
the clock that it has set up. -/
theorem kernelInitPureHardware_diverges (hk : k.PowerOn)
    (htimer : p.timerInit.errorCode = errBaseOk) :
    Outcome.Diverges fun fuel => kernelInitPureHardware p fuel k := by
  obtain ⟨hfresh, hinit, -, -⟩ := kernelTimeInitSources_spec p.clocks p.timerInit p.rtcInit
  have hprimary : (kernelTimeInitSources p.clocks (.ofResults p.timerInit p.rtcInit)
      .zero).Active 0 :=
    hfresh.active
  have hactive : (kernelTimeInitSources p.clocks (.ofResults p.timerInit p.rtcInit)
      .zero).ActiveInitialized := by
    rw [TimeState.ActiveInitialized, TimeState.readAt_active hprimary, hinit, decide_eq_true htimer]
  have hcold : TimeState.zero.ctx.primaryInitialized = false := rfl
  have hclock := kernelTimeInit_diverges hcold hactive
  intro fuel
  simp only [kernelInitPureHardware, hk.time, hclock fuel, Outcome.outOfFuel_bind]

/-- Without a working timer `kernel_time_init` succeeds, and the clock is
stopped. -/
theorem kernelTimeInit_of_timer_failed (hw : HwClocks) {timerInit : SystemError}
    (rtcInit : SystemError) (htimer : timerInit.errorCode ≠ errBaseOk) :
    ∃ s, s.Stopped hw ∧ ∀ fuel, kernelTimeInit hw (.ofResults timerInit rtcInit) (fuel + 1) .zero =
      .ok (timeErrorSuccess, s) := by
  obtain ⟨hfresh, hinit, -, -⟩ := kernelTimeInitSources_spec hw timerInit rtcInit
  have hfirst : ¬ TimeState.zero.ctx.primaryInitialized = true := by decide
  have hstopped (s : TimeState) (hactive : s.Active 0)
      (hnot : s.ctx.sourceInitialized.get 0 = false) : s.Stopped hw := by
    intro fuel
    refine kernelTimeGetTickCount_of_not_initialized ?_ fuel
    rw [TimeState.readAt_active hactive, hnot]
  rw [decide_eq_false htimer] at hinit
  simp only [kernelTimeInit, if_neg hfirst]
  generalize kernelTimeInitSources hw (.ofResults timerInit rtcInit) .zero = s₁ at hfresh hinit
  have hactive : s₁.Active 0 := hfresh.active
  have hhardware : s₁.ctx.activeSource ≠ .software := by rw [hactive]; decide
  refine ⟨{ s₁ with ctx := { s₁.ctx with lastValidationTime := 0 } }, hstopped _ hactive hinit,
    fun fuel => ?_⟩
  simp only [hstopped s₁ hactive hinit fuel, Outcome.ok_bind, if_pos hhardware, Outcome.pure_eq_ok]

/-- Phase 0 then succeeds. -/
theorem kernelInitPureHardware_of_timer_failed (hk : k.PowerOn)
    (htimer : p.timerInit.errorCode ≠ errBaseOk) :
    ∃ k', k'.time.Stopped p.clocks ∧
      k'.core = { k.core with currentPhase := .pureHardware } ∧
      ∀ fuel, kernelInitPureHardware p (fuel + 1) k = .ok (kernelOk, k') := by
  obtain ⟨time, hstopped, hclock⟩ :=
    kernelTimeInit_of_timer_failed p.clocks p.rtcInit htimer
  refine ⟨{ k with
    time
    interrupts := .started
    core := { k.core with currentPhase := .pureHardware } }, hstopped, rfl, fun fuel => ?_⟩
  have htime : ¬ timeErrorSuccess.errorCode ≠ errBaseOk := by decide
  have hinterrupt : ¬ (interruptError errSysOk .system .low).errorCode ≠ errBaseOk := by decide
  simp only [kernelInitPureHardware, hk.time, hclock fuel, Outcome.ok_bind, if_neg htime,
    interruptControllerInit_eq hk.interrupts, if_neg hinterrupt, Outcome.pure_eq_ok]

/-- A send on a fresh early buffer fails only if its entry cannot be made. -/
theorem logClientSendEntry_fresh (client : LogClient)
    (hearly : client.early = { EarlyLogBuffer.zero with initialized := true }) (args : LogArgs)
    (sys : SysReadings) (published : Bool) :
    ∃ log entries, logClientSendEntry client args sys published =
      .ok (match logPrepareEntry args sys with
        | .error error => error
        | .ok _ => logClientOk, log, entries) := by
  rcases logPrepareEntry_cases args sys with ⟨error, herror, hprepare⟩ | hprepare
  · exact ⟨client, [], by rw [logClientSendEntry_of_error herror hprepare, hprepare]⟩
  · rw [logClientSendEntry_of_ok hprepare, hprepare]
    have hring : client.early.Represents earlyZeroRing := by
      rw [hearly]
      exact ⟨rfl, rfl, rfl, rfl⟩
    obtain ⟨early, hstore, -, -⟩ := earlyLogBufferStore_spec hring (by rw [hearly])
      (ClientLedger.sentEntry args sys)
    split
    · exact ⟨_, _, rfl⟩
    · rw [hstore]
      exact ⟨_, _, rfl⟩

/-- The phase that is logged is the one that was stored just before. -/
theorem enterPhase_eq (phase : StartupPhase) :
    k.enterPhase p phase =
      logClientSendEntry k.core.log (startupPhaseArgs phase) (p.sys (.phase phase))
          (p.published (.phase phase)) >>= fun sent =>
        .ok (sent.1,
          { k with core := { k.core with log := sent.2.1, currentPhase := phase } }) := by
  show (logClientSendEntry _ (startupPhaseArgs phase) _ _ >>= _) >>= _ = _
  cases logClientSendEntry k.core.log (startupPhaseArgs phase) (p.sys (.phase phase))
    (p.published (.phase phase)) <;> rfl

/-- Phase 1 needs a publisher and the entry about itself. -/
theorem kernelInitEarlyLogging_eq (hlog : k.core.log = .zero)
    (hphase : k.core.currentPhase = .pureHardware) :
    ∃ k' : KernelSystem γ υ, k'.time = k.time ∧ k'.core.memory = k.core.memory ∧
      k'.core.ipc = k.core.ipc ∧ k'.core.currentPhase = p.stopPhase ∧
      kernelInitEarlyLogging p k =
        .ok (if p.publisherCreated = false then logClientNotFound
          else
            match p.hardwareEntry with
            | .error error => error
            | .ok _ => logClientOk, k') := by
  have hok : ¬ logClientOk.errorCode ≠ errBaseOk := by decide
  have hnotFound : logClientNotFound.errorCode ≠ errBaseOk := by decide
  simp only [kernelInitEarlyLogging, hlog, logClientInit_eq, Outcome.ok_bind,
    StartupPlatform.stopPhase, StartupPlatform.hardwareEntry]
  cases hcreated : p.publisherCreated with
  | false =>
      let log : LogClient :=
        { publisher := false, early := { EarlyLogBuffer.zero with initialized := true } }
      refine ⟨{ k with core := { k.core with log, currentPhase := .pureHardware } }, rfl, rfl, rfl,
        rfl, ?_⟩
      have hnone : (LogClient.zero.publisher || false) = false := rfl
      simp only [hnone, Bool.false_eq_true, if_false, if_true, if_pos hnotFound,
        Outcome.pure_eq_ok, ← hphase, log]
  | true =>
      obtain ⟨log, entries, hsend⟩ := logClientSendEntry_fresh
        { publisher := true, early := { EarlyLogBuffer.zero with initialized := true } } rfl
        (startupPhaseArgs .hardware) (p.sys (.phase .hardware)) (p.published (.phase .hardware))
      refine ⟨{ k with core := { k.core with log, currentPhase := .hardware } }, rfl, rfl, rfl, rfl,
        ?_⟩
      have hsome : (LogClient.zero.publisher || true) = true := rfl
      simp only [hsome, if_true, Bool.true_eq_false, if_false, if_neg hok, enterPhase_eq, hsend,
        Outcome.ok_bind]

/-- Phase 2 fails for want of a shared buffer. -/
theorem initCoreServices_eq (hmemory : k.core.memory = .zero)
    (hipc : k.core.ipc.initialized = false) :
    ∃ k' : KernelSystem γ υ, k'.time = k.time ∧ k'.core.currentPhase = k.core.currentPhase ∧
      k.initCoreServices p = .ok (ipcResourceUnavail, k') := by
  have hinit : (memoryInit .zero).1.errorCode = errBaseOk := by decide
  have hne : ipcResourceUnavail.errorCode ≠ errBaseOk := by decide
  have hfail : (ipcKernelInit (kernelAlloc p.heapAddress) (memoryInit .zero).2 k.core.ipc).1 =
      ipcResourceUnavail :=
    ipcKernelInit_of_small (memoryInit_small hinit) hipc
  let ipcInit := ipcKernelInit (kernelAlloc p.heapAddress) (memoryInit .zero).2 k.core.ipc
  refine ⟨{ k with core := { k.core with memory := ipcInit.2.2, ipc := ipcInit.2.1 } },
    rfl, rfl, ?_⟩
  simp only [KernelSystem.initCoreServices, kernelInitCoreServices, hmemory, hinit, ne_eq,
    not_true_eq_false, if_false, hfail, if_pos hne, Outcome.pure_eq_ok, Outcome.ok_bind, ipcInit]

/-- **Without a working timer** the startup ends in phase 1 or 2. -/
theorem kernelInit_of_timer_failed (hk : k.PowerOn) (htimer : p.timerInit.errorCode ≠ errBaseOk) :
    ∃ k' : KernelSystem γ υ, k'.time.Stopped p.clocks ∧ k'.core.currentPhase = p.stopPhase ∧
      ∀ fuel, kernelInit p (fuel + 1) k = .ok (p.stopError, k') := by
  obtain ⟨k₀, hstopped, hcore, hphase₀⟩ := kernelInitPureHardware_of_timer_failed hk htimer
  obtain ⟨k₁, htime₁, hmemory, hipc, hreached, hphase₁⟩ :=
    kernelInitEarlyLogging_eq (p := p) (k := k₀) (by rw [hcore]; exact hk.log) (by rw [hcore])
  obtain ⟨k₂, htime₂, hreached₂, hphase₂⟩ := initCoreServices_eq (p := p) (k := k₁)
    (by rw [hmemory, hcore]; exact hk.memory) (by rw [hipc, hcore]; exact hk.ipc)
  have hok : ¬ kernelOk.errorCode ≠ errBaseOk := by decide
  have hlogOk : ¬ logClientOk.errorCode ≠ errBaseOk := by decide
  have hnotFound : logClientNotFound.errorCode ≠ errBaseOk := by decide
  have hunavail : ipcResourceUnavail.errorCode ≠ errBaseOk := by decide
  by_cases hcreated : p.publisherCreated = false
  · refine ⟨k₁, htime₁ ▸ hstopped, hreached, fun fuel => ?_⟩
    simp only [kernelInit, hphase₀, Outcome.ok_bind, if_neg hok, hphase₁, if_pos hcreated,
      if_pos hnotFound, Outcome.pure_eq_ok, StartupPlatform.stopError]
  · cases hentry : p.hardwareEntry with
    | error error =>
        have herror : error.errorCode ≠ errBaseOk := by
          rcases logPrepareEntry_cases (startupPhaseArgs .hardware) (p.sys (.phase .hardware)) with
            ⟨error', hne, hprepare⟩ | hprepare
          · rw [← StartupPlatform.hardwareEntry, hentry] at hprepare
            rwa [Except.error.inj hprepare]
          · rw [← StartupPlatform.hardwareEntry, hentry] at hprepare
            exact nomatch hprepare
        refine ⟨k₁, htime₁ ▸ hstopped, hreached, fun fuel => ?_⟩
        simp only [kernelInit, hphase₀, Outcome.ok_bind, if_neg hok, hphase₁, if_neg hcreated,
          hentry, if_pos herror, Outcome.pure_eq_ok, StartupPlatform.stopError]
    | ok entry =>
        refine ⟨k₂, (htime₂.trans htime₁) ▸ hstopped, hreached₂.trans hreached, fun fuel => ?_⟩
        simp only [kernelInit, hphase₀, Outcome.ok_bind, if_neg hok, hphase₁, if_neg hcreated,
          hentry, if_neg hlogOk, hphase₂, if_pos hunavail, Outcome.pure_eq_ok,
          StartupPlatform.stopError]

end PowerOn

/-- **The kernel never starts**: in no state of the modules and on no platform
does `kernel_init` return success, and it never starts the monitor, the system
calls, the scheduler or the kernel watchdog.  From power-on it does not return
at all when the hardware timer initialises; otherwise it ends in phase 1 or 2,
with a clock that stands still. -/
theorem kernel_never_starts {γ υ : Type} (p : StartupPlatform) (k : KernelSystem γ υ) :
    (∀ (fuel : Nat) (error : SystemError) (k' : KernelSystem γ υ),
      kernelInit p fuel k = .ok (error, k') →
        error.errorCode ≠ errBaseOk ∧ k.StoppedEarly k') ∧
    (k.PowerOn →
      if p.timerInit.errorCode = errBaseOk then Outcome.Diverges fun fuel => kernelInit p fuel k
      else
        ∃ k' : KernelSystem γ υ, k'.time.Stopped p.clocks ∧ k'.core.currentPhase = p.stopPhase ∧
          ∀ fuel, kernelInit p (fuel + 1) k = .ok (p.stopError, k')) := by
  refine ⟨fun fuel error k' h => kernelInit_fails h, fun hk => ?_⟩
  split
  · next htimer => exact (kernelInitPureHardware_diverges hk htimer).bind _
  · next htimer => exact kernelInit_of_timer_failed hk htimer

/-- All modules switched off. -/
def coldKernel : KernelSystem Unit Unit where
  time := .zero
  interrupts := .cleared
  core := { memory := .zero, ipc := .zero, log := .zero, currentPhase := .pureHardware }
  monitor := .zero
  syscallTable := Vector.replicate syscallMax none
  scheduler := schedulerInit 0
  rtInitialized := false
  watchdog := .zero

/-- A platform on which everything works but the hardware timer. -/
def deadTimerPlatform : StartupPlatform where
  heapAddress := 4096
  clocks := stoppedClocks
  timerInit := systemErrorCreate errSysConfigError .system .high 0
  rtcInit := timeErrorSuccess
  publisherCreated := true
  flushPublish _ := true
  sys _ := ⟨(logOk, 1), (logOk, 0)⟩
  published _ := true
  monitorPort := (.none, 1)
  backupMonitorPort := (.none, 2)
  monitorError _ := kernelOk
  systemMonitorServiceStart s := .ok (kernelOk, s)
  imports := ⟨1, 2, 3, fun _ _ _ _ => .returned syscallDone⟩
  watchdogTopic := watchdogErrorSuccess

/-- There the startup ends in phase 2. -/
theorem kernel_never_starts_deadTimer :
    ∃ k' : KernelSystem Unit Unit, k'.time.Stopped stoppedClocks ∧
      k'.core.currentPhase = .hardware ∧
      ∀ fuel, kernelInit deadTimerPlatform (fuel + 1) coldKernel =
        .ok (ipcResourceUnavail, k') := by
  have htimer : ¬ deadTimerPlatform.timerInit.errorCode = errBaseOk := by decide
  have hend := (kernel_never_starts deadTimerPlatform coldKernel).2 ⟨rfl, rfl, rfl, rfl, rfl⟩
  rw [if_neg htimer] at hend
  exact hend

end AutoMlos
