import AutoMlos.Lib.Run
import AutoMlos.SystemErrors
import Mathlib.Data.List.FinRange
import Mathlib.Logic.Function.Basic

/-!
# AutoMlos.Interrupt

The interrupt controller of the kernel (`kernel/core/interrupt.c`).

The controller keeps a handler, a counter and the latest latency for each of
32 lines.  A handler and a context are whatever a pointer is, `none` being
`NULL`, and an interrupt returns the call it makes.  The hardware timer is
read twice in an interrupt; what it reads comes with the interrupt.
-/

namespace AutoMlos

open Lib

/-- `INTERRUPT_MAX_HANDLERS`. -/
def interruptMaxHandlers : Nat := 32

/-- `INTERRUPT_PRIORITY_LEVELS`. -/
def interruptPriorityLevels : UInt32 := 8

/-- `HARDWARE_TIMER_FREQUENCY_HZ`. -/
def hardwareTimerFrequencyHz : UInt64 := 1000000

/-- `MAX_ACCEPTABLE_LATENCY_US`. -/
def maxAcceptableLatencyUs : UInt64 := 50

/-- The interrupt lines. -/
abbrev IrqLine : Type := Fin interruptMaxHandlers

/-- The line of an interrupt number, if it is below the number of lines. -/
def irqLine? (irqNumber : UInt32) : Option IrqLine :=
  if h : irqNumber.toNat < interruptMaxHandlers then some ⟨irqNumber.toNat, h⟩ else none

/-- `struct interrupt_controller`; the fields that nothing reads are left
out. -/
structure InterruptController (γ υ : Type) where
  initialized : Bool
  handlers : IrqLine → Option γ
  handlerContexts : IrqLine → Option υ
  interruptCounters : IrqLine → UInt32
  latencyMeasurements : IrqLine → UInt64
  interruptPriorities : IrqLine → UInt32

/-- `interrupt_timing_stats_t`. -/
structure InterruptTimingStats where
  currentLatencyUs : UInt64
  worstCaseLatencyUs : UInt64
  averageLatencyUs : UInt64
  interruptCount : UInt32
  sampleCount : UInt32
  deriving DecidableEq, Repr

/-- `interrupt_timing_analysis_t`. -/
structure InterruptTimingAnalysis where
  totalInterrupts : UInt32
  systemWorstLatency : UInt64
  worstLatencyIrq : UInt32
  violationCount : UInt32
  complianceStatus : UInt8
  deriving DecidableEq, Repr

/-- `INTERRUPT_TIMING_COMPLIANT`. -/
def interruptTimingCompliant : UInt8 := 0

/-- `INTERRUPT_TIMING_NON_COMPLIANT`. -/
def interruptTimingNonCompliant : UInt8 := 1

/-- The error values of the module. -/
def interruptError (errorCode : UInt32) (category : ErrorCategory) (severity : ErrorSeverity) :
    SystemError :=
  systemErrorCreate errorCode category severity moduleIdInterrupt

section Controller

variable {γ υ : Type}

/-! ## handling -/

/-- `interrupt_ticks_to_us`. -/
def interruptTicksToUs (timerTicks : UInt64) : UInt64 :=
  timerTicks * 1000000 / hardwareTimerFrequencyHz

/-- One interrupt: its number, and what the hardware timer reads at its entry
and its exit. -/
structure Interrupt where
  irqNumber : UInt32
  entryTime : UInt64
  exitTime : UInt64
  deriving DecidableEq, Repr

/-- The line of an interrupt. -/
def Interrupt.line? (i : Interrupt) : Option IrqLine := irqLine? i.irqNumber

/-- The latency that is recorded for an interrupt. -/
def Interrupt.latencyUs (i : Interrupt) : UInt64 := interruptTicksToUs (i.exitTime - i.entryTime)

/-- `record_interrupt_latency`. -/
def recordInterruptLatency (irqNumber : UInt32) (entryTime exitTime : UInt64)
    (s : InterruptController γ υ) : InterruptController γ υ :=
  match irqLine? irqNumber with
  | none => s
  | some line =>
      let latencyTicks := exitTime - entryTime
      let latencyUs := interruptTicksToUs latencyTicks
      { s with latencyMeasurements := Function.update s.latencyMeasurements line latencyUs }

/-- A call of a handler. -/
structure HandlerCall (γ υ : Type) where
  handler : γ
  irqNumber : UInt32
  context : Option υ
  deriving DecidableEq, Repr

/-- `interrupt_handler`, with the call it makes. -/
def interruptHandler (s : InterruptController γ υ) (i : Interrupt) :
    Option (HandlerCall γ υ) × InterruptController γ υ :=
  match irqLine? i.irqNumber with
  | none => (none, s)
  | some line =>
      let s := { s with
        interruptCounters :=
          Function.update s.interruptCounters line (s.interruptCounters line + 1) }
      let call := (s.handlers line).map fun handler =>
        { handler, irqNumber := i.irqNumber, context := s.handlerContexts line }
      (call, recordInterruptLatency i.irqNumber i.entryTime i.exitTime s)

/-! ## analysis -/

/-- `calculate_average_latency`. -/
def calculateAverageLatency (irqNumber : UInt32) (s : InterruptController γ υ) : UInt64 :=
  match irqLine? irqNumber with
  | none => 0
  | some line => s.latencyMeasurements line

/-- `interrupt_get_timing_statistics`, with what it stores for the caller. -/
def interruptGetTimingStatistics (irqNumber : UInt32) (statsNull : Bool)
    (s : InterruptController γ υ) : SystemError × Option InterruptTimingStats :=
  match irqLine? irqNumber with
  | none => (interruptError errSysInvalidParam .system .high, none)
  | some line =>
      if statsNull then (interruptError errSysInvalidParam .system .high, none)
      else
        (interruptError errSysOk .system .low,
          some
            { currentLatencyUs := s.latencyMeasurements line
              worstCaseLatencyUs := s.latencyMeasurements line
              averageLatencyUs := calculateAverageLatency irqNumber s
              interruptCount := s.interruptCounters line
              sampleCount := 1 })

/-- One pass of the loop of `interrupt_perform_timing_analysis`. -/
def analyseLine (s : InterruptController γ υ) (analysis : InterruptTimingAnalysis) (i : IrqLine) :
    InterruptTimingAnalysis :=
  if s.interruptCounters i > 0 then
    let analysis :=
      { analysis with totalInterrupts := analysis.totalInterrupts + s.interruptCounters i }
    let latency := s.latencyMeasurements i
    let analysis :=
      if latency > analysis.systemWorstLatency then
        { analysis with systemWorstLatency := latency, worstLatencyIrq := UInt32.ofNat i }
      else analysis
    if latency > maxAcceptableLatencyUs then
      { analysis with violationCount := analysis.violationCount + 1 }
    else analysis
  else analysis

/-- What the loop of `interrupt_perform_timing_analysis` computes. -/
def analyseLines (s : InterruptController γ υ) : InterruptTimingAnalysis :=
  (List.finRange interruptMaxHandlers).foldl (analyseLine s) ⟨0, 0, 0, 0, 0⟩

/-- `interrupt_perform_timing_analysis`, with what it stores for the caller. -/
def interruptPerformTimingAnalysis (analysisNull : Bool) (s : InterruptController γ υ) :
    SystemError × Option InterruptTimingAnalysis :=
  if analysisNull then (interruptError errSysInvalidParam .system .high, none)
  else
    let analysis := analyseLines s
    let analysis :=
      { analysis with
        complianceStatus :=
          if analysis.violationCount = 0 then interruptTimingCompliant
          else interruptTimingNonCompliant }
    (interruptError errSysOk .system .low, some analysis)

/-- `interrupt_safety_check`. -/
def interruptSafetyCheck (s : InterruptController γ υ) : SystemError :=
  if ¬ s.initialized then interruptError errSysNotInit .safety .high
  else
    -- the loop returns at the first line that is stormed
    match (List.finRange interruptMaxHandlers).find? fun i => s.interruptCounters i > 1000 with
    | some _ => interruptError errSysConfigError .safety .high
    | none =>
        match interruptPerformTimingAnalysis false s with
        | (timingResult, some analysis) =>
            if timingResult.errorCode = errSysOk ∧
                analysis.complianceStatus = interruptTimingNonCompliant then
              interruptError errSysConfigError .safety .medium
            else interruptError errSysOk .safety .low
        | (_, none) => interruptError errSysOk .safety .low

/-! ## starting and registering -/

/-- The controller after `memset`. -/
def InterruptController.cleared : InterruptController γ υ where
  initialized := false
  handlers _ := none
  handlerContexts _ := none
  interruptCounters _ := 0
  latencyMeasurements _ := 0
  interruptPriorities _ := 0

/-- `interrupt_hw_init`. -/
def interruptHwInit : SystemError := interruptError errSysOk .system .low

/-- `interrupt_controller_init`. -/
def interruptControllerInit (s : InterruptController γ υ) : SystemError × InterruptController γ υ :=
  if s.initialized then (interruptError errSysAlreadyInit .system .medium, s)
  else
    let s : InterruptController γ υ := .cleared
    let error := interruptHwInit
    if error.errorCode ≠ errSysOk then (error, s)
    else
      let s := { s with initialized := true }
      let error := interruptSafetyCheck s
      if error.errorCode ≠ errSysOk then (error, s)
      else (interruptError errSysOk .system .low, s)

/-- `interrupt_hw_set_priority`. -/
def interruptHwSetPriority (irqNumber priority : UInt32) (s : InterruptController γ υ) :
    SystemError × InterruptController γ υ :=
  match irqLine? irqNumber with
  | none => (interruptError errSysInvalidParam .system .high, s)
  | some line =>
      if priority ≥ interruptPriorityLevels then
        (interruptError errSysInvalidParam .system .high, s)
      else if ¬ s.initialized then (interruptError errSysNotInitialized .system .high, s)
      else
        (interruptError errSysOk .system .low,
          { s with interruptPriorities := Function.update s.interruptPriorities line priority })

/-- `interrupt_register_handler`. -/
def interruptRegisterHandler (irqNumber priority : UInt32) (handler : Option γ)
    (context : Option υ) (s : InterruptController γ υ) :
    SystemError × InterruptController γ υ :=
  if ¬ s.initialized then (interruptError errSysNotInitialized .system .high, s)
  else
    match irqLine? irqNumber with
    | none => (interruptError errSysInvalidParam .system .high, s)
    | some line =>
        if handler.isNone then (interruptError errBaseNullPtr .system .high, s)
        else
          let s := { s with
            handlers := Function.update s.handlers line handler
            handlerContexts := Function.update s.handlerContexts line context }
          let (error, s) := interruptHwSetPriority irqNumber priority s
          if error.errorCode ≠ errSysOk then (error, s)
          else (interruptError errSysOk .system .low, s)

/-! ## what a step does -/

/-- The controller that initialisation leaves behind. -/
def InterruptController.started : InterruptController γ υ := { cleared with initialized := true }

/-- Initialisation succeeds on a controller that is not initialised, and clears
it. -/
theorem interruptControllerInit_eq {s : InterruptController γ υ} (h : s.initialized = false) :
    interruptControllerInit s = (interruptError errSysOk .system .low, .started) := by
  simp only [interruptControllerInit, h]
  rfl

/-- An interrupt on a line calls its handler, counts, and stores its latency. -/
theorem interruptHandler_of_line (s : InterruptController γ υ) {i : Interrupt} {line : IrqLine}
    (h : i.line? = some line) :
    interruptHandler s i =
      ((s.handlers line).map fun handler => ⟨handler, i.irqNumber, s.handlerContexts line⟩,
        { s with
          interruptCounters :=
            Function.update s.interruptCounters line (s.interruptCounters line + 1)
          latencyMeasurements := Function.update s.latencyMeasurements line i.latencyUs }) := by
  simp only [interruptHandler, recordInterruptLatency, show irqLine? i.irqNumber = some line from h]
  rfl

/-- An interrupt on no line does nothing. -/
theorem interruptHandler_of_no_line (s : InterruptController γ υ) {i : Interrupt}
    (h : i.line? = none) : interruptHandler s i = (none, s) := by
  simp only [interruptHandler, show irqLine? i.irqNumber = none from h]

/-- What is stored for the line of an interrupt is stored for that line only. -/
theorem update_line {α : Type} {i : Interrupt} {named : IrqLine} (h : i.line? = some named)
    (f : IrqLine → α) (a : α) (line : IrqLine) :
    Function.update f named a line = if i.line? = some line then a else f line := by
  rw [h]
  by_cases hsame : named = line
  · rw [hsame, Function.update_self, if_pos rfl]
  · rw [Function.update_of_ne (Ne.symm hsame), if_neg (by simpa using hsame)]

/-- An interrupt is counted on its line. -/
theorem interruptCounters_interruptHandler (s : InterruptController γ υ) (i : Interrupt)
    (line : IrqLine) :
    (interruptHandler s i).2.interruptCounters line =
      if i.line? = some line then s.interruptCounters line + 1
      else s.interruptCounters line := by
  cases hline : i.line? with
  | none => rw [interruptHandler_of_no_line s hline, if_neg (by simp)]
  | some named =>
      rw [interruptHandler_of_line s hline, ← hline]
      show Function.update s.interruptCounters named _ line = _
      rw [update_line hline]
      split_ifs with hsame
      · rw [Option.some.inj (hline.symm.trans hsame)]
      · rfl

/-- The latency of an interrupt replaces the latest one of its line. -/
theorem latencyMeasurements_interruptHandler (s : InterruptController γ υ) (i : Interrupt)
    (line : IrqLine) :
    (interruptHandler s i).2.latencyMeasurements line =
      if i.line? = some line then i.latencyUs else s.latencyMeasurements line := by
  cases hline : i.line? with
  | none => rw [interruptHandler_of_no_line s hline, if_neg (by simp)]
  | some named =>
      rw [interruptHandler_of_line s hline, ← hline]
      exact update_line hline s.latencyMeasurements i.latencyUs line

theorem initialized_interruptHandler (s : InterruptController γ υ) (i : Interrupt) :
    (interruptHandler s i).2.initialized = s.initialized := by
  cases hline : i.line? with
  | none => rw [interruptHandler_of_no_line s hline]
  | some line => rw [interruptHandler_of_line s hline]

end Controller

end AutoMlos
