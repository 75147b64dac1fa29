import AutoMlos.LogCore
import Mathlib.Data.List.FinRange

/-!
# AutoMlos.KernelTime

The kernel clock (`lib/time/time.c`): three redundant time sources, their
validation, and the readings derived from them.

The hardware counters are streams: the `n`-th call of
`hw_timer_get_counter` answers `hw.timer n`.  `kernel_time_get_tick_count`
and `validate_time_sources` call each other; both take a bound on the
nesting of their calls.  Log calls are recorded by their arguments.
-/

namespace AutoMlos

open Lib

/-! ## the time context -/

/-- `time_source_t`. -/
inductive TimeSource where
  | primary
  | secondary
  | software
  | count
  deriving DecidableEq, Repr

/-- The array index an enumerator stands for. -/
def TimeSource.value : TimeSource → Nat
  | primary => 0
  | secondary => 1
  | software => 2
  | count => 3

/-- `TIME_SOURCE_COUNT` is not 0: what the literals of loop indices need. -/
instance timeSourceCountNeZero : NeZero 3 := ⟨Nat.succ_ne_zero 2⟩

/-- The enumerator a loop index is converted to. -/
def TimeSource.ofFin : Fin 3 → TimeSource
  | 0 => primary
  | 1 => secondary
  | 2 => software

/-- `kernel_time_ctx`. -/
structure KernelTimeCtx where
  bootTimeTicks : Vector UInt64 3
  tickFrequency : Vector UInt64 3
  sourceInitialized : Vector Bool 3
  sourceHealthy : Vector Bool 3
  activeSource : TimeSource
  lastValidationTime : UInt64
  sourceFailCount : Vector UInt32 3
  cumulativeDrift : Vector UInt64 3

/-- The zeroed context. -/
def KernelTimeCtx.zero : KernelTimeCtx where
  bootTimeTicks := Vector.replicate 3 0
  tickFrequency := Vector.replicate 3 0
  sourceInitialized := Vector.replicate 3 false
  sourceHealthy := Vector.replicate 3 false
  activeSource := .primary
  lastValidationTime := 0
  sourceFailCount := Vector.replicate 3 0
  cumulativeDrift := Vector.replicate 3 0

/-- The context, the static of the software source, how often each hardware
counter was read, and the log calls made. -/
structure TimeState where
  ctx : KernelTimeCtx
  softwareTicks : UInt64
  timerReads : Nat
  rtcReads : Nat
  logged : List LogArgs

/-- The state before `kernel_time_init`. -/
def TimeState.zero : TimeState where
  ctx := .zero
  softwareTicks := 0
  timerReads := 0
  rtcReads := 0
  logged := []

/-- What the hardware counters answer, call by call. -/
structure HwClocks where
  timer : Nat → UInt64
  rtc : Nat → UInt64

/-- `hw_timer_get_counter`. -/
def hwTimerGetCounter (hw : HwClocks) (s : TimeState) : UInt64 × TimeState :=
  (hw.timer s.timerReads, { s with timerReads := s.timerReads + 1 })

/-- `hw_rtc_get_counter`. -/
def hwRtcGetCounter (hw : HwClocks) (s : TimeState) : UInt64 × TimeState :=
  (hw.rtc s.rtcReads, { s with rtcReads := s.rtcReads + 1 })

/-! ## errors and log calls -/

def moduleIdTime : UInt16 := 0x6000

/-- `time_error_success`. -/
def timeErrorSuccess : SystemError := systemErrorCreate errSysOk .system .none moduleIdTime

/-- `time_error_already_initialized`. -/
def timeErrorAlreadyInitialized : SystemError :=
  systemErrorCreate errSysAlreadyInit .system .warning moduleIdTime

def logTagTime : UInt8 := 100
def logMsgPrimaryTimeSourceReady : UInt16 := 200
def logMsgSecondaryTimeSourceReady : UInt16 := 201
def logMsgSoftwareTimeSourceActive : UInt16 := 202
def logMsgTimeDriftDetected : UInt16 := 203
def logMsgTimeSourceFailed : UInt16 := 204
def logMsgTimeSourceSwitched : UInt16 := 205

/-- A call of `log_client_send_entry` with the time module's tag. -/
def TimeState.log (s : TimeState) (level : UInt8) (messageId : UInt16) (data1 data2 : UInt32) :
    TimeState :=
  { s with logged := s.logged ++ [{ level, tagId := logTagTime, messageId, data1, data2 }] }

/-! ## validation -/

/-- `TIME_SOURCE_VALIDATION_INTERVAL_MS * 1000`. -/
def timeSourceValidationIntervalUs : UInt64 := 1000 * 1000

/-- `MAX_TIME_DRIFT_US`. -/
def maxTimeDriftUs : UInt64 := 1000

/-- Microseconds of a counter since boot: a 64-bit product and a quotient. -/
def elapsedUs (counter boot frequency : UInt64) : Outcome UInt64 := do
  let quotient ← Outcome.udiv ((counter - boot) * 1000000).toNat frequency.toNat
  return UInt64.ofNat quotient

/-- The time of the primary source, if it is healthy. -/
def primaryTime (hw : HwClocks) (s : TimeState) : Outcome (UInt64 × TimeState) :=
  if s.ctx.sourceHealthy[0] then do
    let (counter, s) := hwTimerGetCounter hw s
    let time ← elapsedUs counter s.ctx.bootTimeTicks[0] s.ctx.tickFrequency[0]
    return (time, s)
  else return (0, s)

/-- The time of the secondary source, if it is healthy. -/
def secondaryTime (hw : HwClocks) (s : TimeState) : Outcome (UInt64 × TimeState) :=
  if s.ctx.sourceHealthy[1] then do
    let (counter, s) := hwRtcGetCounter hw s
    let time ← elapsedUs counter s.ctx.bootTimeTicks[1] s.ctx.tickFrequency[1]
    return (time, s)
  else return (0, s)

/-- The comparison of the two hardware sources: the source that is ahead is
blamed. -/
def checkDrift (primary secondary : UInt64) (s : TimeState) : TimeState :=
  if s.ctx.sourceHealthy[0] ∧ s.ctx.sourceHealthy[1] then
    let drift := if primary > secondary then primary - secondary else secondary - primary
    let cumulativeDrift := (s.ctx.cumulativeDrift.set 0 (s.ctx.cumulativeDrift[0] + drift)).set 1
      (s.ctx.cumulativeDrift[1] + drift)
    let s := { s with ctx := { s.ctx with cumulativeDrift } }
    if drift > maxTimeDriftUs then
      let s := s.log logLevelError logMsgTimeDriftDetected drift.toUInt32
        (UInt32.ofNat s.ctx.activeSource.value)
      let blamed : Fin 3 := if primary > secondary then 0 else 1
      let sourceFailCount :=
        s.ctx.sourceFailCount.set blamed (s.ctx.sourceFailCount[blamed] + 1)
      { s with ctx := { s.ctx with sourceFailCount } }
    else s
  else s

/-- The failure threshold of one source. -/
def checkFailCount (s : TimeState) (i : Fin 3) : TimeState :=
  if s.ctx.sourceFailCount[i] > 3 then
    let sourceHealthy := s.ctx.sourceHealthy.set i false
    let s := { s with ctx := { s.ctx with sourceHealthy } }
    s.log logLevelError logMsgTimeSourceFailed (UInt32.ofNat i) s.ctx.sourceFailCount[i]
  else s

/-- The switch to the first healthy initialised source when the active one is
not healthy. -/
def switchSource (s : TimeState) : Outcome TimeState := do
  let healthy ← Outcome.readAt s.ctx.sourceHealthy s.ctx.activeSource.value
  if healthy then return s
  else
    match (List.finRange 3).find? fun i => s.ctx.sourceHealthy[i] && s.ctx.sourceInitialized[i] with
    | none => return s
    | some i =>
        let s := { s with ctx := { s.ctx with activeSource := .ofFin i } }
        return s.log logLevelError logMsgTimeSourceSwitched
          (UInt32.ofNat s.ctx.activeSource.value) (UInt32.ofNat i)

/-- `validate_time_sources` after its clock reading. -/
def validateTimeSourcesAt (hw : HwClocks) (currentTime : UInt64) (s : TimeState) :
    Outcome (SystemError × TimeState) :=
  if currentTime - s.ctx.lastValidationTime < timeSourceValidationIntervalUs then
    return (timeErrorSuccess, s)
  else do
    let s := { s with ctx := { s.ctx with lastValidationTime := currentTime } }
    let (primary, s) ← primaryTime hw s
    let (secondary, s) ← secondaryTime hw s
    let s := checkDrift primary secondary s
    let s := (List.finRange 3).foldl checkFailCount s
    let s ← switchSource s
    return (timeErrorSuccess, s)

/-! ## reading the clock -/

/-- The `switch` of `kernel_time_get_tick_count`. -/
def readActiveSource (hw : HwClocks) (s : TimeState) : UInt64 × TimeState :=
  match s.ctx.activeSource with
  | .primary =>
      let (counter, s) := hwTimerGetCounter hw s
      (counter - s.ctx.bootTimeTicks[0], s)
  | .secondary =>
      let (counter, s) := hwRtcGetCounter hw s
      (counter - s.ctx.bootTimeTicks[1], s)
  | .software =>
      let s := { s with softwareTicks := s.softwareTicks + 1 }
      (s.softwareTicks, s)
  | .count => (0, s)

mutual

/-- `kernel_time_get_tick_count`. -/
def kernelTimeGetTickCount (hw : HwClocks) : Nat → TimeState → Outcome (UInt64 × TimeState)
  | 0, _ => .outOfFuel
  | fuel + 1, s => do
      let initialized ← Outcome.readAt s.ctx.sourceInitialized s.ctx.activeSource.value
      if !initialized then return (0, s)
      else
        let (_, s) ← validateTimeSources hw fuel s
        return readActiveSource hw s

/-- `validate_time_sources`. -/
def validateTimeSources (hw : HwClocks) : Nat → TimeState → Outcome (SystemError × TimeState)
  | 0, _ => .outOfFuel
  | fuel + 1, s => do
      let (currentTime, s) ← kernelTimeGetTickCount hw fuel s
      validateTimeSourcesAt hw currentTime s

end

/-- `kernel_time_get_uptime_us`. -/
def kernelTimeGetUptimeUs (hw : HwClocks) (fuel : Nat) (s : TimeState) :
    Outcome (UInt64 × TimeState) :=
  kernelTimeGetTickCount hw fuel s

/-! ## delays

They read the clock by `kernel_time_get_tick_count`, which is an argument here. -/

section Delays

variable {σ : Type} (read : σ → Outcome (UInt64 × σ))

/-- The loop of `kernel_time_delay_us`, at most `n` times round. -/
def delayLoopBy (start : UInt64) (us : UInt32) : Nat → σ → Outcome σ
  | 0, _ => .outOfFuel
  | n + 1, s => do
      let (tick, s) ← read s
      if tick - start < us.toUInt64 then delayLoopBy start us n s else return s

/-- `kernel_time_delay_us`. -/
def kernelTimeDelayUsBy (us : UInt32) (fuel : Nat) (s : σ) : Outcome σ := do
  let (start, s) ← read s
  delayLoopBy read start us fuel s

/-- `kernel_time_delay_ms`. -/
def kernelTimeDelayMsBy (ms : UInt32) (fuel : Nat) (s : σ) : Outcome σ :=
  kernelTimeDelayUsBy read (ms * 1000) fuel s

end Delays

/-- `kernel_time_delay_us` on the kernel's clock. -/
def kernelTimeDelayUs (hw : HwClocks) (us : UInt32) (fuel : Nat) (s : TimeState) :
    Outcome TimeState :=
  kernelTimeDelayUsBy (kernelTimeGetTickCount hw fuel) us fuel s

/-! ## initialisation -/

/-- What the hardware layer answers to `kernel_time_init`: the results of
`hw_timer_init` and `hw_rtc_init`, and `hw_timer_get_frequency`. -/
structure HwInit where
  timerInit : SystemError
  timerFrequency : UInt64
  rtcInit : SystemError

/-- Enter a source into the context. -/
def KernelTimeCtx.enterSource (ctx : KernelTimeCtx) (i : Fin 3) (boot frequency : UInt64) :
    KernelTimeCtx :=
  { ctx with
    bootTimeTicks := ctx.bootTimeTicks.set i boot
    tickFrequency := ctx.tickFrequency.set i frequency
    sourceInitialized := ctx.sourceInitialized.set i true
    sourceHealthy := ctx.sourceHealthy.set i true }

/-- `init_primary_time_source`. -/
def initPrimaryTimeSource (hw : HwClocks) (init : HwInit) (s : TimeState) :
    SystemError × TimeState :=
  if init.timerInit.errorCode ≠ errBaseOk then (init.timerInit, s)
  else
    let (boot, s) := hwTimerGetCounter hw s
    let s := { s with ctx := s.ctx.enterSource 0 boot init.timerFrequency }
    (timeErrorSuccess, s.log logLevelInfo logMsgPrimaryTimeSourceReady 1000000 0)

/-- `init_secondary_time_source`. -/
def initSecondaryTimeSource (hw : HwClocks) (init : HwInit) (s : TimeState) :
    SystemError × TimeState :=
  if init.rtcInit.errorCode ≠ errBaseOk then (init.rtcInit, s)
  else
    let (boot, s) := hwRtcGetCounter hw s
    let s := { s with ctx := s.ctx.enterSource 1 boot 32768 }
    (timeErrorSuccess, s.log logLevelInfo logMsgSecondaryTimeSourceReady 32768 0)

/-- `init_software_time_source`. -/
def initSoftwareTimeSource (s : TimeState) : SystemError × TimeState :=
  let s := { s with ctx := s.ctx.enterSource 2 0 1000 }
  (timeErrorSuccess, s.log logLevelError logMsgSoftwareTimeSourceActive 0 0)

/-- `kernel_time_init` up to its clock reading. -/
def kernelTimeInitSources (hw : HwClocks) (init : HwInit) (s : TimeState) : TimeState :=
  let (error, s) := initPrimaryTimeSource hw init s
  let s :=
    if error.errorCode = errBaseOk then { s with ctx := { s.ctx with activeSource := .primary } }
    else s
  let (_, s) := initSecondaryTimeSource hw init s
  (initSoftwareTimeSource s).2

/-- What `kernel_time_init` tests: the primary source is initialised. -/
def KernelTimeCtx.primaryInitialized (ctx : KernelTimeCtx) : Bool := ctx.sourceInitialized[0]

/-- `kernel_time_init`. -/
def kernelTimeInit (hw : HwClocks) (init : HwInit) (fuel : Nat) (s : TimeState) :
    Outcome (SystemError × TimeState) :=
  if s.ctx.primaryInitialized then return (timeErrorAlreadyInitialized, s)
  else do
    let (tick, s) ← kernelTimeGetTickCount hw fuel (kernelTimeInitSources hw init s)
    let s := { s with ctx := { s.ctx with lastValidationTime := tick } }
    let error :=
      if s.ctx.activeSource ≠ .software then timeErrorSuccess
      else systemErrorCreate errSysConfigError .system .warning moduleIdTime
    return (error, s)

/-! ## the clock reading of a validation as an input -/

/-- `kernel_time_get_tick_count`, the clock reading of its validation given. -/
def kernelTimeGetTickCountAt (hw : HwClocks) (currentTime : UInt64) (s : TimeState) :
    Outcome (UInt64 × TimeState) := do
  let initialized ← Outcome.readAt s.ctx.sourceInitialized s.ctx.activeSource.value
  if !initialized then return (0, s)
  else
    let (_, s) ← validateTimeSourcesAt hw currentTime s
    return readActiveSource hw s

/-- `kernel_time_init`, the clock reading of its validation given. -/
def kernelTimeInitAt (hw : HwClocks) (init : HwInit) (currentTime : UInt64) (s : TimeState) :
    Outcome (SystemError × TimeState) :=
  if s.ctx.primaryInitialized then return (timeErrorAlreadyInitialized, s)
  else do
    let (tick, s) ← kernelTimeGetTickCountAt hw currentTime (kernelTimeInitSources hw init s)
    let s := { s with ctx := { s.ctx with lastValidationTime := tick } }
    let error :=
      if s.ctx.activeSource ≠ .software then timeErrorSuccess
      else systemErrorCreate errSysConfigError .system .warning moduleIdTime
    return (error, s)

/-- What the hardware layer answers when `hw_timer_init` and `hw_rtc_init`
have these results: `hw_timer_get_frequency` is the requested 1 MHz if the
timer was initialised and 0 otherwise. -/
def HwInit.ofResults (timerInit rtcInit : SystemError) : HwInit where
  timerInit
  timerFrequency := if timerInit.errorCode = errBaseOk then 1000000 else 0
  rtcInit

/-- What one `validate_time_sources` reads: the clock, and the two hardware
counters if it looks at them. -/
structure TimeReadings where
  currentTime : UInt64
  timer : UInt64
  rtc : UInt64
  deriving DecidableEq, Repr

/-- One `validate_time_sources` with these readings. -/
def TimeState.validate (s : TimeState) (r : TimeReadings) : Outcome (SystemError × TimeState) :=
  validateTimeSourcesAt ⟨fun _ => r.timer, fun _ => r.rtc⟩ r.currentTime s

end AutoMlos
