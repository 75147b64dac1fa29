import AutoMlos.KernelIpc
import AutoMlos.LogClient

/-!
# AutoMlos.Kernel

The start of the kernel's core services (`kernel/core/kernel.c`): memory, then
message passing, then a log entry for the phase that was reached.
-/

namespace AutoMlos

open Lib

/-- `startup_phase_t`. -/
inductive StartupPhase where
  | pureHardware
  | hardware
  | kernelCore
  | safetyMonitor
  | systemServices
  | application
  | complete
  deriving DecidableEq, Repr

/-- The statics of the modules that the phase uses. -/
structure Kernel where
  memory : KernelMemory
  ipc : KernelIpc
  log : LogClient
  currentPhase : StartupPhase

/-- `memory_alloc` as the kernel's other modules see it, with `g_kernel_heap`
at `heapAddress`. -/
def kernelAlloc (heapAddress : Nat) (mem : KernelMemory) (size : Nat) :
    Option Nat × KernelMemory :=
  let (ptr, mem) := memoryAlloc mem size
  (ptr.map (heapAddress + ·), mem)

/-- `kernel_log_phase_transition`. -/
def kernelLogPhaseTransition (k : Kernel) (phase : StartupPhase) (sys : SysReadings)
    (published : Bool) : Outcome (SystemError × Kernel) := do
  let args : LogArgs :=
    { level := logLevelInfo
      tagId := logTagKernel
      messageId := logMsgStartupPhase
      data1 := UInt32.ofNat phase.ctorIdx
      data2 := UInt32.ofNat k.currentPhase.ctorIdx }
  let (error, log, _) ← logClientSendEntry k.log args sys published
  return (error, { k with log })

/-- `kernel_init_core_services`. -/
def kernelInitCoreServices (heapAddress : Nat) (k : Kernel) (sys : SysReadings)
    (published : Bool) : Outcome (SystemError × Kernel) :=
  let (error, memory) := memoryInit k.memory
  let k := { k with memory }
  if error.errorCode ≠ errBaseOk then return (error, k)
  else
    let (error, ipc, memory) := ipcKernelInit (kernelAlloc heapAddress) k.memory k.ipc
    let k := { k with ipc, memory }
    if error.errorCode ≠ errBaseOk then return (error, k)
    else
      let k := { k with currentPhase := .kernelCore }
      kernelLogPhaseTransition k k.currentPhase sys published

end AutoMlos
