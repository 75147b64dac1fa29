import AutoMlos.Interrupt.Registration

/-!
# AutoMlos.Interrupt.Lines

The interrupt lines under all calls of the controller.

The controller keeps its lines side by side: what it answers about a line is
given by the initialisations and the calls on that line alone
(`interrupt_lines_independent`).  Enabling a line sets its bit in `enabled_irqs`,
but nothing reads the mask: an interrupt reaches its handler whether or not its
line was ever enabled.  The priority that verification expects is the one that
was accepted last since the initialisation (`interrupt_priority_recalled`).

Critical sections and `interrupt_global_enable` are the stubs of the source.
-/

namespace AutoMlos

open Lib

/-! ## the calls -/

section Controller

variable {γ υ : Type}

/-- `interrupt_hw_get_priority`, with what it stores for the caller. -/
def interruptHwGetPriority (irqNumber : UInt32) (priorityNull : Bool)
    (s : InterruptController γ υ) : SystemError × Option UInt32 :=
  match irqLine? irqNumber with
  | none => (interruptError errSysInvalidParam .system .high, none)
  | some line =>
      if priorityNull then (interruptError errSysInvalidParam .system .high, none)
      else if ¬ s.initialized then (interruptError errSysNotInitialized .system .high, none)
      else (interruptError errSysOk .system .low, some (s.interruptPriorities line))

/-- `interrupt_verify_priority`. -/
def interruptVerifyPriority (irqNumber expectedPriority : UInt32)
    (s : InterruptController γ υ) : SystemError :=
  match interruptHwGetPriority irqNumber false s with
  | (result, actualPriority) =>
      if result.errorCode ≠ errSysOk then result
      else if actualPriority ≠ some expectedPriority then
        interruptError errSysConfigError .system .high
      else interruptError errSysOk .system .low

/-- `interrupt_hw_enable`. -/
def interruptHwEnable (irqNumber : UInt32) : SystemError :=
  match irqLine? irqNumber with
  | none => interruptError errSysInvalidParam .system .high
  | some _ => interruptError errSysOk .system .low

/-- The controller with its mask `enabled_irqs`. -/
structure MaskedController (γ υ : Type) where
  controller : InterruptController γ υ
  enabledIrqs : UInt32

/-- `interrupt_enable`. -/
def interruptEnable (irqNumber : UInt32) (s : MaskedController γ υ) :
    SystemError × MaskedController γ υ :=
  if ¬ s.controller.initialized then (interruptError errSysNotInitialized .system .high, s)
  else
    match irqLine? irqNumber with
    | none => (interruptError errSysInvalidParam .system .high, s)
    | some _ =>
        let error := interruptHwEnable irqNumber
        if error.errorCode = errSysOk then
          (error, { s with enabledIrqs := s.enabledIrqs ||| (1 <<< irqNumber) })
        else (error, s)

/-- A call into the controller, or an interrupt. -/
inductive ControllerCall (γ υ : Type) where
  | init
  | register (irqNumber priority : UInt32) (handler : Option γ) (context : Option υ)
  | setPriority (irqNumber priority : UInt32)
  | getPriority (irqNumber : UInt32) (priorityNull : Bool)
  | verifyPriority (irqNumber expectedPriority : UInt32)
  | enable (irqNumber : UInt32)
  | getStatistics (irqNumber : UInt32) (statsNull : Bool)
  | interrupt (i : Interrupt)

/-- What it answers. -/
inductive ControllerReply (γ υ : Type) where
  | status (error : SystemError)
  | priority (error : SystemError) (priority : Option UInt32)
  | statistics (error : SystemError) (stats : Option InterruptTimingStats)
  | handled (call : Option (HandlerCall γ υ))
  deriving DecidableEq, Repr

namespace MaskedController

/-- Power-on. -/
def powerOn : MaskedController γ υ where
  controller := .cleared
  enabledIrqs := 0

/-- One call. -/
def step (s : MaskedController γ υ) :
    ControllerCall γ υ → ControllerReply γ υ × MaskedController γ υ
  | .init =>
      let (error, controller) := interruptControllerInit s.controller
      -- `memset` clears the mask as well
      let enabledIrqs := if s.controller.initialized then s.enabledIrqs else 0
      (.status error, { controller, enabledIrqs })
  | .register irqNumber priority handler context =>
      let (error, controller) :=
        interruptRegisterHandler irqNumber priority handler context s.controller
      (.status error, { s with controller })
  | .setPriority irqNumber priority =>
      let (error, controller) := interruptHwSetPriority irqNumber priority s.controller
      (.status error, { s with controller })
  | .getPriority irqNumber priorityNull =>
      let (error, priority) := interruptHwGetPriority irqNumber priorityNull s.controller
      (.priority error priority, s)
  | .verifyPriority irqNumber expectedPriority =>
      (.status (interruptVerifyPriority irqNumber expectedPriority s.controller), s)
  | .enable irqNumber =>
      let (error, s) := interruptEnable irqNumber s
      (.status error, s)
  | .getStatistics irqNumber statsNull =>
      let (error, stats) := interruptGetTimingStatistics irqNumber statsNull s.controller
      (.statistics error stats, s)
  | .interrupt i =>
      let (call, controller) := interruptHandler s.controller i
      (.handled call, { s with controller })

end MaskedController

/-- The line that a call names. -/
def ControllerCall.line? : ControllerCall γ υ → Option IrqLine
  | .init => none
  | .register irqNumber .. => irqLine? irqNumber
  | .setPriority irqNumber _ => irqLine? irqNumber
  | .getPriority irqNumber _ => irqLine? irqNumber
  | .verifyPriority irqNumber _ => irqLine? irqNumber
  | .enable irqNumber => irqLine? irqNumber
  | .getStatistics irqNumber _ => irqLine? irqNumber
  | .interrupt i => i.line?

/-- The call matters for a line: an initialisation, or a call on the line that
does not enable it. -/
def ControllerCall.matters (line : IrqLine) : ControllerCall γ υ → Bool
  | .init => true
  | .enable _ => false
  | call => call.line? = some line

/-! ## one line -/

theorem update_line_eq {α : Type} (f g : IrqLine → α) (line : IrqLine) (a : α) :
    Function.update f line a line = Function.update g line a line := by
  rw [Function.update_self, Function.update_self]

/-- Two controllers agree on a line. -/
structure SameLine (line : IrqLine) (s t : InterruptController γ υ) : Prop where
  initialized : s.initialized = t.initialized
  handler : s.handlers line = t.handlers line
  context : s.handlerContexts line = t.handlerContexts line
  counter : s.interruptCounters line = t.interruptCounters line
  latency : s.latencyMeasurements line = t.latencyMeasurements line
  priority : s.interruptPriorities line = t.interruptPriorities line

namespace SameLine

variable {line : IrqLine} {s t u : InterruptController γ υ}

theorem refl (s : InterruptController γ υ) : SameLine line s s := ⟨rfl, rfl, rfl, rfl, rfl, rfl⟩

theorem trans (h : SameLine line s t) (h' : SameLine line t u) : SameLine line s u where
  initialized := h.initialized.trans h'.initialized
  handler := h.handler.trans h'.handler
  context := h.context.trans h'.context
  counter := h.counter.trans h'.counter
  latency := h.latency.trans h'.latency
  priority := h.priority.trans h'.priority

/-! Calls on other lines. -/

theorem setPriority_of_ne {irqNumber : UInt32} (hne : irqLine? irqNumber ≠ some line)
    (priority : UInt32) (s : InterruptController γ υ) :
    SameLine line (interruptHwSetPriority irqNumber priority s).2 s := by
  simp only [interruptHwSetPriority]
  cases hline : irqLine? irqNumber with
  | none => exact refl s
  | some named =>
      have hother : line ≠ named := fun heq => hne (heq ▸ hline)
      simp only
      split_ifs
      · exact refl s
      · exact ⟨rfl, rfl, rfl, rfl, rfl, Function.update_of_ne hother _ _⟩
      · exact refl s

theorem register_of_ne {irqNumber : UInt32} (hne : irqLine? irqNumber ≠ some line)
    (priority : UInt32) (handler : Option γ) (context : Option υ) (s : InterruptController γ υ) :
    SameLine line (interruptRegisterHandler irqNumber priority handler context s).2 s := by
  simp only [interruptRegisterHandler]
  split
  · exact refl s
  · cases hline : irqLine? irqNumber with
    | none => exact refl s
    | some named =>
        have hother : line ≠ named := fun heq => hne (heq ▸ hline)
        simp only
        split
        · exact refl s
        · have hstored : SameLine line { s with
              handlers := Function.update s.handlers named handler
              handlerContexts := Function.update s.handlerContexts named context } s :=
            ⟨rfl, Function.update_of_ne hother _ _, Function.update_of_ne hother _ _, rfl, rfl, rfl⟩
          have hpriority := setPriority_of_ne hne priority { s with
              handlers := Function.update s.handlers named handler
              handlerContexts := Function.update s.handlerContexts named context }
          split <;> exact hpriority.trans hstored

theorem interrupt_of_ne {i : Interrupt} (hne : i.line? ≠ some line)
    (s : InterruptController γ υ) : SameLine line (interruptHandler s i).2 s where
  initialized := initialized_interruptHandler s i
  handler := by cases hline : i.line? with
    | none => rw [interruptHandler_of_no_line s hline]
    | some named => rw [interruptHandler_of_line s hline]
  context := by cases hline : i.line? with
    | none => rw [interruptHandler_of_no_line s hline]
    | some named => rw [interruptHandler_of_line s hline]
  counter := by rw [interruptCounters_interruptHandler, if_neg hne]
  latency := by rw [latencyMeasurements_interruptHandler, if_neg hne]
  priority := by cases hline : i.line? with
    | none => rw [interruptHandler_of_no_line s hline]
    | some named => rw [interruptHandler_of_line s hline]

/-! Calls on the line. -/

theorem not_initialized_iff (h : SameLine line s t) :
    (¬ s.initialized = true) ↔ ¬ t.initialized = true := by
  rw [h.initialized]

theorem withHandler (h : SameLine line s t) (handler : Option γ) (context : Option υ) :
    SameLine line
      { s with
        handlers := Function.update s.handlers line handler
        handlerContexts := Function.update s.handlerContexts line context }
      { t with
        handlers := Function.update t.handlers line handler
        handlerContexts := Function.update t.handlerContexts line context } where
  initialized := h.initialized
  handler := update_line_eq s.handlers t.handlers line handler
  context := update_line_eq s.handlerContexts t.handlerContexts line context
  counter := h.counter
  latency := h.latency
  priority := h.priority

theorem setPriority (h : SameLine line s t) {irqNumber : UInt32}
    (hline : irqLine? irqNumber = some line) (priority : UInt32) :
    (interruptHwSetPriority irqNumber priority s).1 =
        (interruptHwSetPriority irqNumber priority t).1 ∧
      SameLine line (interruptHwSetPriority irqNumber priority s).2
        (interruptHwSetPriority irqNumber priority t).2 := by
  simp only [interruptHwSetPriority, hline]
  by_cases hhigh : priority ≥ interruptPriorityLevels
  · simp only [if_pos hhigh]
    exact ⟨trivial, h⟩
  · by_cases hready : ¬ s.initialized = true
    · simp only [if_neg hhigh, if_pos hready, if_pos (h.not_initialized_iff.mp hready)]
      exact ⟨trivial, h⟩
    · simp only [if_neg hhigh, if_neg hready, if_neg (mt h.not_initialized_iff.mpr hready)]
      exact ⟨trivial, h.initialized, h.handler, h.context, h.counter, h.latency,
        update_line_eq s.interruptPriorities t.interruptPriorities line priority⟩

theorem register (h : SameLine line s t) {irqNumber : UInt32}
    (hline : irqLine? irqNumber = some line) (priority : UInt32) (handler : Option γ)
    (context : Option υ) :
    (interruptRegisterHandler irqNumber priority handler context s).1 =
        (interruptRegisterHandler irqNumber priority handler context t).1 ∧
      SameLine line (interruptRegisterHandler irqNumber priority handler context s).2
        (interruptRegisterHandler irqNumber priority handler context t).2 := by
  simp only [interruptRegisterHandler, hline]
  by_cases hready : ¬ s.initialized = true
  · simp only [if_pos hready, if_pos (h.not_initialized_iff.mp hready)]
    exact ⟨trivial, h⟩
  · simp only [if_neg hready, if_neg (mt h.not_initialized_iff.mpr hready)]
    by_cases hnull : handler.isNone = true
    · simp only [if_pos hnull]
      exact ⟨trivial, h⟩
    · obtain ⟨hreply, hnext⟩ := (h.withHandler handler context).setPriority hline priority
      simp only [if_neg hnull, hreply]
      split <;> exact ⟨rfl, hnext⟩

theorem getPriority (h : SameLine line s t) {irqNumber : UInt32}
    (hline : irqLine? irqNumber = some line) (priorityNull : Bool) :
    interruptHwGetPriority irqNumber priorityNull s =
      interruptHwGetPriority irqNumber priorityNull t := by
  simp only [interruptHwGetPriority, hline, h.initialized, h.priority]

theorem verifyPriority (h : SameLine line s t) {irqNumber : UInt32}
    (hline : irqLine? irqNumber = some line) (expectedPriority : UInt32) :
    interruptVerifyPriority irqNumber expectedPriority s =
      interruptVerifyPriority irqNumber expectedPriority t := by
  rw [interruptVerifyPriority, h.getPriority hline, interruptVerifyPriority]

theorem getStatistics (h : SameLine line s t) {irqNumber : UInt32}
    (hline : irqLine? irqNumber = some line) (statsNull : Bool) :
    interruptGetTimingStatistics irqNumber statsNull s =
      interruptGetTimingStatistics irqNumber statsNull t := by
  simp only [interruptGetTimingStatistics, calculateAverageLatency, hline, h.counter, h.latency]

theorem interrupt (h : SameLine line s t) {i : Interrupt} (hline : i.line? = some line) :
    (interruptHandler s i).1 = (interruptHandler t i).1 ∧
      SameLine line (interruptHandler s i).2 (interruptHandler t i).2 := by
  refine ⟨?_, ?_, ?_, ?_, ?_, ?_, ?_⟩
  · rw [interruptHandler_of_line s hline, interruptHandler_of_line t hline, h.handler, h.context]
  · rw [initialized_interruptHandler, initialized_interruptHandler, h.initialized]
  · rw [interruptHandler_of_line s hline, interruptHandler_of_line t hline]
    exact h.handler
  · rw [interruptHandler_of_line s hline, interruptHandler_of_line t hline]
    exact h.context
  · rw [interruptCounters_interruptHandler, interruptCounters_interruptHandler, h.counter]
  · rw [latencyMeasurements_interruptHandler, latencyMeasurements_interruptHandler, h.latency]
  · rw [interruptHandler_of_line s hline, interruptHandler_of_line t hline]
    exact h.priority

theorem init (h : SameLine line s t) :
    (interruptControllerInit s).1 = (interruptControllerInit t).1 ∧
      SameLine line (interruptControllerInit s).2 (interruptControllerInit t).2 := by
  cases hready : s.initialized with
  | true =>
      have hready' : t.initialized = true := h.initialized.symm.trans hready
      simp only [interruptControllerInit, hready, hready', if_true]
      exact ⟨trivial, h⟩
  | false =>
      rw [interruptControllerInit_eq hready,
        interruptControllerInit_eq (h.initialized.symm.trans hready)]
      exact ⟨rfl, refl _⟩

end SameLine

/-! ## independence -/

namespace MaskedController

variable {line : IrqLine} {s t : MaskedController γ υ} {call : ControllerCall γ υ}

/-- A call that does not matter for a line leaves the line alone. -/
theorem sameLine_step_of_not_matters (hcall : call.matters line = false)
    (s : MaskedController γ υ) : SameLine line (s.step call).2.controller s.controller := by
  cases call with
  | init => contradiction
  | register irqNumber priority handler context =>
      exact .register_of_ne (of_decide_eq_false hcall) priority handler context s.controller
  | setPriority irqNumber priority =>
      exact .setPriority_of_ne (of_decide_eq_false hcall) priority s.controller
  | interrupt i => exact .interrupt_of_ne (of_decide_eq_false hcall) s.controller
  | enable irqNumber =>
      simp only [step, interruptEnable]
      split
      · exact .refl _
      · split
        · exact .refl _
        · split <;> exact .refl _
  | _ => exact .refl _

/-- A call that matters is answered alike, and agreement on the line is kept. -/
theorem sameLine_step_of_matters (h : SameLine line s.controller t.controller)
    (hcall : call.matters line = true) :
    (s.step call).1 = (t.step call).1 ∧
      SameLine line (s.step call).2.controller (t.step call).2.controller := by
  cases call with
  | init => exact h.init.imp (congrArg ControllerReply.status) id
  | register irqNumber priority handler context =>
      exact (h.register (of_decide_eq_true hcall) priority handler context).imp
        (congrArg ControllerReply.status) id
  | setPriority irqNumber priority =>
      exact (h.setPriority (of_decide_eq_true hcall) priority).imp
        (congrArg ControllerReply.status) id
  | getPriority irqNumber priorityNull =>
      have hsame := h.getPriority (of_decide_eq_true hcall) priorityNull
      simp only [step, hsame]
      exact ⟨trivial, h⟩
  | verifyPriority irqNumber expectedPriority =>
      have hsame := h.verifyPriority (of_decide_eq_true hcall) expectedPriority
      simp only [step, hsame]
      exact ⟨trivial, h⟩
  | enable irqNumber => contradiction
  | getStatistics irqNumber statsNull =>
      have hsame := h.getStatistics (of_decide_eq_true hcall) statsNull
      simp only [step, hsame]
      exact ⟨trivial, h⟩
  | interrupt i =>
      exact (h.interrupt (of_decide_eq_true hcall)).imp (congrArg ControllerReply.handled) id

end MaskedController

/-- **The lines are independent**: from any state, the answers about a line in a
run are those of the run in which only the initialisations and the calls on
that line are made, and no line is ever enabled. -/
theorem interrupt_lines_independent (line : IrqLine) (s : MaskedController γ υ)
    (calls : List (ControllerCall γ υ)) :
    repliesTo (ControllerCall.matters line) calls (mealy MaskedController.step s calls).1 =
      (mealy MaskedController.step s (calls.filter (ControllerCall.matters line))).1 := by
  have hsame : SameLine line s.controller s.controller := .refl _
  exact (mealy_independent
    (R := fun s t : MaskedController γ υ => SameLine line s.controller t.controller)
    (fun s t call h hcall => (s.sameLine_step_of_not_matters hcall).trans h)
    (fun s t call h hcall => MaskedController.sameLine_step_of_matters h hcall) hsame calls).1

/-! ## since the initialisation -/

/-- The calls since the first initialisation. -/
def sinceInit : List (ControllerCall γ υ) → Option (List (ControllerCall γ υ))
  | [] => none
  | .init :: calls => some calls
  | _ :: calls => sinceInit calls

/-- The call is an initialisation. -/
def ControllerCall.IsInit : ControllerCall γ υ → Prop
  | .init => True
  | _ => False

theorem sinceInit_cons_of_not_init {call : ControllerCall γ υ} (h : ¬ call.IsInit)
    (calls : List (ControllerCall γ υ)) : sinceInit (call :: calls) = sinceInit calls := by
  cases call with
  | init => exact absurd trivial h
  | _ => rfl

/-- A call after the initialisation is added. -/
theorem sinceInit_concat_of_some {done since : List (ControllerCall γ υ)}
    (h : sinceInit done = some since) (call : ControllerCall γ υ) :
    sinceInit (done ++ [call]) = some (since ++ [call]) := by
  induction done with
  | nil => contradiction
  | cons first done ih =>
      by_cases hinit : first.IsInit
      · obtain rfl : first = .init := by
          cases first with
          | init => rfl
          | _ => exact hinit.elim
        obtain rfl : done = since := Option.some.inj h
        rfl
      · rw [sinceInit_cons_of_not_init hinit] at h
        rw [List.cons_append, sinceInit_cons_of_not_init hinit, ih h]

/-- Before it only the initialisation counts. -/
theorem sinceInit_concat_of_none {done : List (ControllerCall γ υ)} (h : sinceInit done = none)
    (call : ControllerCall γ υ) : sinceInit (done ++ [call]) = sinceInit [call] := by
  induction done with
  | nil => rfl
  | cons first done ih =>
      have hinit : ¬ first.IsInit := by
        intro hinit
        cases first with
        | init => contradiction
        | _ => exact hinit
      rw [sinceInit_cons_of_not_init hinit] at h
      rw [List.cons_append, sinceInit_cons_of_not_init hinit, ih h]

/-- The priority that a call gives to a line of an initialised controller. -/
def ControllerCall.priority? (line : IrqLine) : ControllerCall γ υ → Option UInt32
  | .register irqNumber priority (some _) _ =>
      if irqLine? irqNumber = some line ∧ priority < interruptPriorityLevels then some priority
      else none
  | .setPriority irqNumber priority =>
      if irqLine? irqNumber = some line ∧ priority < interruptPriorityLevels then some priority
      else none
  | _ => none

/-- The priority that was accepted last, or that of power-on. -/
def lastPriority (line : IrqLine) (calls : List (ControllerCall γ υ)) : UInt32 :=
  (calls.filterMap (ControllerCall.priority? line)).getLastD 0

/-- The call enables the line. -/
def ControllerCall.Enables (line : IrqLine) : ControllerCall γ υ → Prop
  | .enable irqNumber => irqLine? irqNumber = some line
  | _ => False

theorem lastPriority_concat (line : IrqLine) (calls : List (ControllerCall γ υ))
    (call : ControllerCall γ υ) :
    lastPriority line (calls ++ [call]) = (call.priority? line).getD (lastPriority line calls) := by
  rw [lastPriority, List.filterMap_append]
  cases hpriority : call.priority? line with
  | none => simp [hpriority, lastPriority]
  | some priority => simp [hpriority]

/-- A priority that is accepted is stored on its line. -/
theorem interruptPriorities_setPriority (line : IrqLine) {s : InterruptController γ υ}
    (hready : s.initialized = true) (irqNumber priority : UInt32) :
    (interruptHwSetPriority irqNumber priority s).2.initialized = true ∧
      (interruptHwSetPriority irqNumber priority s).2.interruptPriorities line =
        if irqLine? irqNumber = some line ∧ priority < interruptPriorityLevels then priority
        else s.interruptPriorities line := by
  simp only [interruptHwSetPriority]
  cases hnamed : irqLine? irqNumber with
  | none => simp [hready]
  | some named =>
      by_cases hhigh : priority ≥ interruptPriorityLevels
      · have hrefused : ¬ priority < interruptPriorityLevels := UInt32.not_lt.mpr hhigh
        simp [hhigh, hrefused, hready]
      · have haccepted : priority < interruptPriorityLevels := UInt32.not_le.mp hhigh
        simp only [if_neg hhigh, if_neg (not_not_intro hready)]
        refine ⟨hready, ?_⟩
        by_cases hsame : named = line
        · simp [hsame, haccepted]
        · rw [Function.update_of_ne (Ne.symm hsame), if_neg (by simp [hsame])]

/-- So does a registration, whatever becomes of its handler. -/
theorem interruptPriorities_register (line : IrqLine) {s : InterruptController γ υ}
    (hready : s.initialized = true) (irqNumber priority : UInt32) (handler : Option γ)
    (context : Option υ) :
    (interruptRegisterHandler irqNumber priority handler context s).2.initialized = true ∧
      (interruptRegisterHandler irqNumber priority handler context s).2.interruptPriorities line =
        ((ControllerCall.register irqNumber priority handler context).priority? line).getD
          (s.interruptPriorities line) := by
  cases handler with
  | none =>
      simp only [interruptRegisterHandler, if_neg (not_not_intro hready)]
      cases irqLine? irqNumber <;> exact ⟨hready, rfl⟩
  | some handler =>
      cases hnamed : irqLine? irqNumber with
      | none => simp [interruptRegisterHandler, ControllerCall.priority?, hnamed, hready]
      | some named =>
          rw [interruptRegisterHandler_of_line hready hnamed]
          by_cases hhigh : priority ≥ interruptPriorityLevels
          · have hrefused : ¬ (irqLine? irqNumber = some line ∧
                priority < interruptPriorityLevels) :=
              fun haccepted => UInt32.not_lt.mpr hhigh haccepted.2
            simp only [if_pos hhigh, ControllerCall.priority?, if_neg hrefused]
            exact ⟨hready, rfl⟩
          · have haccepted : priority < interruptPriorityLevels := UInt32.not_le.mp hhigh
            simp only [if_neg hhigh, ControllerCall.priority?, hnamed]
            refine ⟨hready, ?_⟩
            by_cases hsame : named = line
            · simp [hsame, haccepted]
            · rw [Function.update_of_ne (Ne.symm hsame), if_neg (by simp [hsame])]
              rfl

/-- An interrupt changes neither. -/
theorem interruptPriorities_interruptHandler (s : InterruptController γ υ) (i : Interrupt) :
    (interruptHandler s i).2.interruptPriorities = s.interruptPriorities := by
  cases hline : i.line? with
  | none => rw [interruptHandler_of_no_line s hline]
  | some line => rw [interruptHandler_of_line s hline]

theorem toNat_of_irqLine? {irqNumber : UInt32} {line : IrqLine}
    (h : irqLine? irqNumber = some line) : irqNumber.toNat = line.val := by
  unfold irqLine? at h
  split at h
  · exact congrArg Fin.val (Option.some.inj h)
  · contradiction

/-- Enabling a line sets its bit. -/
theorem testBit_enable (mask irqNumber : UInt32) {named : IrqLine}
    (hnamed : irqLine? irqNumber = some named) (line : IrqLine) :
    (mask ||| (1 <<< irqNumber)).toNat.testBit line = true ↔
      mask.toNat.testBit line = true ∨ named = line := by
  have hbit : (1 <<< irqNumber : UInt32).toNat = 2 ^ named.val := by
    have hlt : named.val < 32 := named.isLt
    rw [UInt32.toNat_shiftLeft, toNat_of_irqLine? hnamed, Nat.mod_eq_of_lt hlt, UInt32.toNat_one,
      Nat.one_shiftLeft]
    exact Nat.mod_eq_of_lt (Nat.pow_lt_pow_right (by decide) named.isLt)
  rw [UInt32.toNat_or, hbit, Nat.testBit_or, Nat.testBit_two_pow, Bool.or_eq_true,
    decide_eq_true_eq, Fin.ext_iff]

theorem interruptHwGetPriority_of_initialized {s : InterruptController γ υ} {irqNumber : UInt32}
    {line : IrqLine} (hline : irqLine? irqNumber = some line) (hready : s.initialized = true) :
    interruptHwGetPriority irqNumber false s =
      (interruptError errSysOk .system .low, some (s.interruptPriorities line)) := by
  simp [interruptHwGetPriority, hline, hready]

theorem interruptHwGetPriority_of_not_initialized {s : InterruptController γ υ}
    {irqNumber : UInt32} {line : IrqLine} (hline : irqLine? irqNumber = some line)
    (hrefused : ¬ s.initialized = true) :
    interruptHwGetPriority irqNumber false s =
      (interruptError errSysNotInitialized .system .high, none) := by
  simp [interruptHwGetPriority, hline, hrefused]

namespace MaskedController

/-- What the calls so far have left in the controller. -/
structure Recalls (calls : List (ControllerCall γ υ)) (s : MaskedController γ υ) : Prop where
  initialized : s.controller.initialized = (sinceInit calls).isSome
  priority : ∀ since, sinceInit calls = some since → ∀ line,
    s.controller.interruptPriorities line = lastPriority line since
  enabled : ∀ line : IrqLine, s.enabledIrqs.toNat.testBit line = true ↔
    ∃ since, sinceInit calls = some since ∧ ∃ call ∈ since, call.Enables line

variable {s : MaskedController γ υ} {done : List (ControllerCall γ υ)}

/-- A call of an initialised controller. -/
theorem step_of_initialized (hready : s.controller.initialized = true)
    (call : ControllerCall γ υ) :
    (s.step call).2.controller.initialized = true ∧
      ∀ line : IrqLine,
        (s.step call).2.controller.interruptPriorities line =
            (call.priority? line).getD (s.controller.interruptPriorities line) ∧
          ((s.step call).2.enabledIrqs.toNat.testBit line = true ↔
            s.enabledIrqs.toNat.testBit line = true ∨ call.Enables line) := by
  cases call with
  | init =>
      simp only [step, interruptControllerInit, hready, if_true]
      exact ⟨trivial, fun line => ⟨rfl, (or_iff_left id).symm⟩⟩
  | register irqNumber priority handler context =>
      have hstored (line : IrqLine) :=
        interruptPriorities_register line hready irqNumber priority handler context
      exact ⟨(hstored ⟨0, by decide⟩).1, fun line => ⟨(hstored line).2, (or_iff_left id).symm⟩⟩
  | setPriority irqNumber priority =>
      have hstored (line : IrqLine) :=
        interruptPriorities_setPriority line hready irqNumber priority
      refine ⟨(hstored ⟨0, by decide⟩).1, fun line => ⟨(hstored line).2.trans ?_,
        (or_iff_left id).symm⟩⟩
      simp only [ControllerCall.priority?]
      split <;> rfl
  | enable irqNumber =>
      simp only [step, interruptEnable, if_neg (not_not_intro hready), ControllerCall.Enables]
      cases hnamed : irqLine? irqNumber with
      | none =>
          have hnone (line : IrqLine) : none ≠ some line := (Option.some_ne_none line).symm
          exact ⟨hready, fun line => ⟨rfl, (or_iff_left (hnone line)).symm⟩⟩
      | some named =>
          have hok : (interruptHwEnable irqNumber).errorCode = errSysOk := by
            rw [interruptHwEnable, hnamed]
            rfl
          simp only [if_pos hok, Option.some.injEq]
          exact ⟨hready, fun line => ⟨rfl, testBit_enable s.enabledIrqs irqNumber hnamed line⟩⟩
  | interrupt i =>
      refine ⟨(initialized_interruptHandler s.controller i).trans hready, fun line =>
        ⟨?_, (or_iff_left id).symm⟩⟩
      exact congrFun (interruptPriorities_interruptHandler s.controller i) line
  | _ => exact ⟨hready, fun line => ⟨rfl, (or_iff_left id).symm⟩⟩

/-- A call before the initialisation is refused, or it changes neither the mask
nor that. -/
theorem step_of_not_initialized (hready : s.controller.initialized = false)
    {call : ControllerCall γ υ} (hcall : ¬ call.IsInit) :
    (s.step call).2.controller.initialized = false ∧
      (s.step call).2.enabledIrqs = s.enabledIrqs := by
  have hrefused : ¬ s.controller.initialized = true := Bool.eq_false_iff.mp hready
  cases call with
  | init => exact absurd trivial hcall
  | register irqNumber priority handler context =>
      simp only [step, interruptRegisterHandler, if_pos hrefused]
      exact ⟨hready, trivial⟩
  | setPriority irqNumber priority =>
      simp only [step, interruptHwSetPriority, if_pos hrefused]
      refine ⟨?_, trivial⟩
      cases irqLine? irqNumber with
      | none => exact hready
      | some line =>
          simp only
          split <;> exact hready
  | enable irqNumber =>
      simp only [step, interruptEnable, if_pos hrefused]
      exact ⟨hready, trivial⟩
  | interrupt i => exact ⟨(initialized_interruptHandler s.controller i).trans hready, rfl⟩
  | _ => exact ⟨hready, rfl⟩

theorem recalls_powerOn : (powerOn (γ := γ) (υ := υ)).Recalls [] where
  initialized := rfl
  priority := nofun
  enabled line := iff_of_false (by simp [powerOn]) nofun

theorem Recalls.step (h : s.Recalls done) (call : ControllerCall γ υ) :
    (s.step call).2.Recalls (done ++ [call]) := by
  cases hsince : sinceInit done with
  | none =>
      have hready : s.controller.initialized = false := by rw [h.initialized, hsince]; rfl
      by_cases hinit : call.IsInit
      · obtain rfl : call = .init := by
          cases call with
          | init => rfl
          | _ => exact hinit.elim
        have hnext : sinceInit (done ++ [.init]) = some [] := sinceInit_concat_of_none hsince _
        simp only [MaskedController.step, interruptControllerInit_eq hready, hready,
          Bool.false_eq_true, if_false]
        refine ⟨by rw [hnext]; rfl, ?_, fun line => ?_⟩
        · rw [hnext]
          rintro _ ⟨⟩ line
          rfl
        · rw [hnext]
          refine iff_of_false (by simp) ?_
          rintro ⟨_, ⟨⟩, call, hmem, -⟩
          exact absurd hmem List.not_mem_nil
      · obtain ⟨hinitialized, hmask⟩ := step_of_not_initialized hready hinit
        have hnone : sinceInit (done ++ [call]) = none := by
          rw [sinceInit_concat_of_none hsince, sinceInit_cons_of_not_init hinit, sinceInit]
        refine ⟨by rw [hinitialized, hnone]; rfl, by simp [hnone], fun line => ?_⟩
        rw [hmask, h.enabled, hsince, hnone]
  | some since =>
      have hready : s.controller.initialized = true := by rw [h.initialized, hsince]; rfl
      have hnext := sinceInit_concat_of_some hsince call
      obtain ⟨hinitialized, hline⟩ := step_of_initialized hready call
      refine ⟨by rw [hinitialized, hnext]; rfl, ?_, fun line => ?_⟩
      · rw [hnext]
        rintro _ ⟨⟩ line
        rw [(hline line).1, h.priority since hsince, lastPriority_concat]
      · rw [(hline line).2, h.enabled, hsince, hnext]
        simp [or_comm, or_and_right, exists_or]

/-- Verification expects the priority that was accepted last. -/
theorem Recalls.verify_iff (h : s.Recalls done) {irqNumber : UInt32} {line : IrqLine}
    (hline : irqLine? irqNumber = some line) (expectedPriority : UInt32) :
    (interruptVerifyPriority irqNumber expectedPriority s.controller).errorCode = errSysOk ↔
      ∃ since, sinceInit done = some since ∧ expectedPriority = lastPriority line since := by
  have hinitialized := h.initialized
  rw [interruptVerifyPriority]
  cases hsince : sinceInit done with
  | none =>
      have hrefused : ¬ s.controller.initialized = true := by simp [hinitialized, hsince]
      have hcode : (interruptError errSysNotInitialized .system .high).errorCode ≠ errSysOk := by
        decide
      rw [interruptHwGetPriority_of_not_initialized hline hrefused]
      simp only [if_pos hcode]
      exact iff_of_false hcode nofun
  | some since =>
      have hready : s.controller.initialized = true := by simp [hinitialized, hsince]
      have hok : (interruptError errSysOk .system .low).errorCode = errSysOk := rfl
      have hmismatch : (interruptError errSysConfigError .system .high).errorCode ≠ errSysOk := by
        decide
      rw [interruptHwGetPriority_of_initialized hline hready, h.priority since hsince line]
      simp only [if_neg (not_not_intro hok), ne_eq, Option.some.injEq, exists_eq_left']
      by_cases hsame : lastPriority line since = expectedPriority
      · rw [if_neg (not_not_intro hsame)]
        exact iff_of_true hok hsame.symm
      · rw [if_pos hsame]
        exact iff_of_false hmismatch (Ne.symm hsame)

end MaskedController

/-- **What the controller recalls**: after any calls from power-on, verification of a
priority succeeds exactly if the controller has been initialised and the priority
is the one that was accepted last since then, and the mask has the bit of a line
exactly if the line was enabled since then. -/
theorem interrupt_priority_recalled (calls : List (ControllerCall γ υ)) {irqNumber : UInt32}
    {line : IrqLine} (hline : irqLine? irqNumber = some line) :
    let s := (mealy MaskedController.step (.powerOn : MaskedController γ υ) calls).2
    (∀ expectedPriority,
      (interruptVerifyPriority irqNumber expectedPriority s.controller).errorCode = errSysOk ↔
        ∃ since, sinceInit calls = some since ∧ expectedPriority = lastPriority line since) ∧
    (s.enabledIrqs.toNat.testBit irqNumber.toNat = true ↔
      ∃ since, sinceInit calls = some since ∧ ∃ call ∈ since, call.Enables line) := by
  have hrecalls := mealy_history (R := MaskedController.Recalls)
    (fun done s call (h : s.Recalls done) => h.step call)
    (MaskedController.recalls_powerOn (γ := γ) (υ := υ)) calls
  rw [List.nil_append] at hrecalls
  refine ⟨fun expectedPriority => ?_, ?_⟩
  · exact hrecalls.verify_iff hline expectedPriority
  · rw [toNat_of_irqLine? hline]
    exact hrecalls.enabled line

end Controller

/-- A priority that is set too early, a handler, a priority out of range, and a
line that is enabled. -/
def lineThreeCalls : List (ControllerCall Nat Nat) :=
  [.setPriority 3 1, .init, .register 3 4 (some 7) none, .setPriority 3 9, .enable 3]

/-- The priority of the handler is recalled. -/
theorem interrupt_priority_recalled_lineThree :
    let s := (mealy MaskedController.step .powerOn lineThreeCalls).2
    (∀ expectedPriority,
      (interruptVerifyPriority 3 expectedPriority s.controller).errorCode = errSysOk ↔
        ∃ since, sinceInit lineThreeCalls = some since ∧
          expectedPriority = lastPriority ⟨3, by decide⟩ since) ∧
    (s.enabledIrqs.toNat.testBit (3 : UInt32).toNat = true ↔
      ∃ since, sinceInit lineThreeCalls = some since ∧
        ∃ call ∈ since, call.Enables ⟨3, by decide⟩) :=
  interrupt_priority_recalled lineThreeCalls (by decide)

end AutoMlos
