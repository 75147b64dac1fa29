import AutoMlos.Interrupt

/-!
# AutoMlos.Interrupt.Registration

Which handler an interrupt reaches.

Beside the controller stands the registration that succeeded last on each line.
A registration stores its handler before it asks for the priority, so one with
a priority out of range fails and leaves its handler behind.  A run is lawful
exactly if each such registration names what its line holds already.
-/

namespace AutoMlos

open Lib

section Registration

variable {γ υ : Type}

/-- A registration, or an interrupt. -/
inductive InterruptEvent (γ υ : Type) where
  | register (irqNumber priority : UInt32) (handler : Option γ) (context : Option υ)
  | interrupt (i : Interrupt)

/-- The result of a registration, or the call that an interrupt makes. -/
inductive InterruptReply (γ υ : Type) where
  | registered (error : SystemError)
  | handled (call : Option (HandlerCall γ υ))

/-- One event. -/
def InterruptController.step (s : InterruptController γ υ) :
    InterruptEvent γ υ → InterruptReply γ υ × InterruptController γ υ
  | .register irqNumber priority handler context =>
      let (error, s) := interruptRegisterHandler irqNumber priority handler context s
      (.registered error, s)
  | .interrupt i =>
      let (call, s) := interruptHandler s i
      (.handled call, s)

/-- The handler and context that were registered last on each line by a
registration that succeeded. -/
abbrev Registrations (γ υ : Type) : Type := IrqLine → Option (γ × Option υ)

/-- What a registration that succeeded adds. -/
def Registrations.note (r : Registrations γ υ) :
    InterruptEvent γ υ → InterruptReply γ υ → Registrations γ υ
  | .register irqNumber _ (some handler) context, .registered error =>
      match irqLine? irqNumber with
      | some line =>
          if error.errorCode = errSysOk then Function.update r line (some (handler, context))
          else r
      | none => r
  | _, _ => r

/-- A controller, and the registrations that succeeded. -/
structure ObservedController (γ υ : Type) where
  controller : InterruptController γ υ
  registrations : Registrations γ υ

/-- One event, with the registrations noted. -/
def ObservedController.step (o : ObservedController γ υ) (e : InterruptEvent γ υ) :
    InterruptReply γ υ × ObservedController γ υ :=
  let (reply, controller) := o.controller.step e
  (reply, { controller, registrations := o.registrations.note e reply })

/-- The observed controller after initialisation. -/
def ObservedController.started : ObservedController γ υ where
  controller := (interruptControllerInit .cleared).2
  registrations _ := none

/-- An interrupt on a line makes the call that was registered last, and a
registration that fails changes no handler, context or priority. -/
def Lawful (o : ObservedController γ υ) (e : InterruptEvent γ υ) (reply : InterruptReply γ υ)
    (o' : ObservedController γ υ) : Prop :=
  match e, reply with
  | .interrupt i, .handled call =>
      ∀ line, irqLine? i.irqNumber = some line →
        call = (o.registrations line).map fun (handler, context) =>
          ⟨handler, i.irqNumber, context⟩
  | .register .., .registered error =>
      error.errorCode ≠ errSysOk →
        o'.controller.handlers = o.controller.handlers ∧
        o'.controller.handlerContexts = o.controller.handlerContexts ∧
        o'.controller.interruptPriorities = o.controller.interruptPriorities
  | _, _ => False

/-- A registration on a line with a priority out of range names the handler and
the context that the line holds already. -/
def InterruptEvent.Harmless (s : InterruptController γ υ) : InterruptEvent γ υ → Prop
  | .register irqNumber priority (some handler) context =>
      ∀ line, irqLine? irqNumber = some line → priority ≥ interruptPriorityLevels →
        s.handlers line = some handler ∧ s.handlerContexts line = context
  | _ => True

/-! ## one event -/

/-- The controller with a handler and a context stored on a line. -/
def InterruptController.withHandler (s : InterruptController γ υ) (line : IrqLine) (handler : γ)
    (context : Option υ) : InterruptController γ υ :=
  { s with
    handlers := Function.update s.handlers line (some handler)
    handlerContexts := Function.update s.handlerContexts line context }

theorem InterruptController.withHandler_of_held {s : InterruptController γ υ} {line : IrqLine}
    {handler : γ} {context : Option υ} (hhandler : s.handlers line = some handler)
    (hcontext : s.handlerContexts line = context) : s.withHandler line handler context = s := by
  simp only [withHandler, ← hhandler, ← hcontext, Function.update_eq_self]

/-- A registration of a handler on a line writes the handler and the context,
and the priority too if that is in range. -/
theorem interruptRegisterHandler_of_line {s : InterruptController γ υ} (hinit : s.initialized)
    {irqNumber : UInt32} {line : IrqLine} (hline : irqLine? irqNumber = some line)
    (priority : UInt32) (handler : γ) (context : Option υ) :
    interruptRegisterHandler irqNumber priority (some handler) context s =
      if priority ≥ interruptPriorityLevels then
        (interruptError errSysInvalidParam .system .high, s.withHandler line handler context)
      else
        (interruptError errSysOk .system .low,
          { s.withHandler line handler context with
            interruptPriorities := Function.update s.interruptPriorities line priority }) := by
  obtain ⟨initialized, handlers, contexts, counters, latencies, priorities⟩ := s
  obtain rfl : initialized = true := hinit
  by_cases hprio : priority ≥ interruptPriorityLevels
  · simp only [interruptRegisterHandler, interruptHwSetPriority, hline, if_pos hprio]
    rfl
  · simp only [interruptRegisterHandler, interruptHwSetPriority, hline, if_neg hprio]
    rfl

/-- A registration that names no line or no handler fails and changes
nothing. -/
theorem interruptRegisterHandler_of_invalid {s : InterruptController γ υ} (hinit : s.initialized)
    {irqNumber : UInt32} {handler : Option γ} (h : irqLine? irqNumber = none ∨ handler = none)
    (priority : UInt32) (context : Option υ) :
    (interruptRegisterHandler irqNumber priority handler context s).1.errorCode ≠ errSysOk ∧
      (interruptRegisterHandler irqNumber priority handler context s).2 = s := by
  have hparam : errSysInvalidParam ≠ errSysOk := by decide
  have hnull : errBaseNullPtr ≠ errSysOk := by decide
  cases hline : irqLine? irqNumber with
  | none =>
      simp only [interruptRegisterHandler, hinit, hline]
      exact ⟨hparam, rfl⟩
  | some line =>
      obtain rfl : handler = none := h.resolve_left (by simp [hline])
      simp only [interruptRegisterHandler, hinit, hline]
      exact ⟨hnull, rfl⟩

/-- The lines of the controller hold what was registered last. -/
structure ObservedController.Holds (o : ObservedController γ υ) : Prop where
  initialized : o.controller.initialized = true
  handlers : ∀ line, o.controller.handlers line = (o.registrations line).map (·.1)
  handlerContexts : ∀ line, o.controller.handlerContexts line = (o.registrations line).bind (·.2)

theorem ObservedController.holds_started : (started (γ := γ) (υ := υ)).Holds := by
  rw [started, interruptControllerInit_eq rfl]
  exact ⟨rfl, fun _ => rfl, fun _ => rfl⟩

/-- An interrupt is lawful where the lines hold what was registered, and keeps
them so. -/
theorem ObservedController.Holds.interrupt {o : ObservedController γ υ} (h : o.Holds)
    (i : Interrupt) :
    Lawful o (.interrupt i) (o.step (.interrupt i)).1 (o.step (.interrupt i)).2 ∧
      (o.step (.interrupt i)).2.Holds := by
  cases hline : irqLine? i.irqNumber with
  | none =>
      simp only [step, InterruptController.step, interruptHandler_of_no_line _ hline]
      exact ⟨fun line hsome => absurd (hline.symm.trans hsome) (by simp), h⟩
  | some line =>
      simp only [step, InterruptController.step, interruptHandler_of_line _ hline]
      refine ⟨fun line' hsome => ?_, ⟨h.initialized, h.handlers, h.handlerContexts⟩⟩
      obtain rfl : line = line' := Option.some.inj (hline.symm.trans hsome)
      rw [h.handlers, h.handlerContexts]
      cases o.registrations line <;> rfl

/-- A registration that names no line or no handler is lawful. -/
theorem ObservedController.Holds.register_invalid {o : ObservedController γ υ} (h : o.Holds)
    {irqNumber : UInt32} {handler : Option γ}
    (hinvalid : irqLine? irqNumber = none ∨ handler = none) (priority : UInt32)
    (context : Option υ) :
    let e : InterruptEvent γ υ := .register irqNumber priority handler context
    (o.step e).2 = o ∧ e.Harmless o.controller ∧ Lawful o e (o.step e).1 (o.step e).2 := by
  intro e
  obtain ⟨herror, hsame⟩ :=
    interruptRegisterHandler_of_invalid h.initialized hinvalid priority context
  have hstep : (o.step e).2 = o := by
    simp only [step, InterruptController.step, hsame, e]
    cases handler with
    | none => rfl
    | some handler =>
        have hnone := hinvalid.resolve_right (by simp)
        simp only [Registrations.note, hnone]
  refine ⟨hstep, ?_, fun _ => ?_⟩
  · cases handler with
    | none => trivial
    | some handler =>
        have hnone := hinvalid.resolve_right (by simp)
        exact fun line hsome => absurd (hnone.symm.trans hsome) (by simp)
  · rw [hstep]
    exact ⟨rfl, rfl, rfl⟩

/-- A registration with a priority out of range is lawful exactly if it names
what its line holds, and then it changes nothing. -/
theorem ObservedController.Holds.register_refused {o : ObservedController γ υ} (h : o.Holds)
    {irqNumber priority : UInt32} {line : IrqLine} (hline : irqLine? irqNumber = some line)
    (hprio : priority ≥ interruptPriorityLevels) (handler : γ) (context : Option υ) :
    let e : InterruptEvent γ υ := .register irqNumber priority (some handler) context
    (Lawful o e (o.step e).1 (o.step e).2 ↔ e.Harmless o.controller) ∧
      (e.Harmless o.controller → (o.step e).2.Holds) := by
  intro e
  have hregister := interruptRegisterHandler_of_line h.initialized hline priority handler context
  rw [if_pos hprio] at hregister
  have hrefused : errSysInvalidParam ≠ errSysOk := by decide
  have hstep : o.step e = (.registered (interruptError errSysInvalidParam .system .high),
      { o with controller := o.controller.withHandler line handler context }) := by
    simp only [step, InterruptController.step, e, hregister, Registrations.note, hline]
    rfl
  have hharmless : e.Harmless o.controller ↔
      o.controller.handlers line = some handler ∧ o.controller.handlerContexts line = context := by
    constructor
    · intro hh
      exact hh line hline hprio
    · intro hh line' hline' _
      obtain rfl : line = line' := Option.some.inj (hline.symm.trans hline')
      exact hh
  rw [hstep, hharmless]
  constructor
  · constructor
    · intro hlawful
      obtain ⟨hhandlers, hcontexts, -⟩ := hlawful hrefused
      exact ⟨(Function.update_eq_self_iff.mp hhandlers).symm,
        (Function.update_eq_self_iff.mp hcontexts).symm⟩
    · rintro ⟨hhandler, hcontext⟩ _
      exact ⟨Function.update_eq_self_iff.mpr hhandler.symm,
        Function.update_eq_self_iff.mpr hcontext.symm, rfl⟩
  · rintro ⟨hhandler, hcontext⟩
    rwa [InterruptController.withHandler_of_held hhandler hcontext]

/-- A registration of a handler on a line with a priority in range succeeds, and
the line holds what it names. -/
theorem ObservedController.Holds.register {o : ObservedController γ υ} (h : o.Holds)
    {irqNumber priority : UInt32} {line : IrqLine} (hline : irqLine? irqNumber = some line)
    (hprio : ¬ priority ≥ interruptPriorityLevels) (handler : γ) (context : Option υ) :
    let e : InterruptEvent γ υ := .register irqNumber priority (some handler) context
    Lawful o e (o.step e).1 (o.step e).2 ∧ e.Harmless o.controller ∧ (o.step e).2.Holds := by
  intro e
  have hregister := interruptRegisterHandler_of_line h.initialized hline priority handler context
  rw [if_neg hprio] at hregister
  have hstep : o.step e = (.registered (interruptError errSysOk .system .low),
      { controller := { o.controller.withHandler line handler context with
          interruptPriorities := Function.update o.controller.interruptPriorities line priority }
        registrations := Function.update o.registrations line (some (handler, context)) }) := by
    simp only [step, InterruptController.step, e, hregister, Registrations.note, hline]
    rfl
  rw [hstep]
  refine ⟨fun hfailed => absurd rfl hfailed, fun _ _ hout => absurd hout hprio,
    h.initialized, fun line' => ?_, fun line' => ?_⟩
  · change Function.update o.controller.handlers line (some handler) line' =
      (Function.update o.registrations line (some (handler, context)) line').map (·.1)
    by_cases hsame : line' = line
    · rw [hsame, Function.update_self, Function.update_self, Option.map_some]
    · rw [Function.update_of_ne hsame, Function.update_of_ne hsame, h.handlers]
  · change Function.update o.controller.handlerContexts line context line' =
      (Function.update o.registrations line (some (handler, context)) line').bind (·.2)
    by_cases hsame : line' = line
    · rw [hsame, Function.update_self, Function.update_self, Option.bind_some]
    · rw [Function.update_of_ne hsame, Function.update_of_ne hsame, h.handlerContexts]

/-- An event is lawful exactly if it is harmless, and then the lines hold what
was registered. -/
theorem ObservedController.Holds.step {o : ObservedController γ υ} (h : o.Holds)
    (e : InterruptEvent γ υ) :
    (Lawful o e (o.step e).1 (o.step e).2 ↔ e.Harmless o.controller) ∧
      (Lawful o e (o.step e).1 (o.step e).2 → (o.step e).2.Holds) := by
  cases e with
  | interrupt i =>
      obtain ⟨hlawful, hholds⟩ := h.interrupt i
      exact ⟨iff_of_true hlawful trivial, fun _ => hholds⟩
  | register irqNumber priority handler context =>
      cases handler with
      | none =>
          have hinvalid : irqLine? irqNumber = none ∨ (none : Option γ) = none := .inr rfl
          obtain ⟨hsame, hharmless, hlawful⟩ := h.register_invalid hinvalid priority context
          exact ⟨iff_of_true hlawful hharmless, fun _ => by rwa [hsame]⟩
      | some handler =>
          cases hline : irqLine? irqNumber with
          | none =>
              obtain ⟨hsame, hharmless, hlawful⟩ :=
                h.register_invalid (.inl hline) priority context
              exact ⟨iff_of_true hlawful hharmless, fun _ => by rwa [hsame]⟩
          | some line =>
              by_cases hprio : priority ≥ interruptPriorityLevels
              · obtain ⟨hiff, hholds⟩ := h.register_refused hline hprio handler context
                exact ⟨hiff, fun hlawful => hholds (hiff.mp hlawful)⟩
              · obtain ⟨hlawful, hharmless, hholds⟩ := h.register hline hprio handler context
                exact ⟨iff_of_true hlawful hharmless, fun _ => hholds⟩

/-- After initialisation, every interrupt of a run reaches the handler that was
registered last and every registration that fails changes nothing, exactly if
each registration with a priority out of range is harmless. -/
theorem registration_lawful_iff (events : List (InterruptEvent γ υ)) :
    Always (total ObservedController.step) Lawful ObservedController.started events ↔
      Always (total ObservedController.step) (fun o e _ _ => e.Harmless o.controller)
        ObservedController.started events := by
  have hstep (o : ObservedController γ υ) (e : InterruptEvent γ υ) (h : o.Holds) :
      (Lawful o e (o.step e).1 (o.step e).2 ↔ e.Harmless o.controller) ∧
        (Lawful o e (o.step e).1 (o.step e).2 → (o.step e).2.Holds) := h.step e
  exact always_total_iff_always hstep ObservedController.holds_started events

end Registration

/-- A registration of handler 7 on line 3 with priority 9 fails, and the next
interrupt on the line calls handler 7. -/
theorem registration_unlawful :
    ¬ ∀ events : List (InterruptEvent Nat Nat),
      Always (total ObservedController.step) Lawful ObservedController.started events := by
  intro h
  have hall := h [.register 3 9 (some 7) none, .interrupt ⟨3, 0, 0⟩]
  rw [always_total_cons, always_total_cons] at hall
  have hcall := hall.2.1 ⟨3, by decide⟩ rfl
  exact absurd hcall (by decide)

end AutoMlos
