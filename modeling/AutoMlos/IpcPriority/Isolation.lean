import AutoMlos.IpcPriority

/-!
# AutoMlos.IpcPriority.Isolation

The levels of the table do not touch each other.

What is left of a level is a function of the calls that name it: other calls
may be taken out of a run.  A call that fails changes nothing, and a reset of a
valid priority succeeds and leaves the entry of the initial table.
-/

namespace AutoMlos

open Lib

/-- A call names a level. -/
def PriorityCall.names (level : IpcPriority) (call : PriorityCall) : Bool :=
  ipcPriority? call.priority = some level

namespace IpcPriorityConfigs

/-- A call leaves the levels it does not name as they were. -/
theorem step_of_not_names (g : IpcPriorityConfigs) {call : PriorityCall} {level : IpcPriority}
    (h : call.names level = false) : (g.step call).2 level = g level := by
  obtain hsame | ⟨named, config, hnamed, -, -, hnext⟩ := g.step_cases call
  · rw [hsame]
  · rw [hnext]
    refine Function.update_of_ne ?_ _ _
    rintro rfl
    exact of_decide_eq_false h hnamed

/-- What a call does to the level it names is a function of that level. -/
theorem step_of_names (g : IpcPriorityConfigs) {call : PriorityCall} {level : IpcPriority}
    (h : call.names level = true) :
    (g.step call).2 level = (call.effect level (g level)).getD (g level) := by
  have hlevel : ipcPriority? call.priority = some level := of_decide_eq_true h
  cases heffect : call.effect level (g level) with
  | none => rw [step_of_refused hlevel heffect, Option.getD_none]
  | some config => rw [(step_of_effect hlevel heffect).2, Function.update_self, Option.getD_some]

/-- A call that returns −1 changes nothing and hands nothing out. -/
theorem step_of_error (g : IpcPriorityConfigs) {call : PriorityCall}
    (h : (g.step call).1.result = -1) : (g.step call).2 = g ∧ (g.step call).1.config = none := by
  obtain hsame | ⟨_, _, -, -, hok, -⟩ := g.step_cases call
  · rw [hsame]
    exact ⟨rfl, rfl⟩
  · exact absurd h hok

/-- A reset of a level succeeds and leaves the default of that level. -/
theorem step_reset_of_level (g : IpcPriorityConfigs) {priority : Int} {level : IpcPriority}
    (hlevel : ipcPriority? priority = some level) :
    (g.step (.reset priority)).1.result = 0 ∧
      (g.step (.reset priority)).2 level = defaultPriorityConfigs level := by
  simp only [step, ipcResetPriorityConfig_of_level hlevel, Function.update_self, and_self]

/-- A reset succeeds exactly if its priority is valid, and then it leaves the
default of the level it names. -/
theorem step_reset (g : IpcPriorityConfigs) (priority : Int) :
    ((g.step (.reset priority)).1.result = 0 ↔ ipcValidatePriority priority = true) ∧
      ((g.step (.reset priority)).1.result = 0 → ∃ level, ipcPriority? priority = some level ∧
        (g.step (.reset priority)).2 level = defaultPriorityConfigs level) := by
  rw [← isSome_ipcPriority?]
  cases hlevel : ipcPriority? priority with
  | none =>
      have hrefused : ipcPriority? (PriorityCall.reset priority).priority = none := hlevel
      rw [step_of_invalid g hrefused]
      have hne : (-1 : Int) ≠ 0 := by decide
      exact ⟨iff_of_false hne Bool.false_ne_true, fun h => absurd h hne⟩
  | some level =>
      obtain ⟨hok, hdefault⟩ := g.step_reset_of_level hlevel
      exact ⟨iff_of_true hok rfl, fun _ => ⟨level, rfl, hdefault⟩⟩

end IpcPriorityConfigs

/-- Along every run, a level is what the calls that name it made of it, a call
that returns −1 changes nothing, and a reset succeeds exactly if its priority is
valid and then leaves the level's entry of the initial table. -/
theorem priorities_isolated (calls : List PriorityCall) :
    (∀ level,
      (mealy IpcPriorityConfigs.step defaultPriorityConfigs calls).2 level =
        (mealy IpcPriorityConfigs.step defaultPriorityConfigs
          (calls.filter (PriorityCall.names level))).2 level) ∧
    Always (total IpcPriorityConfigs.step)
      (fun g call reply g' =>
        (reply.result = -1 → g' = g ∧ reply.config = none) ∧
        ∀ priority, call = .reset priority →
          (reply.result = 0 ↔ ipcValidatePriority priority = true) ∧
          (reply.result = 0 → ∃ level, ipcPriority? priority = some level ∧
            g' level = defaultPriorityConfigs level))
      defaultPriorityConfigs calls := by
  refine ⟨fun level => ?_, ?_⟩
  · have hlocal : ∀ (g g' : IpcPriorityConfigs) (call : PriorityCall), call.names level = true →
        g level = g' level → (g.step call).2 level = (g'.step call).2 level := by
      intro g g' call hnames hsame
      rw [g.step_of_names hnames, g'.step_of_names hnames, hsame]
    exact mealy_filter (fun g : IpcPriorityConfigs => g level)
      (fun g _ => g.step_of_not_names) hlocal rfl calls
  · have hstep (g : IpcPriorityConfigs) (call : PriorityCall) (_ : True) :
        (((g.step call).1.result = -1 → (g.step call).2 = g ∧ (g.step call).1.config = none) ∧
          ∀ priority, call = .reset priority →
            ((g.step call).1.result = 0 ↔ ipcValidatePriority priority = true) ∧
            ((g.step call).1.result = 0 → ∃ level, ipcPriority? priority = some level ∧
              (g.step call).2 level = defaultPriorityConfigs level)) ∧ True := by
      refine ⟨⟨g.step_of_error, ?_⟩, trivial⟩
      rintro priority rfl
      exact g.step_reset priority
    exact always_total hstep trivial calls

-- a level is replaced, adjusted and reset; there is no level 7
example :
    let run := mealy IpcPriorityConfigs.step defaultPriorityConfigs
      [.set 3 (some ⟨40, 1, 10, 0⟩), .adjust 3 9, .reset 7, .reset 3]
    run.1.map (·.result) = [0, 1, -1, 0] ∧ run.2 .info = defaultPriorityConfigs .info := by
  decide

end AutoMlos
