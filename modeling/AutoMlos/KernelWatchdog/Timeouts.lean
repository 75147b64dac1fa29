import AutoMlos.KernelWatchdog
import AutoMlos.Lib.Run

/-!
# AutoMlos.KernelWatchdog.Timeouts

Which components a timeout reaches.

The handler stops at the first component of the level, while any number of
components may be registered at one.  So of the components at a level only the
first is ever triggered (`FirstOnly`), and a timeout reaches all of them
exactly if there is one at most.
-/

namespace AutoMlos

open Lib

/-- What is promised of a call: the components stay within the array and the
timeouts within their range, a registration that is refused changes nothing,
and a timeout triggers the components of its level and no others. -/
structure TimeoutPromise (w : KernelWatchdog) (call : KernelWatchdogCall)
    (reply : Option SystemError) (w' : KernelWatchdog) : Prop where
  count_le : w'.components.length ≤ maxWatchdogComponents
  timeouts : ∀ c ∈ w'.components, 10 ≤ c.timeoutMs ∧ c.timeoutMs ≤ 10000
  refused : ∀ error, reply = some error → error.errorCode ≠ errSysOk → w' = w
  triggered : ∀ level, call = .timeoutHandler level →
    ∀ c ∈ w'.components, c.level = level → c.state = .triggered
  others : ∀ level, call = .timeoutHandler level → ∀ (i : Nat) (c : WatchdogComponent),
    w.components[i]? = some c → c.level ≠ level → w'.components[i]? = some c

/-- The components at a level. -/
def KernelWatchdog.atLevel (w : KernelWatchdog) (level : UInt32) : List WatchdogComponent :=
  w.components.filter fun c => c.level = level

/-- A timeout names a level at which there is one component at most. -/
def KernelWatchdogCall.Alone (w : KernelWatchdog) : KernelWatchdogCall → Prop
  | .register _ _ _ => True
  | .timeoutHandler level => (w.atLevel level).length ≤ 1

instance (w : KernelWatchdog) (call : KernelWatchdogCall) : Decidable (call.Alone w) := by
  cases call <;> unfold KernelWatchdogCall.Alone <;> infer_instance

/-! ## the first component of a level -/

/-- Components that follow another one of their level are disabled. -/
def FirstOnly (components : List WatchdogComponent) : Prop :=
  components.Pairwise fun c d => c.level = d.level → d.state = .disabled

section TriggerFirst

variable {level : UInt32} {components : List WatchdogComponent}

@[simp] theorem length_triggerFirst :
    (triggerFirst level components).length = components.length := by
  fun_induction triggerFirst level components <;> simp [*]

/-- A timeout changes the state of a component only, and only at its level. -/
theorem mem_triggerFirst {c : WatchdogComponent} (h : c ∈ triggerFirst level components) :
    c ∈ components ∨ ∃ d ∈ components, d.level = level ∧ c = { d with state := .triggered } := by
  fun_induction triggerFirst level components with
  | case1 => contradiction
  | case2 d ds hlevel =>
      obtain rfl | hrest := List.mem_cons.mp h
      · exact .inr ⟨d, List.mem_cons_self, hlevel, rfl⟩
      · exact .inl (List.mem_cons_of_mem d hrest)
  | case3 d ds hlevel ih =>
      obtain rfl | hrest := List.mem_cons.mp h
      · exact .inl List.mem_cons_self
      · obtain hmem | ⟨e, he, hsame⟩ := ih hrest
        · exact .inl (List.mem_cons_of_mem d hmem)
        · exact .inr ⟨e, List.mem_cons_of_mem d he, hsame⟩

theorem getElem?_triggerFirst_of_ne {i : Nat} {c : WatchdogComponent}
    (h : components[i]? = some c) (hne : c.level ≠ level) :
    (triggerFirst level components)[i]? = some c := by
  fun_induction triggerFirst level components generalizing i with
  | case1 => simp at h
  | case2 d ds hlevel =>
      cases i with
      | zero => grind
      | succ i => simpa using h
  | case3 d ds hlevel ih =>
      cases i with
      | zero => simpa using h
      | succ i => exact ih (by simpa using h)

/-- A timeout keeps the components after the first of a level disabled. -/
theorem FirstOnly.triggerFirst (h : FirstOnly components) :
    FirstOnly (triggerFirst level components) := by
  fun_induction AutoMlos.triggerFirst level components with
  | case1 => exact h
  | case2 d ds hlevel =>
      obtain ⟨hfirst, hrest⟩ := List.pairwise_cons.mp h
      exact List.pairwise_cons.mpr ⟨hfirst, hrest⟩
  | case3 d ds hlevel ih =>
      obtain ⟨hfirst, hrest⟩ := List.pairwise_cons.mp h
      refine List.pairwise_cons.mpr ⟨fun c hc hsame => ?_, ih hrest⟩
      obtain hmem | ⟨e, he, hat, rfl⟩ := mem_triggerFirst hc
      · exact hfirst c hmem hsame
      · exact absurd (hsame.trans hat) hlevel

/-- A timeout triggers every component of its level exactly if there is one at
most. -/
theorem FirstOnly.all_triggered_iff (h : FirstOnly components) :
    (∀ c ∈ AutoMlos.triggerFirst level components, c.level = level → c.state = .triggered) ↔
      (components.filter fun c => c.level = level).length ≤ 1 := by
  fun_induction AutoMlos.triggerFirst level components with
  | case1 => simp
  | case2 d ds hlevel =>
      obtain ⟨hfirst, -⟩ := List.pairwise_cons.mp h
      have hdisabled : ∀ c ∈ ds, c.level = level → c.state = .disabled := fun c hc hat =>
        hfirst c hc (hlevel.trans hat.symm)
      have hnone : (∀ c ∈ ds, c.level = level → c.state = .triggered) ↔
          (ds.filter fun c => c.level = level) = [] := by
        rw [List.filter_eq_nil_iff]
        constructor
        · intro hall c hc hat
          have hstate := hall c hc (of_decide_eq_true hat)
          rw [hdisabled c hc (of_decide_eq_true hat)] at hstate
          contradiction
        · intro hno c hc hat
          exact absurd (decide_eq_true hat) (hno c hc)
      simp [hlevel, hnone, List.length_eq_zero_iff]
  | case3 d ds hlevel ih =>
      obtain ⟨-, hrest⟩ := List.pairwise_cons.mp h
      simp [hlevel, ih hrest]

end TriggerFirst

/-! ## one call -/

namespace KernelWatchdog

/-- What every call keeps. -/
structure Kept (w : KernelWatchdog) : Prop where
  count_le : w.components.length ≤ maxWatchdogComponents
  timeouts : ∀ c ∈ w.components, 10 ≤ c.timeoutMs ∧ c.timeoutMs ≤ 10000
  firstOnly : FirstOnly w.components

variable {w : KernelWatchdog}

theorem kept_empty : (⟨true, []⟩ : KernelWatchdog).Kept where
  count_le := Nat.zero_le _
  timeouts := by simp
  firstOnly := List.Pairwise.nil

/-- A registration keeps its promise. -/
theorem Kept.register (h : w.Kept) (level timeoutMs : UInt32) (componentName : CString) :
    let call : KernelWatchdogCall := .register level timeoutMs componentName
    TimeoutPromise w call (w.step call).1 (w.step call).2 ∧ (w.step call).2.Kept := by
  intro call
  obtain ⟨-, hsame⟩ | ⟨hroom, hlow, hhigh, hregistered⟩ :=
    kernelWatchdogRegister_cases level timeoutMs componentName w
  · have hstep : (w.step call).2 = w := hsame
    rw [hstep]
    exact ⟨⟨h.count_le, h.timeouts, fun _ _ _ => rfl, by simp [call], by simp [call]⟩, h⟩
  · have hstep : w.step call = (some watchdogErrorSuccess,
        { w with components := w.components ++
            [⟨level, timeoutMs, componentName.truncate 31, .disabled⟩] }) := by
      simp only [step, hregistered, call]
    have hok : watchdogErrorSuccess.errorCode = errSysOk := rfl
    have hcount : w.components.length + 1 ≤ maxWatchdogComponents := hroom
    have htimeouts : ∀ c ∈ w.components ++
        [(⟨level, timeoutMs, componentName.truncate 31, .disabled⟩ : WatchdogComponent)],
        10 ≤ c.timeoutMs ∧ c.timeoutMs ≤ 10000 := by
      intro c hc
      obtain hold | hnew := List.mem_append.mp hc
      · exact h.timeouts c hold
      · rw [List.mem_singleton.mp hnew]
        exact ⟨hlow, hhigh⟩
    rw [hstep]
    refine ⟨⟨by simpa using hcount, htimeouts, by simp [hok], by simp [call], by simp [call]⟩,
      by simpa using hcount, htimeouts, ?_⟩
    exact List.pairwise_append.mpr ⟨h.firstOnly, List.pairwise_singleton _ _, by simp⟩

/-- A timeout keeps its promise exactly if it names a level with one component
at most. -/
theorem Kept.timeoutHandler (h : w.Kept) (level : UInt32) :
    let call : KernelWatchdogCall := .timeoutHandler level
    (TimeoutPromise w call (w.step call).1 (w.step call).2 ↔ call.Alone w) ∧
      (w.step call).2.Kept := by
  intro call
  have htimeouts : ∀ c ∈ triggerFirst level w.components,
      10 ≤ c.timeoutMs ∧ c.timeoutMs ≤ 10000 := by
    intro c hc
    obtain hold | ⟨d, hd, -, rfl⟩ := mem_triggerFirst hc
    · exact h.timeouts c hold
    · exact h.timeouts d hd
  have hcount : (triggerFirst level w.components).length ≤ maxWatchdogComponents := by
    rw [length_triggerFirst]
    exact h.count_le
  refine ⟨?_, hcount, htimeouts, h.firstOnly.triggerFirst⟩
  constructor
  · intro hpromise
    exact h.firstOnly.all_triggered_iff.mp (hpromise.triggered level rfl)
  · intro halone
    refine ⟨hcount, htimeouts, by simp [step, call], ?_, ?_⟩
    · intro level' hlevel
      obtain rfl := KernelWatchdogCall.timeoutHandler.inj hlevel
      exact h.firstOnly.all_triggered_iff.mpr halone
    · intro level' hlevel i c
      obtain rfl := KernelWatchdogCall.timeoutHandler.inj hlevel
      exact getElem?_triggerFirst_of_ne

theorem Kept.step (h : w.Kept) (call : KernelWatchdogCall) :
    (TimeoutPromise w call (w.step call).1 (w.step call).2 ↔ call.Alone w) ∧
      (TimeoutPromise w call (w.step call).1 (w.step call).2 → (w.step call).2.Kept) := by
  cases call with
  | register level timeoutMs componentName =>
      obtain ⟨hpromise, hkept⟩ := h.register level timeoutMs componentName
      exact ⟨iff_of_true hpromise trivial, fun _ => hkept⟩
  | timeoutHandler level =>
      obtain ⟨hiff, hkept⟩ := h.timeoutHandler level
      exact ⟨hiff, fun _ => hkept⟩

end KernelWatchdog

/-- After a successful `kernel_watchdog_init`, every call of a run keeps its
promise if and only if every timeout names a level at which there is one
component at most. -/
theorem watchdog_timeouts_reach_iff {topicRegistered : SystemError} {w : KernelWatchdog}
    (h : (kernelWatchdogInit topicRegistered w).1.errorCode = errSysOk)
    (calls : List KernelWatchdogCall) :
    Always (total KernelWatchdog.step) TimeoutPromise (kernelWatchdogInit topicRegistered w).2
        calls ↔
      Always (total KernelWatchdog.step) (fun w call _ _ => call.Alone w)
        (kernelWatchdogInit topicRegistered w).2 calls := by
  have hstart : (kernelWatchdogInit topicRegistered w).2.Kept := by
    rw [kernelWatchdogInit_of_ok h]
    exact KernelWatchdog.kept_empty
  have hstep (w : KernelWatchdog) (call : KernelWatchdogCall) (h : w.Kept) :
      (TimeoutPromise w call (w.step call).1 (w.step call).2 ↔ call.Alone w) ∧
        (TimeoutPromise w call (w.step call).1 (w.step call).2 → (w.step call).2.Kept) :=
    h.step call
  exact always_total_iff_always hstep hstart calls

/-- Two components at one level, and a timeout there. -/
def twoAtOneLevel : List KernelWatchdogCall :=
  [.register 0 100 (.ofAscii "tick"), .register 0 100 (.ofAscii "load"), .timeoutHandler 0]

theorem watchdog_timeouts_reach_iff_twoAtOneLevel :
    Always (total KernelWatchdog.step) TimeoutPromise
        (kernelWatchdogInit watchdogErrorSuccess .zero).2 twoAtOneLevel ↔
      Always (total KernelWatchdog.step) (fun w call _ _ => call.Alone w)
        (kernelWatchdogInit watchdogErrorSuccess .zero).2 twoAtOneLevel :=
  watchdog_timeouts_reach_iff (by decide) twoAtOneLevel

/-- The second of two components at a level is not reached. -/
theorem watchdog_timeout_misses :
    ¬ ∀ (topicRegistered : SystemError) (w : KernelWatchdog) (calls : List KernelWatchdogCall),
      (kernelWatchdogInit topicRegistered w).1.errorCode = errSysOk →
        Always (total KernelWatchdog.step) TimeoutPromise
          (kernelWatchdogInit topicRegistered w).2 calls := by
  intro h
  have hrun := h watchdogErrorSuccess .zero twoAtOneLevel (by decide)
  simp only [twoAtOneLevel, always_total_cons] at hrun
  have hall := hrun.2.2.1.triggered 0 rfl
  exact absurd hall (by decide)

end AutoMlos
