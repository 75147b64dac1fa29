import AutoMlos.Lib.Outcome
import Mathlib.Data.List.Forall2

/-!
# AutoMlos.Lib.Run

Runs of a system that takes one input at a time.

A system is a step function `step : σ → ι → Outcome (ο × σ)`: a state and an
input give a reply and a next state, unless the step faults.  `Always P`
says that every step of a run is defined and satisfies `P`, which relates
the state before, the input, the reply and the state after; `Along P` only
says it of the steps that return.  The rules below package the induction
over the run once:

* `always_of_invariant`, `along_of_invariant` — an invariant that gives `P` at
  each step gives `Always P`, or `Along P` if steps may fault;
* `always_iff_always`, `along_iff_along` — two step properties that agree
  wherever an invariant holds agree on whole runs;
* `always_total`, `always_total_iff_always` — the two rules for a system without
  faults, where a step needs no result to be named;
* `run_of_history` — what every step keeps true of the state and the inputs so
  far is true at the end of a run;
* `run_of_always_simulates`, `mealy_represents`, `mealy_simulates`,
  `mealy_refines` — a forward simulation into an abstract system makes the
  replies of a run those of the abstract run;
* `run_sublist` — a queue hands out in order what it took in;
* `mealy_purge` — inputs whose steps cannot be seen may be left out;
* `mealy_filter` — a part of the state that some inputs leave alone does not
  depend on them;
* `mealy_independent` — neither do the replies to the other inputs, if they
  are given by that part.
-/

namespace Lib

variable {σ ι ο τ : Type}

/-- Run a list of inputs from a state, collecting the replies. -/
def run (step : σ → ι → Outcome (ο × σ)) : σ → List ι → Outcome (List ο × σ)
  | s, [] => .ok ([], s)
  | s, i :: is => do
      let (o, s') ← step s i
      let (os, s'') ← run step s' is
      return (o :: os, s'')

/-- Run a list of inputs of a system without faults. -/
def mealy (step : τ → ι → ο × τ) : τ → List ι → List ο × τ
  | t, [] => ([], t)
  | t, i :: is =>
      let (o, t') := step t i
      let (os, t'') := mealy step t' is
      (o :: os, t'')

/-- Every step of the run is defined and satisfies `P`. -/
def Always (step : σ → ι → Outcome (ο × σ)) (P : σ → ι → ο → σ → Prop) : σ → List ι → Prop
  | _, [] => True
  | s, i :: is => ∃ o s', step s i = .ok (o, s') ∧ P s i o s' ∧ Always step P s' is

/-- Every step of the run that returns satisfies `P`. -/
def Along (step : σ → ι → Outcome (ο × σ)) (P : σ → ι → ο → σ → Prop) : σ → List ι → Prop
  | _, [] => True
  | s, i :: is => ∀ o s', step s i = .ok (o, s') → P s i o s' ∧ Along step P s' is

/-- A step function without faults, seen as one that could have some. -/
def total (step : σ → ι → ο × σ) (s : σ) (i : ι) : Outcome (ο × σ) := .ok (step s i)

section Rules

variable {step : σ → ι → Outcome (ο × σ)} {P Q : σ → ι → ο → σ → Prop}
variable {Inv : σ → Prop} {Dom : ι → Prop}

@[simp] theorem always_nil (s : σ) : Always step P s [] := trivial

/-- One step of a run whose result is known. -/
theorem always_cons_of_eq {s s' : σ} {i : ι} {o : ο} {is : List ι} (h : step s i = .ok (o, s')) :
    Always step P s (i :: is) ↔ P s i o s' ∧ Always step P s' is := by
  constructor
  · rintro ⟨o₁, s₁, h₁, hP, hrest⟩
    rw [h] at h₁
    cases h₁
    exact ⟨hP, hrest⟩
  · rintro ⟨hP, hrest⟩
    exact ⟨o, s', h, hP, hrest⟩

/-- A decidable property of a concrete run is checked by running it. -/
instance decidableAlways [∀ s i o s', Decidable (P s i o s')] :
    ∀ s is, Decidable (Always step P s is)
  | _, [] => isTrue trivial
  | s, i :: is =>
      match heq : step s i with
      | .ok (_, s') =>
          have := decidableAlways s' is
          decidable_of_iff _ (always_cons_of_eq heq).symm
      | .undefined => isFalse (by simp [Always, heq])
      | .outOfFuel => isFalse (by simp [Always, heq])

@[simp] theorem always_total_cons {step : σ → ι → ο × σ} {s : σ} {i : ι} {is : List ι} :
    Always (total step) P s (i :: is) ↔
      P s i (step s i).1 (step s i).2 ∧ Always (total step) P (step s i).2 is :=
  always_cons_of_eq rfl

theorem Always.imp (hPQ : ∀ s i o s', P s i o s' → Q s i o s') {s : σ} {is : List ι}
    (h : Always step P s is) : Always step Q s is := by
  induction is generalizing s with
  | nil => trivial
  | cons i is ih =>
      obtain ⟨o, s', heq, hP, hrest⟩ := h
      exact ⟨o, s', heq, hPQ s i o s' hP, ih hrest⟩

/-- A run that is always good is good up to any of its points. -/
theorem always_of_append {s : σ} {is js : List ι} (h : Always step P s (is ++ js)) :
    Always step P s is := by
  induction is generalizing s with
  | nil => trivial
  | cons i is ih =>
      obtain ⟨o, s', heq, hP, hrest⟩ := h
      exact ⟨o, s', heq, hP, ih hrest⟩

/-- Two properties that are always the case are so together. -/
theorem always_and_iff {s : σ} {is : List ι} :
    Always step (fun s i o s' => P s i o s' ∧ Q s i o s') s is ↔
      Always step P s is ∧ Always step Q s is := by
  constructor
  · exact fun h => ⟨h.imp fun _ _ _ _ => And.left, h.imp fun _ _ _ _ => And.right⟩
  · rintro ⟨hP, hQ⟩
    induction is generalizing s with
    | nil => trivial
    | cons i is ih =>
        obtain ⟨o, s', heq, hp, hrest⟩ := hP
        rw [always_cons_of_eq heq] at hQ
        exact ⟨o, s', heq, ⟨hp, hQ.1⟩, ih hrest hQ.2⟩

/-- What is always the case is the case along the run. -/
theorem Always.along {s : σ} {is : List ι} (h : Always step P s is) : Along step P s is := by
  induction is generalizing s with
  | nil => trivial
  | cons i is ih =>
      intro o s' heq
      rw [always_cons_of_eq heq] at h
      exact ⟨h.1, ih h.2⟩

/-- Under an invariant that rules out faults, a run all of whose returning
steps are good is always good. -/
theorem always_of_along
    (hstep : ∀ s i, Inv s → ∃ o s', step s i = .ok (o, s') ∧ (P s i o s' → Inv s'))
    {s : σ} (hs : Inv s) {is : List ι} (h : Along step P s is) : Always step P s is := by
  induction is generalizing s with
  | nil => trivial
  | cons i is ih =>
      obtain ⟨o, s', heq, hInv⟩ := hstep s i hs
      obtain ⟨hP, hrest⟩ := h o s' heq
      exact ⟨o, s', heq, hP, ih (hInv hP) hrest⟩

/-- The invariant rule: what each step gives from the invariant holds along
every run that starts in it. -/
theorem always_of_invariant
    (hstep : ∀ s i, Inv s → Dom i → ∃ o s', step s i = .ok (o, s') ∧ P s i o s' ∧ Inv s')
    {s : σ} (hs : Inv s) {is : List ι} (hdom : ∀ i ∈ is, Dom i) : Always step P s is := by
  induction is generalizing s with
  | nil => trivial
  | cons i is ih =>
      obtain ⟨o, s', heq, hP, hs'⟩ := hstep s i hs (hdom i List.mem_cons_self)
      exact ⟨o, s', heq, hP, ih hs' fun j hj => hdom j (List.mem_cons_of_mem i hj)⟩

/-- The invariant rule for the steps that return. -/
theorem along_of_invariant
    (hstep : ∀ s i o s', Inv s → step s i = .ok (o, s') → P s i o s' ∧ Inv s')
    {s : σ} (hs : Inv s) (is : List ι) : Along step P s is := by
  induction is generalizing s with
  | nil => trivial
  | cons i is ih =>
      intro o s' heq
      obtain ⟨hP, hs'⟩ := hstep s i o s' hs heq
      exact ⟨hP, ih hs'⟩

/-- Two step properties that agree under an invariant agree along runs, at the
steps that return. -/
theorem along_iff_along
    (hstep : ∀ s i o s', Inv s → step s i = .ok (o, s') →
      (P s i o s' ↔ Q s i o s') ∧ (P s i o s' → Inv s'))
    {s : σ} (hs : Inv s) (is : List ι) : Along step P s is ↔ Along step Q s is := by
  induction is generalizing s with
  | nil => exact Iff.rfl
  | cons i is ih =>
      refine forall₃_congr fun o s' heq => ?_
      obtain ⟨hPQ, hInv⟩ := hstep s i o s' hs heq
      constructor
      · rintro ⟨hP, h⟩
        exact ⟨hPQ.mp hP, (ih (hInv hP)).mp h⟩
      · rintro ⟨hQ, h⟩
        exact ⟨hPQ.mpr hQ, (ih (hInv (hPQ.mpr hQ))).mpr h⟩

/-- Two step properties that agree under an invariant, on inputs in `Dom`,
agree on whole runs of such inputs.  The invariant need only survive the
steps that satisfy `P`: both sides stop at the first step that does not. -/
theorem always_iff_always_of_dom
    (hstep : ∀ s i, Inv s → Dom i → ∃ o s', step s i = .ok (o, s') ∧
      (P s i o s' ↔ Q s i o s') ∧ (P s i o s' → Inv s'))
    {s : σ} (hs : Inv s) {is : List ι} (hdom : ∀ i ∈ is, Dom i) :
    Always step P s is ↔ Always step Q s is := by
  induction is generalizing s with
  | nil => exact Iff.rfl
  | cons i is ih =>
      obtain ⟨o, s', heq, hPQ, hInv⟩ := hstep s i hs (hdom i List.mem_cons_self)
      have hrest : Inv s' → (Always step P s' is ↔ Always step Q s' is) :=
        fun hs' => ih hs' fun j hj => hdom j (List.mem_cons_of_mem i hj)
      rw [always_cons_of_eq heq, always_cons_of_eq heq]
      constructor
      · rintro ⟨hP, h⟩
        exact ⟨hPQ.mp hP, (hrest (hInv hP)).mp h⟩
      · rintro ⟨hQ, h⟩
        exact ⟨hPQ.mpr hQ, (hrest (hInv (hPQ.mpr hQ))).mpr h⟩

/-- The same for inputs of any kind. -/
theorem always_iff_always
    (hstep : ∀ s i, Inv s → ∃ o s', step s i = .ok (o, s') ∧
      (P s i o s' ↔ Q s i o s') ∧ (P s i o s' → Inv s'))
    {s : σ} (hs : Inv s) (is : List ι) : Always step P s is ↔ Always step Q s is :=
  always_iff_always_of_dom (fun s i h (_ : True) => hstep s i h) hs fun _ _ => trivial

/-- A run may be strengthened by what every step gives under an invariant. -/
theorem always_and_of_invariant
    (hstep : ∀ s i o s', Inv s → step s i = .ok (o, s') → P s i o s' → Q s i o s' ∧ Inv s')
    {s : σ} (hs : Inv s) {is : List ι} (h : Always step P s is) :
    Always step (fun s i o s' => P s i o s' ∧ Q s i o s') s is := by
  induction is generalizing s with
  | nil => trivial
  | cons i is ih =>
      obtain ⟨o, s', heq, hP, hrest⟩ := h
      obtain ⟨hQ, hs'⟩ := hstep s i o s' hs heq hP
      exact ⟨o, s', heq, ⟨hP, hQ⟩, ih hs' hrest⟩

/-- The invariant rule for a system without faults. -/
theorem always_total {step : σ → ι → ο × σ}
    (hstep : ∀ s i, Inv s → P s i (step s i).1 (step s i).2 ∧ Inv (step s i).2)
    {s : σ} (hs : Inv s) (is : List ι) : Always (total step) P s is :=
  always_of_invariant (fun s i h (_ : True) => ⟨_, _, rfl, hstep s i h⟩) hs fun _ _ => trivial

/-- Two step properties of a system without faults that agree under an
invariant agree on whole runs. -/
theorem always_total_iff_always {step : σ → ι → ο × σ}
    (hstep : ∀ s i, Inv s →
      (P s i (step s i).1 (step s i).2 ↔ Q s i (step s i).1 (step s i).2) ∧
      (P s i (step s i).1 (step s i).2 → Inv (step s i).2))
    {s : σ} (hs : Inv s) (is : List ι) :
    Always (total step) P s is ↔ Always (total step) Q s is :=
  always_iff_always (fun s i h => ⟨_, _, rfl, hstep s i h⟩) hs is

/-- A property of the inputs alone holds along a run when every input has it. -/
theorem always_total_iff_forall {step : σ → ι → ο × σ} {Q : ι → Prop} {s : σ} {is : List ι} :
    Always (total step) (fun _ i _ _ => Q i) s is ↔ ∀ i ∈ is, Q i := by
  induction is generalizing s with
  | nil => simp
  | cons i is ih => rw [always_total_cons, ih, List.forall_mem_cons]

/-- Under an invariant that rules out faults, a run returns and keeps it. -/
theorem run_of_invariant (hstep : ∀ s i, Inv s → ∃ o s', step s i = .ok (o, s') ∧ Inv s')
    {s : σ} (hs : Inv s) (is : List ι) : ∃ os s', run step s is = .ok (os, s') ∧ Inv s' := by
  induction is generalizing s with
  | nil => exact ⟨[], s, rfl, hs⟩
  | cons i is ih =>
      obtain ⟨o, s', heq, hs'⟩ := hstep s i hs
      obtain ⟨os, s'', hrun, hs''⟩ := ih hs'
      refine ⟨o :: os, s'', ?_, hs''⟩
      simp only [run, heq, Outcome.ok_bind, hrun, Outcome.pure_eq_ok]

/-- What every step that returns keeps is the case at the end of a run that
returns. -/
theorem run_invariant (hstep : ∀ s i o s', Inv s → step s i = .ok (o, s') → Inv s')
    {s s' : σ} (hs : Inv s) {is : List ι} {os : List ο} (hrun : run step s is = .ok (os, s')) :
    Inv s' := by
  induction is generalizing s os with
  | nil =>
      obtain rfl := congrArg Prod.snd (Outcome.ok.inj hrun)
      exact hs
  | cons i is ih =>
      obtain ⟨⟨o, s₁⟩, hfirst, hrest⟩ := Outcome.bind_eq_ok hrun
      obtain ⟨⟨os', s₂⟩, hrun', hreturn⟩ := Outcome.bind_eq_ok hrest
      obtain rfl := congrArg Prod.snd (Outcome.ok.inj hreturn)
      exact ih (hstep s i o s₁ hs hfirst) hrun'

/-- A run whose first step is known goes on from there. -/
theorem run_cons_of_eq {s s' : σ} {i : ι} {o : ο} {is : List ι} {os : List ο} {s'' : σ}
    (h : step s i = .ok (o, s')) (hrun : run step s' is = .ok (os, s'')) :
    run step s (i :: is) = .ok (o :: os, s'') := by
  simp only [run, h, Outcome.ok_bind, hrun, Outcome.pure_eq_ok]

/-- A state that no step changes answers each input on its own. -/
theorem run_of_fixed {s : σ} {f : ι → ο} (h : ∀ i, step s i = .ok (f i, s)) (is : List ι) :
    run step s is = .ok (is.map f, s) := by
  induction is with
  | nil => rfl
  | cons i is ih => exact run_cons_of_eq (h i) ih

/-- The history rule: what a step keeps true of the state and the inputs so
far is true at the end of a run, whose replies are those of the steps. -/
theorem run_of_history {R : List ι → σ → Prop} {f : ι → ο}
    (hstep : ∀ done s i, R done s → ∃ s', step s i = .ok (f i, s') ∧ R (done ++ [i]) s')
    {s : σ} {done : List ι} (hs : R done s) (is : List ι) :
    ∃ s', run step s is = .ok (is.map f, s') ∧ R (done ++ is) s' := by
  induction is generalizing s done with
  | nil => exact ⟨s, rfl, by rwa [List.append_nil]⟩
  | cons i is ih =>
      obtain ⟨s', heq, hs'⟩ := hstep done s i hs
      obtain ⟨s'', hrun, hs''⟩ := ih hs'
      refine ⟨s'', ?_, by rwa [List.append_assoc] at hs''⟩
      simp only [run, heq, Outcome.ok_bind, hrun, Outcome.pure_eq_ok, List.map_cons]

/-- What every step of a system without faults keeps is the case at the end of
a run. -/
theorem mealy_invariant {step : τ → ι → ο × τ} {Inv : τ → Prop}
    (hstep : ∀ t i, Inv t → Inv (step t i).2) {t : τ} (ht : Inv t) (is : List ι) :
    Inv (mealy step t is).2 := by
  induction is generalizing t with
  | nil => exact ht
  | cons i is ih => exact ih (hstep t i ht)

/-- The history rule for a system without faults: what a step keeps true of the
state and the inputs so far is true at the end of a run. -/
theorem mealy_history {step : τ → ι → ο × τ} {R : List ι → τ → Prop}
    (hstep : ∀ done t i, R done t → R (done ++ [i]) (step t i).2) {t : τ} {done : List ι}
    (ht : R done t) (is : List ι) : R (done ++ is) (mealy step t is).2 := by
  induction is generalizing t done with
  | nil => rwa [List.append_nil]
  | cons i is ih =>
      have hrest := ih (hstep done t i ht)
      rwa [List.append_assoc] at hrest

/-- The simulation rule for two systems without faults: steps on related states
reply alike, up to how the two write inputs and replies, and lead to related
states. -/
theorem mealy_represents {κ υ ρ : Type} {step : τ → ι → ο × τ} {astep : υ → κ → ρ × υ}
    {view : ι → κ} {reply : ρ → ο} {R : τ → υ → Prop}
    (hstep : ∀ t u i, R t u → Dom i →
      (step t i).1 = reply (astep u (view i)).1 ∧ R (step t i).2 (astep u (view i)).2)
    {t : τ} {u : υ} (hR : R t u) {is : List ι} (hdom : ∀ i ∈ is, Dom i) :
    (mealy step t is).1 = (mealy astep u (is.map view)).1.map reply ∧
      R (mealy step t is).2 (mealy astep u (is.map view)).2 := by
  induction is generalizing t u with
  | nil => exact ⟨rfl, hR⟩
  | cons i is ih =>
      obtain ⟨hfirst, hrest⟩ := List.forall_mem_cons.mp hdom
      obtain ⟨hreply, hnext⟩ := hstep t u i hR hfirst
      obtain ⟨hreplies, hend⟩ := ih hnext hrest
      exact ⟨congrArg₂ List.cons hreply hreplies, hend⟩

/-- With the same replies on both sides. -/
theorem mealy_simulates {κ υ : Type} {step : τ → ι → ο × τ} {astep : υ → κ → ο × υ} {view : ι → κ}
    {R : τ → υ → Prop}
    (hstep : ∀ t u i, R t u → Dom i →
      (step t i).1 = (astep u (view i)).1 ∧ R (step t i).2 (astep u (view i)).2)
    {t : τ} {u : υ} (hR : R t u) {is : List ι} (hdom : ∀ i ∈ is, Dom i) :
    (mealy step t is).1 = (mealy astep u (is.map view)).1 ∧
      R (mealy step t is).2 (mealy astep u (is.map view)).2 := by
  have hsame (t : τ) (u : υ) (i : ι) (hR : R t u) (hi : Dom i) :
      (step t i).1 = id (astep u (view i)).1 ∧ R (step t i).2 (astep u (view i)).2 :=
    hstep t u i hR hi
  have hrun := mealy_represents hsame hR hdom
  rwa [List.map_id] at hrun

/-- And the same inputs. -/
theorem mealy_refines {υ : Type} {step : τ → ι → ο × τ} {astep : υ → ι → ο × υ} {R : τ → υ → Prop}
    (hstep : ∀ t u i, R t u → (step t i).1 = (astep u i).1 ∧ R (step t i).2 (astep u i).2)
    {t : τ} {u : υ} (hR : R t u) (is : List ι) :
    (mealy step t is).1 = (mealy astep u is).1 ∧ R (mealy step t is).2 (mealy astep u is).2 := by
  have hrun := mealy_simulates (fun t u i hR (_ : True) => hstep t u i hR) hR
    (fun i (_ : i ∈ is) => trivial)
  rwa [List.map_id'] at hrun

/-- The replies of a system whose replies depend on the input alone. -/
theorem run_total_of_reply {step : σ → ι → ο × σ} {f : ι → ο} (h : ∀ s i, (step s i).1 = f i)
    (s : σ) (is : List ι) : ∃ s', run (total step) s is = .ok (is.map f, s') := by
  induction is generalizing s with
  | nil => exact ⟨s, rfl⟩
  | cons i is ih =>
      obtain ⟨s', hrun⟩ := ih (step s i).2
      refine ⟨s', ?_⟩
      simp only [run, total, Outcome.ok_bind, hrun, Outcome.pure_eq_ok, List.map_cons, h]

/-- The simulation rule: if each step that satisfies `P` matches the abstract
step under `R`, a run whose steps all satisfy `P` gives the abstract replies
and ends in a related state. -/
theorem run_of_always_simulates {astep : τ → ι → ο × τ} {R : σ → τ → Prop}
    (hstep : ∀ s t i o s', R s t → step s i = .ok (o, s') → P s i o s' →
      o = (astep t i).1 ∧ R s' (astep t i).2)
    {s : σ} {t : τ} (hR : R s t) {is : List ι} (h : Always step P s is) :
    ∃ s', run step s is = .ok ((mealy astep t is).1, s') ∧ R s' (mealy astep t is).2 := by
  induction is generalizing s t with
  | nil => exact ⟨s, rfl, hR⟩
  | cons i is ih =>
      obtain ⟨o, s', heq, hP, hrest⟩ := h
      obtain ⟨ho, hR'⟩ := hstep s t i o s' hR heq hP
      obtain ⟨s'', hrun, hR''⟩ := ih hR' hrest
      refine ⟨s'', ?_, hR''⟩
      simp only [run, heq, Outcome.ok_bind, hrun, Outcome.pure_eq_ok, mealy, ← ho]

end Rules

/-! ## what flows through -/

section Flow

variable {α β : Type} {step : σ → ι → Outcome (ο × σ)}

theorem filterMap_cons_eq (f : α → Option β) (a : α) (as : List α) :
    (a :: as).filterMap f = (f a).toList ++ as.filterMap f := by
  cases h : f a <;> simp [h]

/-- The queue rule: if each step hands out and keeps an ordered selection of
what it held and took in, then so does a run. -/
theorem run_sublist {R : σ → List α → Prop} {taken : ι → Option α} {given : ο → Option α}
    (hstep : ∀ s held i, R s held → ∃ o s' held', step s i = .ok (o, s') ∧ R s' held' ∧
      ((given o).toList ++ held').Sublist (held ++ (taken i).toList))
    {s : σ} {held : List α} (hs : R s held) (is : List ι) :
    ∃ os s' held', run step s is = .ok (os, s') ∧ R s' held' ∧
      (os.filterMap given ++ held').Sublist (held ++ is.filterMap taken) := by
  induction is generalizing s held with
  | nil => exact ⟨[], s, held, rfl, hs, by simp⟩
  | cons i is ih =>
      obtain ⟨o, s', held', heq, hs', hfirst⟩ := hstep s held i hs
      obtain ⟨os, s'', held'', hrun, hs'', hrest⟩ := ih hs'
      refine ⟨o :: os, s'', held'', run_cons_of_eq heq hrun, hs'', ?_⟩
      rw [filterMap_cons_eq, filterMap_cons_eq, List.append_assoc]
      calc ((given o).toList ++ (os.filterMap given ++ held'')).Sublist
            ((given o).toList ++ (held' ++ is.filterMap taken)) := hrest.append_left _
        List.Sublist _ (held ++ ((taken i).toList ++ is.filterMap taken)) := by
          rw [← List.append_assoc, ← List.append_assoc held]
          exact hfirst.append_right _

/-- The run of a system without faults. -/
theorem run_total (step : σ → ι → ο × σ) (s : σ) (is : List ι) :
    run (total step) s is = .ok (mealy step s is) := by
  induction is generalizing s with
  | nil => rfl
  | cons i is ih => simp only [run, total, Outcome.ok_bind, ih, Outcome.pure_eq_ok, mealy]

end Flow

/-! ## leaving out inputs -/

section Purge

variable {step : τ → ι → ο × τ} {keep : ο → Bool}

theorem mealy_cons (t : τ) (i : ι) (is : List ι) :
    mealy step t (i :: is) =
      ((step t i).1 :: (mealy step (step t i).2 is).1, (mealy step (step t i).2 is).2) :=
  rfl

/-- The inputs of a run whose replies are kept. -/
def purge (step : τ → ι → ο × τ) (keep : ο → Bool) : τ → List ι → List ι
  | _, [] => []
  | t, i :: is =>
      if keep (step t i).1 then i :: purge step keep (step t i).2 is
      else purge step keep (step t i).2 is

theorem purge_cons_of_keep {t : τ} {i : ι} (h : keep (step t i).1 = true) (is : List ι) :
    purge step keep t (i :: is) = i :: purge step keep (step t i).2 is :=
  if_pos h

theorem purge_cons_of_drop {t : τ} {i : ι} (h : keep (step t i).1 = false) (is : List ι) :
    purge step keep t (i :: is) = purge step keep (step t i).2 is :=
  if_neg (Bool.eq_false_iff.mp h)

/-- The purge rule: if a step whose reply is dropped cannot be seen through
`R`, and one whose reply is kept replies and goes on alike from related
states, then leaving out the inputs of the dropped replies changes no other
reply and leads to a related state. -/
theorem mealy_purge {R : τ → τ → Prop} {P : τ → ι → Prop}
    (hdrop : ∀ s t i, R s t → keep (step s i).1 = false → R (step s i).2 t)
    (hkeep : ∀ s t i, R s t → P s i → keep (step s i).1 = true →
      (step t i).1 = (step s i).1 ∧ R (step s i).2 (step t i).2)
    {s t : τ} (hR : R s t) {is : List ι} (h : Always (total step) (fun s i _ _ => P s i) s is) :
    (mealy step t (purge step keep s is)).1 = (mealy step s is).1.filter keep ∧
      R (mealy step s is).2 (mealy step t (purge step keep s is)).2 := by
  induction is generalizing s t with
  | nil => exact ⟨rfl, hR⟩
  | cons i is ih =>
      rw [always_total_cons] at h
      cases hreply : keep (step s i).1 with
      | false =>
          obtain ⟨hreplies, hend⟩ := ih (hdrop s t i hR hreply) h.2
          rw [purge_cons_of_drop hreply]
          rw [mealy_cons, List.filter_cons_of_neg (Bool.eq_false_iff.mp hreply)]
          exact ⟨hreplies, hend⟩
      | true =>
          obtain ⟨hsame, hnext⟩ := hkeep s t i hR h.1 hreply
          obtain ⟨hreplies, hend⟩ := ih hnext h.2
          rw [purge_cons_of_keep hreply, mealy_cons, mealy_cons, List.filter_cons_of_pos hreply,
            hsame, hreplies]
          exact ⟨rfl, hend⟩

/-- The frame rule: a view of the state that only the inputs in `keep` change,
and change by what they see of it, does not depend on the other inputs. -/
theorem mealy_filter {α : Type} (view : τ → α) {keep : ι → Bool}
    (hframe : ∀ t i, keep i = false → view (step t i).2 = view t)
    (hlocal : ∀ s t i, keep i = true → view s = view t → view (step s i).2 = view (step t i).2)
    {s t : τ} (hview : view s = view t) (is : List ι) :
    view (mealy step s is).2 = view (mealy step t (is.filter keep)).2 := by
  induction is generalizing s t with
  | nil => exact hview
  | cons i is ih =>
      cases hkeep : keep i with
      | false =>
          rw [List.filter_cons_of_neg (Bool.eq_false_iff.mp hkeep)]
          exact ih ((hframe s i hkeep).trans hview)
      | true =>
          rw [List.filter_cons_of_pos hkeep]
          exact ih (hlocal s t i hkeep hview)

/-- The replies of a run to the inputs in `keep`. -/
def repliesTo (keep : ι → Bool) : List ι → List ο → List ο
  | i :: is, o :: os => if keep i then o :: repliesTo keep is os else repliesTo keep is os
  | _, _ => []

/-- The independence rule: if the inputs outside of `keep` cannot be seen
through `R`, and those in `keep` are replied to alike from related states, then
leaving out the others changes no reply that is left. -/
theorem mealy_independent {R : τ → τ → Prop} {keep : ι → Bool}
    (hdrop : ∀ s t i, R s t → keep i = false → R (step s i).2 t)
    (hkeep : ∀ s t i, R s t → keep i = true →
      (step s i).1 = (step t i).1 ∧ R (step s i).2 (step t i).2)
    {s t : τ} (hR : R s t) (is : List ι) :
    repliesTo keep is (mealy step s is).1 = (mealy step t (is.filter keep)).1 ∧
      R (mealy step s is).2 (mealy step t (is.filter keep)).2 := by
  induction is generalizing s t with
  | nil => exact ⟨rfl, hR⟩
  | cons i is ih =>
      cases hi : keep i with
      | false =>
          obtain ⟨hreplies, hend⟩ := ih (hdrop s t i hR hi)
          rw [List.filter_cons_of_neg (Bool.eq_false_iff.mp hi), mealy_cons, repliesTo,
            if_neg (Bool.eq_false_iff.mp hi)]
          exact ⟨hreplies, hend⟩
      | true =>
          obtain ⟨hsame, hnext⟩ := hkeep s t i hR hi
          obtain ⟨hreplies, hend⟩ := ih hnext
          rw [List.filter_cons_of_pos hi, mealy_cons, mealy_cons, repliesTo, if_pos hi, hsame,
            hreplies]
          exact ⟨rfl, hend⟩

end Purge

/-! ## inputs and replies side by side -/

section Beside

variable {α β : Type} {R : α → β → Prop} {as : List α} {bs : List β}

/-- A property of all elements, read off related elements. -/
theorem forall_mem_iff_of_forall₂ {P : α → Prop} {Q : β → Prop} (h : List.Forall₂ R as bs)
    (hPQ : ∀ a b, R a b → (P a ↔ Q b)) : (∀ a ∈ as, P a) ↔ ∀ b ∈ bs, Q b := by
  induction h with
  | nil => simp
  | cons hab _ ih => rw [List.forall_mem_cons, List.forall_mem_cons, hPQ _ _ hab, ih]

/-- A relation to the elements beside, read off the elements. -/
theorem forall₂_iff_forall_mem {S : α → β → Prop} {Q : α → Prop} (h : List.Forall₂ R as bs)
    (hSQ : ∀ a ∈ as, ∀ b, R a b → (S a b ↔ Q a)) : List.Forall₂ S as bs ↔ ∀ a ∈ as, Q a := by
  induction h with
  | nil => simp
  | cons hab _ ih =>
      obtain ⟨hfirst, hrest⟩ := List.forall_mem_cons.mp hSQ
      rw [List.forall₂_cons, List.forall_mem_cons, hfirst _ hab, ih hrest]

/-- A relation to the elements beside that follows for members. -/
theorem forall₂_imp_of_mem {S : α → β → Prop} (h : List.Forall₂ R as bs)
    (hRS : ∀ a, ∀ b ∈ bs, R a b → S a b) : List.Forall₂ S as bs := by
  induction h with
  | nil => exact .nil
  | cons hab _ ih =>
      refine .cons (hRS _ _ List.mem_cons_self hab) (ih fun a b hb => ?_)
      exact hRS a b (List.mem_cons_of_mem _ hb)

/-- Relations to the elements beside compose. -/
theorem forall₂_comp {γ : Type} {S : β → γ → Prop} {T : α → γ → Prop} {cs : List γ}
    (h : List.Forall₂ R as bs) (h' : List.Forall₂ S bs cs) (hT : ∀ a b c, R a b → S b c → T a c) :
    List.Forall₂ T as cs := by
  induction h generalizing cs with
  | nil =>
      cases h'
      exact .nil
  | cons hab _ ih =>
      cases h' with
      | cons hbc hrest => exact .cons (hT _ _ _ hab hbc) (ih hrest)

/-- A property of all pairs of elements, read off related elements. -/
theorem pairwise_iff_of_forall₂ {P : α → α → Prop} {Q : β → β → Prop} (h : List.Forall₂ R as bs)
    (hPQ : ∀ a b a' b', R a b → R a' b' → (P a a' ↔ Q b b')) : as.Pairwise P ↔ bs.Pairwise Q := by
  induction h with
  | nil => simp
  | cons hab hrest ih =>
      rw [List.pairwise_cons, List.pairwise_cons, ih]
      exact and_congr_left' (forall_mem_iff_of_forall₂ hrest fun a' b' => hPQ _ _ a' b' hab)

end Beside

end Lib
