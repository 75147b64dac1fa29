import AutoMlos.IpcPubsub
import AutoMlos.Lib.Run

/-!
# AutoMlos.IpcPubsub.Routing

The handles of publishers and subscribers against the kernel's routing table.

A table is a list of rows: registering a topic and subscribing to it each add
a row, and unregistering a topic removes every row that names it.  Destroying
a subscriber unregisters its topic, so it takes the rows of all other handles
of that topic with it.  Every live handle stays routed exactly along the runs
that destroy a subscriber only when no other handle of its topic is alive
(`handles_stay_routed_iff`).
-/

namespace AutoMlos

open Lib

/-! ## the routing table -/

/-- A row: a registered topic, or the subscription of one subscriber. -/
inductive RoutingRow where
  | registration (topic : CString)
  | subscription (topic : CString) (subscriber : Nat)
  deriving DecidableEq, Repr

/-- The topic a row names. -/
def RoutingRow.topic : RoutingRow → CString
  | .registration topic => topic
  | .subscription topic _ => topic

/-- The kernel's table. -/
structure RoutingTable where
  rows : List RoutingRow
  deriving DecidableEq, Repr

namespace RoutingTable

/-- `sys_ipc_register_topic`, where the wrapper lets it through. -/
def register (table : RoutingTable) (topic : CString) : RoutingTable :=
  if (sysIpcRegisterTopic (some topic)).errorCode = errBaseOk then
    { rows := table.rows ++ [.registration topic] }
  else table

/-- `sys_ipc_subscribe`. -/
def subscribe (table : RoutingTable) (topic : CString) (subscriber : Nat) : RoutingTable :=
  if (sysIpcSubscribe (some topic)).errorCode = errBaseOk then
    { rows := table.rows ++ [.subscription topic subscriber] }
  else table

/-- `sys_ipc_unregister_topic`. -/
def unregister (table : RoutingTable) (topic : CString) : RoutingTable :=
  if (sysIpcUnregisterTopic (some topic)).errorCode = errBaseOk then
    { rows := table.rows.filter fun row => row.topic ≠ topic }
  else table

/-- The topic is in the table. -/
def Present (table : RoutingTable) (topic : CString) : Prop :=
  ∃ row ∈ table.rows, row.topic = topic

/-- The subscriber is subscribed to the topic. -/
def Subscribed (table : RoutingTable) (topic : CString) (subscriber : Nat) : Prop :=
  .subscription topic subscriber ∈ table.rows

variable {table : RoutingTable} {topic topic' : CString} {subscriber : Nat}

theorem mem_rows_register {row : RoutingRow} (h : row ∈ table.rows) :
    row ∈ (table.register topic).rows := by
  unfold register
  split
  · exact List.mem_append_left _ h
  · exact h

/-- A topic stays in a table that only grows. -/
theorem Present.mono {table' : RoutingTable} (h : table.Present topic)
    (hrows : ∀ row ∈ table.rows, row ∈ table'.rows) : table'.Present topic := by
  obtain ⟨row, hrow, heq⟩ := h
  exact ⟨row, hrows row hrow, heq⟩

theorem rows_subscribe (table : RoutingTable) (topic : CString) (subscriber : Nat) :
    (table.subscribe topic subscriber).rows = table.rows ++ [.subscription topic subscriber] :=
  rfl

theorem mem_rows_subscribe {row : RoutingRow} (h : row ∈ table.rows) :
    row ∈ (table.subscribe topic subscriber).rows := by
  rw [rows_subscribe]
  exact List.mem_append_left _ h

theorem subscribed_subscribe (table : RoutingTable) (topic : CString) (subscriber : Nat) :
    (table.subscribe topic subscriber).Subscribed topic subscriber := by
  rw [Subscribed, rows_subscribe]
  exact List.mem_append_right _ (List.mem_singleton_self _)

/-- Unregistering a topic keeps the rows of the others. -/
theorem mem_rows_unregister {row : RoutingRow} :
    row ∈ (table.unregister topic).rows ↔ row ∈ table.rows ∧ row.topic ≠ topic := by
  have hrows : (table.unregister topic).rows = table.rows.filter fun row => row.topic ≠ topic := rfl
  rw [hrows, List.mem_filter, decide_eq_true_iff]

theorem Subscribed.present (h : table.Subscribed topic subscriber) : table.Present topic :=
  ⟨_, h, rfl⟩

end RoutingTable

/-! ## live handles -/

/-- The table with the handles that are alive, each under its number in the
order of creation. -/
structure Pubsub (γ υ : Type) where
  table : RoutingTable
  publishers : List (Nat × IpcPublisher)
  subscribers : List (Nat × IpcSubscriber γ υ)
  created : Nat

/-- A call; a `NULL` handle is `none`. -/
inductive PubsubCall (γ υ : Type) where
  | createPublisher (topic : Option CString) (allocated : Bool)
  | createSubscriber (topic : Option CString) (callback : Option γ) (userData : υ)
      (allocated : Bool)
  | destroyPublisher (handle : Option Nat)
  | destroySubscriber (handle : Option Nat)

namespace Pubsub

variable {γ υ : Type}

/-- No handles, and nothing in the table. -/
def start : Pubsub γ υ := { table := ⟨[]⟩, publishers := [], subscribers := [], created := 0 }

/-- The object a handle designates; it must be alive. -/
def designated {α : Type} (live : List (Nat × α)) : Option Nat → Outcome (Option α)
  | none => .ok none
  | some handle =>
      match live.lookup handle with
      | none => .undefined
      | some object => .ok (some object)

/-- The handles that are left when one is freed. -/
def freed {α : Type} (live : List (Nat × α)) (handle : Option Nat) : List (Nat × α) :=
  live.filter fun p => some p.1 ≠ handle

/-- One call, with the handle it returns.  A create function returns a handle
exactly when its system call has succeeded. -/
def step (s : Pubsub γ υ) : PubsubCall γ υ → Outcome (Option Nat × Pubsub γ υ)
  | .createPublisher topic allocated =>
      match topic, ipcCreatePublisher topic allocated with
      | some topic, some publisher =>
          return (some s.created,
            { s with
              table := s.table.register topic
              publishers := s.publishers ++ [(s.created, publisher)]
              created := s.created + 1 })
      | _, _ => return (none, s)
  | .createSubscriber topic callback userData allocated =>
      match topic, ipcCreateSubscriber topic callback userData allocated with
      | some topic, some subscriber =>
          return (some s.created,
            { s with
              table := s.table.subscribe topic s.created
              subscribers := s.subscribers ++ [(s.created, subscriber)]
              created := s.created + 1 })
      | _, _ => return (none, s)
  | .destroyPublisher handle => do
      let publisher ← designated s.publishers handle
      return (none,
        { s with
          table := (ipcDestroyPublisher publisher).foldl .unregister s.table
          publishers := freed s.publishers handle })
  | .destroySubscriber handle => do
      let subscriber ← designated s.subscribers handle
      return (none,
        { s with
          table := (ipcDestroySubscriber subscriber).foldl .unregister s.table
          subscribers := freed s.subscribers handle })

/-- A handle for the topic is alive. -/
def LiveTopic (s : Pubsub γ υ) (topic : CString) : Prop :=
  (∃ p ∈ s.publishers, p.2.topic = topic) ∨ ∃ p ∈ s.subscribers, p.2.topic = topic

/-- The topic of every live handle is in the table, and every live subscriber
is subscribed. -/
structure Routed (s : Pubsub γ υ) : Prop where
  present : ∀ topic, s.LiveTopic topic → s.table.Present topic
  subscribed : ∀ p ∈ s.subscribers, s.table.Subscribed p.2.topic p.1

/-- A subscriber that is destroyed is the last live handle of its topic. -/
def DestroysLast (s : Pubsub γ υ) (call : PubsubCall γ υ) : Prop :=
  match call with
  | .destroySubscriber handle =>
      ∀ subscriber, designated s.subscribers handle = .ok (some subscriber) →
        (∀ p ∈ s.publishers, p.2.topic ≠ subscriber.topic) ∧
          ∀ p ∈ s.subscribers, some p.1 ≠ handle → p.2.topic ≠ subscriber.topic
  | _ => True

/-! ## one call -/

theorem mem_freed {α : Type} {live : List (Nat × α)} {handle : Option Nat} {p : Nat × α} :
    p ∈ freed live handle ↔ p ∈ live ∧ some p.1 ≠ handle := by
  rw [freed, List.mem_filter, decide_eq_true_iff]

theorem freed_none {α : Type} (live : List (Nat × α)) : freed live none = live :=
  List.filter_eq_self.mpr fun _ _ => rfl

theorem eq_none_of_designated {α : Type} {live : List (Nat × α)} {handle : Option Nat}
    (h : designated live handle = .ok none) : handle = none := by
  cases handle with
  | none => rfl
  | some handle =>
      simp only [designated] at h
      split at h <;> cases h

theorem routed_start : (start : Pubsub γ υ).Routed := by
  refine ⟨?_, fun p hp => absurd hp List.not_mem_nil⟩
  rintro topic (⟨p, hp, -⟩ | ⟨p, hp, -⟩) <;> exact absurd hp List.not_mem_nil

variable {s : Pubsub γ υ}

/-- A new publisher is routed. -/
theorem Routed.createPublisher (h : s.Routed) {topic : CString} {publisher : IpcPublisher}
    (hcreated : ipcCreatePublisher (some topic) allocated = some publisher) :
    Routed
      { s with
        table := s.table.register topic
        publishers := s.publishers ++ [(s.created, publisher)]
        created := s.created + 1 } := by
  obtain ⟨topic', heq, rfl, hregister⟩ := ipcCreatePublisher_eq_some hcreated
  cases heq
  refine ⟨?_, fun p hp => RoutingTable.mem_rows_register (h.subscribed p hp)⟩
  have hold (t : CString) (ht : s.LiveTopic t) : (s.table.register topic).Present t :=
    (h.present t ht).mono fun _ => RoutingTable.mem_rows_register
  rintro t (⟨p, hp, rfl⟩ | hsubscriber)
  · rcases List.mem_append.mp hp with hp | hp
    · exact hold _ (Or.inl ⟨p, hp, rfl⟩)
    · rw [List.mem_singleton.mp hp]
      refine ⟨.registration topic, ?_, rfl⟩
      rw [RoutingTable.register, if_pos hregister]
      exact List.mem_append_right _ (List.mem_singleton_self _)
  · exact hold t (Or.inr hsubscriber)

/-- A new subscriber is routed. -/
theorem Routed.createSubscriber (h : s.Routed) {topic : CString} {callback : Option γ}
    {userData : υ} {subscriber : IpcSubscriber γ υ}
    (hcreated :
      ipcCreateSubscriber (some topic) callback userData allocated = some subscriber) :
    Routed
      { s with
        table := s.table.subscribe topic s.created
        subscribers := s.subscribers ++ [(s.created, subscriber)]
        created := s.created + 1 } := by
  obtain ⟨topic', callback', heq, -, rfl⟩ := ipcCreateSubscriber_eq_some hcreated
  cases heq
  have hnew := s.table.subscribed_subscribe topic s.created
  have hold (t : CString) (ht : s.LiveTopic t) :
      (s.table.subscribe topic s.created).Present t :=
    (h.present t ht).mono fun _ => RoutingTable.mem_rows_subscribe
  constructor
  · rintro t (hpublisher | ⟨p, hp, rfl⟩)
    · exact hold t (Or.inl hpublisher)
    · rcases List.mem_append.mp hp with hp | hp
      · exact hold _ (Or.inr ⟨p, hp, rfl⟩)
      · rw [List.mem_singleton.mp hp]
        exact hnew.present
  · intro p hp
    rcases List.mem_append.mp hp with hp | hp
    · exact RoutingTable.mem_rows_subscribe (h.subscribed p hp)
    · rw [List.mem_singleton.mp hp]
      exact hnew

/-- Destroying a publisher leaves the table alone. -/
theorem Routed.destroyPublisher (h : s.Routed) (handle : Option Nat) :
    Routed { s with publishers := freed s.publishers handle } := by
  refine ⟨?_, h.subscribed⟩
  rintro t (⟨p, hp, rfl⟩ | hsubscriber)
  · exact h.present _ (Or.inl ⟨p, (mem_freed.mp hp).1, rfl⟩)
  · exact h.present t (Or.inr hsubscriber)

/-- Destroying a subscriber keeps the others routed exactly when no other live
handle has its topic. -/
theorem Routed.destroySubscriber_iff (h : s.Routed) (handle : Option Nat)
    (subscriber : IpcSubscriber γ υ) :
    Routed
        { s with
          table := s.table.unregister subscriber.topic
          subscribers := freed s.subscribers handle } ↔
      (∀ p ∈ s.publishers, p.2.topic ≠ subscriber.topic) ∧
        ∀ p ∈ s.subscribers, some p.1 ≠ handle → p.2.topic ≠ subscriber.topic := by
  have hgone : ¬ (s.table.unregister subscriber.topic).Present subscriber.topic := by
    rintro ⟨row, hrow, heq⟩
    exact (RoutingTable.mem_rows_unregister.mp hrow).2 heq
  constructor
  · intro h'
    constructor
    · intro p hp heq
      exact hgone (h'.present _ (Or.inl ⟨p, hp, heq⟩))
    · intro p hp hne heq
      exact hgone (h'.present _ (Or.inr ⟨p, mem_freed.mpr ⟨hp, hne⟩, heq⟩))
  · rintro ⟨hpublishers, hsubscribers⟩
    -- the rows of every other topic are kept
    have hkept (t : CString) (ht : s.LiveTopic t) (hne : t ≠ subscriber.topic) :
        (s.table.unregister subscriber.topic).Present t := by
      obtain ⟨row, hrow, rfl⟩ := h.present t ht
      exact ⟨row, RoutingTable.mem_rows_unregister.mpr ⟨hrow, hne⟩, rfl⟩
    constructor
    · rintro t (⟨p, hp, rfl⟩ | ⟨p, hp, rfl⟩)
      · exact hkept _ (Or.inl ⟨p, hp, rfl⟩) (hpublishers p hp)
      · obtain ⟨hp, hne⟩ := mem_freed.mp hp
        exact hkept _ (Or.inr ⟨p, hp, rfl⟩) (hsubscribers p hp hne)
    · intro p hp
      obtain ⟨hp, hne⟩ := mem_freed.mp hp
      exact RoutingTable.mem_rows_unregister.mpr ⟨h.subscribed p hp, hsubscribers p hp hne⟩

/-- The same for the call; destroying `NULL` changes nothing. -/
theorem Routed.step_destroySubscriber_iff (h : s.Routed) {handle reply : Option Nat}
    {s' : Pubsub γ υ} (hstep : s.step (.destroySubscriber handle) = .ok (reply, s')) :
    s'.Routed ↔ s.DestroysLast (.destroySubscriber handle) := by
  obtain ⟨subscriber, hdesignated, heq⟩ := Outcome.bind_eq_ok hstep
  cases heq
  cases subscriber with
  | none =>
      cases eq_none_of_designated hdesignated
      refine iff_of_true ?_ fun subscriber hsome => ?_
      · rw [freed_none]
        exact h
      · rw [hdesignated] at hsome
        cases hsome
  | some subscriber =>
      refine (h.destroySubscriber_iff handle subscriber).trans ⟨?_, ?_⟩
      · intro halone subscriber' hdesignated'
        rw [hdesignated] at hdesignated'
        cases hdesignated'
        exact halone
      · exact fun halone => halone subscriber hdesignated

/-- **One call** keeps the handles routed exactly when it does not destroy a
subscriber that shares its topic with another live handle. -/
theorem Routed.step_iff (h : s.Routed) {call : PubsubCall γ υ} {reply : Option Nat}
    {s' : Pubsub γ υ} (hstep : s.step call = .ok (reply, s')) :
    s'.Routed ↔ s.DestroysLast call := by
  cases call with
  | createPublisher topic allocated =>
      refine iff_of_true ?_ trivial
      simp only [step] at hstep
      split at hstep
      · next topic publisher hcreated =>
        cases hstep
        exact h.createPublisher hcreated
      · cases hstep
        exact h
  | createSubscriber topic callback userData allocated =>
      refine iff_of_true ?_ trivial
      simp only [step] at hstep
      split at hstep
      · next topic subscriber hcreated =>
        cases hstep
        exact h.createSubscriber hcreated
      · cases hstep
        exact h
  | destroyPublisher handle =>
      refine iff_of_true ?_ trivial
      obtain ⟨publisher, -, heq⟩ := Outcome.bind_eq_ok hstep
      cases heq
      exact h.destroyPublisher handle
  | destroySubscriber handle => exact h.step_destroySubscriber_iff hstep

/-! ## whole runs -/

theorem along_routed_iff (h : s.Routed) (calls : List (PubsubCall γ υ)) :
    Along step (fun _ _ _ s' => s'.Routed) s calls ↔
      Along step (fun s call _ _ => s.DestroysLast call) s calls := by
  have hstep (s : Pubsub γ υ) (call : PubsubCall γ υ) (reply : Option Nat) (s' : Pubsub γ υ)
      (hs : s.Routed) (heq : s.step call = .ok (reply, s')) :
      (s'.Routed ↔ s.DestroysLast call) ∧ (s'.Routed → s'.Routed) :=
    ⟨hs.step_iff heq, fun hs' => hs'⟩
  exact along_iff_along hstep h calls

end Pubsub

/-- **Live handles stay routed** along a run exactly when every subscriber that
it destroys is the last live handle of its topic. -/
theorem handles_stay_routed_iff {γ υ : Type} (calls : List (PubsubCall γ υ)) :
    Along Pubsub.step (fun _ _ _ s' => s'.Routed) .start calls ↔
      Along Pubsub.step (fun s call _ _ => s.DestroysLast call) .start calls :=
  Pubsub.along_routed_iff Pubsub.routed_start calls

/-- A subscriber of `"system/logging/info"`. -/
def loggingSubscriber : IpcSubscriber Unit Unit :=
  { topic := .ofAscii "system/logging/info"
    callback := ()
    userData := ()
    messageCount := 0
    errorCount := 0 }

/-- Of two such subscribers the first is destroyed: the second is alive, and no
longer subscribed. -/
theorem handles_not_always_stay_routed :
    ¬ ∀ calls : List (PubsubCall Unit Unit),
      Along Pubsub.step (fun _ _ _ s' => s'.Routed) .start calls := by
  intro h
  let topic := loggingSubscriber.topic
  obtain ⟨-, hsecond⟩ := h
    [.createSubscriber (some topic) (some ()) () true,
      .createSubscriber (some topic) (some ()) () true, .destroySubscriber (some 0)]
    (some 0) ⟨⟨[.subscription topic 0]⟩, [], [(0, loggingSubscriber)], 1⟩ rfl
  obtain ⟨-, hdestroy⟩ := hsecond (some 1)
    ⟨⟨[.subscription topic 0, .subscription topic 1]⟩, [],
      [(0, loggingSubscriber), (1, loggingSubscriber)], 2⟩ rfl
  obtain ⟨hrouted, -⟩ := hdestroy none ⟨⟨[]⟩, [], [(1, loggingSubscriber)], 2⟩ rfl
  exact absurd (hrouted.subscribed _ (List.mem_singleton_self _)) List.not_mem_nil

end AutoMlos
