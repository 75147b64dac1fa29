import AutoMlos.KernelIpc
import Mathlib.Algebra.Ring.Nat

/-!
# AutoMlos.KernelIpc.Routing

`ipc_route_message_zero_copy` over the arrays of `g_ipc`, loop by loop.

`AutoMlos.KernelIpc` keeps the topics in use and their subscribers as lists.
Here both are arrays with a count, so that the entries and slots beyond the
counts are there too.  Leaving those out gives the lists back
(`toKernelIpc_ipcRouteMessageZeroCopy`).
-/

namespace AutoMlos

open Lib

/-- `struct ipc_topic_route`, with its array of subscribers. -/
structure IpcTopicEntry where
  name : CString
  subscriberPids : List UInt16
  subscriberCount : UInt8
  priority : UInt8
  messageCount : UInt32
  zeroCopyCount : UInt32
  name_lt : name.length < 64
  pids_length : subscriberPids.length = ipcMaxSubscribersPerTopic
  count_le : subscriberCount.toNat ≤ ipcMaxSubscribersPerTopic
  deriving Repr

/-- `g_ipc`, with its array of topics. -/
@[ext]
structure KernelIpcArrays where
  topics : List IpcTopicEntry
  topicCount : UInt32
  sharedBuffer : IpcSharedBuffer
  initialized : Bool
  topics_length : topics.length = ipcMaxTopics
  count_le : topicCount.toNat ≤ ipcMaxTopics
  deriving Repr

/-- A call that routing makes. -/
inductive IpcRoutingCall where
  | incrementRefCount (bufferId : UInt32)
  | deliverMessageDescriptor (delivery : IpcDelivery)
  deriving DecidableEq, Repr

/-- The delivery a call makes. -/
def IpcRoutingCall.delivery? : IpcRoutingCall → Option IpcDelivery
  | .incrementRefCount _ => none
  | .deliverMessageDescriptor delivery => some delivery

/-- The loop over the first `n` subscriber slots. -/
def routeSubscribers (desc : IpcMessageDesc) : Nat → List UInt16 → List IpcRoutingCall
  | 0, _ => []
  | _ + 1, [] => []
  | n + 1, pid :: pids =>
      .incrementRefCount desc.bufferId :: .deliverMessageDescriptor { pid, desc } ::
        routeSubscribers desc n pids

/-- The statistics of an entry after a message was routed. -/
def IpcTopicEntry.routed (entry : IpcTopicEntry) : IpcTopicEntry :=
  { entry with
    messageCount := entry.messageCount + 1
    zeroCopyCount := entry.zeroCopyCount + entry.subscriberCount.toUInt32 }

/-- The loop over the first `n` entries, with the calls it makes. -/
def routeTopics (topic : CString) (desc : IpcMessageDesc) :
    Nat → List IpcTopicEntry → SystemError × List IpcRoutingCall × List IpcTopicEntry
  | 0, entries => (ipcConfigError, [], entries)
  | _ + 1, [] => (ipcConfigError, [], [])
  | n + 1, entry :: entries =>
      if entry.name = topic then
        (ipcOk, routeSubscribers desc entry.subscriberCount.toNat entry.subscriberPids,
          entry.routed :: entries)
      else
        let (error, calls, entries) := routeTopics topic desc n entries
        (error, calls, entry :: entries)

@[simp] theorem length_routeTopics (topic : CString) (desc : IpcMessageDesc) (n : Nat)
    (entries : List IpcTopicEntry) :
    (routeTopics topic desc n entries).2.2.length = entries.length := by
  induction entries generalizing n with
  | nil => cases n <;> rfl
  | cons entry entries ih =>
      cases n with
      | zero => rfl
      | succ n =>
          rw [routeTopics]
          split
          · rfl
          · exact congrArg (· + 1) (ih n)

/-- `ipc_route_message_zero_copy`. -/
def KernelIpcArrays.ipcRouteMessageZeroCopy (s : KernelIpcArrays) (topic : CString)
    (desc : IpcMessageDesc) : SystemError × List IpcRoutingCall × KernelIpcArrays :=
  let result := routeTopics topic desc s.topicCount.toNat s.topics
  (result.1, result.2.1,
    { s with
      topics := result.2.2
      topics_length := by rw [length_routeTopics, s.topics_length] })

/-! ## the loops -/

/-- The inner loop delivers to the first `n` slots, in their order. -/
theorem filterMap_routeSubscribers (desc : IpcMessageDesc) (n : Nat) (pids : List UInt16) :
    (routeSubscribers desc n pids).filterMap IpcRoutingCall.delivery? =
      (pids.take n).map fun pid => { pid, desc } := by
  induction pids generalizing n with
  | nil => cases n <;> rfl
  | cons pid pids ih =>
      cases n with
      | zero => rfl
      | succ n =>
          rw [List.take_succ_cons, List.map_cons, ← ih n]
          rfl

/-- Entry `entry` of a table is the first of that name; `before` and `after`
are the other entries. -/
structure FirstNamed (topic : CString) (entries before : List IpcTopicEntry)
    (entry : IpcTopicEntry) (after : List IpcTopicEntry) : Prop where
  split : entries = before ++ entry :: after
  name_eq : entry.name = topic
  first : ∀ other ∈ before, other.name ≠ topic

section Loop

variable {topic : CString} (desc : IpcMessageDesc)

/-- The outer loop without an entry of that name. -/
theorem routeTopics_of_not_named {n : Nat} {entries : List IpcTopicEntry}
    (h : ∀ entry ∈ entries.take n, entry.name ≠ topic) :
    routeTopics topic desc n entries = (ipcConfigError, [], entries) := by
  induction entries generalizing n with
  | nil => cases n <;> rfl
  | cons entry entries ih =>
      cases n with
      | zero => rfl
      | succ n =>
          rw [List.take_succ_cons, List.forall_mem_cons] at h
          rw [routeTopics, if_neg h.1, ih h.2]

/-- The outer loop with one: it serves the first and leaves. -/
theorem routeTopics_of_firstNamed {n : Nat} {entries before after : List IpcTopicEntry}
    {entry : IpcTopicEntry} (h : FirstNamed topic entries before entry after)
    (hcount : before.length < n) :
    routeTopics topic desc n entries =
      (ipcOk, routeSubscribers desc entry.subscriberCount.toNat entry.subscriberPids,
        before ++ entry.routed :: after) := by
  obtain ⟨rfl, hname, hfirst⟩ := h
  induction before generalizing n with
  | nil =>
      obtain ⟨n, rfl⟩ := Nat.exists_eq_succ_of_ne_zero (Nat.ne_of_gt hcount)
      exact if_pos hname
  | cons other before ih =>
      obtain ⟨n, rfl⟩ := Nat.exists_eq_succ_of_ne_zero (Nat.ne_of_gt (Nat.zero_lt_of_lt hcount))
      rw [List.forall_mem_cons] at hfirst
      rw [List.cons_append, routeTopics, if_neg hfirst.1,
        ih (Nat.lt_of_succ_lt_succ hcount) hfirst.2]
      rfl

/-- An entry of that name among the first `n` gives a first one. -/
theorem exists_firstNamed {n : Nat} {entries : List IpcTopicEntry}
    (h : ∃ entry ∈ entries.take n, entry.name = topic) :
    ∃ before entry after, FirstNamed topic entries before entry after ∧ before.length < n := by
  induction entries generalizing n with
  | nil => simp at h
  | cons entry entries ih =>
      cases n with
      | zero => simp at h
      | succ n =>
          by_cases hname : entry.name = topic
          · exact ⟨[], entry, entries, ⟨rfl, hname, by simp⟩, Nat.succ_pos n⟩
          · rw [List.take_succ_cons, List.exists_mem_cons_iff] at h
            obtain ⟨before, found, after, ⟨rfl, hfound, hfirst⟩, hcount⟩ :=
              ih (h.resolve_left hname)
            exact ⟨entry :: before, found, after,
              ⟨rfl, hfound, List.forall_mem_cons.mpr ⟨hname, hfirst⟩⟩, Nat.succ_lt_succ hcount⟩

end Loop

/-! ## routing -/

/-- What routing does to the entry it serves. -/
structure Served (entry entry' : IpcTopicEntry) : Prop where
  name : entry'.name = entry.name
  subscriberPids : entry'.subscriberPids = entry.subscriberPids
  subscriberCount : entry'.subscriberCount = entry.subscriberCount
  priority : entry'.priority = entry.priority
  messageCount : entry'.messageCount.toNat = (entry.messageCount.toNat + 1) % 2 ^ 32
  zeroCopyCount : entry'.zeroCopyCount.toNat =
    (entry.zeroCopyCount.toNat + entry.subscriberCount.toNat) % 2 ^ 32

theorem served_routed (entry : IpcTopicEntry) : Served entry entry.routed where
  name := rfl
  subscriberPids := rfl
  subscriberCount := rfl
  priority := rfl
  messageCount := UInt32.toNat_add _ _
  zeroCopyCount := by
    rw [IpcTopicEntry.routed, UInt32.toNat_add, UInt8.toNat_toUInt32]

namespace KernelIpcArrays

/-- The entries in use. -/
def used (s : KernelIpcArrays) : List IpcTopicEntry := s.topics.take s.topicCount.toNat

/-- Routing delivers the descriptor once to each subscriber of `entry`, counts
that, and changes nothing else. -/
structure DeliversOnce (s : KernelIpcArrays) (desc : IpcMessageDesc)
    (before : List IpcTopicEntry) (entry : IpcTopicEntry) (after : List IpcTopicEntry)
    (result : SystemError × List IpcRoutingCall × KernelIpcArrays) : Prop where
  error : result.1.errorCode = errSysOk
  deliveries : result.2.1.filterMap IpcRoutingCall.delivery? =
    (entry.subscriberPids.take entry.subscriberCount.toNat).map fun pid => { pid, desc }
  topics : ∃ entry', Served entry entry' ∧ result.2.2.topics = before ++ entry' :: after
  topicCount : result.2.2.topicCount = s.topicCount
  sharedBuffer : result.2.2.sharedBuffer = s.sharedBuffer
  initialized : result.2.2.initialized = s.initialized

section Route

variable {topic : CString} {desc : IpcMessageDesc}

/-- Routing is its outer loop. -/
theorem route_of_eq {error : SystemError} {calls : List IpcRoutingCall}
    {entries : List IpcTopicEntry} (s : KernelIpcArrays)
    (h : routeTopics topic desc s.topicCount.toNat s.topics = (error, calls, entries)) :
    (s.ipcRouteMessageZeroCopy topic desc).1 = error ∧
      (s.ipcRouteMessageZeroCopy topic desc).2.1 = calls ∧
      (s.ipcRouteMessageZeroCopy topic desc).2.2.topics = entries :=
  ⟨congrArg Prod.fst h, congrArg (fun r => r.2.1) h, congrArg (fun r => r.2.2) h⟩

end Route

/-- **Routing delivers exactly once**: to the subscribers of the first entry
of that name, or, without one, to nobody. -/
theorem route_delivers_once (s : KernelIpcArrays) (topic : CString) (desc : IpcMessageDesc) :
    ((∃ entry ∈ s.used, entry.name = topic) →
      ∃ before entry after, FirstNamed topic s.topics before entry after ∧
        before.length < s.topicCount.toNat ∧
        s.DeliversOnce desc before entry after (s.ipcRouteMessageZeroCopy topic desc)) ∧
    ((∀ entry ∈ s.used, entry.name ≠ topic) →
      (s.ipcRouteMessageZeroCopy topic desc).1.errorCode = errSysConfigError ∧
        (s.ipcRouteMessageZeroCopy topic desc).2 = ([], s)) := by
  constructor
  · intro hnamed
    obtain ⟨before, entry, after, hfirst, hcount⟩ := exists_firstNamed hnamed
    obtain ⟨herror, hcalls, htopics⟩ := s.route_of_eq (routeTopics_of_firstNamed desc hfirst hcount)
    refine ⟨before, entry, after, hfirst, hcount, ?_, ?_, ?_, rfl, rfl, rfl⟩
    · rw [herror]
      rfl
    · rw [hcalls]
      exact filterMap_routeSubscribers desc _ _
    · exact ⟨entry.routed, served_routed entry, htopics⟩
  · intro hnone
    obtain ⟨herror, hcalls, htopics⟩ := s.route_of_eq (routeTopics_of_not_named desc hnone)
    refine ⟨by rw [herror]; rfl, Prod.ext hcalls ?_⟩
    exact KernelIpcArrays.ext htopics rfl rfl rfl

end KernelIpcArrays

/-! ## the lists of topics and subscribers -/

/-- The topic of an entry, with the subscribers in use. -/
def IpcTopicEntry.toRoute (entry : IpcTopicEntry) : IpcTopicRoute where
  name := entry.name
  subscriberPids := entry.subscriberPids.take entry.subscriberCount.toNat
  messageCount := entry.messageCount
  zeroCopyCount := entry.zeroCopyCount
  name_lt := entry.name_lt
  count_le := Nat.le_trans (List.length_take_le _ _) entry.count_le

theorem IpcTopicEntry.toRoute_routed (entry : IpcTopicEntry) :
    entry.routed.toRoute = entry.toRoute.routed := by
  have hcount : entry.toRoute.subscriberCount = entry.subscriberCount := by
    have hlength : (entry.subscriberPids.take entry.subscriberCount.toNat).length =
        entry.subscriberCount.toNat :=
      List.length_take_of_le (by rw [entry.pids_length]; exact entry.count_le)
    rw [IpcTopicRoute.subscriberCount, toRoute, hlength, UInt8.ofNat_toNat]
  rw [IpcTopicRoute.routed, hcount]
  rfl

/-- The first element with a property is the one modified. -/
theorem modify_findIdx_of_first {α : Type} {p : α → Bool} {before : List α} {a : α}
    (hbefore : ∀ b ∈ before, p b = false) (ha : p a = true) (f : α → α) (after : List α) :
    (before ++ a :: after).modify ((before ++ a :: after).findIdx p) f =
      before ++ f a :: after := by
  induction before with
  | nil => simp [List.findIdx_cons, ha]
  | cons b before ih =>
      rw [List.forall_mem_cons] at hbefore
      simp only [List.cons_append, List.findIdx_cons, hbefore.1, cond_false, List.modify_succ_cons,
        ih hbefore.2]

theorem take_append_cons {α : Type} {n : Nat} {before : List α} (h : before.length < n) (a : α)
    (after : List α) :
    (before ++ a :: after).take n = before ++ a :: after.take (n - before.length - 1) := by
  obtain ⟨k, hk⟩ := Nat.exists_eq_add_of_lt h
  have hrest : n - before.length = k + 1 := by omega
  rw [List.take_append, List.take_of_length_le (Nat.le_of_lt h), hrest, List.take_succ_cons]
  rfl

namespace KernelIpcArrays

/-- `g_ipc` without the entries and slots that are not in use. -/
def toKernelIpc (s : KernelIpcArrays) : KernelIpc where
  topics := s.used.map IpcTopicEntry.toRoute
  sharedBuffer := s.sharedBuffer
  initialized := s.initialized
  count_le := by
    rw [List.length_map]
    exact Nat.le_trans (List.length_take_le _ _) s.count_le

/-- The entries in use around one of them. -/
theorem topics_toKernelIpc {s : KernelIpcArrays} {before after : List IpcTopicEntry}
    {entry : IpcTopicEntry} (hsplit : s.topics = before ++ entry :: after)
    (hcount : before.length < s.topicCount.toNat) :
    s.toKernelIpc.topics =
      before.map IpcTopicEntry.toRoute ++ entry.toRoute ::
        (after.take (s.topicCount.toNat - before.length - 1)).map IpcTopicEntry.toRoute := by
  have hmap : s.toKernelIpc.topics = s.used.map IpcTopicEntry.toRoute := rfl
  rw [hmap, used, hsplit, take_append_cons hcount, List.map_append, List.map_cons]

/-- **Routing over the arrays is routing over the lists.** -/
theorem toKernelIpc_ipcRouteMessageZeroCopy (s : KernelIpcArrays) (topic : CString)
    (desc : IpcMessageDesc) :
    AutoMlos.ipcRouteMessageZeroCopy s.toKernelIpc topic desc =
      ((s.ipcRouteMessageZeroCopy topic desc).1,
        (s.ipcRouteMessageZeroCopy topic desc).2.2.toKernelIpc,
        (s.ipcRouteMessageZeroCopy topic desc).2.1.filterMap IpcRoutingCall.delivery?) := by
  by_cases hnamed : ∃ entry ∈ s.used, entry.name = topic
  · obtain ⟨before, entry, after, hfirst, hcount⟩ := exists_firstNamed hnamed
    obtain ⟨herror, hcalls, htopics⟩ :=
      s.route_of_eq (routeTopics_of_firstNamed desc hfirst hcount)
    have hused := topics_toKernelIpc hfirst.split hcount
    have hbefore : ∀ route ∈ before.map IpcTopicEntry.toRoute,
        decide (route.name = topic) = false := by
      rw [List.forall_mem_map]
      exact fun other hother => decide_eq_false (hfirst.first other hother)
    have hentry : decide (entry.toRoute.name = topic) = true := decide_eq_true hfirst.name_eq
    have hfound : s.toKernelIpc.route? topic = some entry.toRoute := by
      rw [KernelIpc.route?, List.find?_eq_some_iff_append]
      refine ⟨hentry, _, _, hused, fun route hroute => ?_⟩
      rw [hbefore route hroute]
      rfl
    rw [AutoMlos.ipcRouteMessageZeroCopy, hfound, herror, hcalls, filterMap_routeSubscribers]
    have hroute : (s.ipcRouteMessageZeroCopy topic desc).2.2.toKernelIpc.topics = _ :=
      topics_toKernelIpc htopics hcount
    have hmodify := modify_findIdx_of_first hbefore hentry IpcTopicRoute.routed
      ((after.take (s.topicCount.toNat - before.length - 1)).map IpcTopicEntry.toRoute)
    rw [← hused, ← IpcTopicEntry.toRoute_routed] at hmodify
    replace hmodify := hmodify.trans hroute.symm
    exact Prod.ext rfl (Prod.ext (KernelIpc.ext hmodify rfl rfl) rfl)
  · have hnone : ∀ entry ∈ s.used, entry.name ≠ topic :=
      fun entry hentry hname => hnamed ⟨entry, hentry, hname⟩
    have hfound : s.toKernelIpc.route? topic = none := by
      rw [KernelIpc.route?, List.find?_eq_none]
      refine List.forall_mem_map.mpr fun entry hentry => ?_
      exact fun hname => hnone entry hentry (of_decide_eq_true hname)
    obtain ⟨herror, hcalls, htopics⟩ := s.route_of_eq (routeTopics_of_not_named desc hnone)
    rw [AutoMlos.ipcRouteMessageZeroCopy, hfound, herror, hcalls]
    have hsame : (s.ipcRouteMessageZeroCopy topic desc).2.2 = s :=
      KernelIpcArrays.ext htopics rfl rfl rfl
    rw [hsame]
    rfl

end KernelIpcArrays

end AutoMlos
