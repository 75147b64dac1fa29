import AutoMlos.KernelIpc.Descriptor

/-!
# AutoMlos.KernelIpc.Budget

The shared buffer as a budget of bytes.

`ipc_free_shared_buffer` is a stub: what a publish of more than 256 bytes takes
of the shared buffer never comes back.  For its callers and subscribers `g_ipc`
is a budget and a table of subscribers, and the budget only shrinks
(`shared_buffer_never_given_back`): a size that was refused once is refused for
good, and no run delivers more than one large message for every 257 bytes.
-/

namespace AutoMlos

open Lib

/-! ## the budget -/

/-- A publish that needs the shared buffer. -/
structure IpcPublish.Large (call : IpcPublish) : Prop where
  topic : call.topic.isSome
  message : ∃ message, call.message = some message ∧ 256 < message.length ∧
    message.length ≤ kernelIpcMaxMessageSize

/-- The size of its message. -/
def IpcPublish.size (call : IpcPublish) : ℕ := (call.message.map List.length).getD 0

/-- The bytes that are left, and the subscribers of the topics that exist. -/
structure IpcBudget where
  room : ℕ
  subscribers : CString → Option (List UInt16)

/-- What a publish answers, and the pids that it delivers to. -/
abbrev BudgetReply := SystemError × List UInt16

namespace IpcBudget

/-- One publish. -/
def publish (b : IpcBudget) (call : IpcPublish) : BudgetReply × IpcBudget :=
  match call.topic, call.message with
  | some topic, some message =>
      if message.length = 0 then ((ipcInvalidParam, []), b)
      else if message.length > kernelIpcMaxMessageSize then ((ipcConfigError, []), b)
      else if message.length ≤ 256 then ((ipcOk, []), b)
      else if b.room < message.length then ((ipcResourceUnavail, []), b)
      else
        let reply :=
          match b.subscribers topic with
          | some pids => (ipcOk, pids)
          | none => (ipcConfigError, [])
        (reply, { b with room := b.room - message.length })
  | _, _ => ((ipcInvalidParam, []), b)

variable {b : IpcBudget} {call : IpcPublish}

/-- **What a publish does to the budget**: nothing, or it takes the bytes of
its message. -/
theorem publish_cases (b : IpcBudget) (call : IpcPublish) :
    ((b.publish call).2 = b ∧ (b.publish call).1.2 = []) ∨
      256 < call.size ∧ call.size ≤ b.room ∧
        (b.publish call).2 = { b with room := b.room - call.size } := by
  obtain ⟨topic, message, sourcePid⟩ := call
  cases topic with
  | none => exact .inl ⟨rfl, rfl⟩
  | some topic =>
      cases message with
      | none => exact .inl ⟨rfl, rfl⟩
      | some message =>
          simp only [publish, IpcPublish.size, Option.map_some, Option.getD_some]
          split_ifs with hzero hmax hsmall hroom
          · exact .inl ⟨rfl, rfl⟩
          · exact .inl ⟨rfl, rfl⟩
          · exact .inl ⟨rfl, rfl⟩
          · exact .inl ⟨rfl, rfl⟩
          · exact .inr ⟨Nat.lt_of_not_le hsmall, Nat.le_of_not_lt hroom, rfl⟩

theorem room_publish_le (b : IpcBudget) (call : IpcPublish) :
    (b.publish call).2.room ≤ b.room := by
  rcases publish_cases b call with ⟨hsame, -⟩ | ⟨-, -, htaken⟩
  · rw [hsame]
  · rw [htaken]
    exact Nat.sub_le _ _

/-- A large publish is refused exactly when its bytes are not left. -/
theorem publish_refused_iff (h : call.Large) :
    (b.publish call).1.1 = ipcResourceUnavail ↔ b.room < call.size := by
  obtain ⟨topic, _, sourcePid⟩ := call
  obtain ⟨htopic, message, rfl, hlarge, hfits⟩ := h
  obtain ⟨topic, rfl⟩ := Option.isSome_iff_exists.mp htopic
  have hpos : message.length ≠ 0 := by omega
  simp only [publish, IpcPublish.size, if_neg hpos, if_neg (Nat.not_lt.mpr hfits),
    if_neg (Nat.not_le.mpr hlarge), Option.map_some, Option.getD_some]
  by_cases hroom : b.room < message.length
  · rw [if_pos hroom]
    exact iff_of_true rfl hroom
  · rw [if_neg hroom]
    refine iff_of_false ?_ hroom
    cases b.subscribers topic with
    | some pids => exact ipcOk_ne_ipcResourceUnavail
    | none => exact show ipcConfigError ≠ ipcResourceUnavail by decide

/-- **What a run delivers** takes at least 257 bytes each time. -/
theorem length_delivered_le (b : IpcBudget) (calls : List IpcPublish) :
    257 * ((mealy publish b calls).1.filter (·.2 ≠ [])).length + (mealy publish b calls).2.room ≤
      b.room := by
  induction calls generalizing b with
  | nil => exact Nat.le_of_eq (Nat.zero_add _)
  | cons call calls ih =>
      have hrest := ih (b.publish call).2
      rw [mealy_cons]
      rcases publish_cases b call with ⟨hsame, hnone⟩ | ⟨hlarge, hroom, htaken⟩
      · rw [hsame] at hrest ⊢
        rwa [List.filter_cons_of_neg (by simp [hnone])]
      · have hone (replies : List BudgetReply) :
            (((b.publish call).1 :: replies).filter (·.2 ≠ [])).length ≤
              (replies.filter (·.2 ≠ [])).length + 1 := by
          rw [List.filter_cons]
          split
          · exact Nat.le_refl _
          · exact Nat.le_succ _
        have hcount := hone (mealy publish (b.publish call).2 calls).1
        have hleft : (b.publish call).2.room = b.room - call.size := by rw [htaken]
        dsimp only
        omega

/-- A size that is not left is refused in every later publish. -/
theorem refused_of_room_lt {n : ℕ} (h : b.room < n) (calls : List IpcPublish) :
    ∀ entry ∈ calls.zip (mealy publish b calls).1, entry.1.Large → n ≤ entry.1.size →
      entry.2.1 = ipcResourceUnavail := by
  induction calls generalizing b with
  | nil => exact fun entry hentry => absurd hentry List.not_mem_nil
  | cons call calls ih =>
      rw [mealy_cons, List.zip_cons_cons, List.forall_mem_cons]
      refine ⟨fun hlarge hsize => ?_, ih (Nat.lt_of_le_of_lt (room_publish_le b call) h)⟩
      exact (publish_refused_iff hlarge).mpr (Nat.lt_of_lt_of_le h hsize)

/-- **A refusal is final**: of two large publishes of a run, the later one is
refused if it is at least as long and the earlier one was. -/
theorem pairwise_refused (b : IpcBudget) (calls : List IpcPublish) :
    (calls.zip (mealy publish b calls).1).Pairwise fun entry later =>
      entry.1.Large → entry.2.1 = ipcResourceUnavail → later.1.Large →
        entry.1.size ≤ later.1.size → later.2.1 = ipcResourceUnavail := by
  induction calls generalizing b with
  | nil => exact List.Pairwise.nil
  | cons call calls ih =>
      rw [mealy_cons, List.zip_cons_cons, List.pairwise_cons]
      refine ⟨fun later hlater hlarge hrefused => ?_, ih _⟩
      have hroom := Nat.lt_of_le_of_lt (room_publish_le b call)
        ((publish_refused_iff hlarge).mp hrefused)
      exact refused_of_room_lt hroom calls later hlater

end IpcBudget

/-! ## the refinement -/

/-- The budget shows the state. -/
structure IpcState.Shows (s : IpcState) (b : IpcBudget) : Prop where
  ready : s.ipc.Ready
  room : b.room = ipcSharedBufferSize - s.ipc.sharedBuffer.used.toNat
  subscribers : ∀ topic, b.subscribers topic = (s.ipc.route? topic).map (·.subscriberPids)

/-- A publish, with what it answers and delivers. -/
def IpcState.publish (s : IpcState) (call : IpcPublish) : BudgetReply × IpcState :=
  (((ipcPublishMessageZeroCopy s call).1.error,
    (ipcPublishMessageZeroCopy s call).1.deliveries.map (·.pid)),
    (ipcPublishMessageZeroCopy s call).2)

section Refinement

variable {s : IpcState} {b : IpcBudget} {topic : CString} {message : List UInt8}

/-- Statistics do not change who subscribes to what. -/
theorem KernelIpc.pids_routed (ipc : KernelIpc) (topic t : CString) :
    ((ipc.routed topic).route? t).map (·.subscriberPids) =
      (ipc.route? t).map (·.subscriberPids) := by
  let view : IpcTopicRoute → CString × List UInt16 :=
    fun route => (route.name, route.subscriberPids)
  have hview (ipc : KernelIpc) : (ipc.route? t).map (·.subscriberPids) =
      ((ipc.topics.map view).find? fun entry => entry.1 = t).map Prod.snd := by
    rw [List.find?_map, Option.map_map]
    rfl
  have hsame : (ipc.routed topic).topics.map view = ipc.topics.map view := by
    refine List.ext_getElem? fun i => ?_
    simp only [KernelIpc.routed, List.getElem?_map, List.getElem?_modify]
    split
    · cases ipc.topics[i]? with
      | none => rfl
      | some route => rfl
    · simp
  rw [hview, hview, hsame]

/-- The room test is right about messages that are not too long. -/
theorem IpcState.Shows.room_iff (h : s.Shows b) (hfits : message.length ≤ kernelIpcMaxMessageSize) :
    s.ipc.sharedBuffer.used + UInt32.ofNat message.length > s.ipc.sharedBuffer.size ↔
      b.room < message.length := by
  have hmax : message.length ≤ 4096 := hfits
  have hbuffer : ipcSharedBufferSize = 65536 := rfl
  have hused := h.ready.used_le
  have hlength : (UInt32.ofNat message.length).toNat = message.length := by
    rw [UInt32.toNat_ofNat']
    omega
  have hsum : (s.ipc.sharedBuffer.used + UInt32.ofNat message.length).toNat =
      s.ipc.sharedBuffer.used.toNat + message.length := by
    rw [UInt32.toNat_add, hlength]
    omega
  rw [gt_iff_lt, UInt32.lt_iff_toNat_lt, hsum, h.ready.size, h.room]
  omega

/-- A publish that copies its message takes its bytes. -/
theorem IpcState.Shows.copied (h : s.Shows b) (hfits : message.length ≤ kernelIpcMaxMessageSize)
    (hroom : ¬ b.room < message.length) :
    (s.copied message).Shows { b with room := b.room - message.length } := by
  have hmax : message.length ≤ 4096 := hfits
  have hbuffer : ipcSharedBufferSize = 65536 := rfl
  have hleft := h.room
  have hused := h.ready.used_le
  have hadvance : (s.copied message).ipc.sharedBuffer.used.toNat =
      s.ipc.sharedBuffer.used.toNat + message.length := by
    change (s.ipc.sharedBuffer.used + UInt32.ofNat message.length).toNat = _
    rw [UInt32.toNat_add, UInt32.toNat_ofNat']
    omega
  refine ⟨⟨h.ready.initialized, h.ready.size, ?_⟩, ?_, h.subscribers⟩
  · rw [hadvance]
    omega
  · rw [hadvance, hleft]
    dsimp only
    omega

theorem IpcState.Shows.routed (h : s.Shows b) (topic : CString) :
    ({ s with ipc := s.ipc.routed topic } : IpcState).Shows b where
  ready := ⟨h.ready.initialized, h.ready.size, h.ready.used_le⟩
  room := h.room
  subscribers t := (h.subscribers t).trans (KernelIpc.pids_routed s.ipc topic t).symm

/-- A publish of a message that is to be copied. -/
theorem IpcState.Shows.publish_large (h : s.Shows b) (topic : CString) (sourcePid : UInt16)
    (hlarge : 256 < message.length) (hfits : message.length ≤ kernelIpcMaxMessageSize)
    (hroom : ¬ b.room < message.length) :
    (s.publish ⟨some topic, some message, sourcePid⟩).1 =
        (match b.subscribers topic with
          | some pids => (ipcOk, pids)
          | none => (ipcConfigError, [])) ∧
      (s.publish ⟨some topic, some message, sourcePid⟩).2.Shows
        { b with room := b.room - message.length } := by
  have hcopies : (⟨some topic, some message, sourcePid⟩ : IpcPublish).Copies s topic message :=
    ⟨h.ready.initialized, rfl, rfl, hlarge, hfits, mt (h.room_iff hfits).mp hroom⟩
  have hcopied := h.copied hfits hroom
  rw [IpcState.publish, h.subscribers]
  cases hroute : s.ipc.route? topic with
  | none =>
      rw [hcopies.publish_of_none hroute]
      exact ⟨rfl, hcopied⟩
  | some route =>
      rw [hcopies.publish_of_some hroute]
      refine ⟨?_, hcopied.routed topic⟩
      simp only [List.map_map, Option.map_some, Function.comp_def, List.map_id']

/-- **A publish** answers and delivers what the budget says. -/
theorem IpcState.Shows.publish (h : s.Shows b) (call : IpcPublish) :
    (s.publish call).1 = (b.publish call).1 ∧ (s.publish call).2.Shows (b.publish call).2 := by
  have hinit := h.ready.initialized
  have hready : ¬ s.ipc.initialized = false := by simp [hinit]
  obtain ⟨topic, message, sourcePid⟩ := call
  cases topic with
  | none =>
      rw [IpcState.publish, ipcPublishMessageZeroCopy, if_neg hready]
      exact ⟨rfl, h⟩
  | some topic =>
      cases message with
      | none =>
          rw [IpcState.publish, ipcPublishMessageZeroCopy, if_neg hready]
          exact ⟨rfl, h⟩
      | some message =>
          rw [IpcBudget.publish]
          dsimp only
          split_ifs with hzero hmax hsmall hroom
          · simp only [IpcState.publish, ipcPublishMessageZeroCopy, if_neg hready, if_pos hzero]
            exact ⟨rfl, h⟩
          · simp only [IpcState.publish, ipcPublishMessageZeroCopy, if_neg hready, if_neg hzero,
              if_pos hmax]
            exact ⟨rfl, h⟩
          · rw [IpcState.publish, publish_of_small topic hinit (Nat.pos_of_ne_zero hzero) hsmall]
            exact ⟨rfl, h⟩
          · have hfull := (h.room_iff (Nat.le_of_not_lt hmax)).mpr hroom
            simp only [IpcState.publish, ipcPublishMessageZeroCopy, if_neg hready, if_neg hzero,
              if_neg hmax, if_pos (Nat.lt_of_not_le hsmall),
              ipcAllocSharedBuffer_of_initialized hinit, if_pos hfull]
            exact ⟨rfl, h⟩
          · exact h.publish_large topic sourcePid (Nat.lt_of_not_le hsmall)
              (Nat.le_of_not_lt hmax) hroom

end Refinement

/-- The budget of a state. -/
def IpcState.budget (s : IpcState) : IpcBudget where
  room := ipcSharedBufferSize - s.ipc.sharedBuffer.used.toNat
  subscribers topic := (s.ipc.route? topic).map (·.subscriberPids)

theorem IpcState.shows_budget {s : IpcState} (h : s.ipc.Ready) : s.Shows s.budget :=
  ⟨h, rfl, fun _ => rfl⟩

/-- **The shared buffer is never given back**: in every run of publishes the
answers and deliveries are those of the budget; there are at most room / 257
publishes that deliver a message; and once a message was refused for lack of
room, so is every later one that is at least as long. -/
theorem shared_buffer_never_given_back {s : IpcState} (h : s.ipc.Ready) (calls : List IpcPublish) :
    let replies := (mealy IpcState.publish s calls).1
    replies = (mealy IpcBudget.publish s.budget calls).1 ∧
      257 * (replies.filter (·.2 ≠ [])).length ≤ s.budget.room ∧
      (calls.zip replies).Pairwise fun entry later =>
        entry.1.Large → entry.2.1 = ipcResourceUnavail → later.1.Large →
          entry.1.size ≤ later.1.size → later.2.1 = ipcResourceUnavail := by
  have hrun := mealy_refines (fun s b call (hshows : IpcState.Shows s b) => hshows.publish call)
    (IpcState.shows_budget h) calls
  dsimp only
  rw [hrun.1]
  refine ⟨rfl, ?_, IpcBudget.pairwise_refused s.budget calls⟩
  exact Nat.le_trans (Nat.le_add_right _ _) (IpcBudget.length_delivered_le s.budget calls)

/-- Three messages of 257 bytes, the second to a topic that does not exist. -/
def threePublishes : List IpcPublish :=
  [(largePublish 1).toPublish, publish257 (.ofAscii "lost"),
    (largePublish 3).toPublish]

theorem shared_buffer_never_given_back_three :
    let replies := (mealy IpcState.publish readyWithTopic threePublishes).1
    replies = (mealy IpcBudget.publish readyWithTopic.budget threePublishes).1 ∧
      257 * (replies.filter (·.2 ≠ [])).length ≤ readyWithTopic.budget.room ∧
      (threePublishes.zip replies).Pairwise fun entry later =>
        entry.1.Large → entry.2.1 = ipcResourceUnavail → later.1.Large →
          entry.1.size ≤ later.1.size → later.2.1 = ipcResourceUnavail :=
  shared_buffer_never_given_back
    (KernelIpc.ready_readyWith 4096 [statusTopic] length_statusTopic_le) threePublishes

end AutoMlos
