import AutoMlos.KernelIpc.Publish

/-!
# AutoMlos.KernelIpc.Descriptor

What the descriptor of a message says about where the message is.

The shared buffer holds the messages of a run one behind the other
(`LargePublish.run_spec`), but every descriptor has offset 0.  It locates its
message only if the buffer happens to start with the same bytes, and two
messages that reach a subscriber always share a range
(`descriptors_locate_iff`).
-/

namespace AutoMlos

open Lib

/-! ## runs of large messages -/

/-- A publish of a message that goes through the shared buffer. -/
structure LargePublish where
  topic : CString
  message : List UInt8
  sourcePid : UInt16
  large : 256 < message.length
  fits : message.length ≤ kernelIpcMaxMessageSize

namespace LargePublish

def toPublish (p : LargePublish) : IpcPublish :=
  { topic := some p.topic, message := some p.message, sourcePid := p.sourcePid }

/-- One publish of the run. -/
def step (s : IpcState) (p : LargePublish) : IpcPublished × IpcState :=
  ipcPublishMessageZeroCopy s p.toPublish

end LargePublish

/-- The subscribers of a topic; none when it does not exist. -/
def KernelIpc.subscribers (ipc : KernelIpc) (topic : CString) : List UInt16 :=
  ((ipc.route? topic).map IpcTopicRoute.subscriberPids).getD []

/-- An initialised `g_ipc` whose used bytes lie in its shared buffer. -/
structure KernelIpc.Ready (ipc : KernelIpc) : Prop where
  initialized : ipc.initialized = true
  size : ipc.sharedBuffer.size.toNat = ipcSharedBufferSize
  used_le : ipc.sharedBuffer.used.toNat ≤ ipcSharedBufferSize

/-- The used bytes of the shared buffer. -/
def IpcState.contents (s : IpcState) : List UInt8 :=
  loadBytes s.memory s.ipc.sharedBuffer.baseAddress s.ipc.sharedBuffer.used.toNat

/-- The bytes of the shared buffer a descriptor names. -/
def IpcMessageDesc.range (desc : IpcMessageDesc) : Region := ⟨desc.offset.toNat, desc.size.toNat⟩

/-- What the descriptor names in memory. -/
def IpcState.named (s : IpcState) (desc : IpcMessageDesc) : List UInt8 :=
  loadBytes s.memory (s.ipc.sharedBuffer.baseAddress + desc.range.base) desc.range.size

/-- Every descriptor handed out in the run names, at its end, the message it
was published with, and descriptors of different publishes name disjoint
ranges. -/
def DescriptorsLocate (s : IpcState) (ps : List LargePublish) : Prop :=
  (List.Forall₂ (fun p reply => ∀ d ∈ reply.deliveries,
      (mealy LargePublish.step s ps).2.named d.desc = p.message)
    ps (mealy LargePublish.step s ps).1) ∧
    (mealy LargePublish.step s ps).1.Pairwise fun reply reply' =>
      ∀ d ∈ reply.deliveries, ∀ d' ∈ reply'.deliveries, d.desc.range.Disjoint d'.desc.range

/-- The publish reaches a subscriber. -/
def LargePublish.Reaches (p : LargePublish) (subscribers : CString → List UInt16) : Prop :=
  subscribers p.topic ≠ []

/-- At most one publish of the run reaches a subscriber, and its message is
what the shared buffer starts with: the bytes used before the run, followed by
the messages of the run. -/
def OneMessageInFront (s : IpcState) (ps : List LargePublish) : Prop :=
  (ps.Pairwise fun p p' => ¬ (p.Reaches s.ipc.subscribers ∧ p'.Reaches s.ipc.subscribers)) ∧
    ∀ p ∈ ps, p.Reaches s.ipc.subscribers →
      p.message <+: s.contents ++ ps.flatMap LargePublish.message

/-! ## one publish -/

/-- The descriptors a publish hands out. -/
structure IpcPublished.Describes (reply : IpcPublished) (subscribers : CString → List UInt16)
    (p : LargePublish) : Prop where
  pids : reply.deliveries.map IpcDelivery.pid = subscribers p.topic
  range : ∀ d ∈ reply.deliveries, d.desc.range = ⟨0, p.message.length⟩

section Step

variable {s : IpcState} {p : LargePublish} {topic : CString}

/-- Statistics do not change who subscribes to what. -/
theorem KernelIpc.subscribers_routed (ipc : KernelIpc) (topic : CString) :
    (ipc.routed topic).subscribers = ipc.subscribers := by
  let view : IpcTopicRoute → CString × List UInt16 :=
    fun route => (route.name, route.subscriberPids)
  have hview (ipc : KernelIpc) (t : CString) : ipc.subscribers t =
      (((ipc.topics.map view).find? fun entry => entry.1 = t).map Prod.snd).getD [] := by
    rw [List.find?_map, Option.map_map]
    rfl
  have hsame : (ipc.routed topic).topics.map view = ipc.topics.map view := by
    refine List.ext_getElem? fun i => ?_
    simp only [KernelIpc.routed, List.getElem?_map, List.getElem?_modify]
    split
    · cases ipc.topics[i]? with
      | none => rfl
      | some route => rfl
    · simp
  funext t
  rw [hview, hview, hsame]

/-- A large publish that succeeds has copied its message to an existing topic. -/
theorem LargePublish.copies_of_ok (hok : ¬ (p.step s).1.Failed) :
    p.toPublish.Copies s p.topic p.message ∧ ∃ route, s.ipc.route? p.topic = some route := by
  have hcopies : p.toPublish.Copies s p.topic p.message := by
    by_contra hnot
    have hall (topic : CString) (message : List UInt8) :
        ¬ p.toPublish.Copies s topic message := by
      intro h
      obtain rfl := Option.some.inj h.topic_eq
      obtain rfl := Option.some.inj h.message_eq
      exact hnot h
    rcases (publish_of_not_copies hall).2.2 with hfailed | ⟨message, hmessage, hsmall⟩
    · exact hok hfailed
    · obtain rfl := Option.some.inj hmessage
      exact absurd p.large (Nat.not_lt.mpr hsmall)
  refine ⟨hcopies, Option.ne_none_iff_exists'.mp fun hnone => hok ?_⟩
  rw [LargePublish.step, hcopies.publish_of_none hnone]
  exact show errSysConfigError ≠ errSysOk by decide

/-- Copying a message appends it to the used bytes. -/
theorem IpcState.contents_copied {message : List UInt8}
    (hused : (s.ipc.sharedBuffer.used + UInt32.ofNat message.length).toNat =
      s.ipc.sharedBuffer.used.toNat + message.length) :
    (s.copied message).contents = s.contents ++ message := by
  have hadvance : (s.copied message).ipc.sharedBuffer.used.toNat =
      s.ipc.sharedBuffer.used.toNat + message.length := hused
  rw [IpcState.contents, hadvance, loadBytes_add]
  exact congrArg₂ (· ++ ·) (loadBytes_storeBytes_below (Nat.le_refl _)) loadBytes_storeBytes_self

/-- **A publish that succeeds** appends its message to the used bytes and
hands a descriptor of offset 0 to each subscriber. -/
theorem LargePublish.step_spec (h : s.ipc.Ready) (hok : ¬ (p.step s).1.Failed) :
    (p.step s).1.Describes s.ipc.subscribers p ∧ (p.step s).2.ipc.Ready ∧
      (p.step s).2.contents = s.contents ++ p.message ∧
      (p.step s).2.ipc.subscribers = s.ipc.subscribers := by
  obtain ⟨hcopies, route, hroute⟩ := copies_of_ok hok
  have hfits : p.message.length ≤ 4096 := p.fits
  have hused_le : s.ipc.sharedBuffer.used.toNat ≤ 65536 := h.used_le
  have hlength : (UInt32.ofNat p.message.length).toNat = p.message.length := by
    rw [UInt32.toNat_ofNat']
    omega
  have hused : (s.ipc.sharedBuffer.used + UInt32.ofNat p.message.length).toNat =
      s.ipc.sharedBuffer.used.toNat + p.message.length := by
    rw [UInt32.toNat_add, hlength]
    omega
  rw [LargePublish.step, hcopies.publish_of_some hroute]
  refine ⟨⟨?_, ?_⟩, ⟨h.initialized, h.size, ?_⟩, IpcState.contents_copied hused, ?_⟩
  · rw [List.map_map, KernelIpc.subscribers, hroute]
    exact List.map_id _
  · intro d hd
    obtain ⟨pid, -, rfl⟩ := List.mem_map.mp hd
    exact congrArg (Region.mk 0) hlength
  · have hroom := UInt32.le_iff_toNat_le.mp (UInt32.not_lt.mp hcopies.room)
    rwa [h.size] at hroom
  · exact KernelIpc.subscribers_routed (s.copied p.message).ipc p.topic

end Step

/-! ## runs -/

section Run

variable {s : IpcState} {p p' : LargePublish} {ps : List LargePublish}
variable {reply reply' : IpcPublished} {subscribers : CString → List UInt16}

/-- **A run that succeeds** appends its messages to the used bytes. -/
theorem LargePublish.run_spec (h : s.ipc.Ready)
    (hok : ∀ reply ∈ (mealy LargePublish.step s ps).1, ¬ reply.Failed) :
    List.Forall₂ (fun p reply => reply.Describes s.ipc.subscribers p) ps
        (mealy LargePublish.step s ps).1 ∧
      (mealy LargePublish.step s ps).2.contents =
        s.contents ++ ps.flatMap LargePublish.message := by
  induction ps generalizing s with
  | nil => exact ⟨List.Forall₂.nil, (List.append_nil _).symm⟩
  | cons p ps ih =>
      simp only [mealy, List.forall_mem_cons] at hok
      obtain ⟨hdescribes, hready, hcontents, hsubscribers⟩ := step_spec h hok.1
      obtain ⟨hreplies, hrest⟩ := ih hready hok.2
      rw [hsubscribers] at hreplies
      refine ⟨List.Forall₂.cons hdescribes hreplies, ?_⟩
      simp only [mealy, hrest, hcontents, List.flatMap_cons, List.append_assoc]

/-- A descriptor of offset 0 names the first used bytes. -/
theorem IpcState.named_eq_take {desc : IpcMessageDesc} (hrange : desc.range = ⟨0, n⟩)
    (hn : n ≤ s.contents.length) : s.named desc = s.contents.take n := by
  rw [IpcState.contents, length_loadBytes] at hn
  rw [IpcState.named, hrange, IpcState.contents, take_loadBytes hn, Nat.add_zero]

/-- A publish hands out descriptors exactly when it reaches a subscriber. -/
theorem IpcPublished.Describes.deliveries_ne_nil (h : reply.Describes subscribers p) :
    reply.deliveries ≠ [] ↔ p.Reaches subscribers := by
  rw [LargePublish.Reaches, ← h.pids, ne_eq, ne_eq, List.map_eq_nil_iff]

/-- The descriptors of a publish name its message exactly when there is none
or the message is in front. -/
theorem IpcPublished.Describes.named_iff (h : reply.Describes subscribers p)
    (hlength : p.message.length ≤ s.contents.length) :
    (∀ d ∈ reply.deliveries, s.named d.desc = p.message) ↔
      (p.Reaches subscribers → p.message <+: s.contents) := by
  rw [← h.deliveries_ne_nil, List.prefix_iff_eq_take]
  constructor
  · intro hnamed hne
    obtain ⟨d, hd⟩ := List.exists_mem_of_ne_nil _ hne
    rw [← IpcState.named_eq_take (h.range d hd) hlength, hnamed d hd]
  · intro hfront d hd
    rw [IpcState.named_eq_take (h.range d hd) hlength]
    exact (hfront (List.ne_nil_of_mem hd)).symm

/-- The descriptors of two publishes name disjoint ranges exactly when one of
them reaches nobody. -/
theorem IpcPublished.Describes.disjoint_iff (h : reply.Describes subscribers p)
    (h' : reply'.Describes subscribers p') :
    (¬ (p.Reaches subscribers ∧ p'.Reaches subscribers)) ↔
      ∀ d ∈ reply.deliveries, ∀ d' ∈ reply'.deliveries, d.desc.range.Disjoint d'.desc.range := by
  rw [← h.deliveries_ne_nil, ← h'.deliveries_ne_nil]
  constructor
  · intro hnot d hd d' hd'
    exact absurd ⟨List.ne_nil_of_mem hd, List.ne_nil_of_mem hd'⟩ hnot
  · rintro hdisjoint ⟨hne, hne'⟩
    obtain ⟨d, hd⟩ := List.exists_mem_of_ne_nil _ hne
    obtain ⟨d', hd'⟩ := List.exists_mem_of_ne_nil _ hne'
    have hapart := hdisjoint d hd d' hd'
    rw [h.range d hd, h'.range d' hd'] at hapart
    have hlarge := p.large
    have hlarge' := p'.large
    simp only [Region.Disjoint] at hapart
    omega

/-- **Descriptors** of a run that succeeds locate their messages exactly when
at most one message reaches a subscriber and that one is in front. -/
theorem descriptors_locate_iff (h : s.ipc.Ready)
    (hok : ∀ reply ∈ (mealy LargePublish.step s ps).1, ¬ reply.Failed) :
    DescriptorsLocate s ps ↔ OneMessageInFront s ps := by
  obtain ⟨hdescribes, hcontents⟩ := LargePublish.run_spec h hok
  rw [DescriptorsLocate, OneMessageInFront, and_comm, ← hcontents]
  refine and_congr ?_ ?_
  · exact (pairwise_iff_of_forall₂ hdescribes fun _ _ _ _ h h' => h.disjoint_iff h').symm
  · have hlength (p : LargePublish) (hp : p ∈ ps) : p.message.length ≤
        (mealy LargePublish.step s ps).2.contents.length := by
      rw [hcontents, List.length_append, List.flatMap_def]
      have hsub := List.sublist_flatten_of_mem (List.mem_map_of_mem (f := LargePublish.message) hp)
      have hle := hsub.length_le
      omega
    exact forall₂_iff_forall_mem hdescribes fun p hp _ h => h.named_iff (hlength p hp)

end Run

/-- An initialised `g_ipc` with these topics. -/
def KernelIpc.readyWith (base : Nat) (topics : List IpcTopicRoute)
    (hcount : topics.length ≤ ipcMaxTopics) : KernelIpc :=
  { KernelIpc.ready base with topics, count_le := hcount }

/-- Such runs can start after the initialisation, whatever topics are
registered then. -/
theorem KernelIpc.ready_readyWith (base : Nat) (topics : List IpcTopicRoute)
    (hcount : topics.length ≤ ipcMaxTopics) : (KernelIpc.readyWith base topics hcount).Ready :=
  ⟨rfl, rfl, Nat.zero_le _⟩

theorem length_statusTopic_le : [statusTopic].length ≤ ipcMaxTopics := by decide

/-- An initialised `g_ipc` with one topic. -/
def readyWithTopic : IpcState where
  ipc := .readyWith 4096 [statusTopic] length_statusTopic_le
  memory := fun _ => 0

theorem large_replicate (byte : UInt8) : 256 < (List.replicate 257 byte).length := by
  rw [List.length_replicate]
  decide

theorem replicate_fits (byte : UInt8) :
    (List.replicate 257 byte).length ≤ kernelIpcMaxMessageSize := by
  rw [List.length_replicate]
  decide

/-- Publishing 257 equal bytes to that topic. -/
def largePublish (byte : UInt8) : LargePublish where
  topic := statusTopic.name
  message := List.replicate 257 byte
  sourcePid := 1
  large := large_replicate byte
  fits := replicate_fits byte

/-- One message after the initialisation is located. -/
theorem descriptors_locate_iff_one_message :
    DescriptorsLocate readyWithTopic [largePublish 1] ↔
      OneMessageInFront readyWithTopic [largePublish 1] :=
  descriptors_locate_iff (KernelIpc.ready_readyWith 4096 [statusTopic] length_statusTopic_le)
    (by decide +kernel)

/-- Of two messages to one subscriber the second is not: both descriptors
name the bytes of the first. -/
theorem descriptors_not_always_locate :
    let replies := (mealy LargePublish.step readyWithTopic [largePublish 1, largePublish 2]).1
    let s' := (mealy LargePublish.step readyWithTopic [largePublish 1, largePublish 2]).2
    (replies.map fun reply => reply.deliveries.map fun d => s'.named d.desc) =
        [[List.replicate 257 1], [List.replicate 257 1]] ∧
      ¬ ∀ (s : IpcState) (ps : List LargePublish), s.ipc.Ready →
        (∀ reply ∈ (mealy LargePublish.step s ps).1, ¬ reply.Failed) → DescriptorsLocate s ps := by
  refine ⟨by decide +kernel, fun h => ?_⟩
  have hlocate := h readyWithTopic [largePublish 1, largePublish 2]
    (KernelIpc.ready_readyWith 4096 [statusTopic] length_statusTopic_le) (by decide +kernel)
  exact absurd hlocate.2 (by decide +kernel)

end AutoMlos
