import AutoMlos.IpcPubsub
import AutoMlos.IpcTopics.Grammar

/-!
# AutoMlos.IpcPubsub.Usable

Which valid topics a handle can be created for.

Three limits on the length of a topic are written in three places: the
validator accepts 64 bytes, the system call 128, and the buffer of a handle
has 64 bytes including the terminator.  They differ at the single length 64.
-/

namespace AutoMlos

open Lib

section Creation

variable {γ υ : Type} {topic : CString}

/-- The kernel takes what the validator accepts. -/
theorem sysIpcRegisterTopic_of_valid (h : ipcValidateTopic (some topic) = .valid) :
    (sysIpcRegisterTopic (some topic)).errorCode = errBaseOk := by
  have hlength : TopicLength topic := ((ipcValidateTopic_grammar topic).1.mp h).1
  have hadmitted : ¬ (topic.length = 0 ∨ topic.length > 128) := by
    unfold TopicLength at hlength
    omega
  rw [sysIpcRegisterTopic, if_neg hadmitted]
  rfl

/-- With memory, a handle is created for the valid topics that fit in its
buffer, and holds the topic. -/
theorem ipcCreatePublisher_of_allocated (topic : CString) :
    ipcCreatePublisher (some topic) true =
      if ipcValidateTopic (some topic) = .valid ∧ topic.length < ipcTopicMaxLength then
        some ⟨topic, 0, 0⟩
      else none := by
  by_cases hvalid : ipcValidateTopic (some topic) = .valid
  · by_cases hfits : topic.length < ipcTopicMaxLength
    · have hregister := sysIpcRegisterTopic_of_valid hvalid
      have hwhole : topic.truncate (ipcTopicMaxLength - 1) = topic :=
        CString.truncate_of_length_le (Nat.le_sub_one_of_lt hfits)
      simp [ipcCreatePublisher, hvalid, hfits, hregister, hwhole]
    · simp [ipcCreatePublisher, hvalid, hfits, Nat.le_of_not_lt hfits]
  · simp [ipcCreatePublisher, hvalid]

/-- The same for subscribers, which also hold the callback and its data. -/
theorem ipcCreateSubscriber_of_allocated (topic : CString) (callback : γ) (userData : υ) :
    ipcCreateSubscriber (some topic) (some callback) userData true =
      if ipcValidateTopic (some topic) = .valid ∧ topic.length < ipcTopicMaxLength then
        some ⟨topic, callback, userData, 0, 0⟩
      else none := by
  by_cases hvalid : ipcValidateTopic (some topic) = .valid
  · by_cases hfits : topic.length < ipcTopicMaxLength
    · have hsubscribe : (sysIpcSubscribe (some topic)).errorCode = errBaseOk := rfl
      have hwhole : topic.truncate (ipcTopicMaxLength - 1) = topic :=
        CString.truncate_of_length_le (Nat.le_sub_one_of_lt hfits)
      simp [ipcCreateSubscriber, hvalid, hfits, hsubscribe, hwhole]
    · simp [ipcCreateSubscriber, hvalid, hfits, Nat.le_of_not_lt hfits]
  · simp [ipcCreateSubscriber, hvalid]

end Creation

/-- A handle is created exactly for a valid topic, and its buffer then has the
whole topic and the terminator. -/
structure CreatedIffValid {η : Type} (stored : η → CString) (topic : CString)
    (handle : Option η) : Prop where
  isSome_iff : handle.isSome ↔ ipcValidateTopic (some topic) = .valid
  stores : ∀ h ∈ handle, stored h = topic ∧ (stored h).length < ipcTopicMaxLength

/-- A topic that the validator accepts and the buffer has no room for. -/
def TopicTooLong (topic : CString) : Prop :=
  topic.length = 64 ∧ TopicForm topic ∧ ¬ TopicReserved topic

theorem topicTooLong_iff (topic : CString) :
    TopicTooLong topic ↔
      ipcValidateTopic (some topic) = .valid ∧ ¬ topic.length < ipcTopicMaxLength := by
  rw [(ipcValidateTopic_grammar topic).1, TopicTooLong, TopicLength, ipcTopicMaxLength]
  constructor
  · rintro ⟨hlength, hform, hfree⟩
    exact ⟨⟨by omega, hform, hfree⟩, by omega⟩
  · rintro ⟨⟨hlength, hform, hfree⟩, hfull⟩
    exact ⟨by omega, hform, hfree⟩

/-- A handle for the valid topics that fit is one for the valid topics, unless
the topic is too long. -/
theorem createdIffValid_iff {η : Type} (stored : η → CString) (topic : CString) (handle : η)
    (h : stored handle = topic) :
    CreatedIffValid stored topic
        (if ipcValidateTopic (some topic) = .valid ∧ topic.length < ipcTopicMaxLength then
          some handle
        else none) ↔
      ¬ TopicTooLong topic := by
  rw [topicTooLong_iff]
  split
  · next hcreated =>
    refine iff_of_true ⟨iff_of_true rfl hcreated.1, ?_⟩ fun hlong => hlong.2 hcreated.2
    rintro _ ⟨⟩
    rw [h]
    exact ⟨rfl, hcreated.2⟩
  · next hnone =>
    constructor
    · rintro ⟨hiff, -⟩ hlong
      exact absurd (hiff.mpr hlong.1) (by simp)
    · intro hlong
      refine ⟨iff_of_false (by simp) fun hvalid => ?_, by simp⟩
      exact hlong ⟨hvalid, fun hfits => hnone ⟨hvalid, hfits⟩⟩

/-- The valid topics are the usable ones: publishers and subscribers can be
created for them, and only for them. -/
structure TopicUsable {γ υ : Type} (callback : γ) (userData : υ) (topic : CString) : Prop where
  publisher : CreatedIffValid IpcPublisher.topic topic (ipcCreatePublisher (some topic) true)
  subscriber : CreatedIffValid IpcSubscriber.topic topic
    (ipcCreateSubscriber (some topic) (some callback) userData true)

/-- **Valid topics are exactly the usable ones**, but for the topics of 64
bytes that the validator accepts. -/
theorem topic_usable_iff {γ υ : Type} (callback : γ) (userData : υ) (topic : CString) :
    TopicUsable callback userData topic ↔ ¬ TopicTooLong topic := by
  have hpublisher := createdIffValid_iff IpcPublisher.topic topic ⟨topic, 0, 0⟩ rfl
  have hsubscriber := createdIffValid_iff IpcSubscriber.topic topic
    ⟨topic, callback, userData, 0, 0⟩ rfl
  rw [← ipcCreatePublisher_of_allocated] at hpublisher
  rw [← ipcCreateSubscriber_of_allocated] at hsubscriber
  constructor
  · exact fun h => hpublisher.mp h.publisher
  · exact fun h => ⟨hpublisher.mpr h, hsubscriber.mpr h⟩

/-- A topic of 64 bytes: `a/b/` and sixty times `c`. -/
def topicOf64 : CString where
  bytes := asciiBytes "a/b/" ++ List.replicate 60 0x63
  noNul := by decide

/-- It is valid, and nobody can publish it. -/
theorem topicOf64_not_usable :
    ¬ ∀ topic : CString, TopicUsable (0 : Nat) (0 : Nat) topic := by
  intro h
  have hvalid : ipcValidateTopic (some topicOf64) = .valid := by decide
  have hnone : ipcCreatePublisher (some topicOf64) true = none := by decide
  have hsome := (h topicOf64).publisher.isSome_iff.mpr hvalid
  rw [hnone] at hsome
  contradiction

end AutoMlos
