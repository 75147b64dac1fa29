import AutoMlos.IpcTopics.Building

/-!
# AutoMlos.IpcPubsub.Init

The predefined topics (`lib/libipc/ipc_topics.c`) and their registration
(`ipc_init`, `lib/libipc/ipc_pubsub.c`).

Each topic is validated before it is registered.  The topic of the overall
safety status is a predefined one, and the validator refuses its namespace: it
is not registered, not built, and no publisher or subscriber is created for it
(`reserved_topics_closed`).
-/

namespace AutoMlos

open Lib

/-- `PREDEFINED_TOPICS`. -/
def predefinedTopics : List CString :=
  [.ofAscii "system/logging/emergency", .ofAscii "system/logging/error",
    systemLoggingInfo, .ofAscii "system/logging/debug",
    .ofAscii "system/monitor/status", .ofAscii "system/diagnostic/status",
    .ofAscii "system/power/status", .ofAscii "system/watchdog/status",
    .ofAscii "system/watchdog/event", .ofAscii "system/watchdog/heartbeat",
    .ofAscii "safety/status/overall", .ofAscii "vehicle/control/command",
    .ofAscii "vision/camera/frame", .ofAscii "ai/inference/result",
    .ofAscii "communication/can/message"]

/-- `ipc_is_predefined_topic`. -/
def ipcIsPredefinedTopic (topic : Option CString) : Bool :=
  match topic with
  | none => false
  | some topic => predefinedTopics.any fun predefined => topic = predefined

/-- `test_topics`. -/
def testTopics : List CString := [.ofAscii "application/vehicle/control"]

/-- What `ipc_init` counts, and the topics the kernel took. -/
structure TopicRegistration where
  registered : List CString
  successCount : Nat
  topicCount : Nat
  deriving DecidableEq, Repr

/-- One pass of the two loops of `ipc_init`: an invalid topic is passed over. -/
def registerTopic (r : TopicRegistration) (topic : CString) : TopicRegistration :=
  if ipcValidateTopic (some topic) ≠ .valid then r
  else
    let result := sysIpcRegisterTopic (some topic)
    let r :=
      if result.errorCode = errBaseOk then
        { r with registered := r.registered ++ [topic], successCount := r.successCount + 1 }
      else r
    { r with topicCount := r.topicCount + 1 }

/-- `ipc_init`. -/
def ipcInit : Int × TopicRegistration :=
  let r := predefinedTopics.foldl registerTopic ⟨[], 0, 0⟩
  let r := testTopics.foldl registerTopic r
  if r.successCount > 0 then (0, r) else (-1, r)

section Registration

variable {topic : CString}

/-- A valid topic is registered, and another one is skipped. -/
theorem registerTopic_eq (r : TopicRegistration) (topic : CString) :
    registerTopic r topic =
      if ipcValidateTopic (some topic) = .valid then
        ⟨r.registered ++ [topic], r.successCount + 1, r.topicCount + 1⟩
      else r := by
  by_cases hvalid : ipcValidateTopic (some topic) = .valid
  · have hregister := sysIpcRegisterTopic_of_valid hvalid
    simp only [registerTopic, hvalid, ne_eq, not_true_eq_false, if_false, hregister, if_true]
  · rw [registerTopic, if_pos hvalid, if_neg hvalid]

/-- A loop over topics registers the valid ones, in order. -/
theorem registered_foldl (topics : List CString) (r : TopicRegistration) :
    (topics.foldl registerTopic r).registered =
      r.registered ++ topics.filter fun topic => ipcValidateTopic (some topic) = .valid := by
  induction topics generalizing r with
  | nil => simp
  | cons topic topics ih =>
      rw [List.foldl_cons, ih, registerTopic_eq, List.filter_cons]
      by_cases hvalid : ipcValidateTopic (some topic) = .valid <;> simp [hvalid]

theorem mem_registered_ipcInit :
    topic ∈ ipcInit.2.registered ↔
      topic ∈ predefinedTopics ++ testTopics ∧ ipcValidateTopic (some topic) = .valid := by
  have hregistered : ipcInit.2.registered = (predefinedTopics ++ testTopics).filter
      fun topic => ipcValidateTopic (some topic) = .valid := by
    simp only [ipcInit, apply_ite Prod.snd, ite_self, registered_foldl, List.nil_append,
      List.filter_append]
  rw [hregistered, List.mem_filter, decide_eq_true_iff]

theorem ipcIsPredefinedTopic_iff :
    ipcIsPredefinedTopic (some topic) = true ↔ topic ∈ predefinedTopics := by
  simp [ipcIsPredefinedTopic]

instance (topic : CString) : Decidable (TopicReserved topic) :=
  inferInstanceAs (Decidable (_ ∨ _))

end Registration

/-- **What `ipc_init` registers, and what nobody can use**: the predefined
topics outside the reserved namespaces and the topic of the tests.  A topic in a
reserved namespace is not built, not registered, and has no handle. -/
theorem reserved_topics_closed (topic : CString) :
    (topic ∈ ipcInit.2.registered ↔
      (ipcIsPredefinedTopic (some topic) = true ∧ ¬ TopicReserved topic) ∨ topic ∈ testTopics) ∧
    (TopicReserved topic →
      (∀ category systemType loggingType,
        ipcBuildTopic category systemType loggingType ≠ some topic) ∧
      (∀ allocated, ipcCreatePublisher (some topic) allocated = none) ∧
      ∀ (γ υ : Type) (callback : Option γ) (userData : υ) allocated,
        ipcCreateSubscriber (some topic) callback userData allocated = none) := by
  have hpredefined : ∀ t ∈ predefinedTopics,
      (ipcValidateTopic (some t) = .valid ↔ ¬ TopicReserved t) := by
    decide +kernel
  have htest : ∀ t ∈ testTopics, ipcValidateTopic (some t) = .valid := by decide
  have hinvalid (hreserved : TopicReserved topic) : ipcValidateTopic (some topic) ≠ .valid :=
    fun hvalid => ((ipcValidateTopic_grammar topic).1.mp hvalid).2.2 hreserved
  constructor
  · rw [mem_registered_ipcInit, ipcIsPredefinedTopic_iff, List.mem_append]
    constructor
    · rintro ⟨hmem | hmem, hvalid⟩
      · exact .inl ⟨hmem, (hpredefined topic hmem).mp hvalid⟩
      · exact .inr hmem
    · rintro (⟨hmem, hfree⟩ | hmem)
      · exact ⟨.inl hmem, (hpredefined topic hmem).mpr hfree⟩
      · exact ⟨.inr hmem, htest topic hmem⟩
  · intro hreserved
    have hclosed := hinvalid hreserved
    refine ⟨fun category systemType loggingType hbuilt => ?_, fun allocated => ?_, ?_⟩
    · exact hclosed (ipcGetTopicCategory_of_built hbuilt).2.2
    · rw [ipcCreatePublisher, if_pos hclosed]
    · intro γ υ callback userData allocated
      cases callback with
      | none => rfl
      | some callback => rw [ipcCreateSubscriber, if_pos hclosed]

/-- The overall safety status is predefined, and closed. -/
theorem reserved_topics_closed_safety :
    ipcIsPredefinedTopic (some (.ofAscii "safety/status/overall")) = true ∧
      .ofAscii "safety/status/overall" ∉ ipcInit.2.registered ∧
      ipcCreatePublisher (some (.ofAscii "safety/status/overall")) true = none := by
  have hreserved : TopicReserved (.ofAscii "safety/status/overall") := by decide
  obtain ⟨hregistered, hclosed⟩ := reserved_topics_closed (.ofAscii "safety/status/overall")
  refine ⟨by decide, fun hmem => ?_, (hclosed hreserved).2.1 true⟩
  rcases hregistered.mp hmem with ⟨-, hfree⟩ | htest
  · exact hfree hreserved
  · exact absurd htest (by decide)

end AutoMlos
