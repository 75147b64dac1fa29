import AutoMlos.IpcTopics
import AutoMlos.Lib.Fields

/-!
# AutoMlos.IpcTopics.Grammar

The topics that `ipc_validate_topic` accepts.

The function scans a topic four times: it counts the slashes, looks at both
ends, looks for two slashes in a row, and compares the front with the
reserved namespaces.  The first three scans together say that the topic is
`a/b/c` with three non-empty parts (`TopicForm`); the last one says that it
is not in the namespaces of the kernel or of safety.
-/

namespace AutoMlos

open Lib

/-- The length a topic may have. -/
def TopicLength (topic : CString) : Prop := 1 ≤ topic.length ∧ topic.length ≤ 64

/-- A part of a topic: not empty, and without a slash. -/
def TopicPart (bytes : List UInt8) : Prop := bytes ≠ [] ∧ slash ∉ bytes

/-- `a/b/c`. -/
def TopicForm (topic : CString) : Prop :=
  ∃ a b c, TopicPart a ∧ TopicPart b ∧ TopicPart c ∧
    topic.bytes = a ++ slash :: (b ++ slash :: c)

/-- The topic begins with `"kernel/"` or `"safety/"`. -/
def TopicReserved (topic : CString) : Prop :=
  asciiBytes "kernel/" <+: topic.bytes ∨ asciiBytes "safety/" <+: topic.bytes

/-! ## the scans -/

theorem hasEmptySegment_iff (bytes : List UInt8) :
    hasEmptySegment bytes = true ↔ [slash, slash] <:+: bytes := by
  induction bytes with
  | nil => simp [hasEmptySegment]
  | cons a rest ih =>
      cases rest with
      | nil => simp [hasEmptySegment, List.infix_cons_iff]
      | cons b rest =>
          have hcons : hasEmptySegment (a :: b :: rest) =
              (decide (a = slash ∧ b = slash) || hasEmptySegment (b :: rest)) := rfl
          rw [hcons, Bool.or_eq_true, decide_eq_true_iff, ih]
          conv_rhs => rw [List.infix_cons_iff]
          simp [List.cons_prefix_cons, eq_comm]

/-- A topic has the form of one exactly when the scans pass it. -/
theorem topicForm_iff {topic : CString} (hlen : topic.length ≠ 0) :
    TopicForm topic ↔ topic.bytes.count slash = 2 ∧
      ¬ (topic.bytes.head? = some slash ∨ topic.bytes.getLast? = some slash) ∧
      hasEmptySegment topic.bytes ≠ true := by
  have hform : TopicForm topic ↔ Fields slash 2 topic.bytes := by
    constructor
    · rintro ⟨a, b, c, ha, hb, hc, heq⟩
      exact ⟨a, _, ha, ⟨b, c, hb, hc, rfl⟩, heq⟩
    · rintro ⟨a, rest, ha, ⟨b, c, hb, hc, rfl⟩, heq⟩
      exact ⟨a, b, c, ha, hb, hc, heq⟩
  rw [hform, fields_iff_scanned, ne_eq, hasEmptySegment_iff, not_or]
  constructor
  · exact fun h => ⟨h.count, ⟨h.first, h.last⟩, h.apart⟩
  · rintro ⟨hcount, ⟨hfirst, hlast⟩, hapart⟩
    have hne : topic.bytes ≠ [] := fun hnil => hlen (List.length_eq_zero_iff.mpr hnil)
    exact ⟨hne, hcount, hfirst, hlast, hapart⟩

/-- The namespaces of the system and of safety differ. -/
theorem not_safety_of_system {topic : CString} (h : systemNamespace.bytes <+: topic.bytes) :
    ¬ TopicReserved topic := by
  have hdiffer (name : List UInt8) (hlen : name.length = systemNamespace.bytes.length)
      (hne : name ≠ systemNamespace.bytes) : ¬ name <+: topic.bytes := fun hname =>
    hne ((List.prefix_of_prefix_length_le hname h (Nat.le_of_eq hlen)).eq_of_length hlen)
  exact not_or.mpr ⟨hdiffer _ (by decide) (by decide), hdiffer _ (by decide) (by decide)⟩

/-- The namespace check refuses exactly the reserved topics; that the system's
own topics skip it makes no difference. -/
theorem namespaceCheck_iff (topic : CString) :
    ((!topic.startsWith systemNamespace) = true ∧
        (reservedNamespaces.any fun reserved =>
          reserved ≠ systemNamespace && topic.startsWith reserved) = true) ↔
      TopicReserved topic := by
  have hkernel : CString.ofAscii "kernel/" ≠ systemNamespace := by decide
  have hsafety : CString.ofAscii "safety/" ≠ systemNamespace := by decide
  have hany : (reservedNamespaces.any fun reserved =>
      reserved ≠ systemNamespace && topic.startsWith reserved) = true ↔ TopicReserved topic := by
    simp [reservedNamespaces, hkernel, hsafety, CString.startsWith_iff, TopicReserved]
  rw [hany, Bool.not_eq_true', ← Bool.not_eq_true, CString.startsWith_iff]
  exact and_iff_right_of_imp fun hreserved hsystem => not_safety_of_system hsystem hreserved

/-! ## the verdict -/

section Verdict

variable {topic : CString}

theorem ipcValidateTopic_of_not_length (h : ¬ TopicLength topic) :
    ipcValidateTopic (some topic) = .lengthExceeded := by
  refine if_pos ?_
  simp only [TopicLength, maxTopicLength] at h ⊢
  omega

/-- Past the length check. -/
theorem ipcValidateTopic_of_length (h : TopicLength topic) :
    (¬ TopicForm topic → ipcValidateTopic (some topic) = .invalidFormat) ∧
      (TopicForm topic → TopicReserved topic →
        ipcValidateTopic (some topic) = .reservedNamespace) ∧
      (TopicForm topic → ¬ TopicReserved topic → ipcValidateTopic (some topic) = .valid) := by
  have hlen : ¬ (topic.length = 0 ∨ topic.length > maxTopicLength) := by
    simp only [TopicLength, maxTopicLength] at h ⊢
    omega
  rw [topicForm_iff fun hzero => hlen (Or.inl hzero)]
  simp only [ipcValidateTopic, if_neg hlen]
  refine ⟨fun hform => ?_, fun hform hreserved => ?_, fun hform hfree => ?_⟩
  · split
    · rfl
    · next hcount =>
      split
      · rfl
      · next hends =>
        split
        · rfl
        · next hapart => exact absurd ⟨not_not.mp hcount, hends, hapart⟩ hform
  · rw [if_neg (not_not.mpr hform.1), if_neg hform.2.1, if_neg hform.2.2,
      if_pos ((namespaceCheck_iff topic).mpr hreserved)]
  · rw [if_neg (not_not.mpr hform.1), if_neg hform.2.1, if_neg hform.2.2,
      if_neg (mt (namespaceCheck_iff topic).mp hfree)]

end Verdict

/-- **The topic grammar**: the verdict on every string. -/
theorem ipcValidateTopic_grammar (topic : CString) :
    (ipcValidateTopic (some topic) = .valid ↔
      TopicLength topic ∧ TopicForm topic ∧ ¬ TopicReserved topic) ∧
    (ipcValidateTopic (some topic) = .lengthExceeded ↔ ¬ TopicLength topic) ∧
    (ipcValidateTopic (some topic) = .invalidFormat ↔ TopicLength topic ∧ ¬ TopicForm topic) ∧
    (ipcValidateTopic (some topic) = .reservedNamespace ↔
      TopicLength topic ∧ TopicForm topic ∧ TopicReserved topic) := by
  by_cases hlen : TopicLength topic
  · obtain ⟨hinvalid, hreserved, hvalid⟩ := ipcValidateTopic_of_length hlen
    by_cases hform : TopicForm topic
    · by_cases hname : TopicReserved topic
      · simp [hreserved hform hname, hlen, hform, hname]
      · simp [hvalid hform hname, hlen, hform, hname]
    · simp [hinvalid hform, hlen, hform]
  · simp [ipcValidateTopic_of_not_length hlen, hlen]

end AutoMlos
