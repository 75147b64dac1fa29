import AutoMlos.Lib.CString

/-!
# AutoMlos.IpcTopics

Topic names (`lib/libipc/ipc_topics.c`): the check every publisher and
subscriber makes of its topic.
-/

namespace AutoMlos

open Lib

/-- `MAX_TOPIC_LENGTH`. -/
def maxTopicLength : Nat := 64

/-- `ipc_topic_validation_t`. -/
inductive IpcTopicValidation where
  | valid
  | invalidFormat
  | invalidCategory
  | invalidSubcategory
  | reservedNamespace
  | lengthExceeded
  deriving DecidableEq, Repr

/-- `'/'`. -/
def slash : UInt8 := 0x2F

/-- `"system/"`, the namespace that is always allowed. -/
def systemNamespace : CString := .ofAscii "system/"

/-- `RESERVED_NAMESPACES`. -/
def reservedNamespaces : List CString := [systemNamespace, .ofAscii "kernel/", .ofAscii "safety/"]

/-- Two slashes in a row. -/
def hasEmptySegment : List UInt8 → Bool
  | a :: b :: rest => (a = slash ∧ b = slash) || hasEmptySegment (b :: rest)
  | _ => false

/-- `ipc_validate_topic`. -/
def ipcValidateTopic (topic : Option CString) : IpcTopicValidation :=
  match topic with
  | none => .invalidFormat
  | some topic =>
      if topic.length = 0 ∨ topic.length > maxTopicLength then .lengthExceeded
      else if topic.bytes.count slash ≠ 2 then .invalidFormat
      else if topic.bytes.head? = some slash ∨ topic.bytes.getLast? = some slash then .invalidFormat
      else if hasEmptySegment topic.bytes then .invalidFormat
      else if !topic.startsWith systemNamespace ∧
          reservedNamespaces.any fun reserved =>
            reserved ≠ systemNamespace && topic.startsWith reserved then
        .reservedNamespace
      else .valid

end AutoMlos
