import AutoMlos.IpcPubsub.Usable
import Mathlib.Tactic.IntervalCases

/-!
# AutoMlos.IpcTopics.Building

Topics made from a category, and the category read back
(`lib/libipc/ipc_topics.c`).

The category of a string is the one whose name comes before its first slash
(`ipcGetTopicCategory_eq_some_iff`), and building a topic keeps its category
(`ipcGetTopicCategory_of_built`).  The topics of the safety category are an
exception: the validator reserves their namespace, so none is built.

An argument of an enumeration type is any value of 32 bits, and an enumerator
beyond the last is `none`.
-/

namespace AutoMlos

open Lib

/-! ## the enumerations -/

/-- `ipc_topic_category_t`, up to `IPC_TOPIC_CATEGORY_COUNT`. -/
inductive IpcTopicCategory where
  | vision
  | vehicle
  | ai
  | system
  | safety
  | communication
  | diagnostics
  | power
  deriving DecidableEq, Repr

/-- `ipc_topic_system_t`, up to `IPC_TOPIC_SYSTEM_COUNT`. -/
inductive IpcTopicSystem where
  | monitor
  | diagnostic
  | logging
  | power
  deriving DecidableEq, Repr

/-- `ipc_topic_logging_t`, up to `IPC_TOPIC_LOGGING_COUNT`. -/
inductive IpcTopicLogging where
  | emergency
  | error
  | info
  | debug
  deriving DecidableEq, Repr

/-- The categories, in order. -/
def IpcTopicCategory.all : List IpcTopicCategory :=
  [.vision, .vehicle, .ai, .system, .safety, .communication, .diagnostics, .power]

/-- The system subcategories, in order. -/
def IpcTopicSystem.all : List IpcTopicSystem := [.monitor, .diagnostic, .logging, .power]

/-- The logging subcategories, in order. -/
def IpcTopicLogging.all : List IpcTopicLogging := [.emergency, .error, .info, .debug]

/-- `TOPIC_BASE_STRINGS`. -/
def topicBaseStrings : IpcTopicCategory → CString
  | .vision => .ofAscii "vision"
  | .vehicle => .ofAscii "vehicle"
  | .ai => .ofAscii "ai"
  | .system => .ofAscii "system"
  | .safety => .ofAscii "safety"
  | .communication => .ofAscii "communication"
  | .diagnostics => .ofAscii "diagnostics"
  | .power => .ofAscii "power"

/-- `TOPIC_SYSTEM_STRINGS`. -/
def topicSystemStrings : IpcTopicSystem → CString
  | .monitor => .ofAscii "monitor"
  | .diagnostic => .ofAscii "diagnostic"
  | .logging => .ofAscii "logging"
  | .power => .ofAscii "power"

theorem noNul_error : 0 ∉ asciiBytes "error" := by decide

/-- `TOPIC_LOGGING_STRINGS`. -/
def topicLoggingStrings : IpcTopicLogging → CString
  | .emergency => .ofAscii "emergency"
  | .error => .ofAscii "error" noNul_error
  | .info => .ofAscii "info"
  | .debug => .ofAscii "debug"

theorem noNul_systemLoggingInfo : 0 ∉ asciiBytes "system/logging/info" := by decide

/-- `IPC_TOPIC_SYSTEM_LOGGING_INFO`. -/
def systemLoggingInfo : CString := .ofAscii "system/logging/info" noNul_systemLoggingInfo

/-! ## the category of a string -/

/-- `ipc_get_topic_category`, with `none` for `IPC_TOPIC_CATEGORY_COUNT`. -/
def ipcGetTopicCategory (topic : Option CString) : Option IpcTopicCategory :=
  match topic with
  | none => none
  | some topic =>
      if slash ∉ topic.bytes then none
      else
        let categoryStr := topic.bytes.takeWhile (· ≠ slash)
        if categoryStr.length ≥ 32 then none
        else
          IpcTopicCategory.all.find? fun category => categoryStr = (topicBaseStrings category).bytes

theorem IpcTopicCategory.mem_all (category : IpcTopicCategory) : category ∈ all := by
  cases category <;> decide

/-- **The category of a string** is the one whose name and a slash it starts
with. -/
theorem ipcGetTopicCategory_eq_some_iff (topic : CString) (category : IpcTopicCategory) :
    ipcGetTopicCategory (some topic) = some category ↔
      (topicBaseStrings category).bytes ++ [slash] <+: topic.bytes := by
  have hbase : ∀ c ∈ IpcTopicCategory.all, slash ∉ (topicBaseStrings c).bytes ∧
      (topicBaseStrings c).bytes.length < 32 := by
    decide
  obtain ⟨hname, hshort⟩ := hbase category category.mem_all
  rw [← takeWhile_ne_eq_iff hname, ipcGetTopicCategory]
  constructor
  · intro h
    split at h
    · contradiction
    · next hslash =>
      dsimp only at h
      split at h
      · contradiction
      · have hfound := List.find?_some h
        exact ⟨not_not.mp hslash, of_decide_eq_true hfound⟩
  · rintro ⟨hslash, hfirst⟩
    rw [if_neg (not_not.mpr hslash)]
    simp only [hfirst, if_neg (Nat.not_le.mpr hshort)]
    cases category <;> decide

/-! ## building -/

/-- `"%s/%s/%s"`. -/
def joinTopic (a b c : CString) : CString where
  bytes := a.bytes ++ slash :: (b.bytes ++ slash :: c.bytes)
  noNul := by simp [a.noNul, b.noNul, c.noNul, slash]

theorem noNul_status : 0 ∉ asciiBytes "status" := by decide

/-- What `ipc_build_topic` writes for the system category. -/
def buildSystemTopic (systemType : IpcTopicSystem) (loggingType : UInt32) : Option CString :=
  let first := topicBaseStrings .system
  let second := topicSystemStrings systemType
  match systemType with
  | .logging =>
      match IpcTopicLogging.all[loggingType.toNat]? with
      | none => none
      | some loggingType => some (joinTopic first second (topicLoggingStrings loggingType))
  | .monitor => some (joinTopic first second (.ofAscii "status" noNul_status))
  | .diagnostic => some (joinTopic first second (.ofAscii "status" noNul_status))
  | .power => some (joinTopic first second (.ofAscii "status" noNul_status))

/-- What `ipc_build_topic` writes for a category, before its `snprintf` cuts it
to the buffer. -/
def buildCategoryTopic (category : IpcTopicCategory) (systemType loggingType : UInt32) :
    Option CString :=
  let first := topicBaseStrings category
  match category with
  | .system =>
      match IpcTopicSystem.all[systemType.toNat]? with
      | none => none
      | some systemType => buildSystemTopic systemType loggingType
  | .safety => some (joinTopic first (.ofAscii "status" noNul_status) (.ofAscii "overall"))
  | .vehicle => some (joinTopic first (.ofAscii "control") (.ofAscii "command"))
  | .vision => some (joinTopic first (.ofAscii "camera") (.ofAscii "frame"))
  | .ai => some (joinTopic first (.ofAscii "inference") (.ofAscii "result"))
  | .communication => some (joinTopic first (.ofAscii "can") (.ofAscii "message"))
  | .diagnostics => some (joinTopic first (.ofAscii "status" noNul_status) (.ofAscii "overall"))
  | .power => some (joinTopic first (.ofAscii "status" noNul_status) (.ofAscii "overall"))

/-- `ipc_build_topic`. -/
def ipcBuildTopic (category systemType loggingType : UInt32) : Option CString :=
  match IpcTopicCategory.all[category.toNat]? with
  | none => none
  | some category =>
      match buildCategoryTopic category systemType loggingType with
      | none => none
      | some topic =>
          let topicBuffer := topic.truncate maxTopicLength
          if ipcValidateTopic (some topicBuffer) ≠ .valid then none else some topicBuffer

/-- The arguments a topic is built for: the subcategories count in the system
category only. -/
def TopicBuildable (category systemType loggingType : UInt32) : Prop :=
  category < 8 ∧ category ≠ 4 ∧
    (category = 3 → systemType < 4 ∧ (systemType = 2 → loggingType < 4))

/-- Two choices of arguments mean the same topic. -/
def SameTopic (category systemType loggingType category' systemType' loggingType' : UInt32) :
    Prop :=
  category = category' ∧
    (category = 3 → systemType = systemType' ∧ (systemType = 2 → loggingType = loggingType'))

section Building

variable {category systemType loggingType category' systemType' loggingType' : UInt32}
variable {c c' : IpcTopicCategory} {topic : CString}

/-- A topic of the buffer's size that the validator accepts. -/
def TopicAccepted (topic : CString) : Prop :=
  topic.length < ipcTopicMaxLength ∧ ipcValidateTopic (some topic) = .valid

instance (topic : CString) : Decidable (TopicAccepted topic) := inferInstanceAs (Decidable (_ ∧ _))

theorem buildSystemTopic_usable {systemType : IpcTopicSystem}
    (h : buildSystemTopic systemType loggingType = some topic) : TopicAccepted topic := by
  cases systemType with
  | monitor =>
      cases h
      decide
  | diagnostic =>
      cases h
      decide
  | logging =>
      simp only [buildSystemTopic] at h
      split at h
      · contradiction
      · next logging _ =>
        cases h
        cases logging <;> decide
  | power =>
      cases h
      decide

/-- All topics but those of the safety category are usable. -/
theorem buildCategoryTopic_usable (h : buildCategoryTopic c systemType loggingType = some topic)
    (hc : c ≠ .safety) : TopicAccepted topic := by
  cases c with
  | safety => contradiction
  | system =>
      simp only [buildCategoryTopic] at h
      split at h
      · contradiction
      · exact buildSystemTopic_usable h
  | _ =>
      cases h
      decide

/-- The name of the category comes first. -/
theorem buildCategoryTopic_base (h : buildCategoryTopic c systemType loggingType = some topic) :
    (topicBaseStrings c).bytes ++ [slash] <+: topic.bytes := by
  have hjoin (a b c : CString) : a.bytes ++ [slash] <+: (joinTopic a b c).bytes :=
    ⟨b.bytes ++ slash :: c.bytes, List.append_assoc _ _ _⟩
  cases c with
  | system =>
      simp only [buildCategoryTopic] at h
      split at h
      · contradiction
      · next systemType _ =>
        cases systemType with
        | logging =>
            simp only [buildSystemTopic] at h
            split at h
            · contradiction
            · cases h
              exact hjoin _ _ _
        | _ =>
            cases h
            exact hjoin _ _ _
  | _ =>
      cases h
      exact hjoin _ _ _

/-- What `ipc_build_topic` returns: the validation refuses the safety category
only, and nothing is cut off. -/
theorem ipcBuildTopic_eq (hc : IpcTopicCategory.all[category.toNat]? = some c) :
    ipcBuildTopic category systemType loggingType =
      if c = .safety then none else buildCategoryTopic c systemType loggingType := by
  simp only [ipcBuildTopic, hc]
  by_cases hsafety : c = .safety
  · subst hsafety
    rfl
  · rw [if_neg hsafety]
    cases hbuilt : buildCategoryTopic c systemType loggingType with
    | none => rfl
    | some topic =>
        obtain ⟨hshort, hvalid⟩ := buildCategoryTopic_usable hbuilt hsafety
        have hwhole : topic.truncate maxTopicLength = topic :=
          CString.truncate_of_length_le (Nat.le_of_lt hshort)
        simp only [hwhole, hvalid, ne_eq, not_true_eq_false, if_false]

/-! ## which arguments, and which topic -/

theorem IpcTopicCategory.getElem?_all {n : Nat} : all[n]? = some c ↔ n = c.ctorIdx := by
  constructor
  · intro h
    have hlt : n < 8 := (List.getElem?_eq_some_iff.mp h).1
    interval_cases n <;> cases h <;> rfl
  · rintro rfl
    cases c <;> rfl

theorem IpcTopicSystem.getElem?_all {n : Nat} {s : IpcTopicSystem} :
    all[n]? = some s ↔ n = s.ctorIdx := by
  constructor
  · intro h
    have hlt : n < 4 := (List.getElem?_eq_some_iff.mp h).1
    interval_cases n <;> cases h <;> rfl
  · rintro rfl
    cases s <;> rfl

theorem IpcTopicLogging.getElem?_all {n : Nat} {l : IpcTopicLogging} :
    all[n]? = some l ↔ n = l.ctorIdx := by
  constructor
  · intro h
    have hlt : n < 4 := (List.getElem?_eq_some_iff.mp h).1
    interval_cases n <;> cases h <;> rfl
  · rintro rfl
    cases l <;> rfl

/-- The enumerators that `TopicBuildable` and `SameTopic` name. -/
theorem category_eq_iff (hc : IpcTopicCategory.all[category.toNat]? = some c) :
    category < 8 ∧ (category = 4 ↔ c = .safety) ∧ (category = 3 ↔ c = .system) := by
  have hvalue : category = UInt32.ofNat c.ctorIdx := by
    rw [← IpcTopicCategory.getElem?_all.mp hc, UInt32.ofNat_toNat]
  subst hvalue
  cases c <;> decide

theorem systemType_eq_iff {s : IpcTopicSystem}
    (hs : IpcTopicSystem.all[systemType.toNat]? = some s) :
    systemType < 4 ∧ (systemType = 2 ↔ s = .logging) := by
  have hvalue : systemType = UInt32.ofNat s.ctorIdx := by
    rw [← IpcTopicSystem.getElem?_all.mp hs, UInt32.ofNat_toNat]
  subst hvalue
  cases s <;> decide

/-- A value beyond the last enumerator. -/
theorem not_lt_of_getElem?_eq_none {α : Type} {values : List α} {value count : UInt32}
    (h : values[value.toNat]? = none) (hcount : values.length = count.toNat) : ¬ value < count := by
  rw [UInt32.lt_iff_toNat_lt, ← hcount]
  exact Nat.not_lt.mpr (List.getElem?_eq_none_iff.mp h)

theorem isSome_buildSystemTopic (s : IpcTopicSystem) :
    (buildSystemTopic s loggingType).isSome ↔ (s = .logging → loggingType < 4) := by
  cases s with
  | logging =>
      simp only [buildSystemTopic, forall_const]
      cases hl : IpcTopicLogging.all[loggingType.toNat]? with
      | none =>
          have hlarge : ¬ loggingType < 4 := not_lt_of_getElem?_eq_none hl rfl
          simpa using hlarge
      | some l =>
          have hlt : loggingType.toNat < 4 := (List.getElem?_eq_some_iff.mp hl).1
          simpa [UInt32.lt_iff_toNat_lt] using hlt
  | _ => simp [buildSystemTopic]

/-- **What is built**: a topic of each category but safety, in the system
category for the subcategories there are. -/
theorem isSome_ipcBuildTopic :
    (ipcBuildTopic category systemType loggingType).isSome ↔
      TopicBuildable category systemType loggingType := by
  cases hc : IpcTopicCategory.all[category.toNat]? with
  | none =>
      have hlarge : ¬ category < 8 := not_lt_of_getElem?_eq_none hc rfl
      simp [ipcBuildTopic, hc, TopicBuildable, hlarge]
  | some c =>
      obtain ⟨hlt, hsafety, hsystem⟩ := category_eq_iff hc
      simp only [ipcBuildTopic_eq hc, TopicBuildable, hlt, ne_eq, hsafety, hsystem, true_and]
      cases c with
      | system =>
          simp only [buildCategoryTopic, reduceCtorEq, if_false, not_false_eq_true, true_and,
            forall_const]
          cases hs : IpcTopicSystem.all[systemType.toNat]? with
          | none => simpa using fun hsmall => absurd hsmall (not_lt_of_getElem?_eq_none hs rfl)
          | some s =>
              obtain ⟨hsmall, hlogging⟩ := systemType_eq_iff hs
              simp only [isSome_buildSystemTopic, hsmall, hlogging, true_and]
      | _ => simp [buildCategoryTopic]

/-- The category of a topic that is built. -/
theorem ipcGetTopicCategory_of_built
    (h : ipcBuildTopic category systemType loggingType = some topic) :
    ipcGetTopicCategory (some topic) = IpcTopicCategory.all[category.toNat]? ∧
      TopicAccepted topic := by
  cases hc : IpcTopicCategory.all[category.toNat]? with
  | none =>
      rw [ipcBuildTopic, hc] at h
      contradiction
  | some c =>
      rw [ipcBuildTopic_eq hc] at h
      split at h
      · contradiction
      · next hsafety =>
        exact ⟨(ipcGetTopicCategory_eq_some_iff topic c).mpr (buildCategoryTopic_base h),
          buildCategoryTopic_usable h hsafety⟩

/-- The parts of a topic can be read off it. -/
theorem joinTopic_inj {a b b' x x' : CString} (hb : slash ∉ b.bytes) (hb' : slash ∉ b'.bytes)
    (h : joinTopic a b x = joinTopic a b' x') : b.bytes = b'.bytes ∧ x.bytes = x'.bytes := by
  have hbytes := congrArg CString.bytes h
  have hrest := (List.cons.inj (List.append_cancel_left hbytes)).2
  have hfirst : b.bytes ++ [slash] <+: b'.bytes ++ slash :: x'.bytes :=
    ⟨x.bytes, (List.append_assoc _ _ _).trans hrest⟩
  have hfirst' : b'.bytes ++ [slash] <+: b'.bytes ++ slash :: x'.bytes :=
    ⟨x'.bytes, List.append_assoc _ _ _⟩
  have hsecond : b.bytes = b'.bytes :=
    ((takeWhile_ne_eq_iff hb _).mpr hfirst).2.symm.trans ((takeWhile_ne_eq_iff hb' _).mpr hfirst').2
  rw [hsecond] at hrest
  exact ⟨hsecond, (List.cons.inj (List.append_cancel_left hrest)).2⟩

/-- A system topic and its parts. -/
theorem buildSystemTopic_eq_some {s : IpcTopicSystem}
    (h : buildSystemTopic s loggingType = some topic) :
    ∃ third, topic = joinTopic (topicBaseStrings .system) (topicSystemStrings s) third ∧
      (s = .logging → ∃ l, IpcTopicLogging.all[loggingType.toNat]? = some l ∧
        third = topicLoggingStrings l) := by
  cases s with
  | logging =>
      simp only [buildSystemTopic] at h
      split at h
      · contradiction
      · next l hl => exact ⟨_, (Option.some.inj h).symm, fun _ => ⟨l, hl, rfl⟩⟩
  | _ => exact ⟨_, (Option.some.inj h).symm, fun hlogging => by contradiction⟩

/-- The system topics differ. -/
theorem buildSystemTopic_injective {s s' : IpcTopicSystem}
    (h : buildSystemTopic s loggingType = some topic)
    (h' : buildSystemTopic s' loggingType' = some topic) :
    s = s' ∧ (s = .logging → loggingType = loggingType') := by
  have hnames : ∀ s ∈ IpcTopicSystem.all, slash ∉ (topicSystemStrings s).bytes ∧
      ∀ s' ∈ IpcTopicSystem.all,
        (topicSystemStrings s).bytes = (topicSystemStrings s').bytes → s = s' := by
    decide
  have hlevels : ∀ l ∈ IpcTopicLogging.all, ∀ l' ∈ IpcTopicLogging.all,
      (topicLoggingStrings l).bytes = (topicLoggingStrings l').bytes → l = l' := by
    decide
  have hmem (s : IpcTopicSystem) : s ∈ IpcTopicSystem.all := by cases s <;> decide
  obtain ⟨third, rfl, hlogging⟩ := buildSystemTopic_eq_some h
  obtain ⟨third', htopic, hlogging'⟩ := buildSystemTopic_eq_some h'
  obtain ⟨hslash, hinj⟩ := hnames s (hmem s)
  obtain ⟨hsecond, hthird⟩ := joinTopic_inj hslash (hnames s' (hmem s')).1 htopic
  have hsame : s = s' := hinj s' (hmem s') hsecond
  refine ⟨hsame, fun hs => ?_⟩
  obtain ⟨l, hl, rfl⟩ := hlogging hs
  obtain ⟨l', hl', rfl⟩ := hlogging' (hsame ▸ hs)
  have hlevel : l = l' := hlevels l (List.mem_of_getElem? hl) l' (List.mem_of_getElem? hl') hthird
  have hindex := IpcTopicLogging.getElem?_all.mp hl
  rw [hlevel, ← IpcTopicLogging.getElem?_all.mp hl'] at hindex
  exact UInt32.toNat_inj.mp hindex

/-- **Two choices of arguments give the same topic** exactly when they mean the
same. -/
theorem ipcBuildTopic_eq_some_iff (h : ipcBuildTopic category systemType loggingType = some topic) :
    ipcBuildTopic category' systemType' loggingType' = some topic ↔
      SameTopic category systemType loggingType category' systemType' loggingType' := by
  obtain ⟨hcategory, -⟩ := ipcGetTopicCategory_of_built h
  cases hc : IpcTopicCategory.all[category.toNat]? with
  | none =>
      rw [ipcBuildTopic, hc] at h
      contradiction
  | some c =>
      obtain ⟨-, -, hsystem⟩ := category_eq_iff hc
      constructor
      · intro h'
        obtain ⟨hcategory', -⟩ := ipcGetTopicCategory_of_built h'
        have hc' : IpcTopicCategory.all[category'.toNat]? = some c := by
          rw [← hcategory', hcategory, hc]
        have hsame : category = category' := UInt32.toNat_inj.mp
          ((IpcTopicCategory.getElem?_all.mp hc).trans (IpcTopicCategory.getElem?_all.mp hc').symm)
        refine ⟨hsame, fun hthree => ?_⟩
        obtain rfl := hsystem.mp hthree
        rw [ipcBuildTopic_eq hc, if_neg (by decide)] at h
        rw [ipcBuildTopic_eq hc', if_neg (by decide)] at h'
        simp only [buildCategoryTopic] at h h'
        split at h
        · contradiction
        · next s hs =>
          split at h'
          · contradiction
          · next s' hs' =>
            obtain ⟨rfl, hlogging⟩ := buildSystemTopic_injective h h'
            have htype : systemType = systemType' := UInt32.toNat_inj.mp
              ((IpcTopicSystem.getElem?_all.mp hs).trans (IpcTopicSystem.getElem?_all.mp hs').symm)
            exact ⟨htype, fun htwo => hlogging ((systemType_eq_iff hs).2.mp htwo)⟩
      · rintro ⟨rfl, hsubcategory⟩
        rw [← h, ipcBuildTopic_eq hc, ipcBuildTopic_eq hc]
        cases c with
        | system =>
            obtain ⟨rfl, hlogging⟩ := hsubcategory (hsystem.mpr rfl)
            simp only [buildCategoryTopic]
            cases hs : IpcTopicSystem.all[systemType.toNat]? with
            | none => rfl
            | some s =>
                cases s with
                | logging => rw [hlogging ((systemType_eq_iff hs).2.mpr rfl)]
                | _ => rfl
        | _ => rfl

end Building

/-- **Topics from categories and back**: a topic is built for each category but
safety and each subcategory of the system; it names its category, a handle can
be created for it, and it is built for no other arguments.  Any string has the
category whose name and a slash it starts with. -/
theorem topic_round_trip (category systemType loggingType : UInt32) :
    (∀ (topic : CString) (c : IpcTopicCategory), ipcGetTopicCategory (some topic) = some c ↔
      (topicBaseStrings c).bytes ++ [slash] <+: topic.bytes) ∧
    ((ipcBuildTopic category systemType loggingType).isSome ↔
      TopicBuildable category systemType loggingType) ∧
    ∀ topic ∈ ipcBuildTopic category systemType loggingType,
      ipcGetTopicCategory (some topic) = IpcTopicCategory.all[category.toNat]? ∧
      ipcCreatePublisher (some topic) true = some ⟨topic, 0, 0⟩ ∧
      ∀ category' systemType' loggingType',
        ipcBuildTopic category' systemType' loggingType' = some topic ↔
          SameTopic category systemType loggingType category' systemType' loggingType' := by
  refine ⟨ipcGetTopicCategory_eq_some_iff, isSome_ipcBuildTopic, fun topic htopic => ?_⟩
  obtain ⟨hcategory, hshort, hvalid⟩ := ipcGetTopicCategory_of_built htopic
  refine ⟨hcategory, ?_, fun _ _ _ => ipcBuildTopic_eq_some_iff htopic⟩
  rw [ipcCreatePublisher_of_allocated, if_pos ⟨hvalid, hshort⟩]

end AutoMlos
