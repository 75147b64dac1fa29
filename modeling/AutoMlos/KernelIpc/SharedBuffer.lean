import AutoMlos.Lib.Run
import AutoMlos.KernelIpc
import Mathlib.Algebra.Ring.Nat

/-!
# AutoMlos.KernelIpc.SharedBuffer

Allocation from the shared buffer: it only ever moves `used` upwards, so
ranges are inside the buffer and apart as long as the 32-bit sum `used + size`
that it tests is the real one.  A sum that wraps always passes the test
(`sharedBuffer_sound_iff`).
-/

namespace AutoMlos

open Lib

/-! ## calls and their ledger -/

/-- A range that was handed out, and its id. -/
structure SharedGrant where
  range : Region
  bufferId : UInt32
  deriving DecidableEq, Repr

/-- `g_ipc` with the history of its shared buffer: the grants, latest first,
and the largest value `used` has had. -/
structure SharedLedger where
  ipc : KernelIpc
  granted : List SharedGrant
  maxUsed : Nat

/-- The ledger of a buffer nothing was allocated from yet. -/
def SharedLedger.start (ipc : KernelIpc) : SharedLedger :=
  { ipc, granted := [], maxUsed := ipc.sharedBuffer.used.toNat }

/-- One `ipc_alloc_shared_buffer`. -/
def SharedLedger.step (l : SharedLedger) (size : UInt32) : SystemError × SharedLedger :=
  match ipcAllocSharedBuffer l.ipc size false with
  | (error, ipc, some (buffer, bufferId)) =>
      (error,
        { ipc
          granted := ⟨⟨buffer, size.toNat⟩, bufferId⟩ :: l.granted
          maxUsed := max l.maxUsed ipc.sharedBuffer.used.toNat })
  | (error, ipc, none) => (error, { l with ipc })

/-- The bytes of the shared buffer. -/
def IpcSharedBuffer.region (shared : IpcSharedBuffer) : Region :=
  ⟨shared.baseAddress, shared.size.toNat⟩

/-- A request that the buffer has no room for. -/
def IpcSharedBuffer.Exhausted (shared : IpcSharedBuffer) (size : UInt32) : Prop :=
  shared.used.toNat + size.toNat > shared.size.toNat

/-- What a grant promises: the range behind the used part, inside the buffer,
apart from every earlier range, under a new id. -/
structure SharedLedger.Grants (l : SharedLedger) (size : UInt32) (grant : SharedGrant) : Prop where
  range : grant.range = ⟨l.ipc.sharedBuffer.baseAddress + l.ipc.sharedBuffer.used.toNat, size.toNat⟩
  inside : grant.range.base + grant.range.size ≤
    l.ipc.sharedBuffer.region.base + l.ipc.sharedBuffer.region.size
  disjoint : ∀ earlier ∈ l.granted, grant.range.Disjoint earlier.range
  fresh : l.granted.length < 2 ^ 32 → ∀ earlier ∈ l.granted, grant.bufferId ≠ earlier.bufferId

/-- What a call promises: `used` stays in the buffer and `watermark` is its
maximum; the call fails and changes nothing exactly when there is no room,
and otherwise grants a range. -/
structure SharedLedger.Sound (l : SharedLedger) (size : UInt32) (error : SystemError)
    (l' : SharedLedger) : Prop where
  used_le : l'.ipc.sharedBuffer.used ≤ l'.ipc.sharedBuffer.size
  watermark : l'.ipc.sharedBuffer.watermark.toNat = l'.maxUsed
  fails : l.ipc.sharedBuffer.Exhausted size ↔ error = ipcResourceUnavail
  unchanged : error ≠ ipcOk → l' = l
  grants : ¬ l.ipc.sharedBuffer.Exhausted size →
    error = ipcOk ∧ ∃ grant, l'.granted = grant :: l.granted ∧ l.Grants size grant

/-- The 32-bit sum of the capacity test does not wrap. -/
def SharedLedger.NoWrap (l : SharedLedger) (size : UInt32) : Prop :=
  l.ipc.sharedBuffer.used.toNat + size.toNat < 2 ^ 32

/-- The state of a ledger: all grants lie in the used part, and the ids count
them. -/
structure SharedLedger.Kept (l : SharedLedger) : Prop where
  initialized : l.ipc.initialized = true
  used_le : l.ipc.sharedBuffer.used ≤ l.ipc.sharedBuffer.size
  used_le_max : l.ipc.sharedBuffer.used.toNat ≤ l.maxUsed
  watermark : l.ipc.sharedBuffer.watermark.toNat = l.maxUsed
  below : ∀ grant ∈ l.granted, grant.range.base + grant.range.size ≤
    l.ipc.sharedBuffer.baseAddress + l.ipc.sharedBuffer.used.toNat
  count : l.ipc.sharedBuffer.allocationCount = UInt32.ofNat l.granted.length
  ids : ∀ grant ∈ l.granted, ∃ k < l.granted.length, grant.bufferId = UInt32.ofNat k

/-! ## one call -/

section Step

variable {l : SharedLedger} {size : UInt32}

/-- The shared buffer after `size` more bytes were used. -/
def IpcSharedBuffer.advance (shared : IpcSharedBuffer) (size : UInt32) : IpcSharedBuffer :=
  { shared with
    used := shared.used + size
    watermark := if shared.used + size > shared.watermark then shared.used + size
      else shared.watermark
    allocationCount := shared.allocationCount + 1 }

/-- An allocation of an initialised `g_ipc` fails and changes nothing, or
advances the buffer, as the 32-bit test says. -/
theorem ipcAllocSharedBuffer_of_initialized {ipc : KernelIpc} (h : ipc.initialized = true)
    (size : UInt32) :
    ipcAllocSharedBuffer ipc size false =
      if ipc.sharedBuffer.used + size > ipc.sharedBuffer.size then (ipcResourceUnavail, ipc, none)
      else (ipcOk, { ipc with sharedBuffer := ipc.sharedBuffer.advance size },
        some (ipc.sharedBuffer.baseAddress + ipc.sharedBuffer.used.toNat,
          ipc.sharedBuffer.allocationCount)) := by
  simp only [ipcAllocSharedBuffer, h]
  rfl

/-- The test is right about requests whose sum does not wrap. -/
theorem IpcSharedBuffer.exhausted_iff {shared : IpcSharedBuffer}
    (h : shared.used.toNat + size.toNat < 2 ^ 32) :
    shared.used + size > shared.size ↔ shared.Exhausted size := by
  rw [gt_iff_lt, UInt32.lt_iff_toNat_lt, UInt32.toNat_add, Nat.mod_eq_of_lt h]
  rfl

/-- A sum that wraps passes the test. -/
theorem IpcSharedBuffer.not_lt_of_wrap {shared : IpcSharedBuffer} (hle : shared.used ≤ shared.size)
    (h : 2 ^ 32 ≤ shared.used.toNat + size.toNat) : ¬ shared.used + size > shared.size := by
  have hused := UInt32.toNat_lt shared.used
  have hsize := UInt32.toNat_lt size
  rw [UInt32.le_iff_toNat_le] at hle
  rw [gt_iff_lt, UInt32.lt_iff_toNat_lt, UInt32.toNat_add]
  omega

/-- Ids below `2 ^ 32` are different. -/
theorem ofNat_ne_of_lt {j k : Nat} (hjk : j < k) (hk : k < 2 ^ 32) :
    UInt32.ofNat k ≠ UInt32.ofNat j := by
  intro heq
  have hval := congrArg UInt32.toNat heq
  rw [UInt32.toNat_ofNat', UInt32.toNat_ofNat'] at hval
  omega

theorem SharedLedger.Kept.step_of_exhausted (h : l.Kept) (hwrap : l.NoWrap size)
    (hfull : l.ipc.sharedBuffer.Exhausted size) : l.step size = (ipcResourceUnavail, l) := by
  have htest := (IpcSharedBuffer.exhausted_iff hwrap).mpr hfull
  simp only [SharedLedger.step, ipcAllocSharedBuffer_of_initialized h.initialized, if_pos htest]

/-- The grant of an allocation that passes the test. -/
def SharedLedger.grant (l : SharedLedger) (size : UInt32) : SharedGrant where
  range := ⟨l.ipc.sharedBuffer.baseAddress + l.ipc.sharedBuffer.used.toNat, size.toNat⟩
  bufferId := l.ipc.sharedBuffer.allocationCount

/-- The ledger after an allocation that passes the test. -/
def SharedLedger.advance (l : SharedLedger) (size : UInt32) : SharedLedger where
  ipc := { l.ipc with sharedBuffer := l.ipc.sharedBuffer.advance size }
  granted := l.grant size :: l.granted
  maxUsed := max l.maxUsed (l.ipc.sharedBuffer.used + size).toNat

theorem SharedLedger.Kept.step_of_room (h : l.Kept)
    (htest : ¬ l.ipc.sharedBuffer.used + size > l.ipc.sharedBuffer.size) :
    l.step size = (ipcOk, l.advance size) := by
  simp only [SharedLedger.step, ipcAllocSharedBuffer_of_initialized h.initialized, if_neg htest]
  rfl

theorem SharedLedger.Kept.grants (h : l.Kept) (hroom : ¬ l.ipc.sharedBuffer.Exhausted size) :
    l.Grants size (l.grant size) where
  range := rfl
  inside := by
    simp only [IpcSharedBuffer.Exhausted] at hroom
    simp only [SharedLedger.grant, IpcSharedBuffer.region]
    omega
  disjoint := by
    intro earlier hmem
    exact Or.inr (h.below earlier hmem)
  fresh := by
    intro hlt earlier hmem
    obtain ⟨k, hk, hid⟩ := h.ids earlier hmem
    rw [SharedLedger.grant, h.count, hid]
    exact ofNat_ne_of_lt hk hlt

/-- A call that finds no room keeps its promises by changing nothing. -/
theorem SharedLedger.Kept.sound_of_exhausted (h : l.Kept)
    (hfull : l.ipc.sharedBuffer.Exhausted size) : l.Sound size ipcResourceUnavail l where
  used_le := h.used_le
  watermark := h.watermark
  fails := iff_of_true hfull rfl
  unchanged := fun _ => rfl
  grants := fun hroom => absurd hfull hroom

/-- The watermark is raised to the new `used` if that is larger. -/
theorem SharedLedger.Kept.watermark_advance (h : l.Kept) :
    (l.ipc.sharedBuffer.advance size).watermark.toNat =
      max l.maxUsed (l.ipc.sharedBuffer.used + size).toNat := by
  rw [IpcSharedBuffer.advance, ← h.watermark]
  simp only [gt_iff_lt, UInt32.lt_iff_toNat_lt]
  split <;> omega

/-- A call that finds room keeps its promises. -/
theorem SharedLedger.Kept.sound_of_room (h : l.Kept) (hwrap : l.NoWrap size)
    (hroom : ¬ l.ipc.sharedBuffer.Exhausted size) : l.Sound size ipcOk (l.advance size) where
  used_le := UInt32.not_lt.mp ((IpcSharedBuffer.exhausted_iff hwrap).not.mpr hroom)
  watermark := h.watermark_advance
  fails := iff_of_false hroom ipcOk_ne_ipcResourceUnavail
  unchanged := fun herror => absurd rfl herror
  grants := fun _ => ⟨rfl, _, rfl, h.grants hroom⟩

/-- It leaves a ledger that is kept. -/
theorem SharedLedger.Kept.advance (h : l.Kept) (hwrap : l.NoWrap size)
    (hroom : ¬ l.ipc.sharedBuffer.Exhausted size) : (l.advance size).Kept := by
  have hsum : (l.ipc.sharedBuffer.used + size).toNat =
      l.ipc.sharedBuffer.used.toNat + size.toNat := by
    rw [UInt32.toNat_add, Nat.mod_eq_of_lt hwrap]
  refine
    { initialized := h.initialized
      used_le := (h.sound_of_room hwrap hroom).used_le
      used_le_max := Nat.le_max_right _ _
      watermark := h.watermark_advance
      below := ?_
      count := ?_
      ids := ?_ }
  · refine List.forall_mem_cons.mpr ⟨?_, fun grant hmem => ?_⟩
    · simp only [SharedLedger.advance, SharedLedger.grant, IpcSharedBuffer.advance, hsum]
      omega
    · have hbelow := h.below grant hmem
      simp only [SharedLedger.advance, IpcSharedBuffer.advance, hsum]
      omega
  · simp only [SharedLedger.advance, IpcSharedBuffer.advance, h.count, List.length_cons,
      UInt32.ofNat_add]
    rfl
  · rw [SharedLedger.advance, List.forall_mem_cons, List.length_cons]
    refine ⟨⟨l.granted.length, Nat.lt_succ_self _, h.count⟩, fun grant hmem => ?_⟩
    obtain ⟨k, hk, hid⟩ := h.ids grant hmem
    exact ⟨k, Nat.lt_succ_of_lt hk, hid⟩

/-- **Without a wrap** a call does what it promises, and the ledger is kept. -/
theorem SharedLedger.Kept.step_of_noWrap (h : l.Kept) (hwrap : l.NoWrap size) :
    l.Sound size (l.step size).1 (l.step size).2 ∧ (l.step size).2.Kept := by
  by_cases hfull : l.ipc.sharedBuffer.Exhausted size
  · rw [h.step_of_exhausted hwrap hfull]
    exact ⟨h.sound_of_exhausted hfull, h⟩
  · rw [h.step_of_room ((IpcSharedBuffer.exhausted_iff hwrap).not.mpr hfull)]
    exact ⟨h.sound_of_room hwrap hfull, h.advance hwrap hfull⟩

/-- **With a wrap** a call that has no room succeeds. -/
theorem SharedLedger.Kept.not_sound_of_wrap (h : l.Kept) (hwrap : ¬ l.NoWrap size) :
    ¬ l.Sound size (l.step size).1 (l.step size).2 := by
  intro hsound
  have hle : 2 ^ 32 ≤ l.ipc.sharedBuffer.used.toNat + size.toNat := Nat.not_lt.mp hwrap
  have hfull : l.ipc.sharedBuffer.Exhausted size := by
    have hsize := UInt32.toNat_lt l.ipc.sharedBuffer.size
    simp only [IpcSharedBuffer.Exhausted]
    omega
  have herror := hsound.fails.mp hfull
  rw [h.step_of_room (IpcSharedBuffer.not_lt_of_wrap h.used_le hle)] at herror
  exact ipcOk_ne_ipcResourceUnavail herror

end Step

/-! ## runs -/

section Run

variable {σ : Type} {memoryAlloc : σ → Nat → Option Nat × σ} {mem : σ} {ipc : KernelIpc}

/-- A successful initialisation leaves an empty shared buffer. -/
theorem SharedLedger.kept_start (h : (ipcKernelInit memoryAlloc mem ipc).1 = ipcOk) :
    (SharedLedger.start (ipcKernelInit memoryAlloc mem ipc).2.1).Kept := by
  obtain ⟨base, hready⟩ := ipcKernelInit_ok memoryAlloc h
  rw [hready]
  exact
    { initialized := rfl
      used_le := UInt32.le_of_lt (show (0 : UInt32) < 65536 by decide)
      used_le_max := Nat.le_refl _
      watermark := rfl
      below := by simp [start]
      count := rfl
      ids := by simp [start] }

/-- **The shared buffer**: after a successful initialisation the calls of a
run keep their promises exactly when no 32-bit sum wraps. -/
theorem sharedBuffer_sound_iff (h : (ipcKernelInit memoryAlloc mem ipc).1 = ipcOk)
    (sizes : List UInt32) :
    Always (total SharedLedger.step) SharedLedger.Sound
        (.start (ipcKernelInit memoryAlloc mem ipc).2.1) sizes ↔
      Always (total SharedLedger.step) (fun l size _ _ => l.NoWrap size)
        (.start (ipcKernelInit memoryAlloc mem ipc).2.1) sizes := by
  have hstep (l : SharedLedger) (size : UInt32) (hl : l.Kept) :
      (l.Sound size (l.step size).1 (l.step size).2 ↔ l.NoWrap size) ∧
        (l.Sound size (l.step size).1 (l.step size).2 → (l.step size).2.Kept) := by
    have hiff : l.Sound size (l.step size).1 (l.step size).2 ↔ l.NoWrap size :=
      ⟨fun hsound => Classical.not_not.mp fun hwrap => hl.not_sound_of_wrap hwrap hsound,
        fun hwrap => (hl.step_of_noWrap hwrap).1⟩
    exact ⟨hiff, fun hsound => (hl.step_of_noWrap (hiff.mp hsound)).2⟩
  exact always_total_iff_always hstep (SharedLedger.kept_start h) sizes

end Run

/-- Three grants; the last request wraps no sum but has no room. -/
theorem sharedBuffer_sound_iff_three_grants :
    let ipc := (ipcKernelInit (fun (_ : Unit) _ => (some 4096, ())) () .zero).2.1
    Always (total SharedLedger.step) SharedLedger.Sound (.start ipc) [100, 0, 4096, 0xFFFF] ↔
      Always (total SharedLedger.step) (fun l size _ _ => l.NoWrap size) (.start ipc)
        [100, 0, 4096, 0xFFFF] :=
  sharedBuffer_sound_iff rfl [100, 0, 4096, 0xFFFF]

/-- After one byte, a request of `2 ^ 32 - 1` bytes is granted and leaves the
buffer empty. -/
theorem sharedBuffer_not_always_sound :
    let ipc := (ipcKernelInit (fun (_ : Unit) _ => (some 4096, ())) () .zero).2.1
    let l := (mealy SharedLedger.step (.start ipc) [1, 0xFFFFFFFF]).2
    (l.granted.map SharedGrant.range = [⟨4097, 0xFFFFFFFF⟩, ⟨4096, 1⟩] ∧
        l.ipc.sharedBuffer.used = 0) ∧
      ¬ ∀ {σ : Type} (memoryAlloc : σ → Nat → Option Nat × σ) (mem : σ) (ipc : KernelIpc),
        (ipcKernelInit memoryAlloc mem ipc).1 = ipcOk → ∀ sizes : List UInt32,
          Always (total SharedLedger.step) SharedLedger.Sound
            (.start (ipcKernelInit memoryAlloc mem ipc).2.1) sizes := by
  refine ⟨by decide, fun h => ?_⟩
  have hall := h (fun (_ : Unit) _ => (some 4096, ())) () .zero rfl [1, 0xFFFFFFFF]
  rw [always_total_cons, always_total_cons] at hall
  -- one byte is used, and 2 ^ 32 - 1 more are asked for
  have hfull : 1 + 0xFFFFFFFF > 65536 := by decide
  exact absurd (hall.2.1.fails.mp hfull) (by decide)

end AutoMlos
