import Mathlib.Algebra.BigOperators.Group.Finset.Piecewise
import Mathlib.Data.Fintype.Basic

/-!
# AutoMlos.Lib.Track

Events on tracks.

An event may belong to one of several tracks and carries a value.  `track` is
the history of one track.  `track_concat_self` and `track_concat_of_ne` say what
one more event does to it, and `sum_length_track` that the histories hold every
event on a track once.
-/

namespace Lib

variable {ε κ α : Type} [DecidableEq κ] (key : ε → Option κ) (value : ε → α)

/-- The values of the events on a track. -/
def track (k : κ) (es : List ε) : List α := (es.filter fun e => key e = some k).map value

variable {key value}

theorem track_concat_self {k : κ} {e : ε} (h : key e = some k) (es : List ε) :
    track key value k (es ++ [e]) = track key value k es ++ [value e] := by
  simp [track, h]

theorem track_concat_of_ne {k : κ} {e : ε} (h : key e ≠ some k) (es : List ε) :
    track key value k (es ++ [e]) = track key value k es := by
  simp [track, h]

/-- Every event on a track is on exactly one. -/
theorem sum_length_track [Fintype κ] (es : List ε) :
    ∑ k, (track key value k es).length = es.countP fun e => (key e).isSome := by
  induction es with
  | nil => simp [track]
  | cons e es ih =>
      have hcons (k : κ) : (track key value k (e :: es)).length =
          (if key e = some k then 1 else 0) + (track key value k es).length := by
        by_cases h : key e = some k <;> simp [track, h, Nat.add_comm]
      have hone : ∑ k, (if key e = some k then 1 else 0) = if (key e).isSome then 1 else 0 := by
        cases key e with
        | none => simp
        | some k' => simp [Finset.sum_ite_eq]
      simp only [hcons, Finset.sum_add_distrib, hone, ih, List.countP_cons, Nat.add_comm]

end Lib
