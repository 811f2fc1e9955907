/-!
# Clock readings

`std::time::Instant` and `std::time::Duration` are natural numbers of
nanoseconds. `Instant::elapsed` saturates: a reading before the instant gives
zero.
-/

namespace AxumConf

/-- `time.elapsed()` when the clock reads `now`. -/
def elapsed (time now : Nat) : Nat :=
  now - time

theorem le_elapsed_iff {time now span : Nat} (ordered : time ≤ now) :
    span ≤ elapsed time now ↔ time + span ≤ now := by
  unfold elapsed
  omega

end AxumConf
