import AxumConf.Dedup.Capacity

/-!
# Whether an overshoot goes away

Once no call is in flight, every entry has its record in the queue again, so
the next accepted key evicts one entry when the tracker is full. It also adds
one. An overshoot therefore stays as large as it is until entries expire, and
one further key brings the tracker back to its capacity only when those that
have not expired fit.
-/

namespace AxumConf.Dedup

variable {Key : Type} [DecidableEq Key] {s : TrackerSystem Key}

omit [DecidableEq Key] in
theorem isDone_of_quiet (quiet : s.inFlight = 0) {id : Nat} {call : CheckCall Key}
    (found : s.calls.lookup id = some call) : call.pc.isDone = true := by
  have none := List.countP_eq_zero.mp quiet ⟨id, call⟩ (AList.mem_lookup_iff.mp found)
  simpa using none

theorem indexed_of_quiet (indexes : Indexes s) (quiet : s.inFlight = 0) :
    RequestTracker.Indexed s.tracker.tracker s.tracker.order := by
  intro key entry found
  rcases indexes.indexed key entry found with queued | ⟨id, call, foundCall, carries⟩
  · exact queued
  · have isDone := isDone_of_quiet quiet foundCall
    rcases carries with ⟨isAt, -⟩ | isAt | isAt
    · simp [isAt, Pc.isDone] at isDone
    · simp [isAt, Pc.isDone] at isDone
    · simp [isAt, Pc.isDone] at isDone

theorem maxEntries_of_run {now ttl maxEntries : Nat} {events : List (TrackerEvent Key)}
    {finish : TrackerSystem Key}
    (ran : concurrentChecks.run ⟨now, .new ttl maxEntries, ∅⟩ events = some finish) :
    finish.tracker.maxEntries = maxEntries :=
  Machine.invariant_run (fun s : TrackerSystem Key => s.tracker.maxEntries = maxEntries)
    (fun _ _ _ same stepped => (maxEntries_step stepped).trans same) rfl ran

/-- After any interleaving, once no call is in flight, one further accepted key leaves the tracker
within its capacity exactly when no more entries than fit are unexpired at the reading of its
cleanup. -/
theorem overshoot_ends_iff (now ttl maxEntries : Nat) (events : List (TrackerEvent Key))
    (finish : TrackerSystem Key)
    (ran : concurrentChecks.run ⟨now, .new ttl maxEntries, ∅⟩ events = some finish)
    (quiet : finish.inFlight = 0) (key : Key) (reading later : Nat) (ordered : reading ≤ later)
    (accepted : (finish.tracker.checkAndMark reading later key).1 = false) :
    (finish.tracker.checkAndMark reading later key).2.tracker.size ≤ max 1 maxEntries ↔
      finish.tracker.liveCount later ≤ max 1 maxEntries := by
  have indexed := indexed_of_quiet (indexes_of_reachable ⟨events, ran⟩) quiet
  have sized := size_checkAndMark_le_iff indexed ordered accepted
  rwa [maxEntries_of_run ran] at sized

/-- Once the two entries of the overshoot have expired, the next key ends it. -/
theorem overshoot_ends_iff_expired :
    let finish := (concurrentChecks.run ⟨0, .new 60 1, ∅⟩ overshootingCalls).get (by decide)
    (finish.tracker.checkAndMark 60 60 "c").2.tracker.size ≤ 1 ↔
      finish.tracker.liveCount 60 ≤ 1 :=
  overshoot_ends_iff 0 60 1 overshootingCalls _ (Option.some_get (by decide)).symm (by decide)
    "c" 60 60 le_rfl (by decide)

/-- Two calls overlap, and the next key finds both entries unexpired. -/
theorem not_overshoot_ends :
    ¬∀ (now ttl maxEntries : Nat) (events : List (TrackerEvent String))
      (finish : TrackerSystem String),
      concurrentChecks.run ⟨now, .new ttl maxEntries, ∅⟩ events = some finish →
        finish.inFlight = 0 → ∀ key reading later, finish.now ≤ reading → reading ≤ later →
          (finish.tracker.checkAndMark reading later key).1 = false →
            (finish.tracker.checkAndMark reading later key).2.tracker.size ≤ max 1 maxEntries := by
  intro transient
  have within := transient 0 60 1 overshootingCalls
    ((concurrentChecks.run ⟨0, .new 60 1, ∅⟩ overshootingCalls).get (by decide))
    (Option.some_get (by decide)).symm (by decide) "c" 1 1 (by decide) le_rfl (by decide)
  exact absurd within (by decide)

end AxumConf.Dedup
