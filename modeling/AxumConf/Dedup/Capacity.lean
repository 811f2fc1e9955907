import AxumConf.Dedup.Concurrent

/-!
# How far concurrent calls overshoot the capacity

The size check, the eviction and the insertion of `check_and_mark` are separate
operations, so several calls can find room for one more entry together. A call
that has decided to insert is pending until it does. The bound of this file
counts the pending calls with the entries: a call becomes pending while there
is room, or by removing an entry, or when no entry is left that is not the work
of a call in flight.

An eviction may have chosen an entry that is gone when it comes to remove it.
Whoever dropped that entry has made the room that the eviction did not.
-/

namespace AxumConf.Dedup

variable {Key : Type}

namespace Pc

/-- The call has decided to insert its key and has not done so. -/
def pending : Pc Key → Bool
  | .fetchAdd => true
  | .insert _ => true
  | _ => false

def evicting : Pc Key → Bool
  | .evict _ => true
  | _ => false

def queueing : Pc Key → Bool
  | .pushBack _ => true
  | _ => false

theorem not_isDone_of_pending {pc : Pc Key} (pending : pc.pending = true) : pc.isDone = false := by
  cases pc with
  | done answer => cases pending
  | _ => rfl

theorem not_isDone_of_evicting {pc : Pc Key} (evicting : pc.evicting = true) :
    pc.isDone = false := by
  cases pc with
  | done answer => cases evicting
  | _ => rfl

theorem not_isDone_of_queueing {pc : Pc Key} (queueing : pc.queueing = true) :
    pc.isDone = false := by
  cases pc with
  | done answer => cases queueing
  | _ => rfl

theorem not_pending_of_evicting {pc : Pc Key} (evicting : pc.evicting = true) :
    pc.pending = false := by
  cases pc with
  | evict key => rfl
  | _ => cases evicting

theorem not_pending_of_queueing {pc : Pc Key} (queueing : pc.queueing = true) :
    pc.pending = false := by
  cases pc with
  | pushBack seq => rfl
  | _ => cases queueing

end Pc

namespace TrackerSystem

def inFlight (s : TrackerSystem Key) : Nat :=
  s.calls.count fun _ call => !call.pc.isDone

def pending (s : TrackerSystem Key) : Nat :=
  s.calls.count fun _ call => call.pc.pending

end TrackerSystem

/-- A call starts only while fewer than this many are in flight. -/
def StartsWithin (n : Nat) (s : TrackerSystem Key) : TrackerEvent Key → Prop
  | .call _ _ => s.inFlight < n
  | _ => True

instance (n : Nat) (s : TrackerSystem Key) : DecidablePred (StartsWithin n s)
  | .call _ _ => inferInstanceAs (Decidable (s.inFlight < n))
  | .tick _ => isTrue trivial
  | .step _ => isTrue trivial
  | .sweep _ => isTrue trivial

/-- The call is about to queue the record, or has taken it from the queue to look at it. -/
def CheckCall.carries (call : CheckCall Key) (seq : UInt64) (key : Key) : Prop :=
  (call.pc = .pushBack seq ∧ call.key = key) ∨ call.pc = .isCurrent seq key ∨
    call.pc = .evict key

variable [DecidableEq Key]

/-- The record of an entry is in the queue or with a call. -/
def TrackerSystem.Covers (s : TrackerSystem Key) (seq : UInt64) (key : Key) : Prop :=
  (seq, key) ∈ s.tracker.order ∨
    ∃ id call, s.calls.lookup id = some call ∧ call.carries seq key

/-- One call at most is inside the eviction loop, and no entry has lost its record. -/
structure Indexes (s : TrackerSystem Key) : Prop where
  holder : ∀ id other call held, s.calls.lookup id = some call → s.calls.lookup other = some held →
    call.pc.holdsOrder = true → held.pc.holdsOrder = true → id = other
  indexed : ∀ key entry, s.tracker.tracker.lookup key = some entry → s.Covers entry.seq key

/-- What the calls in flight may still insert fits above the capacity. A call that comes too late
to evict the entry it has chosen leaves room for one more. -/
structure Fits (n : Nat) (s : TrackerSystem Key) : Prop where
  inFlight : s.inFlight ≤ n
  bounded : s.tracker.tracker.size + s.pending + 1 ≤ max 1 s.tracker.maxEntries + n
  lost : ∀ id call key, s.calls.lookup id = some call → call.pc = .evict key →
    s.tracker.tracker.lookup key = none →
      s.tracker.tracker.size + s.pending + 2 ≤ max 1 s.tracker.maxEntries + n

section Operations

variable {now : Nat} {t : RequestTracker Key} {call : CheckCall Key}

theorem maxEntries_stepCall (now : Nat) (t : RequestTracker Key) (call : CheckCall Key) :
    (stepCall now t call).1.maxEntries = t.maxEntries := by
  by_cases looking : call.pc = .get
  · rw [tracker_stepCall_get looking]
  · rcases call with ⟨key, reading, pc⟩
    cases pc with
    | get => exact absurd rfl looking
    | popFront =>
        simp only [stepCall]
        split <;> rfl
    | _ => rfl

/-- Only an insertion adds an entry. -/
theorem lookup_of_stepCall {key : Key} {entry : RequestEntry}
    (found : (stepCall now t call).1.tracker.lookup key = some entry) :
    t.tracker.lookup key = some entry ∨ (call.pc = .insert entry.seq ∧ call.key = key) := by
  by_cases looking : call.pc = .get
  · rw [tracker_stepCall_get looking] at found
    exact .inl found
  · rcases call with ⟨callKey, reading, pc⟩
    cases pc with
    | get => exact absurd rfl looking
    | remove => exact .inl (AList.lookup_of_lookup_erase found).2
    | retain later =>
        simp only [stepCall, RequestTracker.cleanupExpired, AList.lookup_retain,
          Option.filter_eq_some_iff] at found
        exact .inl found.1
    | popFront =>
        simp only [stepCall] at found
        split at found <;> exact .inl found
    | evict evicted => exact .inl (AList.lookup_of_lookup_erase found).2
    | insert seq =>
        rcases AList.lookup_insert_cases found with ⟨same, rfl⟩ | ⟨-, old⟩
        · exact .inr ⟨rfl, same.symm⟩
        · exact .inl old
    | _ => exact .inl found

/-- A record leaves the queue only to be looked at by the call that takes it. -/
theorem order_stepCall {record : UInt64 × Key} (queued : record ∈ t.order) :
    record ∈ (stepCall now t call).1.order ∨
      (stepCall now t call).2 = .isCurrent record.1 record.2 := by
  by_cases looking : call.pc = .get
  · rw [tracker_stepCall_get looking]
    exact .inl queued
  · rcases call with ⟨callKey, reading, pc⟩
    cases pc with
    | get => exact absurd rfl looking
    | popFront =>
        simp only [stepCall]
        split
        · exact .inl queued
        · rename_i seq key rest queue
          rw [queue] at queued
          rcases List.mem_cons.mp queued with rfl | later
          · exact .inr rfl
          · exact .inl later
    | pushBack seq => exact .inl (List.mem_append_left _ queued)
    | _ => exact .inl queued

/-- A call does not drop the record of an entry. -/
theorem carries_stepCall {key : Key} {entry : RequestEntry} (carries : call.carries entry.seq key)
    (found : (stepCall now t call).1.tracker.lookup key = some entry) :
    (entry.seq, key) ∈ (stepCall now t call).1.order ∨
      CheckCall.carries { call with pc := (stepCall now t call).2 } entry.seq key := by
  rcases call with ⟨callKey, reading, pc⟩
  rcases carries with ⟨isAt, isKey⟩ | isAt | isAt
  · cases isAt
    cases isKey
    exact .inl (List.mem_append_right _ (List.mem_singleton.mpr rfl))
  · cases isAt
    have current : ((t.tracker.lookup key).map fun held => decide (held.seq = entry.seq)).getD
        false = true := RequestTracker.isCurrent_iff.mpr ⟨entry, found, rfl⟩
    refine .inr (.inr (.inr ?_))
    simp only [stepCall, current, if_true]
  · cases isAt
    exact absurd rfl (AList.lookup_of_lookup_erase found).1

end Operations

section Index

variable {s : TrackerSystem Key} {id : Nat} {call : CheckCall Key}

theorem Indexes.start (indexes : Indexes s) {newId : Nat} (fresh : s.calls.lookup newId = none)
    (key : Key) :
    Indexes { s with calls := s.calls.insert newId ⟨key, s.now, .get⟩ } where
  holder := by
    intro id other call held found foundOther holds holdsOther
    rcases AList.lookup_insert_cases found with ⟨-, rfl⟩ | ⟨-, old⟩
    · cases holds
    · rcases AList.lookup_insert_cases foundOther with ⟨-, rfl⟩ | ⟨-, oldOther⟩
      · cases holdsOther
      · exact indexes.holder id other call held old oldOther holds holdsOther
  indexed := by
    intro other entry found
    rcases indexes.indexed other entry found with queued | ⟨id, held, foundHeld, carries⟩
    · exact .inl queued
    · have distinct : id ≠ newId := by
        rintro rfl
        rw [fresh] at foundHeld
        cases foundHeld
      exact .inr ⟨id, held, (AList.lookup_insert_ne distinct).trans foundHeld, carries⟩

theorem Indexes.sweep (indexes : Indexes s) (reading : Nat) :
    Indexes { s with tracker := s.tracker.cleanupExpired reading } where
  holder := indexes.holder
  indexed := by
    intro key entry found
    simp only [RequestTracker.cleanupExpired, AList.lookup_retain,
      Option.filter_eq_some_iff] at found
    exact indexes.indexed key entry found.1

theorem holdsOrder_stepCall {now : Nat} {t : RequestTracker Key}
    (unfinished : call.pc.isDone = false)
    (holds : (stepCall now t call).2.holdsOrder = true) :
    call.pc.holdsOrder = true ∨ call.pc.needsOrder = true := by
  have leads := @leads_stepCall _ _ now t call unfinished
  generalize (stepCall now t call).2 = after at leads holds
  generalize call.pc = pc at leads ⊢
  cases leads <;> simp_all [Pc.holdsOrder, Pc.needsOrder]

theorem Indexes.advance (indexes : Indexes s) (found : s.calls.lookup id = some call)
    (unfinished : call.pc.isDone = false)
    (free : call.pc.needsOrder = true → s.orderLocked = false) :
    Indexes (s.advance id call) where
  holder := by
    -- The call that moves held the lock already, or found it free.
    have moved {other : Nat} {held : CheckCall Key} (foundOther : s.calls.lookup other = some held)
        (holds : (stepCall s.now s.tracker call).2.holdsOrder = true)
        (holdsOther : held.pc.holdsOrder = true) : id = other := by
      rcases holdsOrder_stepCall unfinished holds with already | needs
      · exact indexes.holder id other call held found foundOther already holdsOther
      · rw [orderLocked_eq_false_iff.mp (free needs) other held foundOther] at holdsOther
        cases holdsOther
    intro i j first second foundFirst foundSecond holdsFirst holdsSecond
    rcases AList.lookup_insert_cases foundFirst with ⟨rfl, rfl⟩ | ⟨-, oldFirst⟩
    · rcases AList.lookup_insert_cases foundSecond with ⟨rfl, rfl⟩ | ⟨-, oldSecond⟩
      · rfl
      · exact moved oldSecond holdsFirst holdsSecond
    · rcases AList.lookup_insert_cases foundSecond with ⟨rfl, rfl⟩ | ⟨-, oldSecond⟩
      · exact (moved oldFirst holdsSecond holdsFirst).symm
      · exact indexes.holder i j first second oldFirst oldSecond holdsFirst holdsSecond
  indexed := by
    intro key entry foundEntry
    have mover : CheckCall.carries { call with pc := (stepCall s.now s.tracker call).2 }
        entry.seq key → (s.advance id call).Covers entry.seq key :=
      fun carries => .inr ⟨id, _, lookup_advance s id call, carries⟩
    rcases lookup_of_stepCall foundEntry with old | ⟨isAt, isKey⟩
    · rcases indexes.indexed key entry old with queued | ⟨other, held, foundOther, carries⟩
      · rcases @order_stepCall _ _ s.now _ call _ queued with kept | taken
        · exact .inl kept
        · exact mover (.inr (.inl taken))
      · by_cases same : other = id
        · subst same
          cases found.symm.trans foundOther
          exact (carries_stepCall carries foundEntry).elim .inl mover
        · exact .inr ⟨other, held, (AList.lookup_insert_ne same).trans foundOther, carries⟩
    · refine mover (.inl ⟨?_, isKey⟩)
      simp only [stepCall, isAt]

theorem Indexes.step (indexes : Indexes s) {next : TrackerSystem Key} {event : TrackerEvent Key}
    (stepped : concurrentChecks.step s event = some next) : Indexes next := by
  cases trackerStepped_of_step stepped with
  | tick span => exact ⟨indexes.holder, indexes.indexed⟩
  | call id key fresh => exact indexes.start fresh key
  | step id call found unfinished free => exact indexes.advance found unfinished free
  | sweep reading past => exact indexes.sweep reading

theorem indexes_of_reachable {now ttl maxEntries : Nat} {finish : TrackerSystem Key}
    (reachable : concurrentChecks.Reachable ⟨now, .new ttl maxEntries, ∅⟩ finish) :
    Indexes finish := by
  refine reachable.invariant Indexes (fun _ _ _ indexes stepped => indexes.step stepped) ?_
  constructor
  · simp
  · simp [RequestTracker.new]

end Index

section Overshoot

variable {n : Nat} {s : TrackerSystem Key} {id : Nat} {call : CheckCall Key}

omit [DecidableEq Key] in
/-- A call that has not decided to insert is not counted among the pending ones. -/
theorem pending_lt_inFlight (found : s.calls.lookup id = some call)
    (unfinished : call.pc.isDone = false) (undecided : call.pc.pending = false) :
    s.pending < s.inFlight := by
  refine AList.count_lt_of_imp ?_ found (by simp [unfinished]) undecided
  intro _ call pending
  simp [Pc.not_isDone_of_pending pending]

omit [DecidableEq Key] in
/-- Neither are two such calls, one of which is evicting. -/
theorem pending_add_two_le_inFlight (found : s.calls.lookup id = some call)
    (unfinished : call.pc.isDone = false) (undecided : call.pc.pending = false)
    (notEvicting : call.pc.evicting = false) {other : Nat} {held : CheckCall Key}
    (foundOther : s.calls.lookup other = some held) (evicting : held.pc.evicting = true) :
    s.pending + 2 ≤ s.inFlight := by
  have fewer : s.pending <
      s.calls.count fun _ call => call.pc.pending || call.pc.evicting := by
    refine AList.count_lt_of_imp ?_ foundOther ?_ ?_
    · intro _ call pending
      simp [pending]
    · simp [evicting]
    · exact Pc.not_pending_of_evicting evicting
  have atMost : (s.calls.count fun _ call => call.pc.pending || call.pc.evicting) <
      s.inFlight := by
    refine AList.count_lt_of_imp ?_ found (by simp [unfinished]) (by simp [undecided, notEvicting])
    intro _ call either
    rw [Bool.or_eq_true] at either
    rcases either with pending | evicting
    · simp [Pc.not_isDone_of_pending pending]
    · simp [Pc.not_isDone_of_evicting evicting]
  omega

theorem pending_advance (found : s.calls.lookup id = some call) :
    (s.advance id call).pending + (if call.pc.pending then 1 else 0) =
      s.pending + if (stepCall s.now s.tracker call).2.pending then 1 else 0 :=
  AList.count_insert_of_lookup_some found _ _

theorem inFlight_advance_le (found : s.calls.lookup id = some call)
    (unfinished : call.pc.isDone = false) : (s.advance id call).inFlight ≤ s.inFlight := by
  have counted : (s.advance id call).inFlight + (if !call.pc.isDone then 1 else 0) =
      s.inFlight + if !(stepCall s.now s.tracker call).2.isDone then 1 else 0 :=
    AList.count_insert_of_lookup_some found _ _
  simp only [unfinished, Bool.not_false, if_true] at counted
  split at counted <;> omega

/-- While entries are only removed and no call decides to insert, the bound is kept. -/
theorem Fits.shrink (fits : Fits n s) {next : TrackerSystem Key}
    (fewer : next.inFlight ≤ s.inFlight) (samePending : next.pending = s.pending)
    (sameMax : next.tracker.maxEntries = s.tracker.maxEntries)
    (subtable : ∀ key entry, next.tracker.tracker.lookup key = some entry →
      s.tracker.tracker.lookup key = some entry)
    (evictions : ∀ id call key, next.calls.lookup id = some call → call.pc = .evict key →
      next.tracker.tracker.lookup key = none →
        s.tracker.tracker.lookup key ≠ none ∨ ∃ other held,
          s.calls.lookup other = some held ∧ held.pc = .evict key) : Fits n next where
  inFlight := fewer.trans fits.inFlight
  bounded := by
    have smaller := AList.size_le_of_subtable subtable
    have bounded := fits.bounded
    rw [samePending, sameMax]
    omega
  lost := by
    intro id call key found isAt missing
    have smaller := AList.size_le_of_subtable subtable
    have bounded := fits.bounded
    rw [samePending, sameMax]
    cases before : s.tracker.tracker.lookup key with
    | some entry =>
        -- The entry was dropped in this step.
        have dropped := AList.size_lt_of_subtable subtable before missing
        omega
    | none =>
        rcases evictions id call key found isAt missing with
          present | ⟨other, held, foundHeld, same⟩
        · exact absurd before present
        · have lost := fits.lost other held key foundHeld same before
          omega

/-- A call that finds room decides to insert. -/
theorem Fits.room (fits : Fits n s) (found : s.calls.lookup id = some call)
    (unfinished : call.pc.isDone = false) (undecided : call.pc.pending = false)
    (notEvicting : call.pc.evicting = false) (room : s.tracker.isFull = false)
    (sameTracker : (stepCall s.now s.tracker call).1 = s.tracker)
    (decides : (stepCall s.now s.tracker call).2 = .fetchAdd) : Fits n (s.advance id call) := by
  have free : s.tracker.tracker.size < s.tracker.maxEntries := by
    simpa [RequestTracker.isFull] using room
  have oneMore : (s.advance id call).pending = s.pending + 1 := by
    have counted := pending_advance found
    rw [undecided, decides] at counted
    simpa [Pc.pending] using counted
  have same : (s.advance id call).tracker = s.tracker := sameTracker
  have inFlight := fits.inFlight
  refine ⟨(inFlight_advance_le found unfinished).trans inFlight, ?_, ?_⟩
  · have fewer := pending_lt_inFlight found unfinished undecided
    rw [oneMore, same]
    omega
  · intro other held key foundOther isAt missing
    rw [same] at missing
    rw [oneMore, same]
    rcases AList.lookup_insert_cases foundOther with ⟨-, rfl⟩ | ⟨-, old⟩
    · rw [decides] at isAt
      cases isAt
    · have evicting : held.pc.evicting = true := by simp [isAt, Pc.evicting]
      have fewer := pending_add_two_le_inFlight found unfinished undecided notEvicting old evicting
      omega

theorem not_holdsOrder_of_holder (indexes : Indexes s) (found : s.calls.lookup id = some call)
    (holds : call.pc.holdsOrder = true) {other : Nat} {held : CheckCall Key}
    (foundOther : (s.advance id call).calls.lookup other = some held) (distinct : other ≠ id) :
    held.pc.holdsOrder = false := by
  rw [TrackerSystem.advance, AList.lookup_insert_ne distinct] at foundOther
  by_contra holdsOther
  rw [Bool.not_eq_false] at holdsOther
  exact distinct (indexes.holder other id held call foundOther found holdsOther holds)

omit [DecidableEq Key] in
theorem queueing_add_pending_lt_inFlight (found : s.calls.lookup id = some call)
    (unfinished : call.pc.isDone = false) (notQueueing : call.pc.queueing = false)
    (undecided : call.pc.pending = false) :
    s.calls.count (fun _ call => call.pc.queueing) + s.pending < s.inFlight := by
  have both : (s.calls.count fun _ call => call.pc.queueing || call.pc.pending) =
      s.calls.count (fun _ call => call.pc.queueing) + s.pending := by
    refine AList.count_or_of_disjoint _ ?_
    intro _ call queues
    exact Pc.not_pending_of_queueing queues
  rw [← both]
  refine AList.count_lt_of_imp ?_ found (by simp [unfinished]) (by simp [notQueueing, undecided])
  intro _ call either
  rw [Bool.or_eq_true] at either
  rcases either with queues | pending
  · simp [Pc.not_isDone_of_queueing queues]
  · simp [Pc.not_isDone_of_pending pending]

/-- Where a call has found the queue empty, every entry is about to be queued by another one. -/
theorem Indexes.size_le_queueing (indexes : Indexes s) (found : s.calls.lookup id = some call)
    (isAt : call.pc = .popFront) (empty : s.tracker.order = []) :
    s.tracker.tracker.size ≤ s.calls.count fun _ call => call.pc.queueing := by
  refine AList.size_le_count (fun _ call => call.key) ?_
  intro key entry foundEntry
  rcases indexes.indexed key entry foundEntry with queued | ⟨other, held, foundHeld, carries⟩
  · rw [empty] at queued
    cases queued
  · refine ⟨other, held, foundHeld, ?_⟩
    have alone (holds : held.pc.holdsOrder = true) : held.pc = .popFront := by
      have same := indexes.holder id other call held found foundHeld
        (by simp [isAt, Pc.holdsOrder]) holds
      subst same
      cases found.symm.trans foundHeld
      exact isAt
    rcases carries with ⟨pushes, isKey⟩ | looks | evicts
    · exact ⟨by simp [pushes, Pc.queueing], isKey⟩
    · cases looks.symm.trans (alone (by simp [looks, Pc.holdsOrder]))
    · cases evicts.symm.trans (alone (by simp [evicts, Pc.holdsOrder]))

/-- While the call that held the lock of the queue decides to insert, none has chosen an entry to
remove. -/
theorem Indexes.not_evicting (indexes : Indexes s) (found : s.calls.lookup id = some call)
    (holds : call.pc.holdsOrder = true)
    (decides : (stepCall s.now s.tracker call).2 = .fetchAdd) {other : Nat}
    {held : CheckCall Key} (foundOther : (s.advance id call).calls.lookup other = some held)
    (key : Key) : held.pc ≠ .evict key := by
  intro evicts
  by_cases same : other = id
  · subst same
    rw [lookup_advance, decides] at foundOther
    cases foundOther
    cases evicts
  · have free := not_holdsOrder_of_holder indexes found holds foundOther same
    simp [evicts, Pc.holdsOrder] at free

/-- The eviction loop has no record left, and the call decides to insert. -/
theorem Fits.exhausted (fits : Fits n s) (indexes : Indexes s)
    (found : s.calls.lookup id = some call) (isAt : call.pc = .popFront)
    (empty : s.tracker.order = []) : Fits n (s.advance id call) := by
  have unfinished : call.pc.isDone = false := by simp [isAt, Pc.isDone]
  have sameTracker : (s.advance id call).tracker = s.tracker := by
    simp [TrackerSystem.advance, stepCall, isAt, empty]
  have decides : (stepCall s.now s.tracker call).2 = .fetchAdd := by simp [stepCall, isAt, empty]
  have oneMore : (s.advance id call).pending = s.pending + 1 := by
    simpa [isAt, decides, Pc.pending] using pending_advance found
  have queueing := indexes.size_le_queueing found isAt empty
  have fewer := queueing_add_pending_lt_inFlight found unfinished (by simp [isAt, Pc.queueing])
    (by simp [isAt, Pc.pending])
  have inFlight := fits.inFlight
  refine ⟨(inFlight_advance_le found unfinished).trans inFlight, ?_, ?_⟩
  · rw [oneMore, sameTracker]
    omega
  · intro other held key foundOther evicts missing
    have holds : call.pc.holdsOrder = true := by simp [isAt, Pc.holdsOrder]
    exact absurd evicts (indexes.not_evicting found holds decides foundOther key)

/-- A call removes the entry it has chosen, or comes too late, and decides to insert. -/
theorem Fits.evict (fits : Fits n s) (indexes : Indexes s)
    (found : s.calls.lookup id = some call) {key : Key} (isAt : call.pc = .evict key) :
    Fits n (s.advance id call) := by
  have unfinished : call.pc.isDone = false := by simp [isAt, Pc.isDone]
  have decides : (stepCall s.now s.tracker call).2 = .fetchAdd := by simp [stepCall, isAt]
  have oneMore : (s.advance id call).pending = s.pending + 1 := by
    simpa [isAt, decides, Pc.pending] using pending_advance found
  have erased : (s.advance id call).tracker.tracker = s.tracker.tracker.erase key := by
    simp [TrackerSystem.advance, stepCall, isAt]
  have sameMax : (s.advance id call).tracker.maxEntries = s.tracker.maxEntries :=
    maxEntries_stepCall _ _ _
  have bounded := fits.bounded
  refine ⟨(inFlight_advance_le found unfinished).trans fits.inFlight, ?_, ?_⟩
  · rw [oneMore, erased, sameMax]
    cases present : s.tracker.tracker.lookup key with
    | some entry =>
        have removed := AList.size_erase present
        omega
    | none =>
        have lost := fits.lost id call key found isAt present
        rw [AList.erase_of_lookup_none present]
        omega
  · intro other held chosen foundOther evicts missing
    have holds : call.pc.holdsOrder = true := by simp [isAt, Pc.holdsOrder]
    exact absurd evicts (indexes.not_evicting found holds decides foundOther chosen)

/-- A pending call inserts its key, which may have been there. -/
theorem Fits.insert (fits : Fits n s) (found : s.calls.lookup id = some call) {seq : UInt64}
    (isAt : call.pc = .insert seq) : Fits n (s.advance id call) := by
  have unfinished : call.pc.isDone = false := by simp [isAt, Pc.isDone]
  have oneLess : (s.advance id call).pending + 1 = s.pending := by
    simpa [isAt, stepCall, Pc.pending] using pending_advance found
  have inserted : (s.advance id call).tracker.tracker =
      s.tracker.tracker.insert call.key ⟨call.reading + s.tracker.ttl, seq⟩ := by
    simp [TrackerSystem.advance, stepCall, isAt]
  have sameMax : (s.advance id call).tracker.maxEntries = s.tracker.maxEntries :=
    maxEntries_stepCall _ _ _
  have larger : (s.advance id call).tracker.tracker.size ≤ s.tracker.tracker.size + 1 := by
    rw [inserted, AList.size_insert]
    have := AList.size_erase_le s.tracker.tracker call.key
    omega
  have bounded := fits.bounded
  refine ⟨(inFlight_advance_le found unfinished).trans fits.inFlight, ?_, ?_⟩
  · rw [sameMax]
    omega
  · intro other held chosen foundOther evicts missing
    rw [sameMax]
    rcases AList.lookup_insert_cases foundOther with ⟨-, rfl⟩ | ⟨-, old⟩
    · simp [stepCall, isAt] at evicts
    · rw [inserted] at missing
      have distinct : chosen ≠ call.key := by
        rintro rfl
        rw [AList.lookup_insert] at missing
        cases missing
      rw [AList.lookup_insert_ne distinct] at missing
      have lost := fits.lost other held chosen old evicts missing
      omega

/-- An operation that neither inserts an entry nor decides to. -/
theorem Fits.undecided (fits : Fits n s) (found : s.calls.lookup id = some call)
    (unfinished : call.pc.isDone = false) (notInsert : ∀ seq, call.pc ≠ .insert seq)
    (same : (stepCall s.now s.tracker call).2.pending = call.pc.pending)
    (present : ∀ key, (stepCall s.now s.tracker call).2 = .evict key →
      (stepCall s.now s.tracker call).1.tracker.lookup key ≠ none) :
    Fits n (s.advance id call) := by
  have samePending : (s.advance id call).pending = s.pending := by
    have counted := pending_advance found
    rw [same] at counted
    exact Nat.add_right_cancel counted
  refine fits.shrink (inFlight_advance_le found unfinished) samePending
    (maxEntries_stepCall _ _ _) ?_ ?_
  · intro key entry foundEntry
    rcases lookup_of_stepCall foundEntry with old | ⟨inserts, -⟩
    · exact old
    · exact absurd inserts (notInsert entry.seq)
  · intro other held key foundOther evicts missing
    rcases AList.lookup_insert_cases foundOther with ⟨-, rfl⟩ | ⟨-, old⟩
    · exact absurd missing (present key evicts)
    · exact .inr ⟨other, held, old, evicts⟩

/-- A call that compares the size with the capacity goes on to make room or decides to insert. -/
theorem Fits.measured (fits : Fits n s) (found : s.calls.lookup id = some call)
    (unfinished : call.pc.isDone = false) (undecided : call.pc.pending = false)
    (notEvicting : call.pc.evicting = false) (waiting : Pc Key)
    (waitingUndecided : waiting.pending = false) (waitingNotEvicting : waiting.evicting = false)
    (measures : stepCall s.now s.tracker call =
      (s.tracker, if s.tracker.isFull then waiting else .fetchAdd)) :
    Fits n (s.advance id call) := by
  cases full : s.tracker.isFull with
  | false =>
      exact fits.room found unfinished undecided notEvicting full (by simp [measures])
        (by simp [measures, full])
  | true =>
      refine fits.undecided found unfinished ?_ ?_ ?_
      · intro seq inserts
        simp [inserts, Pc.pending] at undecided
      · simp [measures, full, undecided, waitingUndecided]
      · intro key evicts
        simp only [measures, full, if_true] at evicts
        simp [evicts, Pc.evicting] at waitingNotEvicting

theorem Fits.advance (fits : Fits n s) (indexes : Indexes s)
    (found : s.calls.lookup id = some call) (unfinished : call.pc.isDone = false) :
    Fits n (s.advance id call) := by
  cases isAt : call.pc with
  | get =>
      have leads := @leads_stepCall _ _ s.now s.tracker call unfinished
      refine fits.undecided found unfinished (by simp [isAt]) ?_ ?_
      · rw [isAt] at leads ⊢
        generalize (stepCall s.now s.tracker call).2 = after at leads ⊢
        cases leads <;> rfl
      · intro key evicts
        rw [isAt, evicts] at leads
        cases leads
  | lenFirst =>
      exact fits.measured found unfinished (by simp [isAt, Pc.pending])
        (by simp [isAt, Pc.evicting]) .cleanupNow rfl rfl (by simp [stepCall, isAt])
  | lenSecond =>
      exact fits.measured found unfinished (by simp [isAt, Pc.pending])
        (by simp [isAt, Pc.evicting]) .orderLock rfl rfl (by simp [stepCall, isAt])
  | popFront =>
      cases queue : s.tracker.order with
      | nil => exact fits.exhausted indexes found isAt queue
      | cons record rest =>
          exact fits.undecided found unfinished (by simp [isAt])
            (by simp [stepCall, isAt, queue, Pc.pending]) (by simp [stepCall, isAt, queue])
  | isCurrent seq key =>
      refine fits.undecided found unfinished (by simp [isAt]) ?_ ?_
      · simp only [stepCall, isAt]
        split <;> rfl
      · simp only [stepCall, isAt]
        split
        · rename_i current
          intro chosen evicts
          cases evicts
          rcases RequestTracker.isCurrent_iff.mp current with ⟨entry, present, -⟩
          simp [present]
        · simp
  | evict key => exact fits.evict indexes found isAt
  | insert seq => exact fits.insert found isAt
  | done answer =>
      rw [isAt] at unfinished
      cases unfinished
  | _ =>
      exact fits.undecided found unfinished (by simp [isAt]) (by simp [stepCall, isAt, Pc.pending])
        (by simp [stepCall, isAt])

theorem Fits.start (fits : Fits n s) {newId : Nat} (fresh : s.calls.lookup newId = none)
    (room : s.inFlight < n) (key : Key) :
    Fits n { s with calls := s.calls.insert newId ⟨key, s.now, .get⟩ } := by
  let next : TrackerSystem Key := { s with calls := s.calls.insert newId ⟨key, s.now, .get⟩ }
  have samePending : next.pending = s.pending :=
    AList.count_insert_of_lookup_none fresh _ _
  have oneMore : next.inFlight = s.inFlight + 1 :=
    AList.count_insert_of_lookup_none fresh _ _
  refine ⟨oneMore.trans_le room, ?_, ?_⟩
  · rw [samePending]
    exact fits.bounded
  · intro other held chosen foundOther evicts missing
    rw [samePending]
    rcases AList.lookup_insert_cases foundOther with ⟨-, rfl⟩ | ⟨-, old⟩
    · cases evicts
    · exact fits.lost other held chosen old evicts missing

theorem Fits.sweep (fits : Fits n s) (reading : Nat) :
    Fits n { s with tracker := s.tracker.cleanupExpired reading } := by
  refine fits.shrink le_rfl rfl rfl ?_ ?_
  · intro key entry found
    simp only [RequestTracker.cleanupExpired, AList.lookup_retain,
      Option.filter_eq_some_iff] at found
    exact found.1
  · intro other held key found evicts _
    exact .inr ⟨other, held, found, evicts⟩

theorem Fits.step (fits : Fits n s) (indexes : Indexes s) {next : TrackerSystem Key}
    {event : TrackerEvent Key} (within : StartsWithin n s event)
    (stepped : concurrentChecks.step s event = some next) : Fits n next := by
  cases trackerStepped_of_step stepped with
  | tick span => exact ⟨fits.inFlight, fits.bounded, fits.lost⟩
  | call id key fresh => exact fits.start fresh within key
  | step id call found unfinished free => exact fits.advance indexes found unfinished
  | sweep reading past => exact fits.sweep reading

theorem maxEntries_step {next : TrackerSystem Key} {event : TrackerEvent Key}
    (stepped : concurrentChecks.step s event = some next) :
    next.tracker.maxEntries = s.tracker.maxEntries := by
  cases trackerStepped_of_step stepped with
  | step id call found unfinished free => exact maxEntries_stepCall _ _ _
  | _ => rfl

end Overshoot

/-- In every interleaving in which at most `n` calls are in flight at a time, with the background
task running at any instant, the tracker holds at most `n - 1` entries above its capacity. -/
theorem concurrent_size_le (n now ttl maxEntries : Nat) (events : List (TrackerEvent Key))
    (finish : TrackerSystem Key)
    (ran : concurrentChecks.run ⟨now, .new ttl maxEntries, ∅⟩ events = some finish)
    (within : concurrentChecks.Along (StartsWithin n) ⟨now, .new ttl maxEntries, ∅⟩ events) :
    finish.tracker.tracker.size ≤ max 1 maxEntries + n - 1 := by
  have invariant := Machine.invariant_along
    (fun s : TrackerSystem Key => Indexes s ∧ Fits n s ∧ s.tracker.maxEntries = maxEntries)
    (fun s event next held within stepped => ⟨held.1.step stepped,
      held.2.1.step held.1 within stepped, (maxEntries_step stepped).trans held.2.2⟩)
    ⟨indexes_of_reachable ⟨[], rfl⟩, ⟨Nat.zero_le _, ?_, by simp⟩, rfl⟩ within ran
  · have bounded := invariant.2.1.bounded
    rw [invariant.2.2] at bounded
    omega
  · change 0 + 0 + 1 ≤ max 1 maxEntries + n
    omega

/-- Two calls find the only place free together. -/
def overshootingCalls : List (TrackerEvent String) :=
  [.call 0 "a", .call 1 "b"] ++ (List.replicate 5 [.step 0, .step 1]).flatten

theorem concurrent_size_le_two :
    ((concurrentChecks.run ⟨0, .new 60 1, ∅⟩ overshootingCalls).get
      (by decide)).tracker.tracker.size ≤ 2 :=
  concurrent_size_le 2 0 60 1 overshootingCalls _ (Option.some_get (by decide)).symm (by decide)

end AxumConf.Dedup
