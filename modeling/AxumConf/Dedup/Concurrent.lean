import AxumConf.Dedup.Tracker
import AxumConf.Lib.Machine

/-!
# Concurrent calls of `check_and_mark`

`check_and_mark` takes no lock over its whole body. It reads the clock, looks
its key up, and only after several more operations on the map inserts the key,
so two calls for one key can both miss. The machine below takes one such
operation at a time, for any number of calls and keys, together with the
background task that drops expired entries.

A call that misses its lookup is going to answer `false`. The second half of
this file bounds the number of those calls for one key.
-/

namespace AxumConf.Dedup

/-- Where a call of `check_and_mark` stands: the operation it makes next. From `popFront` to the
end of the eviction it holds the lock of the queue. -/
inductive Pc (Key : Type) where
  | get
  | remove
  | lenFirst
  | cleanupNow
  | retain (later : Nat)
  | lenSecond
  | orderLock
  | popFront
  | isCurrent (seq : UInt64) (key : Key)
  | evict (key : Key)
  | fetchAdd
  | insert (seq : UInt64)
  | pushBack (seq : UInt64)
  | done (answer : Bool)
  deriving DecidableEq, Repr

/-- A call of `check_and_mark`, after it has read the clock. -/
structure CheckCall (Key : Type) where
  key : Key
  reading : Nat
  pc : Pc Key
  deriving DecidableEq, Repr

structure TrackerSystem (Key : Type) where
  now : Nat
  tracker : RequestTracker Key
  calls : Table Nat (CheckCall Key)

inductive TrackerEvent (Key : Type) where
  | tick (span : Nat)
  | call (id : Nat) (key : Key)
  | step (id : Nat)
  /-- The background task drops what had expired at its reading. -/
  | sweep (reading : Nat)
  deriving DecidableEq, Repr

variable {Key : Type} [DecidableEq Key]

def RequestTracker.hits (t : RequestTracker Key) (key : Key) (reading : Nat) : Bool :=
  match t.tracker.lookup key with
  | some entry => decide (reading < entry.expiresAt)
  | none => false

/-- The next operation of a call: the tracker afterwards and where the call then stands. -/
def stepCall (now : Nat) (t : RequestTracker Key) (call : CheckCall Key) :
    RequestTracker Key × Pc Key :=
  match call.pc with
  | .get =>
      match t.tracker.lookup call.key with
      | some entry => if call.reading < entry.expiresAt then (t, .done true) else (t, .remove)
      | none => (t, .lenFirst)
  | .remove => ({ t with tracker := t.tracker.erase call.key }, .lenFirst)
  | .lenFirst => (t, if t.isFull then .cleanupNow else .fetchAdd)
  | .cleanupNow => (t, .retain now)
  | .retain later => (t.cleanupExpired later, .lenSecond)
  | .lenSecond => (t, if t.isFull then .orderLock else .fetchAdd)
  | .orderLock => (t, .popFront)
  | .popFront =>
      match t.order with
      | [] => (t, .fetchAdd)
      | (seq, key) :: rest => ({ t with order := rest }, .isCurrent seq key)
  | .isCurrent seq key =>
      let isCurrent := ((t.tracker.lookup key).map fun entry => decide (entry.seq = seq)).getD false
      (t, if isCurrent then .evict key else .popFront)
  | .evict key => ({ t with tracker := t.tracker.erase key }, .fetchAdd)
  | .fetchAdd => ({ t with seq := t.seq + 1 }, .insert t.seq)
  | .insert seq =>
      ({ t with tracker := t.tracker.insert call.key ⟨call.reading + t.ttl, seq⟩ }, .pushBack seq)
  | .pushBack seq => ({ t with order := t.order ++ [(seq, call.key)] }, .done false)
  | .done answer => (t, .done answer)

namespace Pc

def isDone : Pc Key → Bool
  | .done _ => true
  | _ => false

def holdsOrder : Pc Key → Bool
  | .popFront => true
  | .isCurrent _ _ => true
  | .evict _ => true
  | _ => false

/-- The operation waits for the lock of the queue. -/
def needsOrder : Pc Key → Bool
  | .orderLock => true
  | .pushBack _ => true
  | _ => false

end Pc

/-- Where an operation can leave a call. -/
inductive Pc.Leads (now : Nat) : Pc Key → Pc Key → Prop where
  | hit : Leads now .get (.done true)
  | expired : Leads now .get .remove
  | missing : Leads now .get .lenFirst
  | removed : Leads now .remove .lenFirst
  | full : Leads now .lenFirst .cleanupNow
  | room : Leads now .lenFirst .fetchAdd
  | read : Leads now .cleanupNow (.retain now)
  | cleaned (later : Nat) : Leads now (.retain later) .lenSecond
  | stillFull : Leads now .lenSecond .orderLock
  | roomMade : Leads now .lenSecond .fetchAdd
  | locked : Leads now .orderLock .popFront
  | exhausted : Leads now .popFront .fetchAdd
  | popped (seq : UInt64) (key : Key) : Leads now .popFront (.isCurrent seq key)
  | current (seq : UInt64) (key : Key) : Leads now (.isCurrent seq key) (.evict key)
  | stale (seq : UInt64) (key : Key) : Leads now (.isCurrent seq key) .popFront
  | evicted (key : Key) : Leads now (.evict key) .fetchAdd
  | numbered (seq : UInt64) : Leads now .fetchAdd (.insert seq)
  | inserted (seq : UInt64) : Leads now (.insert seq) (.pushBack seq)
  | queued (seq : UInt64) : Leads now (.pushBack seq) (.done false)

theorem leads_stepCall {now : Nat} {t : RequestTracker Key} {call : CheckCall Key}
    (unfinished : call.pc.isDone = false) : call.pc.Leads now (stepCall now t call).2 := by
  rcases call with ⟨key, reading, pc⟩
  cases pc with
  | get =>
      simp only [stepCall]
      split
      · split
        · exact .hit
        · exact .expired
      · exact .missing
  | remove => exact .removed
  | lenFirst =>
      simp only [stepCall]
      split
      · exact .full
      · exact .room
  | cleanupNow => exact .read
  | retain later => exact .cleaned later
  | lenSecond =>
      simp only [stepCall]
      split
      · exact .stillFull
      · exact .roomMade
  | orderLock => exact .locked
  | popFront =>
      simp only [stepCall]
      split
      · exact .exhausted
      · exact .popped _ _
  | isCurrent seq key =>
      simp only [stepCall]
      split
      · exact .current seq key
      · exact .stale seq key
  | evict key => exact .evicted key
  | fetchAdd => exact .numbered t.seq
  | insert seq => exact .inserted seq
  | pushBack seq => exact .queued seq
  | done answer => cases unfinished

/-- A lookup leaves the tracker as it is. -/
theorem tracker_stepCall_get {now : Nat} {t : RequestTracker Key} {call : CheckCall Key}
    (looking : call.pc = .get) : (stepCall now t call).1 = t := by
  simp only [stepCall, looking]
  split
  · split <;> rfl
  · rfl

/-- Some call is inside the loop of `evict_oldest`. -/
def TrackerSystem.orderLocked (s : TrackerSystem Key) : Bool :=
  s.calls.entries.any fun entry => entry.2.pc.holdsOrder

/-- One step of the interleaving; `none` when the event cannot happen. -/
def stepTracker (s : TrackerSystem Key) : TrackerEvent Key → Option (TrackerSystem Key)
  | .tick span => some { s with now := s.now + span }
  | .call id key =>
      match s.calls.lookup id with
      | none => some { s with calls := s.calls.insert id ⟨key, s.now, .get⟩ }
      | some _ => none
  | .step id =>
      match s.calls.lookup id with
      | some call =>
          if call.pc.isDone || (call.pc.needsOrder && s.orderLocked) then
            none
          else
            some { s with
              tracker := (stepCall s.now s.tracker call).1
              calls := s.calls.insert id { call with pc := (stepCall s.now s.tracker call).2 } }
      | none => none
  | .sweep reading =>
      if reading ≤ s.now then
        some { s with tracker := s.tracker.cleanupExpired reading }
      else
        none

def concurrentChecks : Machine (TrackerSystem Key) (TrackerEvent Key) where
  step := stepTracker

/-- What each event requires and does. -/
inductive TrackerStepped (s : TrackerSystem Key) :
    TrackerEvent Key → TrackerSystem Key → Prop where
  | tick (span : Nat) : TrackerStepped s (.tick span) { s with now := s.now + span }
  | call (id : Nat) (key : Key) (fresh : s.calls.lookup id = none) :
      TrackerStepped s (.call id key)
        { s with calls := s.calls.insert id ⟨key, s.now, .get⟩ }
  | step (id : Nat) (call : CheckCall Key) (found : s.calls.lookup id = some call)
      (unfinished : call.pc.isDone = false)
      (free : call.pc.needsOrder = true → s.orderLocked = false) :
      TrackerStepped s (.step id)
        { s with
          tracker := (stepCall s.now s.tracker call).1
          calls := s.calls.insert id { call with pc := (stepCall s.now s.tracker call).2 } }
  | sweep (reading : Nat) (past : reading ≤ s.now) :
      TrackerStepped s (.sweep reading) { s with tracker := s.tracker.cleanupExpired reading }

theorem trackerStepped_of_step {s next : TrackerSystem Key} {event : TrackerEvent Key}
    (stepped : concurrentChecks.step s event = some next) : TrackerStepped s event next := by
  simp only [concurrentChecks] at stepped
  cases event with
  | tick span =>
      cases stepped
      exact .tick span
  | call id key =>
      simp only [stepTracker] at stepped
      split at stepped
      · rename_i fresh
        cases stepped
        exact .call id key fresh
      · cases stepped
  | step id =>
      simp only [stepTracker] at stepped
      split at stepped
      · rename_i call found
        split at stepped
        · cases stepped
        · rename_i enabled
          simp only [Bool.or_eq_true, Bool.and_eq_true, not_or, not_and, Bool.not_eq_true]
            at enabled
          cases stepped
          exact .step id call found enabled.1 enabled.2
      · cases stepped
  | sweep reading =>
      simp only [stepTracker] at stepped
      split at stepped
      · rename_i past
        cases stepped
        exact .sweep reading past
      · cases stepped

omit [DecidableEq Key] in
theorem orderLocked_eq_false_iff {s : TrackerSystem Key} :
    s.orderLocked = false ↔
      ∀ id call, s.calls.lookup id = some call → call.pc.holdsOrder = false := by
  rw [AList.forall_lookup_iff, TrackerSystem.orderLocked, List.any_eq_false]
  simp only [Bool.not_eq_true]

section Alone

def TrackerSystem.advance (s : TrackerSystem Key) (id : Nat) (call : CheckCall Key) :
    TrackerSystem Key where
  now := s.now
  tracker := (stepCall s.now s.tracker call).1
  calls := s.calls.insert id { call with pc := (stepCall s.now s.tracker call).2 }

/-- No other call holds the lock of the queue. -/
def TrackerSystem.OthersFree (s : TrackerSystem Key) (id : Nat) : Prop :=
  ∀ other call, s.calls.lookup other = some call → other ≠ id → call.pc.holdsOrder = false

/-- Run without interruption, the call ends with the tracker and the answer given. -/
def EndsWith (s : TrackerSystem Key) (id : Nat) (ended : Bool × RequestTracker Key) : Prop :=
  ∃ steps finish, concurrentChecks.run s (List.replicate steps (.step id)) = some finish ∧
    finish.tracker = ended.2 ∧
    ∃ call, finish.calls.lookup id = some call ∧ call.pc = .done ended.1

variable {s : TrackerSystem Key} {id : Nat} {call : CheckCall Key}

theorem lookup_advance (s : TrackerSystem Key) (id : Nat) (call : CheckCall Key) :
    (s.advance id call).calls.lookup id =
      some { call with pc := (stepCall s.now s.tracker call).2 } :=
  AList.lookup_insert _

theorem TrackerSystem.OthersFree.advance (others : s.OthersFree id) (call : CheckCall Key) :
    (s.advance id call).OthersFree id := by
  intro other held found distinct
  rw [TrackerSystem.advance, AList.lookup_insert_ne distinct] at found
  exact others other held found distinct

theorem endsWith_of_done {answer : Bool} (found : s.calls.lookup id = some call)
    (isAt : call.pc = .done answer) : EndsWith s id (answer, s.tracker) :=
  ⟨0, s, rfl, rfl, call, found, isAt⟩

omit [DecidableEq Key] in
theorem Pc.holdsOrder_of_needsOrder {pc : Pc Key} (needs : pc.needsOrder = true) :
    pc.holdsOrder = false := by
  cases pc <;> simp_all [Pc.needsOrder, Pc.holdsOrder]

theorem endsWith_of_advance {ended : Bool × RequestTracker Key}
    (found : s.calls.lookup id = some call) (unfinished : call.pc.isDone = false)
    (others : s.OthersFree id) (endsWith : EndsWith (s.advance id call) id ended) :
    EndsWith s id ended := by
  rcases endsWith with ⟨steps, finish, ran, facts⟩
  refine ⟨steps + 1, finish, ?_, facts⟩
  have enabled : ¬(call.pc.needsOrder && s.orderLocked) = true := by
    rw [Bool.and_eq_true, not_and, Bool.not_eq_true]
    intro needs
    apply orderLocked_eq_false_iff.mpr
    intro other held foundOther
    by_cases same : other = id
    · subst same
      rw [found] at foundOther
      cases foundOther
      exact Pc.holdsOrder_of_needsOrder needs
    · exact others other held foundOther same
  have stepped : concurrentChecks.step s (.step id) = some (s.advance id call) := by
    simp only [concurrentChecks, stepTracker, found, unfinished, Bool.false_or, if_neg enabled,
      TrackerSystem.advance]
  simp only [List.replicate_succ, Machine.run_cons, stepped, Option.bind_some, ran]

/-- From the sequence number on, the rest of a call inserts its key. -/
theorem endsWith_insertNew (found : s.calls.lookup id = some call) (isAt : call.pc = .fetchAdd)
    (others : s.OthersFree id) :
    EndsWith s id (false, s.tracker.insertNew call.reading call.key) := by
  rcases call with ⟨key, reading, pc⟩
  cases isAt
  refine endsWith_of_advance found rfl others ?_
  refine endsWith_of_advance (lookup_advance s id _) rfl (others.advance _) ?_
  refine endsWith_of_advance (lookup_advance _ id _) rfl ((others.advance _).advance _) ?_
  exact endsWith_of_done (lookup_advance _ id _) rfl

/-- The removal of the oldest key, followed by the insertion. -/
theorem endsWith_evict {old : Key} (found : s.calls.lookup id = some call)
    (isAt : call.pc = .evict old) (others : s.OthersFree id) :
    EndsWith s id (false,
      { s.tracker with tracker := s.tracker.tracker.erase old }.insertNew
        call.reading call.key) := by
  rcases call with ⟨key, reading, pc⟩
  cases isAt
  refine endsWith_of_advance found rfl others ?_
  have ends := endsWith_insertNew (lookup_advance s id _) rfl
    (others.advance ⟨key, reading, .evict old⟩)
  exact ends

/-- The loop of an eviction, followed by the insertion. -/
theorem endsWith_popFront (found : s.calls.lookup id = some call) (isAt : call.pc = .popFront)
    (others : s.OthersFree id) :
    EndsWith s id (false, s.tracker.evictOldest.insertNew call.reading call.key) := by
  rcases call with ⟨key, reading, pc⟩
  cases isAt
  generalize queue : s.tracker.order = order
  induction order generalizing s with
  | nil =>
      refine endsWith_of_advance found rfl others ?_
      have foundNext := lookup_advance s id ⟨key, reading, .popFront⟩
      simp only [stepCall, queue] at foundNext
      have ends := endsWith_insertNew foundNext rfl (others.advance _)
      have nothing : s.tracker.evictOldest = s.tracker := by
        rw [RequestTracker.evictOldest, queue, evictLoop, ← queue]
      simpa only [TrackerSystem.advance, stepCall, queue, nothing] using ends
  | cons record rest ih =>
      rcases record with ⟨seq, old⟩
      refine endsWith_of_advance found rfl others ?_
      have foundNext := lookup_advance s id ⟨key, reading, .popFront⟩
      simp only [stepCall, queue] at foundNext
      have othersNext := others.advance ⟨key, reading, .popFront⟩
      have popped : (s.advance id ⟨key, reading, .popFront⟩).tracker =
          { s.tracker with order := rest } := by
        simp only [TrackerSystem.advance, stepCall, queue]
      generalize s.advance id ⟨key, reading, .popFront⟩ = next at foundNext othersNext popped ⊢
      refine endsWith_of_advance foundNext rfl othersNext ?_
      have foundThen := lookup_advance next id ⟨key, reading, .isCurrent seq old⟩
      have othersThen := othersNext.advance ⟨key, reading, .isCurrent seq old⟩
      have sameTracker :
          (next.advance id ⟨key, reading, .isCurrent seq old⟩).tracker = next.tracker := rfl
      by_cases current :
          ((s.tracker.tracker.lookup old).map fun entry => decide (entry.seq = seq)).getD false =
            true
      · simp only [stepCall, popped, current, if_true] at foundThen
        have ends := endsWith_evict foundThen rfl othersThen
        have evicted : s.tracker.evictOldest =
            { s.tracker with tracker := s.tracker.tracker.erase old, order := rest } := by
          simp only [RequestTracker.evictOldest, queue, evictLoop, current, if_true]
        rw [evicted]
        rwa [sameTracker, popped] at ends
      · simp only [stepCall, popped, current, Bool.false_eq_true, if_false] at foundThen
        have skipped : s.tracker.evictOldest =
            (next.advance id ⟨key, reading, .isCurrent seq old⟩).tracker.evictOldest := by
          simp only [sameTracker, popped, RequestTracker.evictOldest, queue, evictLoop, current,
            Bool.false_eq_true, if_false]
        rw [skipped]
        refine ih othersThen foundThen ?_
        rw [sameTracker, popped]

theorem endsWith_lenSecond (found : s.calls.lookup id = some call) (isAt : call.pc = .lenSecond)
    (others : s.OthersFree id) :
    EndsWith s id (false,
      (if s.tracker.isFull then s.tracker.evictOldest else s.tracker).insertNew
        call.reading call.key) := by
  rcases call with ⟨key, reading, pc⟩
  cases isAt
  refine endsWith_of_advance found rfl others ?_
  have foundNext := lookup_advance s id ⟨key, reading, .lenSecond⟩
  have othersNext := others.advance ⟨key, reading, .lenSecond⟩
  cases full : s.tracker.isFull with
  | false =>
      simp only [stepCall, full, Bool.false_eq_true, if_false] at foundNext ⊢
      exact endsWith_insertNew foundNext rfl othersNext
  | true =>
      simp only [stepCall, full, if_true] at foundNext ⊢
      refine endsWith_of_advance foundNext rfl othersNext ?_
      exact endsWith_popFront (lookup_advance _ id _) rfl (othersNext.advance _)

theorem endsWith_lenFirst (found : s.calls.lookup id = some call) (isAt : call.pc = .lenFirst)
    (others : s.OthersFree id) :
    EndsWith s id (false, (s.tracker.makeRoom s.now).insertNew call.reading call.key) := by
  rcases call with ⟨key, reading, pc⟩
  cases isAt
  refine endsWith_of_advance found rfl others ?_
  have foundNext := lookup_advance s id ⟨key, reading, .lenFirst⟩
  have othersNext := others.advance ⟨key, reading, .lenFirst⟩
  simp only [RequestTracker.makeRoom]
  cases full : s.tracker.isFull with
  | false =>
      simp only [stepCall, full, Bool.false_eq_true, if_false] at foundNext ⊢
      exact endsWith_insertNew foundNext rfl othersNext
  | true =>
      simp only [stepCall, full, if_true] at foundNext ⊢
      refine endsWith_of_advance foundNext rfl othersNext ?_
      refine endsWith_of_advance (lookup_advance _ id _) rfl (othersNext.advance _) ?_
      exact endsWith_lenSecond (lookup_advance _ id _) rfl ((othersNext.advance _).advance _)

/-- A call whose operations run without interruption, while no other call holds the lock of the
queue, does what `checkAndMark` does. -/
theorem endsWith_checkAndMark (s : TrackerSystem Key) {id : Nat}
    (fresh : s.calls.lookup id = none) (unlocked : s.orderLocked = false) (key : Key) :
    ∃ started, concurrentChecks.step s (.call id key) = some started ∧
      EndsWith started id (s.tracker.checkAndMark s.now s.now key) := by
  let started : TrackerSystem Key := { s with calls := s.calls.insert id ⟨key, s.now, .get⟩ }
  have found : started.calls.lookup id = some ⟨key, s.now, .get⟩ := AList.lookup_insert _
  have others : started.OthersFree id := by
    intro other held foundOther distinct
    rw [AList.lookup_insert_ne distinct] at foundOther
    exact orderLocked_eq_false_iff.mp unlocked other held foundOther
  refine ⟨started, by simp [concurrentChecks, stepTracker, fresh, started], ?_⟩
  refine endsWith_of_advance found rfl others ?_
  have foundNext := lookup_advance started id ⟨key, s.now, .get⟩
  have othersNext := others.advance ⟨key, s.now, .get⟩
  have same : started.tracker = s.tracker := rfl
  simp only [RequestTracker.checkAndMark]
  cases held : s.tracker.tracker.lookup key with
  | none =>
      simp only [stepCall, same, held] at foundNext ⊢
      have ends := endsWith_lenFirst foundNext rfl othersNext
      simpa only [TrackerSystem.advance, stepCall, same, held] using ends
  | some entry =>
      by_cases notExpired : s.now < entry.expiresAt
      · simp only [stepCall, same, held, notExpired, if_true] at foundNext ⊢
        have ends := endsWith_of_done foundNext rfl
        simpa only [TrackerSystem.advance, stepCall, same, held, notExpired, if_true] using ends
      · simp only [stepCall, same, held, notExpired, if_false] at foundNext ⊢
        refine endsWith_of_advance foundNext rfl othersNext ?_
        have ends := endsWith_lenFirst
          (lookup_advance (started.advance id ⟨key, s.now, .get⟩) id ⟨key, s.now, .remove⟩) rfl
          (othersNext.advance _)
        simpa only [TrackerSystem.advance, stepCall, same, held, notExpired, if_false] using ends

end Alone

end AxumConf.Dedup
