import AxumConf.Dedup.Concurrent

/-!
# At most one accepted call for a key

Calls for one key whose clock readings lie within one time-to-live of each
other are meant to be answered `false` at most once. That holds of the runs in
which a call misses its lookup only while no other call for the key stands
between its own lookup and its insertion, and in which no entry that a call
inserted is dropped as expired while another call for the key has read the
clock and not yet looked its key up. It fails of others.
-/

namespace AxumConf.Dedup

namespace Pc

variable {Key : Type}

/-- A call past a lookup that found no live entry. It will answer `false`. -/
def missed : Pc Key → Bool
  | .get => false
  | .done answer => !answer
  | _ => true

/-- A call past the insertion of its key. -/
def stored : Pc Key → Bool
  | .pushBack _ => true
  | .done answer => !answer
  | _ => false

def inserting (pc : Pc Key) : Bool :=
  pc.missed && !pc.stored

def looking : Pc Key → Bool
  | .get => true
  | _ => false

theorem looking_eq_false_iff {pc : Pc Key} : pc.looking = false ↔ pc ≠ .get := by
  cases pc <;> simp [looking]

end Pc

section Conditions

variable {Key : Type} [DecidableEq Key] (k : Key) (s : TrackerSystem Key)

/-- The readings of the calls for a key lie within one time-to-live of each other. -/
def TrackerSystem.Within : Prop :=
  ∀ id call, s.calls.lookup id = some call → ∀ other held, s.calls.lookup other = some held →
    call.key = k → held.key = k → id ≠ other → call.reading < held.reading + s.tracker.ttl

def TrackerSystem.anyCall (property : Pc Key → Bool) : Bool :=
  s.calls.entries.any fun entry => decide (entry.2.key = k) && property entry.2.pc

def TrackerSystem.mover : TrackerEvent Key → Option (CheckCall Key)
  | .step id => s.calls.lookup id
  | .tick _ => none
  | .call _ _ => none
  | .sweep _ => none

def TrackerSystem.droppedAt (event : TrackerEvent Key) : Option Nat :=
  match event with
  | .sweep reading => some reading
  | _ => (s.mover event).bind fun call =>
      match call.pc with
      | .retain later => some later
      | _ => none

/-- Once there are calls for a key, an eviction for capacity does not take it. -/
def KeepsKey (event : TrackerEvent Key) : Prop :=
  ∀ call ∈ s.mover event, call.pc = .evict k → s.anyCall k (fun _ => true) = true →
    s.tracker.tracker.lookup k = none

/-- A call for a key misses its lookup only while no other call for it is about to insert it. -/
def MissesAlone (event : TrackerEvent Key) : Prop :=
  ∀ call ∈ s.mover event, call.key = k → call.pc = .get →
    s.tracker.hits k call.reading = false → s.anyCall k Pc.inserting = false

/-- An entry that a call inserted is dropped as expired only while no call for its key has read
the clock and not yet looked the key up. -/
def DropsAside (event : TrackerEvent Key) : Prop :=
  ∀ reading ∈ s.droppedAt event, ∀ entry ∈ s.tracker.tracker.lookup k,
    entry.expiresAt ≤ reading → s.anyCall k Pc.stored = true → s.anyCall k Pc.looking = false

instance : Decidable (s.Within k) :=
  inferInstanceAs (Decidable (∀ id call, s.calls.lookup id = some call →
    ∀ other held, s.calls.lookup other = some held → _))

instance (event : TrackerEvent Key) : Decidable (KeepsKey k s event) :=
  inferInstanceAs (Decidable (∀ call ∈ s.mover event, _))

instance (event : TrackerEvent Key) : Decidable (MissesAlone k s event) :=
  inferInstanceAs (Decidable (∀ call ∈ s.mover event, _))

instance (event : TrackerEvent Key) : Decidable (DropsAside k s event) :=
  inferInstanceAs (Decidable (∀ reading ∈ s.droppedAt event,
    ∀ entry ∈ s.tracker.tracker.lookup k, _))

/-- The entry of a call that has inserted its key is in the map, or has expired and can no longer
be missed. -/
def Guarded (call : CheckCall Key) : Prop :=
  (∃ entry, s.tracker.tracker.lookup k = some entry ∧
      entry.expiresAt = call.reading + s.tracker.ttl) ∨
    (call.reading + s.tracker.ttl ≤ s.now ∧
      ∀ other held, s.calls.lookup other = some held → held.key = k → held.pc ≠ .get)

/-- At most one call for a key is past a missed lookup, and what it inserted stops the others. -/
structure OneMiss : Prop where
  alone : ∀ id other call held, s.calls.lookup id = some call → s.calls.lookup other = some held →
    call.key = k → held.key = k → call.pc.missed = true → held.pc.missed = true → id = other
  readings : ∀ id call later, s.calls.lookup id = some call → call.pc = .retain later →
    later ≤ s.now
  guarded : ∀ id call, s.calls.lookup id = some call → call.key = k → call.pc.stored = true →
    Guarded k s call

end Conditions

section Steps

variable {Key : Type} [DecidableEq Key] {k : Key} {s : TrackerSystem Key}

theorem anyCall_eq_true_iff {property : Pc Key → Bool} :
    s.anyCall k property = true ↔
      ∃ id call, s.calls.lookup id = some call ∧ call.key = k ∧ property call.pc = true := by
  simp only [TrackerSystem.anyCall, List.any_eq_true, Bool.and_eq_true, decide_eq_true_eq]
  constructor
  · rintro ⟨entry, member, sameKey, holds⟩
    exact ⟨entry.1, entry.2, AList.mem_lookup_iff.mpr member, sameKey, holds⟩
  · rintro ⟨id, call, found, sameKey, holds⟩
    exact ⟨⟨id, call⟩, AList.mem_lookup_iff.mp found, sameKey, holds⟩

theorem anyCall_eq_false_iff {property : Pc Key → Bool} :
    s.anyCall k property = false ↔
      ∀ id call, s.calls.lookup id = some call → call.key = k → property call.pc = false := by
  rw [Bool.eq_false_iff, Ne, anyCall_eq_true_iff]
  constructor
  · intro none id call found sameKey
    rw [Bool.eq_false_iff]
    exact fun holds => none ⟨id, call, found, sameKey, holds⟩
  · rintro none ⟨id, call, found, sameKey, holds⟩
    rw [none id call found sameKey] at holds
    cases holds

theorem anyCall_looking_iff :
    s.anyCall k Pc.looking = false ↔
      ∀ id call, s.calls.lookup id = some call → call.key = k → call.pc ≠ .get := by
  simp only [anyCall_eq_false_iff, Pc.looking_eq_false_iff]

omit [DecidableEq Key] in
theorem Pc.missed_of_stored {pc : Pc Key} (stored : pc.stored = true) : pc.missed = true := by
  cases pc <;> simp_all [Pc.stored, Pc.missed]

omit [DecidableEq Key] in
theorem Pc.missed_of_unfinished {pc : Pc Key} (unfinished : pc.isDone = false)
    (notLooking : pc ≠ .get) : pc.missed = true := by
  cases pc with
  | get => exact absurd rfl notLooking
  | done answer => cases unfinished
  | _ => rfl

theorem missed_stepCall {now : Nat} {t : RequestTracker Key} {call : CheckCall Key}
    (unfinished : call.pc.isDone = false) :
    (stepCall now t call).2.missed = true ↔
      call.pc.missed = true ∨ (call.pc = .get ∧ t.hits call.key call.reading = false) := by
  by_cases looking : call.pc = .get
  · simp only [stepCall, looking, RequestTracker.hits]
    cases t.tracker.lookup call.key with
    | none => simp [Pc.missed]
    | some entry =>
        by_cases notExpired : call.reading < entry.expiresAt <;> simp [notExpired, Pc.missed]
  · -- Past its lookup a call has missed, unless it is done.
    have leads := @leads_stepCall _ _ now t call unfinished
    generalize (stepCall now t call).2 = after at leads ⊢
    generalize call.pc = pc at leads looking ⊢
    cases leads <;> simp_all [Pc.missed]

theorem ttl_stepCall (now : Nat) (t : RequestTracker Key) (call : CheckCall Key) :
    (stepCall now t call).1.ttl = t.ttl := by
  by_cases looking : call.pc = .get
  · rw [tracker_stepCall_get looking]
  · rcases call with ⟨key, reading, pc⟩
    cases pc with
    | get => exact absurd rfl looking
    | popFront =>
        simp only [stepCall]
        split <;> rfl
    | _ => rfl

/-- Only a removal or an insertion of the key itself, a cleanup and an eviction change what the
map holds for a key. -/
theorem lookup_stepCall {now : Nat} {t : RequestTracker Key} {call : CheckCall Key}
    (other : call.key ≠ k ∨ call.pc = .get ∨ ∃ seq, call.pc = .pushBack seq)
    (noCleanup : ∀ later, call.pc ≠ .retain later) (noEviction : call.pc ≠ .evict k) :
    (stepCall now t call).1.tracker.lookup k = t.tracker.lookup k := by
  by_cases looking : call.pc = .get
  · rw [tracker_stepCall_get looking]
  · rcases call with ⟨key, reading, pc⟩
    cases pc with
    | get => exact absurd rfl looking
    | remove =>
        have distinct : key ≠ k := by simpa using other
        exact AList.lookup_erase_ne distinct.symm
    | insert seq =>
        have distinct : key ≠ k := by simpa using other
        exact AList.lookup_insert_ne distinct.symm
    | retain later => exact absurd rfl (noCleanup later)
    | popFront =>
        simp only [stepCall]
        split <;> rfl
    | evict evicted =>
        have distinct : evicted ≠ k := by
          rintro rfl
          exact noEviction rfl
        exact AList.lookup_erase_ne distinct.symm
    | _ => rfl

/-- A call gets past its insertion by inserting, and stays there. -/
theorem stored_stepCall {now : Nat} {t : RequestTracker Key} {call : CheckCall Key}
    (unfinished : call.pc.isDone = false) (stored : (stepCall now t call).2.stored = true) :
    ∃ seq, call.pc = .insert seq ∨ call.pc = .pushBack seq := by
  have leads := @leads_stepCall _ _ now t call unfinished
  generalize (stepCall now t call).2 = after at leads stored
  generalize call.pc = pc at leads ⊢
  cases leads with
  | inserted seq => exact ⟨seq, .inl rfl⟩
  | queued seq => exact ⟨seq, .inr rfl⟩
  | _ => cases stored

theorem lookup_calls_advance {id other : Nat} {call held : CheckCall Key}
    (found : (s.advance id call).calls.lookup other = some held) :
    (other = id ∧ held = { call with pc := (stepCall s.now s.tracker call).2 }) ∨
      (other ≠ id ∧ s.calls.lookup other = some held) :=
  AList.lookup_insert_cases found

theorem pc_stepCall_ne_get {now : Nat} {t : RequestTracker Key} {call : CheckCall Key}
    (unfinished : call.pc.isDone = false) : (stepCall now t call).2 ≠ .get := by
  intro same
  have leads := @leads_stepCall _ _ now t call unfinished
  rw [same] at leads
  generalize call.pc = pc at leads
  cases leads

theorem Within.of_step {next : TrackerSystem Key} {event : TrackerEvent Key}
    (stepped : concurrentChecks.step s event = some next) (within : next.Within k) :
    s.Within k := by
  have persists : next.tracker.ttl = s.tracker.ttl ∧ ∀ id call,
      s.calls.lookup id = some call → ∃ after, next.calls.lookup id = some after ∧
        after.key = call.key ∧ after.reading = call.reading := by
    cases trackerStepped_of_step stepped with
    | tick span => exact ⟨rfl, fun id call found => ⟨call, found, rfl, rfl⟩⟩
    | call newId key fresh =>
        refine ⟨rfl, ?_⟩
        intro id call found
        have distinct : id ≠ newId := by
          rintro rfl
          rw [fresh] at found
          cases found
        exact ⟨call, (AList.lookup_insert_ne distinct).trans found, rfl, rfl⟩
    | step moved movedCall movedFound unfinished free =>
        refine ⟨ttl_stepCall _ _ _, ?_⟩
        intro id call found
        by_cases same : id = moved
        · subst same
          rw [movedFound] at found
          cases found
          exact ⟨_, AList.lookup_insert _, rfl, rfl⟩
        · exact ⟨call, (AList.lookup_insert_ne same).trans found, rfl, rfl⟩
    | sweep reading past => exact ⟨rfl, fun id call found => ⟨call, found, rfl, rfl⟩⟩
  rcases persists with ⟨sameTtl, persists⟩
  intro id call found other held foundOther sameKey sameKeyOther distinct
  rcases persists id call found with ⟨after, foundAfter, keyAfter, readingAfter⟩
  rcases persists other held foundOther with ⟨otherAfter, foundOtherAfter, keyOther, readingOther⟩
  have ordered := within id after foundAfter other otherAfter foundOtherAfter
    (keyAfter.trans sameKey) (keyOther.trans sameKeyOther) distinct
  rwa [sameTtl, readingAfter, readingOther] at ordered

/-- An entry that a call inserted survives a cleanup, or has expired with no call for its key
left at its lookup. -/
theorem Guarded.cleanupExpired {call : CheckCall Key} (guarded : Guarded k s call)
    {calls : Table Nat (CheckCall Key)} {reading : Nat} (past : reading ≤ s.now)
    (aside : ∀ entry, s.tracker.tracker.lookup k = some entry → entry.expiresAt ≤ reading →
      ∀ other held, s.calls.lookup other = some held → held.key = k → held.pc ≠ .get)
    (noneArrives : (∀ other held, s.calls.lookup other = some held → held.key = k →
        held.pc ≠ .get) →
      ∀ other held, calls.lookup other = some held → held.key = k → held.pc ≠ .get) :
    Guarded k ⟨s.now, s.tracker.cleanupExpired reading, calls⟩ call := by
  rcases guarded with ⟨entry, found, expires⟩ | ⟨expired, noneLooks⟩
  · by_cases dropped : entry.expiresAt ≤ reading
    · refine .inr ⟨?_, noneArrives (aside entry found dropped)⟩
      have ordered : call.reading + s.tracker.ttl ≤ s.now := by omega
      exact ordered
    · refine .inl ⟨entry, ?_, expires⟩
      simp only [RequestTracker.cleanupExpired, AList.lookup_retain, found]
      simp [Nat.lt_of_not_le dropped]
  · exact .inr ⟨expired, noneArrives noneLooks⟩

/-- A call that is about to miss its lookup finds no other call past a missed lookup. -/
theorem OneMiss.not_missed (invariant : OneMiss k s) (within : s.Within k) {id : Nat}
    {call : CheckCall Key} (found : s.calls.lookup id = some call) (sameKey : call.key = k)
    (looking : call.pc = .get) (misses : s.tracker.hits k call.reading = false)
    (noneInserting : ∀ other held, s.calls.lookup other = some held → held.key = k →
      held.pc.inserting = false) :
    ∀ other held, s.calls.lookup other = some held → held.key = k → held.pc.missed = false := by
  intro other held foundOther sameKeyOther
  by_contra missed
  rw [Bool.not_eq_false] at missed
  have stored : held.pc.stored = true := by
    have notInserting := noneInserting other held foundOther sameKeyOther
    simpa [Pc.inserting, missed] using notInserting
  have distinct : id ≠ other := by
    rintro rfl
    rw [found] at foundOther
    cases foundOther
    simp [looking, Pc.missed] at missed
  rcases invariant.guarded other held foundOther sameKeyOther stored with
    ⟨entry, entryFound, expires⟩ | ⟨-, noneLooks⟩
  · have ordered := within id call found other held foundOther sameKey sameKeyOther distinct
    rw [← expires] at ordered
    simp [RequestTracker.hits, entryFound, ordered] at misses
  · exact noneLooks id call found sameKey looking

theorem OneMiss.tick (invariant : OneMiss k s) (span : Nat) :
    OneMiss k { s with now := s.now + span } where
  alone := invariant.alone
  readings := fun id call later found isAt =>
    Nat.le_add_right_of_le (invariant.readings id call later found isAt)
  guarded := by
    intro id call found sameKey stored
    exact (invariant.guarded id call found sameKey stored).imp (fun held => held) fun expired =>
      ⟨Nat.le_add_right_of_le expired.1, expired.2⟩

/-- A new call for the key reads the clock before the entry of an accepted one expires. -/
theorem OneMiss.call (invariant : OneMiss k s) {newId : Nat} {key : Key}
    (fresh : s.calls.lookup newId = none)
    (within : TrackerSystem.Within k
      { s with calls := s.calls.insert newId ⟨key, s.now, .get⟩ }) :
    OneMiss k { s with calls := s.calls.insert newId ⟨key, s.now, .get⟩ } := by
  have isOld {id : Nat} {call : CheckCall Key}
      (found : (s.calls.insert newId ⟨key, s.now, .get⟩).lookup id = some call)
      (moved : call.pc ≠ .get) : s.calls.lookup id = some call := by
    rcases AList.lookup_insert_cases found with ⟨-, rfl⟩ | ⟨-, old⟩
    · exact absurd rfl moved
    · exact old
  have missedMoved {pc : Pc Key} (missed : pc.missed = true) : pc ≠ .get := by
    rintro rfl
    cases missed
  constructor
  · intro id other call held found foundOther sameKey sameKeyOther missed missedOther
    exact invariant.alone id other call held (isOld found (missedMoved missed))
      (isOld foundOther (missedMoved missedOther)) sameKey sameKeyOther missed missedOther
  · intro id call later found isAt
    exact invariant.readings id call later (isOld found (by simp [isAt])) isAt
  · intro id call found sameKey stored
    have foundOld := isOld found (missedMoved (Pc.missed_of_stored stored))
    rcases invariant.guarded id call foundOld sameKey stored with held | ⟨expired, noneLooks⟩
    · exact .inl held
    · refine .inr ⟨expired, ?_⟩
      intro other held foundOther sameKeyOther
      by_cases same : other = newId
      · subst same
        have distinct : other ≠ id := by
          rintro rfl
          rw [fresh] at foundOld
          cases foundOld
        have ordered := within other held foundOther id call found sameKeyOther sameKey distinct
        rw [AList.lookup_insert] at foundOther
        cases foundOther
        have ordered : s.now < call.reading + s.tracker.ttl := ordered
        omega
      · rw [AList.lookup_insert_ne same] at foundOther
        exact noneLooks other held foundOther sameKeyOther

theorem OneMiss.sweep (invariant : OneMiss k s) {reading : Nat} (past : reading ≤ s.now)
    (aside : DropsAside k s (.sweep reading)) :
    OneMiss k { s with tracker := s.tracker.cleanupExpired reading } where
  alone := invariant.alone
  readings := invariant.readings
  guarded := by
    intro id call found sameKey stored
    exact (invariant.guarded id call found sameKey stored).cleanupExpired past
      (fun entry entryFound expired =>
        anyCall_looking_iff.mp (aside reading rfl entry entryFound expired
          (anyCall_eq_true_iff.mpr ⟨id, call, found, sameKey, stored⟩)))
      (fun noneLooks => noneLooks)

section Advance

variable {id : Nat} {call : CheckCall Key}

theorem OneMiss.alone_advance (invariant : OneMiss k s) (within : s.Within k)
    (found : s.calls.lookup id = some call) (unfinished : call.pc.isDone = false)
    (misses : MissesAlone k s (.step id)) :
    ∀ i j first second, (s.advance id call).calls.lookup i = some first →
      (s.advance id call).calls.lookup j = some second → first.key = k → second.key = k →
        first.pc.missed = true → second.pc.missed = true → i = j := by
  -- If the moved call misses after its step, every other missed call has the same id.
  have moved {j : Nat} {second : CheckCall Key} (foundSecond : s.calls.lookup j = some second)
      (sameKey : call.key = k) (sameKeySecond : second.key = k)
      (missed : (stepCall s.now s.tracker call).2.missed = true)
      (missedSecond : second.pc.missed = true) : id = j := by
    rcases (missed_stepCall unfinished).mp missed with already | ⟨looking, notFound⟩
    · exact invariant.alone id j call second found foundSecond sameKey sameKeySecond already
        missedSecond
    · rw [sameKey] at notFound
      have noneMissed := invariant.not_missed within found sameKey looking notFound
        (anyCall_eq_false_iff.mp (misses call found sameKey looking notFound))
      rw [noneMissed j second foundSecond sameKeySecond] at missedSecond
      cases missedSecond
  intro i j first second foundFirst foundSecond keyFirst keySecond missedFirst missedSecond
  rcases lookup_calls_advance foundFirst with ⟨rfl, rfl⟩ | ⟨-, oldFirst⟩
  · rcases lookup_calls_advance foundSecond with ⟨rfl, rfl⟩ | ⟨-, oldSecond⟩
    · rfl
    · exact moved oldSecond keyFirst keySecond missedFirst missedSecond
  · rcases lookup_calls_advance foundSecond with ⟨rfl, rfl⟩ | ⟨-, oldSecond⟩
    · exact (moved oldFirst keySecond keyFirst missedSecond missedFirst).symm
    · exact invariant.alone i j first second oldFirst oldSecond keyFirst keySecond missedFirst
        missedSecond

theorem OneMiss.readings_advance (invariant : OneMiss k s)
    (unfinished : call.pc.isDone = false) :
    ∀ i held later, (s.advance id call).calls.lookup i = some held →
      held.pc = .retain later → later ≤ s.now := by
  intro i held later foundHeld isAt
  rcases lookup_calls_advance foundHeld with ⟨rfl, rfl⟩ | ⟨-, old⟩
  · have leads := @leads_stepCall _ _ s.now s.tracker call unfinished
    simp only at isAt
    rw [isAt] at leads
    generalize call.pc = pc at leads
    cases leads
    exact le_refl _
  · exact invariant.readings i held later old isAt

theorem noneLooks_advance (unfinished : call.pc.isDone = false)
    (noneLooks : ∀ other held, s.calls.lookup other = some held → held.key = k →
      held.pc ≠ .get) :
    ∀ other held, (s.advance id call).calls.lookup other = some held → held.key = k →
      held.pc ≠ .get := by
  intro other held foundHeld sameKey
  rcases lookup_calls_advance foundHeld with ⟨rfl, rfl⟩ | ⟨-, old⟩
  · exact pc_stepCall_ne_get unfinished
  · exact noneLooks other held old sameKey

theorem Guarded.advance {accepted : CheckCall Key} (guarded : Guarded k s accepted)
    (unfinished : call.pc.isDone = false)
    (same : (stepCall s.now s.tracker call).1.tracker.lookup k = s.tracker.tracker.lookup k) :
    Guarded k (s.advance id call) accepted := by
  have sameTtl := ttl_stepCall s.now s.tracker call
  rcases guarded with ⟨entry, found, expires⟩ | ⟨expired, noneLooks⟩
  · refine .inl ⟨entry, same.trans found, ?_⟩
    simp only [TrackerSystem.advance, sameTtl, expires]
  · refine .inr ⟨?_, noneLooks_advance unfinished noneLooks⟩
    simp only [TrackerSystem.advance, sameTtl]
    exact expired

/-- Beside a call that has stored the key, another one for it has not missed, so it only looks the
key up. -/
theorem OneMiss.looking_of_stored (invariant : OneMiss k s)
    (found : s.calls.lookup id = some call) (unfinished : call.pc.isDone = false)
    (isKey : call.key = k) {i : Nat} {accepted : CheckCall Key}
    (foundAccepted : s.calls.lookup i = some accepted) (sameKey : accepted.key = k)
    (stored : accepted.pc.stored = true) (distinct : i ≠ id) : call.pc = .get := by
  by_contra notLooking
  exact distinct (invariant.alone i id accepted call foundAccepted found sameKey isKey
    (Pc.missed_of_stored stored) (Pc.missed_of_unfinished unfinished notLooking))

/-- The call that stores the key has just inserted the entry, or queues its record. -/
theorem OneMiss.guarded_stored (invariant : OneMiss k s)
    (found : s.calls.lookup id = some call) (unfinished : call.pc.isDone = false)
    (isKey : call.key = k)
    (stored : (stepCall s.now s.tracker call).2.stored = true) :
    Guarded k (s.advance id call) { call with pc := (stepCall s.now s.tracker call).2 } := by
  rcases stored_stepCall unfinished stored with ⟨seq, inserts | queues⟩
  · rcases call with ⟨key, reading, pc⟩
    cases inserts
    cases isKey
    exact .inl ⟨_, AList.lookup_insert _, rfl⟩
  · rcases call with ⟨key, reading, pc⟩
    cases queues
    exact (invariant.guarded id _ found isKey rfl).advance unfinished rfl

theorem OneMiss.guarded_advance (invariant : OneMiss k s)
    (found : s.calls.lookup id = some call) (unfinished : call.pc.isDone = false)
    (keeps : KeepsKey k s (.step id)) (aside : DropsAside k s (.step id)) :
    ∀ i accepted, (s.advance id call).calls.lookup i = some accepted → accepted.key = k →
      accepted.pc.stored = true → Guarded k (s.advance id call) accepted := by
  intro i accepted foundAccepted sameKey stored
  rcases lookup_calls_advance foundAccepted with ⟨rfl, rfl⟩ | ⟨distinct, old⟩
  · exact invariant.guarded_stored found unfinished sameKey stored
  · have guarded := invariant.guarded i accepted old sameKey stored
    by_cases sameCallKey : call.key = k
    · have looking := invariant.looking_of_stored found unfinished sameCallKey old sameKey stored
        distinct
      exact guarded.advance unfinished (lookup_stepCall (.inr (.inl looking)) (by simp [looking])
        (by simp [looking]))
    · cases isAt : call.pc with
      | retain later =>
          have dropped : s.droppedAt (.step id) = some later := by
            simp [TrackerSystem.droppedAt, TrackerSystem.mover, found, isAt]
          have cleaned : s.advance id call = ⟨s.now, s.tracker.cleanupExpired later,
              (s.advance id call).calls⟩ := by
            simp [TrackerSystem.advance, stepCall, isAt]
          rw [cleaned]
          exact guarded.cleanupExpired (invariant.readings id call later found isAt)
            (fun entry entryFound expired =>
              anyCall_looking_iff.mp (aside later dropped entry entryFound expired
                (anyCall_eq_true_iff.mpr ⟨i, accepted, old, sameKey, stored⟩)))
            (noneLooks_advance unfinished)
      | evict evicted =>
          by_cases takesKey : evicted = k
          · refine guarded.advance unfinished ?_
            rw [takesKey] at isAt
            have missing := keeps call found isAt
              (anyCall_eq_true_iff.mpr ⟨i, accepted, old, sameKey, rfl⟩)
            simp only [stepCall, isAt, AList.lookup_erase, missing]
          · exact guarded.advance unfinished (lookup_stepCall (.inl sameCallKey) (by simp [isAt])
              (by simpa [isAt] using takesKey))
      | _ =>
          exact guarded.advance unfinished (lookup_stepCall (.inl sameCallKey) (by simp [isAt])
            (by simp [isAt]))

end Advance

structure AcceptsOnce (k : Key) (s : TrackerSystem Key) (event : TrackerEvent Key) : Prop where
  keeps : KeepsKey k s event
  misses : MissesAlone k s event
  aside : DropsAside k s event

theorem OneMiss.step {next : TrackerSystem Key} {event : TrackerEvent Key}
    (invariant : OneMiss k s) (once : AcceptsOnce k s event)
    (stepped : concurrentChecks.step s event = some next) (within : next.Within k) :
    OneMiss k next := by
  have withinBefore := Within.of_step stepped within
  cases trackerStepped_of_step stepped with
  | tick span => exact invariant.tick span
  | call id key fresh => exact invariant.call fresh within
  | step id call found unfinished free =>
      exact ⟨invariant.alone_advance withinBefore found unfinished once.misses,
        invariant.readings_advance unfinished,
        invariant.guarded_advance found unfinished once.keeps once.aside⟩
  | sweep reading past => exact invariant.sweep past once.aside

end Steps

section Runs

variable {Key : Type} [DecidableEq Key]

/-- From every tracker, in every interleaving whose steps meet the conditions, at most one of the
calls for a key with readings within one time-to-live answers `false`. -/
theorem at_most_one_accepted (k : Key) (now : Nat) (tracker : RequestTracker Key)
    (events : List (TrackerEvent Key)) (finish : TrackerSystem Key)
    (ran : concurrentChecks.run ⟨now, tracker, ∅⟩ events = some finish)
    (within : finish.Within k)
    (keeps : concurrentChecks.Along (KeepsKey k) ⟨now, tracker, ∅⟩ events)
    (misses : concurrentChecks.Along (MissesAlone k) ⟨now, tracker, ∅⟩ events)
    (aside : concurrentChecks.Along (DropsAside k) ⟨now, tracker, ∅⟩ events) :
    ∀ id call, finish.calls.lookup id = some call →
      ∀ other held, finish.calls.lookup other = some held → call.key = k → held.key = k →
        call.pc = .done false → held.pc = .done false → id = other := by
  have initial : OneMiss k ⟨now, tracker, ∅⟩ := by
    constructor <;> simp
  have withinAlong := (Machine.along_of_reflected (TrackerSystem.Within k)
    (fun _ _ _ stepped within => Within.of_step stepped within) ran within).2
  have along := ((keeps.and misses).and aside).and withinAlong
  have invariant := Machine.invariant_along (OneMiss k)
    (fun _ _ next invariant conditions stepped =>
      invariant.step ⟨conditions.1.1.1, conditions.1.1.2, conditions.1.2⟩ stepped
        (conditions.2 next stepped))
    initial along ran
  intro id call found other held foundOther sameKey sameKeyOther accepted acceptedOther
  exact invariant.alone id other call held found foundOther sameKey sameKeyOther
    (by simp [accepted, Pc.missed]) (by simp [acceptedOther, Pc.missed])

theorem missed_of_reachable {s finish : TrackerSystem Key} {id : Nat} {call : CheckCall Key}
    (found : s.calls.lookup id = some call) (missed : call.pc.missed = true)
    (reachable : concurrentChecks.Reachable s finish) :
    ∃ after, finish.calls.lookup id = some after ∧ after.pc.missed = true := by
  refine reachable.invariant (fun t : TrackerSystem Key => ∃ after, t.calls.lookup id = some after ∧
    after.pc.missed = true) ?_ ⟨call, found, missed⟩
  rintro t event next ⟨after, foundAfter, missedAfter⟩ stepped
  cases trackerStepped_of_step stepped with
  | tick span => exact ⟨after, foundAfter, missedAfter⟩
  | call newId key fresh =>
      have distinct : id ≠ newId := by
        rintro rfl
        rw [fresh] at foundAfter
        cases foundAfter
      exact ⟨after, (AList.lookup_insert_ne distinct).trans foundAfter, missedAfter⟩
  | step moved movedCall movedFound unfinished free =>
      by_cases same : id = moved
      · subst same
        rw [movedFound] at foundAfter
        cases foundAfter
        exact ⟨_, AList.lookup_insert _, (missed_stepCall unfinished).mpr (.inl missedAfter)⟩
      · exact ⟨after, (AList.lookup_insert_ne same).trans foundAfter, missedAfter⟩
  | sweep reading past => exact ⟨after, foundAfter, missedAfter⟩

/-- Two calls past a missed lookup are both answered `false` once they end, so a run in which
calls for one key miss their lookups together accepts the key twice. -/
theorem accepted_of_missed {s finish : TrackerSystem Key} {id : Nat} {call ended : CheckCall Key}
    {answer : Bool} (found : s.calls.lookup id = some call) (missed : call.pc.missed = true)
    (reachable : concurrentChecks.Reachable s finish)
    (foundEnded : finish.calls.lookup id = some ended) (isDone : ended.pc = .done answer) :
    answer = false := by
  rcases missed_of_reachable found missed reachable with ⟨after, foundAfter, missedAfter⟩
  rw [foundEnded] at foundAfter
  cases foundAfter
  simpa [isDone, Pc.missed] using missedAfter

/-- Two calls for one key, each looking it up before the other inserts it. -/
def racingCalls : List (TrackerEvent String) :=
  [.call 0 "a", .call 1 "a"] ++ (List.replicate 5 [.step 0, .step 1]).flatten

def consecutiveCalls : List (TrackerEvent String) :=
  [.call 0 "a", .call 1 "a"] ++ List.replicate 5 (.step 0) ++ [.step 1]

theorem at_most_one_accepted_consecutive :
    let finish := (concurrentChecks.run ⟨0, .new 60 10, ∅⟩ consecutiveCalls).get (by decide)
    ∀ id call, finish.calls.lookup id = some call →
      ∀ other held, finish.calls.lookup other = some held → call.key = "a" → held.key = "a" →
        call.pc = .done false → held.pc = .done false → id = other :=
  at_most_one_accepted "a" 0 (.new 60 10) consecutiveCalls _ (Option.some_get (by decide)).symm
    (by decide) (by decide) (by decide) (by decide)

/-- The two racing calls are both answered `false`. -/
theorem not_at_most_one_accepted :
    ¬∀ (k : String) (now : Nat) (tracker : RequestTracker String)
      (events : List (TrackerEvent String)) (finish : TrackerSystem String),
      concurrentChecks.run ⟨now, tracker, ∅⟩ events = some finish → finish.Within k →
        concurrentChecks.Along (KeepsKey k) ⟨now, tracker, ∅⟩ events →
          ∀ id call, finish.calls.lookup id = some call →
            ∀ other held, finish.calls.lookup other = some held → call.key = k → held.key = k →
              call.pc = .done false → held.pc = .done false → id = other := by
  intro once
  have same := once "a" 0 (.new 60 10) racingCalls
    ((concurrentChecks.run ⟨0, .new 60 10, ∅⟩ racingCalls).get (by decide))
    (Option.some_get (by decide)).symm (by decide) (by decide)
    0 ⟨"a", 0, .done false⟩ (by decide) 1 ⟨"a", 0, .done false⟩ (by decide) rfl rfl rfl rfl
  exact absurd same (by decide)

end Runs

end AxumConf.Dedup
