import AxumConf.Lib.Counter
import AxumConf.Lib.Table

/-!
# The deduplication tracker

`RequestTracker` of `src/fluent/dedup.rs`: a map from request keys to expiring
entries, and a queue of insertions that finds the oldest entry. Records of the
queue are not removed with their entry, they are recognised as stale by their
sequence number. The source's keys are strings; nothing here depends on that.
-/

namespace AxumConf.Dedup

structure RequestEntry where
  expiresAt : Nat
  seq : UInt64
  deriving DecidableEq, Repr

structure RequestTracker (Key : Type) where
  tracker : Table Key RequestEntry
  order : List (UInt64 × Key)
  seq : UInt64
  ttl : Nat
  maxEntries : Nat

variable {Key : Type} [DecidableEq Key]

/-- The loop of `evict_oldest` over the queue, oldest record first. -/
def evictLoop (tracker : Table Key RequestEntry) :
    List (UInt64 × Key) → Table Key RequestEntry × List (UInt64 × Key)
  | [] => (tracker, [])
  | (seq, key) :: rest =>
      let isCurrent := ((tracker.lookup key).map fun entry => decide (entry.seq = seq)).getD false
      if isCurrent then
        (tracker.erase key, rest)
      else
        -- The record is stale.
        evictLoop tracker rest

namespace RequestTracker

def new (ttl maxEntries : Nat) : RequestTracker Key where
  tracker := ∅
  order := []
  seq := 0
  ttl := ttl
  maxEntries := maxEntries

def evictOldest (t : RequestTracker Key) : RequestTracker Key :=
  let evicted := evictLoop t.tracker t.order
  { t with tracker := evicted.1, order := evicted.2 }

/-- `cleanup_expired` with the reading it takes. -/
def cleanupExpired (now : Nat) (t : RequestTracker Key) : RequestTracker Key :=
  { t with tracker := t.tracker.retain fun _ entry => decide (now < entry.expiresAt) }

/-- How many entries have not expired. -/
def liveCount (now : Nat) (t : RequestTracker Key) : Nat :=
  t.tracker.count fun _ entry => decide (now < entry.expiresAt)

def isFull (t : RequestTracker Key) : Bool :=
  decide (t.maxEntries ≤ t.tracker.size)

/-- Drop the expired entries when at capacity, and the oldest one when that is not enough. -/
def makeRoom (later : Nat) (t : RequestTracker Key) : RequestTracker Key :=
  if t.isFull then
    let cleaned := t.cleanupExpired later
    if cleaned.isFull then cleaned.evictOldest else cleaned
  else
    t

def insertNew (now : Nat) (key : Key) (t : RequestTracker Key) : RequestTracker Key :=
  { t with
    seq := t.seq + 1
    tracker := t.tracker.insert key ⟨now + t.ttl, t.seq⟩
    order := t.order ++ [(t.seq, key)] }

/-- `check_and_mark` run on its own. It reads the clock at its start, and once more when it
cleans up. -/
def checkAndMark (now later : Nat) (key : Key) (t : RequestTracker Key) :
    Bool × RequestTracker Key :=
  match t.tracker.lookup key with
  | some entry =>
      if now < entry.expiresAt then
        (true, t)
      else
        let removed := { t with tracker := t.tracker.erase key }
        (false, (removed.makeRoom later).insertNew now key)
  | none => (false, (t.makeRoom later).insertNew now key)

end RequestTracker

/-- The operations on the tracker with the clock readings they take. -/
inductive TrackerOp (Key : Type) where
  | checkAndMark (now later : Nat) (key : Key)
  | cleanupExpired (now : Nat)
  deriving DecidableEq, Repr

namespace TrackerOp

def readings : TrackerOp Key → List Nat
  | .checkAndMark now later _ => [now, later]
  | .cleanupExpired now => [now]

def isCheck : TrackerOp Key → Bool
  | .checkAndMark _ _ _ => true
  | .cleanupExpired _ => false

end TrackerOp

def MonotoneReadings (ops : List (TrackerOp Key)) : Prop :=
  (ops.flatMap TrackerOp.readings).Pairwise (· ≤ ·)

namespace RequestTracker

def runFrom (t : RequestTracker Key) : List (TrackerOp Key) → RequestTracker Key
  | [] => t
  | .checkAndMark now later key :: rest => runFrom (t.checkAndMark now later key).2 rest
  | .cleanupExpired now :: rest => runFrom (t.cleanupExpired now) rest

def answers (t : RequestTracker Key) : List (TrackerOp Key) → List Bool
  | [] => []
  | .checkAndMark now later key :: rest =>
      (t.checkAndMark now later key).1 :: answers (t.checkAndMark now later key).2 rest
  | .cleanupExpired now :: rest => answers (t.cleanupExpired now) rest

section Eviction

variable {tracker : Table Key RequestEntry} {order : List (UInt64 × Key)}

def Indexed (tracker : Table Key RequestEntry) (order : List (UInt64 × Key)) : Prop :=
  ∀ key entry, tracker.lookup key = some entry → (entry.seq, key) ∈ order

def Increasing (order : List (UInt64 × Key)) : Prop :=
  order.Pairwise fun earlier later => earlier.1.toNat < later.1.toNat

theorem isCurrent_iff {seq : UInt64} {key : Key} :
    ((tracker.lookup key).map fun entry => decide (entry.seq = seq)).getD false = true ↔
      ∃ entry, tracker.lookup key = some entry ∧ entry.seq = seq := by
  cases tracker.lookup key <;> simp

theorem Indexed.of_stale {seq : UInt64} {key : Key}
    (indexed : Indexed tracker ((seq, key) :: order))
    (stale : ¬∃ entry, tracker.lookup key = some entry ∧ entry.seq = seq) :
    Indexed tracker order := by
  intro other entry found
  rcases List.mem_cons.mp (indexed other entry found) with same | inRest
  · cases same
    exact absurd ⟨entry, found, rfl⟩ stale
  · exact inRest

/-- The loop drops stale records up to the first that belongs to an entry, and removes both. -/
theorem evictLoop_split (indexed : Indexed tracker order) (nonempty : 0 < tracker.size) :
    ∃ stale key entry rest, order = stale ++ (entry.seq, key) :: rest ∧
      (∀ record ∈ stale, ¬∃ held, tracker.lookup record.2 = some held ∧ held.seq = record.1) ∧
      tracker.lookup key = some entry ∧ evictLoop tracker order = (tracker.erase key, rest) := by
  induction order with
  | nil =>
      rcases AList.exists_lookup_of_size_pos nonempty with ⟨key, entry, found⟩
      cases indexed key entry found
  | cons record rest ih =>
      rcases record with ⟨seq, key⟩
      by_cases current : ∃ entry, tracker.lookup key = some entry ∧ entry.seq = seq
      · have evicted : evictLoop tracker ((seq, key) :: rest) = (tracker.erase key, rest) := by
          simp only [evictLoop, isCurrent_iff, current, if_true]
        rcases current with ⟨entry, found, rfl⟩
        exact ⟨[], key, entry, rest, rfl, by simp, found, evicted⟩
      · have skipped : evictLoop tracker ((seq, key) :: rest) = evictLoop tracker rest := by
          simp only [evictLoop, isCurrent_iff, current, if_false]
        rcases ih (indexed.of_stale current) with
          ⟨stale, evictedKey, entry, kept, rfl, allStale, found, evicted⟩
        refine ⟨(seq, key) :: stale, evictedKey, entry, kept, rfl, ?_, found,
          skipped.trans evicted⟩
        intro record member
        rcases List.mem_cons.mp member with rfl | inStale
        · exact current
        · exact allStale record inStale

/-- Every other entry still has its record after the loop, which took one entry and at least one
record. -/
theorem evictLoop_erases (indexed : Indexed tracker order) (nonempty : 0 < tracker.size) :
    (evictLoop tracker order).1.size + 1 = tracker.size ∧
      (evictLoop tracker order).2.length < order.length ∧
      Indexed (evictLoop tracker order).1 (evictLoop tracker order).2 := by
  rcases evictLoop_split indexed nonempty with
    ⟨stale, key, entry, rest, split, allStale, found, evicted⟩
  rw [evicted]
  refine ⟨AList.size_erase found, ?_, ?_⟩
  · simp only [split, List.length_append, List.length_cons]
    omega
  · intro other held lookedUp
    rcases AList.lookup_of_lookup_erase lookedUp with ⟨distinct, old⟩
    have member := indexed other held old
    rw [split] at member
    rcases List.mem_append.mp member with inStale | inRest
    · exact absurd ⟨held, old, rfl⟩ (allStale _ inStale)
    · rcases List.mem_cons.mp inRest with same | later
      · exact absurd (Prod.mk.inj same).2 distinct
      · exact later

/-- The loop removes the entry with the least sequence number, and no queue record of another
entry. -/
theorem evictLoop_spec (indexed : Indexed tracker order) (increasing : Increasing order)
    (nonempty : 0 < tracker.size) :
    ∃ key entry, tracker.lookup key = some entry ∧
      (∀ other held, tracker.lookup other = some held → entry.seq.toNat ≤ held.seq.toNat) ∧
      (evictLoop tracker order).1 = tracker.erase key ∧
      (evictLoop tracker order).2 <:+ order ∧
      Indexed (evictLoop tracker order).1 (evictLoop tracker order).2 := by
  have kept := (evictLoop_erases indexed nonempty).2.2
  rcases evictLoop_split indexed nonempty with
    ⟨stale, key, entry, rest, split, allStale, found, evicted⟩
  have suffixOfAll : rest <:+ order := by
    rw [split]
    exact (List.suffix_cons _ _).trans (List.suffix_append _ _)
  rw [evicted] at kept ⊢
  refine ⟨key, entry, found, ?_, rfl, suffixOfAll, kept⟩
  rw [split] at increasing
  have least := (List.pairwise_cons.mp (List.pairwise_append.mp increasing).2.1).1
  intro other held lookedUp
  by_cases same : other = key
  · subst same
    cases found.symm.trans lookedUp
    exact le_rfl
  · exact (least _ (kept other held ((AList.lookup_erase_ne same).trans lookedUp))).le

theorem evictLoop_empty (empty : tracker.size = 0) :
    (evictLoop tracker order).1 = tracker ∧ (evictLoop tracker order).2 = [] := by
  induction order with
  | nil => exact ⟨rfl, rfl⟩
  | cons record rest ih =>
      rcases record with ⟨seq, key⟩
      have stale : ¬∃ entry, tracker.lookup key = some entry ∧ entry.seq = seq := by
        rintro ⟨entry, found, -⟩
        rw [AList.lookup_of_size_eq_zero empty] at found
        cases found
      simpa only [evictLoop, isCurrent_iff, stale, if_false] using ih

end Eviction

end RequestTracker

section Operations

variable {t : RequestTracker Key} {now later : Nat} {key : Key}

theorem lookup_evictLoop_of_none {tracker : Table Key RequestEntry} {key : Key}
    (missing : tracker.lookup key = none) (order : List (UInt64 × Key)) :
    (evictLoop tracker order).1.lookup key = none := by
  induction order with
  | nil => exact missing
  | cons record rest ih =>
      simp only [evictLoop]
      split
      · by_cases same : key = record.2
        · rw [same, AList.lookup_erase]
        · rwa [AList.lookup_erase_ne same]
      · exact ih

theorem lookup_makeRoom_of_none {key : Key} (missing : t.tracker.lookup key = none) (later : Nat) :
    (t.makeRoom later).tracker.lookup key = none := by
  have cleaned : (t.cleanupExpired later).tracker.lookup key = none := by
    simp [RequestTracker.cleanupExpired, AList.lookup_retain, missing]
  simp only [RequestTracker.makeRoom]
  split
  · split
    · exact lookup_evictLoop_of_none cleaned _
    · exact cleaned
  · exact missing

theorem makeRoom_fields (t : RequestTracker Key) (later : Nat) :
    (t.makeRoom later).seq = t.seq ∧ (t.makeRoom later).ttl = t.ttl ∧
      (t.makeRoom later).maxEntries = t.maxEntries := by
  simp only [RequestTracker.makeRoom]
  split
  · split <;> exact ⟨rfl, rfl, rfl⟩
  · exact ⟨rfl, rfl, rfl⟩

theorem checkAndMark_iff (t : RequestTracker Key) (now later : Nat) (key : Key) :
    (t.checkAndMark now later key).1 = true ↔
      ∃ entry, t.tracker.lookup key = some entry ∧ now < entry.expiresAt := by
  simp only [RequestTracker.checkAndMark]
  split
  · rename_i entry found
    split <;> simp_all
  · rename_i missing
    simp [missing]

theorem maxEntries_checkAndMark (t : RequestTracker Key) (now later : Nat) (key : Key) :
    (t.checkAndMark now later key).2.maxEntries = t.maxEntries := by
  simp only [RequestTracker.checkAndMark]
  split
  · split
    · rfl
    · exact (makeRoom_fields _ later).2.2
  · exact (makeRoom_fields t later).2.2

/-- An accepted key was not in the map, or had expired and is removed first. -/
theorem checkAndMark_accepted (accepted : (t.checkAndMark now later key).1 = false) :
    (∀ entry, t.tracker.lookup key = some entry → entry.expiresAt ≤ now) ∧
      (t.checkAndMark now later key).2 =
        (RequestTracker.makeRoom later
          { t with tracker := t.tracker.erase key }).insertNew now key := by
  simp only [RequestTracker.checkAndMark] at accepted ⊢
  cases found : t.tracker.lookup key with
  | none =>
      rw [AList.erase_of_lookup_none found]
      exact ⟨by simp, rfl⟩
  | some entry =>
      by_cases notExpired : now < entry.expiresAt
      · simp [found, notExpired] at accepted
      · simp only [notExpired, if_false]
        refine ⟨?_, trivial⟩
        intro held same
        cases same
        omega

theorem checkAndMark_duplicate (duplicate : (t.checkAndMark now later key).1 = true) :
    (t.checkAndMark now later key).2 = t := by
  rcases (checkAndMark_iff t now later key).mp duplicate with ⟨entry, found, notExpired⟩
  simp only [RequestTracker.checkAndMark, found, notExpired, if_true]

end Operations

section Sizes

variable {t : RequestTracker Key} {now later : Nat} {key : Key}

omit [DecidableEq Key] in
theorem size_cleanupExpired (t : RequestTracker Key) (later : Nat) :
    (t.cleanupExpired later).tracker.size = t.liveCount later :=
  List.countP_eq_length_filter.symm

omit [DecidableEq Key] in
theorem liveCount_le_size (t : RequestTracker Key) (later : Nat) :
    t.liveCount later ≤ t.tracker.size :=
  List.countP_le_length

theorem indexed_cleanupExpired (indexed : RequestTracker.Indexed t.tracker t.order) (later : Nat) :
    RequestTracker.Indexed (t.cleanupExpired later).tracker t.order := by
  intro other entry found
  simp only [RequestTracker.cleanupExpired, AList.lookup_retain,
    Option.filter_eq_some_iff] at found
  exact indexed other entry found.1

theorem indexed_erase (indexed : RequestTracker.Indexed t.tracker t.order) (key : Key) :
    RequestTracker.Indexed (t.tracker.erase key) t.order := by
  intro other entry found
  exact indexed other entry (AList.lookup_of_lookup_erase found).2

theorem liveCount_erase (expired : ∀ entry, t.tracker.lookup key = some entry →
    entry.expiresAt ≤ later) :
    RequestTracker.liveCount later { t with tracker := t.tracker.erase key } =
      t.liveCount later := by
  cases found : t.tracker.lookup key with
  | none => rw [AList.erase_of_lookup_none found]
  | some entry =>
      have counted := AList.count_erase found fun _ entry => decide (later < entry.expiresAt)
      have dropped : ¬later < entry.expiresAt := Nat.not_lt.mpr (expired entry found)
      simpa [RequestTracker.liveCount, dropped] using counted.symm

/-- An eviction takes exactly one entry, unless there is none. -/
theorem size_evictOldest (indexed : RequestTracker.Indexed t.tracker t.order) :
    t.evictOldest.tracker.size = t.tracker.size - 1 := by
  rcases Nat.eq_zero_or_pos t.tracker.size with empty | nonempty
  · simp only [RequestTracker.evictOldest, (RequestTracker.evictLoop_empty empty).1, empty]
  · have taken := (RequestTracker.evictLoop_erases indexed nonempty).1
    simp only [RequestTracker.evictOldest]
    omega

/-- There is room for one more entry once at most as many as fit are unexpired. -/
theorem size_makeRoom_lt_iff (indexed : RequestTracker.Indexed t.tracker t.order) (later : Nat) :
    (t.makeRoom later).tracker.size < max 1 t.maxEntries ↔
      t.liveCount later ≤ max 1 t.maxEntries := by
  have live := liveCount_le_size t later
  have cleanedSize := size_cleanupExpired t later
  simp only [RequestTracker.makeRoom]
  by_cases full : t.isFull = true
  · rw [if_pos full]
    by_cases stillFull : (t.cleanupExpired later).isFull = true
    · rw [if_pos stillFull]
      have cleaned : RequestTracker.Indexed (t.cleanupExpired later).tracker
          (t.cleanupExpired later).order := indexed_cleanupExpired indexed later
      rw [size_evictOldest cleaned, cleanedSize]
      omega
    · rw [if_neg stillFull]
      simp only [RequestTracker.isFull, decide_eq_true_eq, cleanedSize] at stillFull
      have sameMax : (t.cleanupExpired later).maxEntries = t.maxEntries := rfl
      omega
  · rw [if_neg full]
    simp only [RequestTracker.isFull, decide_eq_true_eq] at full
    omega

theorem size_accepted_le_iff (indexed : RequestTracker.Indexed t.tracker t.order)
    (accepted : (t.checkAndMark now later key).1 = false) :
    (t.checkAndMark now later key).2.tracker.size ≤ max 1 t.maxEntries ↔
      RequestTracker.liveCount later { t with tracker := t.tracker.erase key } ≤
        max 1 t.maxEntries := by
  have missing := lookup_makeRoom_of_none
    (t := { t with tracker := t.tracker.erase key }) (AList.lookup_erase _ _) later
  rw [(checkAndMark_accepted accepted).2, RequestTracker.insertNew,
    AList.size_insert_of_lookup_none missing]
  exact size_makeRoom_lt_iff (t := { t with tracker := t.tracker.erase key })
    (indexed_erase indexed key) later

/-- Accepting a key leaves the tracker within its capacity exactly when no more entries than fit
are unexpired at the reading of its cleanup. -/
theorem size_checkAndMark_le_iff (indexed : RequestTracker.Indexed t.tracker t.order)
    (ordered : now ≤ later) (accepted : (t.checkAndMark now later key).1 = false) :
    (t.checkAndMark now later key).2.tracker.size ≤ max 1 t.maxEntries ↔
      t.liveCount later ≤ max 1 t.maxEntries := by
  have expired := (checkAndMark_accepted accepted).1
  rw [size_accepted_le_iff indexed accepted,
    liveCount_erase fun entry found => (expired entry found).trans ordered]

end Sizes

section Runs

variable {t : RequestTracker Key}

theorem indexed_new (ttl maxEntries : Nat) :
    RequestTracker.Indexed (RequestTracker.new ttl maxEntries : RequestTracker Key).tracker [] := by
  intro key entry found
  cases found

theorem indexed_evictOldest (indexed : RequestTracker.Indexed t.tracker t.order) :
    RequestTracker.Indexed t.evictOldest.tracker t.evictOldest.order := by
  simp only [RequestTracker.evictOldest]
  rcases Nat.eq_zero_or_pos t.tracker.size with empty | nonempty
  · rcases @RequestTracker.evictLoop_empty _ _ t.tracker t.order empty with ⟨sameMap, -⟩
    intro key entry found
    rw [sameMap, AList.lookup_of_size_eq_zero empty] at found
    cases found
  · exact (RequestTracker.evictLoop_erases indexed nonempty).2.2

theorem indexed_makeRoom (indexed : RequestTracker.Indexed t.tracker t.order) (later : Nat) :
    RequestTracker.Indexed (t.makeRoom later).tracker (t.makeRoom later).order := by
  have cleaned : RequestTracker.Indexed (t.cleanupExpired later).tracker
      (t.cleanupExpired later).order := indexed_cleanupExpired indexed later
  simp only [RequestTracker.makeRoom]
  split
  · split
    · exact indexed_evictOldest cleaned
    · exact cleaned
  · exact indexed

theorem indexed_insertNew (indexed : RequestTracker.Indexed t.tracker t.order) (now : Nat)
    (key : Key) :
    RequestTracker.Indexed (t.insertNew now key).tracker (t.insertNew now key).order := by
  intro other entry found
  rw [RequestTracker.insertNew, List.mem_append, List.mem_singleton]
  rcases AList.lookup_insert_cases found with ⟨rfl, rfl⟩ | ⟨-, old⟩
  · exact .inr rfl
  · exact .inl (indexed other entry old)

/-- Whatever is done, every entry has its record in the queue. -/
theorem indexed_step (indexed : RequestTracker.Indexed t.tracker t.order) (op : TrackerOp Key) :
    RequestTracker.Indexed (t.runFrom [op]).tracker (t.runFrom [op]).order := by
  cases op with
  | cleanupExpired now => exact indexed_cleanupExpired indexed now
  | checkAndMark now later key =>
      simp only [RequestTracker.runFrom]
      cases answer : (t.checkAndMark now later key).1 with
      | true =>
          rw [checkAndMark_duplicate answer]
          exact indexed
      | false =>
          rw [(checkAndMark_accepted answer).2]
          exact indexed_insertNew (indexed_makeRoom
            (t := { t with tracker := t.tracker.erase key }) (indexed_erase indexed key) later)
            now key

theorem RequestTracker.runFrom_append (t : RequestTracker Key) (front back : List (TrackerOp Key)) :
    t.runFrom (front ++ back) = (t.runFrom front).runFrom back := by
  induction front generalizing t with
  | nil => rfl
  | cons op rest ih =>
      cases op with
      | checkAndMark now later key => exact ih _
      | cleanupExpired now => exact ih _

theorem maxEntries_step_op (t : RequestTracker Key) (op : TrackerOp Key) :
    (t.runFrom [op]).maxEntries = t.maxEntries := by
  cases op with
  | cleanupExpired now => rfl
  | checkAndMark now later key => exact maxEntries_checkAndMark t now later key

theorem size_step_le (indexed : RequestTracker.Indexed t.tracker t.order)
    (bounded : t.tracker.size ≤ max 1 t.maxEntries) (op : TrackerOp Key) :
    (t.runFrom [op]).tracker.size ≤ max 1 t.maxEntries := by
  cases op with
  | cleanupExpired now => exact (AList.size_retain_le _ _).trans bounded
  | checkAndMark now later key =>
      simp only [RequestTracker.runFrom]
      cases answer : (t.checkAndMark now later key).1 with
      | true =>
          rw [checkAndMark_duplicate answer]
          exact bounded
      | false =>
          apply (size_accepted_le_iff indexed answer).mpr
          exact ((liveCount_le_size _ later).trans (AList.size_erase_le _ key)).trans bounded

theorem size_runFrom_le (indexed : RequestTracker.Indexed t.tracker t.order)
    (bounded : t.tracker.size ≤ max 1 t.maxEntries) (ops : List (TrackerOp Key)) :
    (t.runFrom ops).tracker.size ≤ max 1 t.maxEntries := by
  induction ops generalizing t with
  | nil => exact bounded
  | cons op rest ih =>
      have split := RequestTracker.runFrom_append t [op] rest
      have sameMax := maxEntries_step_op t op
      have sized := size_step_le indexed bounded op
      rw [← sameMax] at sized ⊢
      rw [← List.singleton_append, split]
      exact ih (indexed_step indexed op) sized

end Runs

end AxumConf.Dedup
