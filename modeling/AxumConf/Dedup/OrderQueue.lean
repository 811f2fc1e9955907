import AxumConf.Dedup.Tracker

/-!
# The length of the queue

Every accepted key adds a record to the queue, and only an eviction removes
records. An entry that is dropped as expired, by a cleanup or because its key
comes again, leaves its record behind. The queue is thus as long as the map and
the records left behind, which grow without bound while expiry keeps the map
below its capacity.
-/

namespace AxumConf.Dedup

variable {Key : Type} [DecidableEq Key]

namespace RequestTracker

def droppedByRoom (later : Nat) (t : RequestTracker Key) : Nat :=
  if t.isFull then t.tracker.size - t.liveCount later else 0

/-- Entries that an operation drops as expired. -/
def droppedBy (t : RequestTracker Key) : TrackerOp Key → Nat
  | .checkAndMark now later key =>
      if (t.checkAndMark now later key).1 then
        0
      else
        t.tracker.size - (t.tracker.erase key).size +
          droppedByRoom later { t with tracker := t.tracker.erase key }
  | .cleanupExpired now => t.tracker.size - t.liveCount now

def dropped (t : RequestTracker Key) : List (TrackerOp Key) → Nat
  | [] => 0
  | op :: rest => t.droppedBy op + (t.runFrom [op]).dropped rest

end RequestTracker

section Accounting

variable {t : RequestTracker Key}

theorem order_evictOldest (indexed : RequestTracker.Indexed t.tracker t.order) :
    t.evictOldest.order.length + t.tracker.size ≤
      t.order.length + t.evictOldest.tracker.size := by
  simp only [RequestTracker.evictOldest]
  rcases Nat.eq_zero_or_pos t.tracker.size with empty | nonempty
  · rcases @RequestTracker.evictLoop_empty _ _ t.tracker t.order empty with ⟨sameMap, noRecords⟩
    rw [sameMap, noRecords]
    simp
  · rcases RequestTracker.evictLoop_erases indexed nonempty with ⟨taken, shorter, -⟩
    omega

theorem order_makeRoom (indexed : RequestTracker.Indexed t.tracker t.order) (later : Nat) :
    (t.makeRoom later).order.length + t.tracker.size ≤
      t.order.length + (t.makeRoom later).tracker.size + t.droppedByRoom later := by
  have live := liveCount_le_size t later
  have cleanedSize := size_cleanupExpired t later
  have cleaned : RequestTracker.Indexed (t.cleanupExpired later).tracker
      (t.cleanupExpired later).order := indexed_cleanupExpired indexed later
  have sameOrder : (t.cleanupExpired later).order = t.order := rfl
  simp only [RequestTracker.makeRoom, RequestTracker.droppedByRoom]
  split
  · split
    · have shorter := order_evictOldest cleaned
      rw [sameOrder, cleanedSize] at shorter
      omega
    · rw [sameOrder, cleanedSize]
      omega
  · omega

/-- What an operation adds to the queue it adds to the map, or drops from it as expired. -/
theorem order_step (indexed : RequestTracker.Indexed t.tracker t.order) (op : TrackerOp Key) :
    (t.runFrom [op]).order.length + t.tracker.size ≤
      t.order.length + (t.runFrom [op]).tracker.size + t.droppedBy op := by
  cases op with
  | cleanupExpired now =>
      have live := liveCount_le_size t now
      have cleanedSize := size_cleanupExpired t now
      change t.order.length + _ ≤ t.order.length + (t.cleanupExpired now).tracker.size +
        (t.tracker.size - t.liveCount now)
      omega
  | checkAndMark now later key =>
      simp only [RequestTracker.runFrom, RequestTracker.droppedBy]
      cases answer : (t.checkAndMark now later key).1 with
      | true =>
          rw [checkAndMark_duplicate answer]
          exact Nat.le_add_right _ _
      | false =>
          have smaller := AList.size_erase_le t.tracker key
          have missing := lookup_makeRoom_of_none
            (t := { t with tracker := t.tracker.erase key }) (AList.lookup_erase _ _) later
          have shorter := order_makeRoom (t := { t with tracker := t.tracker.erase key })
            (indexed_erase indexed key) later
          simp only at shorter
          rw [(checkAndMark_accepted answer).2]
          simp only [RequestTracker.insertNew, AList.size_insert_of_lookup_none missing,
            List.length_append, List.length_singleton, Bool.false_eq_true, if_false]
          omega

theorem order_runFrom (indexed : RequestTracker.Indexed t.tracker t.order)
    (ops : List (TrackerOp Key)) :
    (t.runFrom ops).order.length + t.tracker.size ≤
      t.order.length + (t.runFrom ops).tracker.size + t.dropped ops := by
  induction ops generalizing t with
  | nil => exact Nat.le_add_right _ _
  | cons op rest ih =>
      have first := order_step indexed op
      have later := ih (indexed_step indexed op)
      have split := RequestTracker.runFrom_append t [op] rest
      rw [List.singleton_append] at split
      simp only [split, RequestTracker.dropped]
      omega

end Accounting

section Bounds

variable {t : RequestTracker Key}

theorem order_length_le (ttl maxEntries : Nat) (ops : List (TrackerOp Key)) :
    ((RequestTracker.new ttl maxEntries).runFrom ops).order.length ≤
      max 1 maxEntries + (RequestTracker.new ttl maxEntries).dropped ops := by
  have accounted := order_runFrom (indexed_new ttl maxEntries) ops
  have sized := size_runFrom_le (indexed_new ttl maxEntries) (Nat.zero_le _) ops
  have started : (RequestTracker.new ttl maxEntries : RequestTracker Key).order.length = 0 := rfl
  have capacity : (RequestTracker.new ttl maxEntries : RequestTracker Key).maxEntries =
      maxEntries := rfl
  omega

theorem length_evictLoop_le (tracker : Table Key RequestEntry) (order : List (UInt64 × Key)) :
    (evictLoop tracker order).2.length ≤ order.length - 1 := by
  induction order with
  | nil => exact le_rfl
  | cons record rest ih =>
      simp only [evictLoop]
      split
      · exact le_rfl
      · exact ih.trans (Nat.sub_le _ _)

/-- A tracker without capacity is always full, and every acceptance empties the queue first. -/
theorem order_step_of_no_capacity (none : t.maxEntries = 0) (short : t.order.length ≤ 1)
    (op : TrackerOp Key) : (t.runFrom [op]).order.length ≤ 1 := by
  cases op with
  | cleanupExpired now => exact short
  | checkAndMark now later key =>
      simp only [RequestTracker.runFrom]
      cases answer : (t.checkAndMark now later key).1 with
      | true =>
          rw [checkAndMark_duplicate answer]
          exact short
      | false =>
          have emptied := length_evictLoop_le ((t.tracker.erase key).retain
            fun _ entry => decide (later < entry.expiresAt)) t.order
          rw [(checkAndMark_accepted answer).2]
          simp only [RequestTracker.insertNew, RequestTracker.makeRoom, RequestTracker.isFull,
            RequestTracker.cleanupExpired, RequestTracker.evictOldest, none, Nat.zero_le,
            decide_true, if_true, List.length_append, List.length_singleton]
          omega

theorem order_runFrom_of_no_capacity (none : t.maxEntries = 0) (short : t.order.length ≤ 1)
    (ops : List (TrackerOp Key)) : (t.runFrom ops).order.length ≤ 1 := by
  induction ops generalizing t with
  | nil => exact short
  | cons op rest ih =>
      have split := RequestTracker.runFrom_append t [op] rest
      rw [← List.singleton_append, split]
      exact ih ((maxEntries_step_op t op).trans none) (order_step_of_no_capacity none short op)

end Bounds

section Growth

/-- One key, accepted again as soon as it has expired. -/
def reacceptances (count : Nat) : List (TrackerOp String) :=
  (List.range count).map fun round => .checkAndMark (60 * round) (60 * round) "a"

theorem reacceptances_succ (count : Nat) :
    reacceptances (count + 1) =
      reacceptances count ++ [.checkAndMark (60 * count) (60 * count) "a"] := by
  simp [reacceptances, List.range_succ]

theorem monotone_reacceptances (count : Nat) : MonotoneReadings (reacceptances count) := by
  induction count with
  | zero => exact List.Pairwise.nil
  | succ count ih =>
      rw [reacceptances_succ, MonotoneReadings, List.flatMap_append, List.pairwise_append]
      refine ⟨ih, by simp [TrackerOp.readings], ?_⟩
      intro earlier member latest isLatest
      simp only [reacceptances, List.mem_flatMap, List.mem_map, List.mem_range] at member
      rcases member with ⟨op, ⟨round, before, rfl⟩, isReading⟩
      simp only [TrackerOp.readings, List.mem_cons, List.not_mem_nil, or_false, or_self,
        List.flatMap_cons, List.flatMap_nil, List.append_nil] at isReading isLatest
      omega

/-- Only the given key is in the map, and it has expired at the reading. -/
structure OnlyExpired (reading : Nat) (key : Key) (t : RequestTracker Key) : Prop where
  capacity : 0 < t.maxEntries
  expired : ∀ other entry, t.tracker.lookup other = some entry →
    other = key ∧ entry.expiresAt ≤ reading

/-- Accepting the key again drops its entry, leaves the record and adds another. -/
theorem OnlyExpired.checkAndMark {reading : Nat} {key : Key} {t : RequestTracker Key}
    (only : OnlyExpired reading key t) :
    let next := (t.checkAndMark reading reading key).2
    OnlyExpired (reading + t.ttl) key next ∧ next.ttl = t.ttl ∧
      next.order.length = t.order.length + 1 := by
  have accepted : (t.checkAndMark reading reading key).1 = false := by
    rw [Bool.eq_false_iff, Ne, checkAndMark_iff]
    rintro ⟨entry, found, notExpired⟩
    have expired := (only.expired key entry found).2
    omega
  have empty : (t.tracker.erase key).size = 0 := by
    by_contra occupied
    rcases AList.exists_lookup_of_size_pos (Nat.pos_of_ne_zero occupied) with ⟨other, entry, found⟩
    rcases AList.lookup_of_lookup_erase found with ⟨distinct, old⟩
    exact distinct (only.expired other entry old).1
  have capacity := only.capacity
  have notFull : ¬t.maxEntries ≤ 0 := by omega
  have room : RequestTracker.makeRoom reading { t with tracker := t.tracker.erase key } =
      { t with tracker := t.tracker.erase key } := by
    simp only [RequestTracker.makeRoom, RequestTracker.isFull, empty, notFull, decide_false,
      Bool.false_eq_true, if_false]
  simp only [(checkAndMark_accepted accepted).2, room, RequestTracker.insertNew,
    List.length_append, List.length_singleton, and_self, and_true]
  refine ⟨only.capacity, ?_⟩
  intro other entry found
  rcases AList.lookup_insert_cases found with ⟨same, rfl⟩ | ⟨distinct, old⟩
  · exact ⟨same, le_rfl⟩
  · rcases AList.lookup_of_lookup_erase old with ⟨-, older⟩
    exact absurd (only.expired other entry older).1 distinct

theorem order_reacceptances {maxEntries : Nat} (capacity : 0 < maxEntries) (count : Nat) :
    let t := (RequestTracker.new 60 maxEntries).runFrom (reacceptances count)
    OnlyExpired (60 * count) "a" t ∧ t.ttl = 60 ∧ t.order.length = count := by
  induction count with
  | zero =>
      refine ⟨⟨capacity, ?_⟩, rfl, rfl⟩
      simp [reacceptances, RequestTracker.runFrom, RequestTracker.new]
  | succ count ih =>
      rcases ih with ⟨only, sameTtl, counted⟩
      rcases only.checkAndMark with ⟨onlyNext, ttlNext, oneMore⟩
      rw [reacceptances_succ, RequestTracker.runFrom_append]
      rw [sameTtl] at onlyNext
      exact ⟨onlyNext, ttlNext.trans sameTtl, by simp only [RequestTracker.runFrom]; omega⟩

theorem not_bounded_of_capacity {maxEntries : Nat} (capacity : 0 < maxEntries) :
    ¬∃ bound, ∀ (ttl : Nat) (ops : List (TrackerOp String)), MonotoneReadings ops →
      ((RequestTracker.new ttl maxEntries).runFrom ops).order.length ≤ bound := by
  rintro ⟨bound, bounded⟩
  have counted := (order_reacceptances capacity (bound + 1)).2.2
  have atMost := bounded 60 (reacceptances (bound + 1)) (monotone_reacceptances _)
  omega

end Growth

/-- The queue has a bound that depends on the capacity alone only for a tracker without capacity.
In every run it holds at most as many records as entries fit and were dropped as expired. -/
theorem order_bounded_iff (maxEntries : Nat) :
    ((∃ bound, ∀ (ttl : Nat) (ops : List (TrackerOp String)), MonotoneReadings ops →
        ((RequestTracker.new ttl maxEntries).runFrom ops).order.length ≤ bound) ↔
      maxEntries = 0) ∧
      ∀ (ttl : Nat) (ops : List (TrackerOp String)),
        ((RequestTracker.new ttl maxEntries).runFrom ops).order.length ≤
          max 1 maxEntries + (RequestTracker.new ttl maxEntries).dropped ops := by
  refine ⟨⟨?_, ?_⟩, fun ttl ops => order_length_le ttl maxEntries ops⟩
  · intro bounded
    by_contra capacity
    exact not_bounded_of_capacity (Nat.pos_of_ne_zero capacity) bounded
  · rintro rfl
    exact ⟨1, fun ttl ops _ => order_runFrom_of_no_capacity rfl (Nat.zero_le _) ops⟩

/-- The default capacity has no bound. -/
theorem not_order_bounded :
    ¬∀ maxEntries, ∃ bound, ∀ (ttl : Nat) (ops : List (TrackerOp String)), MonotoneReadings ops →
      ((RequestTracker.new ttl maxEntries).runFrom ops).order.length ≤ bound := by
  intro bounded
  exact not_bounded_of_capacity (Nat.succ_pos 9999) (bounded 10000)

end AxumConf.Dedup
