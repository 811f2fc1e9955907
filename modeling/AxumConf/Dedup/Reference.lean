import Mathlib.Data.List.Flatten
import AxumConf.Dedup.Tracker

/-!
# The tracker against a list of accepted keys

What the tracker is for is stated over a plain list of accepted keys with the
instants of acceptance, oldest first. Nothing is ever removed from that list
except for capacity, so it has no cleanup, no queue and no stale records. This
file shows that the tracker answers every run under a monotone clock as the
list does.

The two are linked through a log that carries the sequence number of each
acceptance besides its key and its instant.
-/

namespace AxumConf.Dedup

/-- Accepted keys with the instants of acceptance, oldest first. -/
structure Reference (Key : Type) where
  accepted : List (Key × Nat)
  ttl : Nat
  maxEntries : Nat

/-- The time-to-live of an acceptance has begun and has not passed. -/
def live (ttl now acceptedAt : Nat) : Bool :=
  decide (acceptedAt ≤ now ∧ now < acceptedAt + ttl)

namespace Reference

variable {Key : Type} [DecidableEq Key]

def new (ttl maxEntries : Nat) : Reference Key where
  accepted := []
  ttl := ttl
  maxEntries := maxEntries

def isDuplicate (now : Nat) (key : Key) (r : Reference Key) : Bool :=
  r.accepted.any fun pair => decide (pair.1 = key) && live r.ttl now pair.2

def makeRoom (later : Nat) (r : Reference Key) : Reference Key :=
  if r.maxEntries ≤ r.accepted.countP fun pair => live r.ttl later pair.2 then
    { r with accepted := r.accepted.eraseP fun pair => live r.ttl later pair.2 }
  else
    r

/-- A duplicate changes nothing; a new key is accepted once there is room. -/
def checkAndMark (now later : Nat) (key : Key) (r : Reference Key) : Bool × Reference Key :=
  if r.isDuplicate now key then
    (true, r)
  else
    let room := r.makeRoom later
    (false, { room with accepted := room.accepted ++ [(key, now)] })

/-- The answers along a run; cleaning up is nothing to the list. -/
def answers (r : Reference Key) : List (TrackerOp Key) → List Bool
  | [] => []
  | .checkAndMark now later key :: rest =>
      (r.checkAndMark now later key).1 :: answers (r.checkAndMark now later key).2 rest
  | .cleanupExpired _ :: rest => answers r rest

theorem answers_filter_isCheck (r : Reference Key) (ops : List (TrackerOp Key)) :
    r.answers (ops.filter TrackerOp.isCheck) = r.answers ops := by
  induction ops generalizing r with
  | nil => rfl
  | cons op rest ih =>
      cases op with
      | checkAndMark now later key =>
          simp only [List.filter_cons, TrackerOp.isCheck, if_true, answers, ih]
      | cleanupExpired now =>
          simpa only [List.filter_cons, TrackerOp.isCheck, Bool.false_eq_true, if_false, answers]
            using ih r

end Reference

structure Acceptance (Key : Type) where
  seq : UInt64
  key : Key
  acceptedAt : Nat

variable {Key : Type} [DecidableEq Key]

/-- What links the two indices of the tracker to a log of acceptances at a clock reading. -/
structure Tracks (log : List (Acceptance Key)) (now : Nat) (t : RequestTracker Key) : Prop where
  increasing : RequestTracker.Increasing t.order
  logged : log.Pairwise fun earlier later => earlier.seq.toNat < later.seq.toNat
  orderFresh : ∀ record ∈ t.order, record.1.toNat < t.seq.toNat
  logFresh : ∀ acceptance ∈ log, acceptance.seq.toNat < t.seq.toNat
  past : ∀ acceptance ∈ log, acceptance.acceptedAt ≤ now
  indexed : RequestTracker.Indexed t.tracker t.order
  entries : ∀ key entry, t.tracker.lookup key = some entry →
    ∃ acceptance ∈ log, acceptance.seq = entry.seq ∧ acceptance.key = key ∧
      entry.expiresAt = acceptance.acceptedAt + t.ttl
  present : ∀ acceptance ∈ log, now < acceptance.acceptedAt + t.ttl →
    t.tracker.lookup acceptance.key =
      some ⟨acceptance.acceptedAt + t.ttl, acceptance.seq⟩
  bounded : t.tracker.size ≤ max 1 t.maxEntries

def Unexpired (now : Nat) (t : RequestTracker Key) : Prop :=
  ∀ key entry, t.tracker.lookup key = some entry → now < entry.expiresAt

section Steps

variable {log : List (Acceptance Key)} {now : Nat} {t : RequestTracker Key}

theorem Tracks.new (ttl maxEntries : Nat) :
    Tracks [] 0 (RequestTracker.new ttl maxEntries : RequestTracker Key) where
  increasing := List.Pairwise.nil
  logged := List.Pairwise.nil
  orderFresh := by simp [RequestTracker.new]
  logFresh := by simp
  past := by simp
  indexed := indexed_new ttl maxEntries
  entries := by
    intro key entry found
    simp [RequestTracker.new] at found
  present := by simp
  bounded := Nat.zero_le _

theorem Tracks.later (tracks : Tracks log now t) {later : Nat} (ordered : now ≤ later) :
    Tracks log later t where
  increasing := tracks.increasing
  logged := tracks.logged
  orderFresh := tracks.orderFresh
  logFresh := tracks.logFresh
  past := fun acceptance member => (tracks.past acceptance member).trans ordered
  indexed := tracks.indexed
  entries := tracks.entries
  present := fun acceptance member unexpired =>
    tracks.present acceptance member (lt_of_le_of_lt ordered unexpired)
  bounded := tracks.bounded

theorem Tracks.acceptance_eq (tracks : Tracks log now t) {first second : Acceptance Key}
    (firstMem : first ∈ log) (secondMem : second ∈ log) (sameSeq : first.seq = second.seq) :
    first = second := by
  by_contra distinct
  have symmetric : Std.Symm fun a b : Acceptance Key => a.seq ≠ b.seq :=
    ⟨fun _ _ unequal => unequal.symm⟩
  have differ : log.Pairwise fun a b => a.seq ≠ b.seq := by
    apply tracks.logged.imp
    intro a b less same
    rw [same] at less
    exact lt_irrefl _ less
  exact differ.forall firstMem secondMem distinct sameSeq

theorem Tracks.of_subtable (tracks : Tracks log now t) {table : Table Key RequestEntry}
    (subtable : ∀ key entry, table.lookup key = some entry → t.tracker.lookup key = some entry)
    (kept : ∀ key entry, t.tracker.lookup key = some entry → now < entry.expiresAt →
      table.lookup key = some entry)
    (smaller : table.size ≤ t.tracker.size) : Tracks log now { t with tracker := table } where
  increasing := tracks.increasing
  logged := tracks.logged
  orderFresh := tracks.orderFresh
  logFresh := tracks.logFresh
  past := tracks.past
  indexed := fun key entry found => tracks.indexed key entry (subtable key entry found)
  entries := fun key entry found => tracks.entries key entry (subtable key entry found)
  present := fun acceptance member unexpired =>
    kept _ _ (tracks.present acceptance member unexpired) unexpired
  bounded := smaller.trans tracks.bounded

theorem Tracks.removeExpired (tracks : Tracks log now t) {key : Key} {entry : RequestEntry}
    (found : t.tracker.lookup key = some entry) (expired : entry.expiresAt ≤ now) :
    Tracks log now { t with tracker := t.tracker.erase key } := by
  refine tracks.of_subtable ?_ ?_ (AList.size_erase_le _ _)
  · intro other held lookedUp
    exact (AList.lookup_of_lookup_erase lookedUp).2
  · intro other held lookedUp unexpired
    have distinct : other ≠ key := by
      rintro rfl
      rw [found] at lookedUp
      cases lookedUp
      omega
    rwa [AList.lookup_erase_ne distinct]

theorem Tracks.cleanupExpired (tracks : Tracks log now t) :
    Tracks log now (t.cleanupExpired now) := by
  refine tracks.of_subtable ?_ ?_ (AList.size_retain_le _ _)
  · intro key entry found
    rw [AList.lookup_retain] at found
    exact (Option.filter_eq_some_iff.mp found).1
  · intro key entry found unexpired
    rw [AList.lookup_retain, found]
    simp [unexpired]

theorem unexpired_cleanupExpired (now : Nat) (t : RequestTracker Key) :
    Unexpired now (t.cleanupExpired now) := by
  intro key entry found
  simp only [RequestTracker.cleanupExpired, AList.lookup_retain,
    Option.filter_eq_some_iff, decide_eq_true_eq] at found
  exact found.2

def Acceptance.live (ttl now : Nat) (acceptance : Acceptance Key) : Bool :=
  Dedup.live ttl now acceptance.acceptedAt

theorem Tracks.live_iff (tracks : Tracks log now t) {acceptance : Acceptance Key}
    (member : acceptance ∈ log) :
    acceptance.live t.ttl now = true ↔ now < acceptance.acceptedAt + t.ttl := by
  have past := tracks.past acceptance member
  simp only [Acceptance.live, Dedup.live, decide_eq_true_eq]
  omega

/-- Once the expired entries are gone, the map holds one entry for each live acceptance. -/
theorem Tracks.size_eq_countP (tracks : Tracks log now t) (unexpired : Unexpired now t) :
    t.tracker.size = log.countP (Acceptance.live t.ttl now) := by
  let entryOf (acceptance : Acceptance Key) : Sigma fun _ : Key => RequestEntry :=
    ⟨acceptance.key, acceptance.acceptedAt + t.ttl, acceptance.seq⟩
  have distinct : ((log.filter (Acceptance.live t.ttl now)).map entryOf).Nodup := by
    apply List.Nodup.map_on
    · intro first firstMem second secondMem same
      have sameSeq : first.seq = second.seq := congrArg (fun entry => entry.2.seq) same
      exact tracks.acceptance_eq (List.mem_of_mem_filter firstMem)
        (List.mem_of_mem_filter secondMem) sameSeq
    · apply List.Nodup.filter
      apply tracks.logged.imp
      intro a b less same
      rw [same] at less
      exact lt_irrefl _ less
  have listed : t.tracker.entries.Perm ((log.filter (Acceptance.live t.ttl now)).map entryOf) := by
    rw [List.perm_ext_iff_of_nodup t.tracker.nodupKeys.nodup distinct]
    rintro ⟨key, entry⟩
    rw [← AList.mem_lookup_iff, Option.mem_def, List.mem_map]
    constructor
    · intro found
      rcases tracks.entries key entry found with ⟨acceptance, member, sameSeq, sameKey, expires⟩
      have isLive : acceptance.live t.ttl now = true := by
        rw [tracks.live_iff member, ← expires]
        exact unexpired key entry found
      refine ⟨acceptance, List.mem_filter.mpr ⟨member, isLive⟩, ?_⟩
      simp only [entryOf, sameKey, sameSeq, ← expires]
    · rintro ⟨acceptance, member, same⟩
      rcases List.mem_filter.mp member with ⟨inLog, isLive⟩
      cases same
      exact tracks.present acceptance inLog ((tracks.live_iff inLog).mp isLive)
  rw [AList.size, listed.length_eq, List.length_map, List.countP_eq_length_filter]

/-- The entry with the least sequence number is that of the first live acceptance in the log. -/
theorem Tracks.split_oldest (tracks : Tracks log now t) (unexpired : Unexpired now t) {key : Key}
    {entry : RequestEntry} (found : t.tracker.lookup key = some entry)
    (least : ∀ other held, t.tracker.lookup other = some held →
      entry.seq.toNat ≤ held.seq.toNat) :
    ∃ oldest front back, log = front ++ oldest :: back ∧
      log.eraseP (Acceptance.live t.ttl now) = front ++ back ∧
      oldest.seq = entry.seq ∧ oldest.key = key := by
  rcases tracks.entries key entry found with ⟨oldest, oldestMem, sameSeq, sameKey, expires⟩
  have oldestLive : oldest.live t.ttl now = true := by
    rw [tracks.live_iff oldestMem, ← expires]
    exact unexpired key entry found
  rcases List.exists_of_eraseP oldestMem oldestLive with
    ⟨first, front, back, dead, firstLive, split, dropped⟩
  have firstMem : first ∈ log := by simp [split]
  have firstIsOldest : first = oldest := by
    apply tracks.acceptance_eq firstMem oldestMem
    have notLess := least first.key _
      (tracks.present first firstMem ((tracks.live_iff firstMem).mp firstLive))
    have notGreater : first.seq.toNat ≤ oldest.seq.toNat := by
      rw [split, List.mem_append, List.mem_cons] at oldestMem
      rcases oldestMem with inFront | same | inBack
      · exact absurd oldestLive (dead oldest inFront)
      · rw [same]
      · have logged := tracks.logged
        rw [split, List.pairwise_append, List.pairwise_cons] at logged
        exact (logged.2.1.1 oldest inBack).le
    rw [sameSeq] at notGreater ⊢
    exact UInt64.toNat_inj.mp (le_antisymm notGreater notLess)
  subst firstIsOldest
  exact ⟨first, front, back, split, dropped, sameSeq, sameKey⟩

/-- An acceptance can leave the log together with its entry, and stale records the queue. -/
theorem Tracks.eraseAcceptance (tracks : Tracks log now t) {dropped : Acceptance Key}
    {front back : List (Acceptance Key)} (split : log = front ++ dropped :: back)
    {entry : RequestEntry} (found : t.tracker.lookup dropped.key = some entry)
    (sameSeq : dropped.seq = entry.seq) {order : List (UInt64 × Key)} (isSuffix : order <:+ t.order)
    (kept : RequestTracker.Indexed (t.tracker.erase dropped.key) order) :
    Tracks (front ++ back) now
      { t with tracker := t.tracker.erase dropped.key, order := order } := by
  have remains : (front ++ back).Sublist log := by
    rw [split]
    exact (List.Sublist.refl front).append (List.sublist_cons_self dropped back)
  have differs : ∀ acceptance ∈ front ++ back, acceptance.seq ≠ dropped.seq := by
    have logged := tracks.logged
    rw [split, List.pairwise_append, List.pairwise_cons] at logged
    rw [List.forall_mem_append]
    refine ⟨fun acceptance inFront same => ?_, fun acceptance inBack same => ?_⟩
    · have less := logged.2.2 acceptance inFront dropped List.mem_cons_self
      exact absurd less (by rw [same]; exact lt_irrefl _)
    · exact absurd (logged.2.1.1 acceptance inBack) (by rw [same]; exact lt_irrefl _)
  constructor
  · exact tracks.increasing.sublist isSuffix.sublist
  · exact tracks.logged.sublist remains
  · exact fun record member => tracks.orderFresh record (isSuffix.subset member)
  · exact fun acceptance member => tracks.logFresh acceptance (remains.subset member)
  · exact fun acceptance member => tracks.past acceptance (remains.subset member)
  · exact kept
  · intro other held lookedUp
    rcases AList.lookup_of_lookup_erase lookedUp with ⟨distinct, before⟩
    rcases tracks.entries other held before with ⟨acceptance, member, heldSeq, heldKey, heldExp⟩
    refine ⟨acceptance, ?_, heldSeq, heldKey, heldExp⟩
    have notDropped : acceptance ≠ dropped := by
      rintro rfl
      exact distinct heldKey.symm
    rw [split, List.mem_append, List.mem_cons] at member
    rw [List.mem_append]
    exact member.imp id fun tail => tail.resolve_left notDropped
  · intro acceptance member notExpired
    have held := tracks.present acceptance (remains.subset member) notExpired
    have distinct : acceptance.key ≠ dropped.key := by
      intro same
      rw [same, found] at held
      cases held
      exact differs acceptance member sameSeq.symm
    rwa [AList.lookup_erase_ne distinct]
  · exact (AList.size_erase_le _ _).trans tracks.bounded

/-- With every entry live, the loop removes the entry of the oldest live acceptance. -/
theorem Tracks.evictOldest (tracks : Tracks log now t) (unexpired : Unexpired now t)
    (nonempty : 0 < t.tracker.size) :
    Tracks (log.eraseP (Acceptance.live t.ttl now)) now t.evictOldest ∧
      t.evictOldest.tracker.size + 1 = t.tracker.size := by
  rcases RequestTracker.evictLoop_spec tracks.indexed tracks.increasing nonempty with
    ⟨key, entry, found, least, erased, isSuffix, kept⟩
  rcases tracks.split_oldest unexpired found least with
    ⟨oldest, front, back, split, dropped, sameSeq, rfl⟩
  have evicted : t.evictOldest = { t with
      tracker := t.tracker.erase oldest.key
      order := (evictLoop t.tracker t.order).2 } := by
    simp only [RequestTracker.evictOldest, erased]
  rw [erased] at kept
  rw [evicted, dropped]
  exact ⟨tracks.eraseAcceptance split found sameSeq isSuffix kept, AList.size_erase found⟩

theorem Tracks.evictOldest_empty (tracks : Tracks log now t) (empty : t.tracker.size = 0) :
    Tracks log now t.evictOldest ∧ t.evictOldest.tracker.size = 0 := by
  have evicted : t.evictOldest = { t with order := [] } := by
    rcases @RequestTracker.evictLoop_empty _ _ t.tracker t.order empty with ⟨sameMap, noRecords⟩
    simp only [RequestTracker.evictOldest, sameMap, noRecords]
  rw [evicted]
  refine ⟨?_, empty⟩
  have noEntry : ∀ key entry, t.tracker.lookup key ≠ some entry := by
    intro key entry found
    rw [AList.lookup_of_size_eq_zero empty] at found
    cases found
  exact ⟨.nil, tracks.logged, by simp, tracks.logFresh, tracks.past,
    fun key entry found => absurd found (noEntry key entry), tracks.entries, tracks.present,
    tracks.bounded⟩

def roomInLog (ttl maxEntries later : Nat) (log : List (Acceptance Key)) :
    List (Acceptance Key) :=
  if maxEntries ≤ log.countP (Acceptance.live ttl later) then
    log.eraseP (Acceptance.live ttl later)
  else
    log

/-- Making room drops the oldest live acceptance exactly when as many as the capacity are live,
and leaves room for one entry. -/
theorem Tracks.makeRoom (tracks : Tracks log now t) :
    Tracks (roomInLog t.ttl t.maxEntries now log) now (t.makeRoom now) ∧
      (t.makeRoom now).tracker.size + 1 ≤ max 1 t.maxEntries := by
  have cleaned := tracks.cleanupExpired
  have unexpired := unexpired_cleanupExpired now t
  have counted : (t.cleanupExpired now).tracker.size = log.countP (Acceptance.live t.ttl now) :=
    cleaned.size_eq_countP unexpired
  have smaller : (t.cleanupExpired now).tracker.size ≤ t.tracker.size := AList.size_retain_le _ _
  have bounded := tracks.bounded
  simp only [roomInLog, ← counted, RequestTracker.makeRoom, RequestTracker.isFull,
    decide_eq_true_eq]
  by_cases atCapacity : t.maxEntries ≤ t.tracker.size
  · simp only [atCapacity, if_true]
    by_cases stillFull : t.maxEntries ≤ (t.cleanupExpired now).tracker.size
    · have fullAfter : (t.cleanupExpired now).maxEntries ≤ (t.cleanupExpired now).tracker.size :=
        stillFull
      simp only [stillFull, fullAfter, if_true]
      by_cases empty : (t.cleanupExpired now).tracker.size = 0
      · have noneLive : log.countP (Acceptance.live t.ttl now) = 0 := counted.symm.trans empty
        have unchanged : log.eraseP (Acceptance.live t.ttl now) = log :=
          List.eraseP_of_forall_not (by simpa [List.countP_eq_zero] using noneLive)
        rcases cleaned.evictOldest_empty empty with ⟨tracksEvicted, sizeEq⟩
        rw [unchanged, sizeEq]
        exact ⟨tracksEvicted, by omega⟩
      · rcases cleaned.evictOldest unexpired (Nat.pos_of_ne_zero empty) with
          ⟨tracksEvicted, sizeEq⟩
        exact ⟨tracksEvicted, by omega⟩
    · have roomAfter : ¬(t.cleanupExpired now).maxEntries ≤ (t.cleanupExpired now).tracker.size :=
        stillFull
      simp only [stillFull, roomAfter, if_false]
      exact ⟨cleaned, by omega⟩
  · have noneDropped : ¬t.maxEntries ≤ (t.cleanupExpired now).tracker.size := by omega
    simp only [atCapacity, noneDropped, if_false]
    exact ⟨tracks, by omega⟩

/-- A key with no entry can be inserted when there is room and the counter does not wrap. -/
theorem Tracks.insertNew (tracks : Tracks log now t) {key : Key} {acceptedAt : Nat}
    (missing : t.tracker.lookup key = none) (past : acceptedAt ≤ now)
    (room : t.tracker.size + 1 ≤ max 1 t.maxEntries) (counter : t.seq.toNat + 1 < 2 ^ 64) :
    Tracks (log ++ [⟨t.seq, key, acceptedAt⟩]) now (t.insertNew acceptedAt key) := by
  have counted := UInt64.toNat_add_one_of_lt counter
  constructor
  · simp only [RequestTracker.insertNew, RequestTracker.Increasing, List.pairwise_append,
      List.forall_mem_singleton]
    exact ⟨tracks.increasing, List.pairwise_singleton _ _, tracks.orderFresh⟩
  · simp only [List.pairwise_append, List.forall_mem_singleton]
    exact ⟨tracks.logged, List.pairwise_singleton _ _, tracks.logFresh⟩
  · simp only [RequestTracker.insertNew, counted, List.forall_mem_append,
      List.forall_mem_singleton]
    exact ⟨fun record member => (tracks.orderFresh record member).trans (Nat.lt_succ_self _),
      Nat.lt_succ_self _⟩
  · simp only [RequestTracker.insertNew, counted, List.forall_mem_append,
      List.forall_mem_singleton]
    exact ⟨fun acceptance member =>
      (tracks.logFresh acceptance member).trans (Nat.lt_succ_self _), Nat.lt_succ_self _⟩
  · simp only [List.forall_mem_append, List.forall_mem_singleton]
    exact ⟨tracks.past, past⟩
  · intro other entry found
    rcases AList.lookup_insert_cases found with ⟨rfl, rfl⟩ | ⟨-, before⟩
    · exact List.mem_append_right _ List.mem_cons_self
    · exact List.mem_append_left _ (tracks.indexed other entry before)
  · intro other entry found
    rcases AList.lookup_insert_cases found with ⟨rfl, rfl⟩ | ⟨-, before⟩
    · exact ⟨_, List.mem_append_right _ List.mem_cons_self, rfl, rfl, rfl⟩
    · rcases tracks.entries other entry before with ⟨acceptance, member, facts⟩
      exact ⟨acceptance, List.mem_append_left _ member, facts⟩
  · simp only [RequestTracker.insertNew, List.forall_mem_append, List.forall_mem_singleton]
    refine ⟨?_, fun _ => AList.lookup_insert _⟩
    intro acceptance member notExpired
    have held := tracks.present acceptance member notExpired
    have distinct : acceptance.key ≠ key := by
      intro same
      rw [same, missing] at held
      cases held
    rwa [AList.lookup_insert_ne distinct]
  · simp only [RequestTracker.insertNew, AList.size_insert_of_lookup_none missing]
    exact room

end Steps

def Reference.ofLog (ttl maxEntries : Nat) (log : List (Acceptance Key)) : Reference Key where
  accepted := log.map fun acceptance => (acceptance.key, acceptance.acceptedAt)
  ttl := ttl
  maxEntries := maxEntries

omit [DecidableEq Key] in
theorem Reference.makeRoom_ofLog (ttl maxEntries later : Nat) (log : List (Acceptance Key)) :
    (Reference.ofLog ttl maxEntries log).makeRoom later =
      Reference.ofLog ttl maxEntries (roomInLog ttl maxEntries later log) := by
  have counted : (log.map fun acceptance => (acceptance.key, acceptance.acceptedAt)).countP
      (fun pair => live ttl later pair.2) = log.countP (Acceptance.live ttl later) := by
    rw [List.countP_map]
    rfl
  simp only [Reference.makeRoom, Reference.ofLog, roomInLog, counted]
  split
  · rw [List.eraseP_map]
    rfl
  · rfl

/-- The tracker implements a reference at a clock reading. -/
def Refines (r : Reference Key) (now : Nat) (t : RequestTracker Key) : Prop :=
  ∃ log, Tracks log now t ∧ r = Reference.ofLog t.ttl t.maxEntries log

section Refinement

variable {r : Reference Key} {now : Nat} {t : RequestTracker Key}

theorem Refines.new (ttl maxEntries : Nat) :
    Refines (Reference.new ttl maxEntries : Reference Key) 0 (.new ttl maxEntries) :=
  ⟨[], .new ttl maxEntries, rfl⟩

theorem Refines.later (refines : Refines r now t) {later : Nat} (ordered : now ≤ later) :
    Refines r later t := by
  rcases refines with ⟨log, tracks, same⟩
  exact ⟨log, tracks.later ordered, same⟩

theorem Refines.removeExpired (refines : Refines r now t) {key : Key} {entry : RequestEntry}
    (found : t.tracker.lookup key = some entry) (expired : entry.expiresAt ≤ now) :
    Refines r now { t with tracker := t.tracker.erase key } := by
  rcases refines with ⟨log, tracks, same⟩
  exact ⟨log, tracks.removeExpired found expired, same⟩

theorem Refines.cleanupExpired (refines : Refines r now t) :
    Refines r now (t.cleanupExpired now) := by
  rcases refines with ⟨log, tracks, same⟩
  exact ⟨log, tracks.cleanupExpired, same⟩

theorem Refines.isDuplicate_iff (refines : Refines r now t) (key : Key) :
    r.isDuplicate now key = true ↔
      ∃ entry, t.tracker.lookup key = some entry ∧ now < entry.expiresAt := by
  rcases refines with ⟨log, tracks, rfl⟩
  simp only [Reference.isDuplicate, Reference.ofLog, List.any_map, List.any_eq_true,
    Function.comp, Bool.and_eq_true, decide_eq_true_eq]
  constructor
  · rintro ⟨acceptance, member, rfl, isLive⟩
    have notExpired := (tracks.live_iff member).mp isLive
    exact ⟨_, tracks.present acceptance member notExpired, notExpired⟩
  · rintro ⟨entry, found, notExpired⟩
    rcases tracks.entries key entry found with ⟨acceptance, member, -, sameKey, expires⟩
    refine ⟨acceptance, member, sameKey, (tracks.live_iff member).mpr ?_⟩
    rwa [← expires]

theorem Refines.accept (refines : Refines r now t) {key : Key} {acceptedAt : Nat}
    (missing : t.tracker.lookup key = none) (past : acceptedAt ≤ now)
    (counter : t.seq.toNat + 1 < 2 ^ 64) :
    Refines { r.makeRoom now with
        accepted := (r.makeRoom now).accepted ++ [(key, acceptedAt)] } now
      ((t.makeRoom now).insertNew acceptedAt key) := by
  rcases refines with ⟨log, tracks, rfl⟩
  rcases tracks.makeRoom with ⟨tracksRoom, room⟩
  rcases makeRoom_fields t now with ⟨sameSeq, sameTtl, sameMax⟩
  rw [← sameSeq] at counter
  rw [← sameMax] at room
  refine ⟨_, tracksRoom.insertNew (lookup_makeRoom_of_none missing now) past room counter, ?_⟩
  rw [Reference.makeRoom_ofLog]
  simp [Reference.ofLog, RequestTracker.insertNew, sameTtl, sameMax]

theorem seq_checkAndMark (t : RequestTracker Key) (now later : Nat) (key : Key)
    (counter : (t.checkAndMark now later key).1 = false → t.seq.toNat + 1 < 2 ^ 64) :
    (t.checkAndMark now later key).2.seq.toNat =
      t.seq.toNat + [(t.checkAndMark now later key).1].count false := by
  have inserted (base : RequestTracker Key) (sameSeq : base.seq = t.seq)
      (bounded : t.seq.toNat + 1 < 2 ^ 64) :
      ((base.makeRoom later).insertNew now key).seq.toNat = t.seq.toNat + 1 := by
    simp only [RequestTracker.insertNew, (makeRoom_fields base later).1, sameSeq]
    exact UInt64.toNat_add_one_of_lt bounded
  simp only [RequestTracker.checkAndMark] at counter ⊢
  split
  · split
    · rfl
    · rename_i found expired
      simp only [found, expired, if_false] at counter
      exact inserted _ rfl (counter trivial)
  · rename_i missing
    simp only [missing] at counter
    exact inserted _ rfl (counter trivial)

theorem Reference.checkAndMark_fst (r : Reference Key) (now later : Nat) (key : Key) :
    (r.checkAndMark now later key).1 = r.isDuplicate now key := by
  simp only [Reference.checkAndMark]
  split <;> simp_all

theorem Refines.checkAndMark_fst (refines : Refines r now t) (later : Nat) (key : Key) :
    (t.checkAndMark now later key).1 = (r.checkAndMark now later key).1 := by
  rw [Bool.eq_iff_iff, checkAndMark_iff, Reference.checkAndMark_fst, refines.isDuplicate_iff]

theorem Refines.checkAndMark (refines : Refines r now t) {later : Nat} (ordered : now ≤ later)
    (key : Key)
    (counter : (t.checkAndMark now later key).1 = false → t.seq.toNat + 1 < 2 ^ 64) :
    Refines (r.checkAndMark now later key).2 later (t.checkAndMark now later key).2 := by
  have sameAnswer := refines.checkAndMark_fst later key
  rw [Reference.checkAndMark_fst] at sameAnswer
  cases answer : (t.checkAndMark now later key).1 with
  | true =>
      have unchanged := checkAndMark_duplicate answer
      have ignored : (r.checkAndMark now later key).2 = r := by
        simp only [Reference.checkAndMark, ← sameAnswer, answer, if_true]
      rw [unchanged, ignored]
      exact refines.later ordered
  | false =>
      have accepted : (r.checkAndMark now later key).2 = { r.makeRoom later with
          accepted := (r.makeRoom later).accepted ++ [(key, now)] } := by
        simp only [Reference.checkAndMark, ← sameAnswer, answer, Bool.false_eq_true, if_false]
      have bounded := counter answer
      rw [accepted]
      cases found : t.tracker.lookup key with
      | none =>
          simp only [RequestTracker.checkAndMark, found]
          exact (refines.later ordered).accept found ordered bounded
      | some entry =>
          have expired : ¬now < entry.expiresAt := by
            intro notExpired
            rw [(checkAndMark_iff t now later key).mpr ⟨entry, found, notExpired⟩] at answer
            cases answer
          have removed := (refines.removeExpired found (by omega)).later ordered
          simp only [RequestTracker.checkAndMark, found, expired, if_false]
          exact removed.accept (AList.lookup_erase _ _) ordered bounded

end Refinement

def RequestTracker.accepts (t : RequestTracker Key) (ops : List (TrackerOp Key)) : Nat :=
  (t.answers ops).count false

def Reference.accepts (r : Reference Key) (ops : List (TrackerOp Key)) : Nat :=
  (r.answers ops).count false

theorem Refines.run {r : Reference Key} {now : Nat} {t : RequestTracker Key}
    {ops : List (TrackerOp Key)} (refines : Refines r now t)
    (clock : (now :: ops.flatMap TrackerOp.readings).Pairwise (· ≤ ·))
    (few : t.seq.toNat + min (t.accepts ops) (r.accepts ops) < 2 ^ 64) :
    t.answers ops = r.answers ops := by
  induction ops generalizing r now t with
  | nil => rfl
  | cons op rest ih =>
      cases op with
      | cleanupExpired reading =>
          simp only [List.flatMap_cons, TrackerOp.readings, List.singleton_append] at clock
          rcases List.pairwise_cons.mp clock with ⟨ordered, clockRest⟩
          have refinesAfter :=
            (refines.later (ordered reading List.mem_cons_self)).cleanupExpired
          exact ih refinesAfter clockRest few
      | checkAndMark reading later key =>
          simp only [List.flatMap_cons, TrackerOp.readings, List.cons_append,
            List.nil_append] at clock
          rcases List.pairwise_cons.mp clock with ⟨orderedNow, clockLater⟩
          rcases List.pairwise_cons.mp clockLater with ⟨orderedLater, clockRest⟩
          have refinesNow := refines.later (orderedNow reading List.mem_cons_self)
          have sameAnswer := refinesNow.checkAndMark_fst later key
          have counted := seq_checkAndMark t reading later key
          simp only [RequestTracker.accepts, Reference.accepts, RequestTracker.answers,
            Reference.answers, ← sameAnswer, List.count_cons] at few
          have counter : (t.checkAndMark reading later key).1 = false →
              t.seq.toNat + 1 < 2 ^ 64 := by
            intro accepted
            simp only [accepted, beq_self_eq_true, if_true] at few
            omega
          have refinesAfter := refinesNow.checkAndMark (orderedLater later List.mem_cons_self) key
            counter
          have fewRest : (t.checkAndMark reading later key).2.seq.toNat +
              min ((t.checkAndMark reading later key).2.accepts rest)
                ((r.checkAndMark reading later key).2.accepts rest) < 2 ^ 64 := by
            rw [counted counter]
            simp only [RequestTracker.accepts, Reference.accepts, List.count_cons,
              List.count_nil] at few ⊢
            omega
          have sameRest := ih refinesAfter clockRest fewRest
          simp only [RequestTracker.answers, Reference.answers, sameAnswer, sameRest]

/-- Along every run under a monotone clock the tracker answers as the list of accepted keys,
expired entries may be cleaned up anywhere without changing an answer, and the map never holds
more than `max 1 max_entries` keys. -/
theorem tracker_refines_reference (ttl maxEntries : Nat) (ops : List (TrackerOp Key))
    (clock : MonotoneReadings ops)
    (few : (RequestTracker.new ttl maxEntries).accepts ops < 2 ^ 64) :
    (RequestTracker.new ttl maxEntries).answers ops =
        (Reference.new ttl maxEntries).answers ops ∧
      (RequestTracker.new ttl maxEntries).answers (ops.filter TrackerOp.isCheck) =
        (RequestTracker.new ttl maxEntries).answers ops ∧
      ∀ front, front <+: ops →
        ((RequestTracker.new ttl maxEntries).runFrom front).tracker.size ≤ max 1 maxEntries := by
  have fromZero (run : List (TrackerOp Key)) (monotone : MonotoneReadings run) :
      (0 :: run.flatMap TrackerOp.readings).Pairwise (· ≤ ·) :=
    List.pairwise_cons.mpr ⟨fun reading _ => Nat.zero_le reading, monotone⟩
  have started : (RequestTracker.new ttl maxEntries : RequestTracker Key).seq.toNat = 0 := rfl
  have same := (Refines.new ttl maxEntries).run (fromZero ops clock) (by omega)
  have sameFiltered := Reference.answers_filter_isCheck (Reference.new ttl maxEntries) ops
  have clockFiltered : MonotoneReadings (ops.filter TrackerOp.isCheck) :=
    List.Pairwise.sublist (List.filter_sublist.flatMap _) clock
  have fewFiltered : (Reference.new ttl maxEntries).accepts (ops.filter TrackerOp.isCheck) <
      2 ^ 64 := by
    rw [Reference.accepts, sameFiltered, ← same]
    exact few
  have filtered := (Refines.new ttl maxEntries).run (fromZero _ clockFiltered) (by omega)
  refine ⟨same, by rw [filtered, sameFiltered, same], ?_⟩
  intro front _
  exact size_runFrom_le (indexed_new ttl maxEntries) (Nat.zero_le _) front

/-- Three keys at capacity two: the first is evicted by the third and accepted again, and a
cleanup in between changes nothing. -/
theorem tracker_refines_reference_at_capacity :
    let ops : List (TrackerOp String) := [.checkAndMark 0 0 "a", .checkAndMark 1 1 "b",
      .checkAndMark 2 2 "b", .cleanupExpired 3, .checkAndMark 4 4 "c", .checkAndMark 5 5 "a"]
    (RequestTracker.new 60 2).answers ops = (Reference.new 60 2).answers ops ∧
      (RequestTracker.new 60 2).answers (ops.filter TrackerOp.isCheck) =
        (RequestTracker.new 60 2).answers ops ∧
      ∀ front, front <+: ops →
        ((RequestTracker.new 60 2).runFrom front).tracker.size ≤ max 1 2 :=
  tracker_refines_reference 60 2 _ (by simp [MonotoneReadings, TrackerOp.readings]) (by decide)

end AxumConf.Dedup
