import Mathlib.Data.List.DropRight
import AxumConf.Dedup.Reference

/-!
# The tracker as a window on the accepted keys

Nothing has to be taken out of the list of accepted keys: what the tracker remembers are the last
`max 1 max_entries` keys it accepted, as far as their time-to-live has not passed.  Making room for
a key drops the oldest live acceptance when the capacity is live already, and that one is just what
the window leaves behind.
-/

namespace AxumConf.Dedup

variable {Key : Type}

section Window

variable {ttl now later : Nat} {log accepted : List (Key × Nat)}

def livePair (ttl now : Nat) (pair : Key × Nat) : Bool :=
  live ttl now pair.2

theorem livePair_mono {pair : Key × Nat} (ordered : now ≤ later) (past : pair.2 ≤ now)
    (isLive : livePair ttl later pair = true) : livePair ttl now pair = true := by
  simp only [livePair, live, decide_eq_true_eq] at isLive ⊢
  omega

/-- An acceptance that is live makes those after it live. -/
theorem livePair_of_older {older newer : Key × Nat} (ordered : older.2 ≤ newer.2)
    (past : newer.2 ≤ now) (isLive : livePair ttl now older = true) :
    livePair ttl now newer = true := by
  simp only [livePair, live, decide_eq_true_eq] at isLive ⊢
  omega

theorem filter_live_filter_live (ordered : now ≤ later) (past : ∀ pair ∈ log, pair.2 ≤ now) :
    (log.filter (livePair ttl now)).filter (livePair ttl later) =
      log.filter (livePair ttl later) := by
  rw [List.filter_filter]
  apply List.filter_congr
  intro pair member
  cases isLive : livePair ttl later pair with
  | false => rfl
  | true => simp [livePair_mono ordered (past pair member) isLive]

theorem filter_eraseP_self {α : Type} (p : α → Bool) (items : List α) :
    (items.eraseP p).filter p = (items.filter p).tail := by
  induction items with
  | nil => rfl
  | cons item rest ih =>
      cases holds : p item with
      | true => simp [holds]
      | false => simp [holds, ih]

theorem rtake_of_length_le {α : Type} {items : List α} {n : Nat} (short : items.length ≤ n) :
    items.rtake n = items := by
  rw [List.rtake, Nat.sub_eq_zero_of_le short, List.drop_zero]

/-- The window of one more element has the element before it, or there is none. -/
theorem rtake_succ_of_lt {α : Type} {items : List α} {n : Nat} (long : n < items.length) :
    ∃ item, items.rtake (n + 1) = item :: items.rtake n := by
  have inside : items.length - (n + 1) < items.length := by omega
  refine ⟨items[items.length - (n + 1)], ?_⟩
  have next : items.length - (n + 1) + 1 = items.length - n := by omega
  rw [List.rtake, List.rtake, List.drop_eq_getElem_cons inside, next]

theorem rtake_sublist {α : Type} (items : List α) (n : Nat) : (items.rtake n).Sublist items :=
  List.drop_sublist _ _

theorem length_rtake_le {α : Type} (items : List α) (n : Nat) : (items.rtake n).length ≤ n := by
  rw [List.rtake, List.length_drop]
  omega

/-- The acceptance that leaves a window with room has expired. -/
theorem filter_rtake_succ_of_room (sorted : log.Pairwise fun older newer => older.2 ≤ newer.2)
    (past : ∀ pair ∈ log, pair.2 ≤ now) (ordered : now ≤ later) {n : Nat}
    (room : (log.rtake (n + 1)).countP (livePair ttl now) < n + 1) :
    (log.rtake (n + 1)).filter (livePair ttl later) =
      (log.rtake n).filter (livePair ttl later) := by
  rcases Nat.lt_or_ge n log.length with long | short
  · rcases rtake_succ_of_lt long with ⟨oldest, split⟩
    have part := rtake_sublist log (n + 1)
    rw [split] at room part ⊢
    have newer := List.pairwise_cons.mp (sorted.sublist part)
    have expired : livePair ttl later oldest = false := by
      apply Bool.eq_false_iff.mpr
      intro isLive
      have oldestLive := livePair_mono ordered (past oldest (part.subset List.mem_cons_self)) isLive
      have everyLive : ∀ pair ∈ oldest :: log.rtake n, livePair ttl now pair = true := by
        intro pair member
        rcases List.mem_cons.mp member with rfl | inside
        · exact oldestLive
        · exact livePair_of_older (newer.1 pair inside) (past pair (part.subset member)) oldestLive
      rw [List.countP_eq_length.mpr everyLive, ← split, List.rtake, List.length_drop] at room
      omega
    rw [List.filter_cons, if_neg (by simp [expired])]
  · rw [rtake_of_length_le (Nat.le_succ_of_le short), rtake_of_length_le short]

/-- When the window is full of live acceptances, its oldest gives way. -/
theorem tail_filter_rtake_succ {n : Nat}
    (full : (log.rtake (n + 1)).countP (livePair ttl now) = n + 1) :
    ((log.rtake (n + 1)).filter (livePair ttl now)).tail = log.rtake n := by
  have short := length_rtake_le log (n + 1)
  have everyLive : ∀ pair ∈ log.rtake (n + 1), livePair ttl now pair = true := by
    apply List.countP_eq_length.mp
    have bounded := @List.countP_le_length _ (livePair ttl now) (log.rtake (n + 1))
    omega
  have long : n < log.length := by
    rw [List.countP_eq_length.mpr everyLive, List.rtake, List.length_drop] at full
    omega
  rcases rtake_succ_of_lt long with ⟨oldest, split⟩
  rw [List.filter_eq_self.mpr everyLive, split, List.tail_cons]

end Window

variable [DecidableEq Key]

/-- One of the last `capacity` acceptances is of this key and its time-to-live has not passed. -/
def seenWithin (capacity ttl now : Nat) (key : Key) (log : List (Key × Nat)) : Bool :=
  (log.rtake capacity).any fun pair => decide (pair.1 = key) && livePair ttl now pair

/-- The list of accepted keys and the log of all acceptances show the same from now on. -/
structure Windows (log : List (Key × Nat)) (now : Nat) (r : Reference Key) : Prop where
  sorted : log.Pairwise fun older newer => older.2 ≤ newer.2
  past : ∀ pair ∈ log, pair.2 ≤ now
  remembered : ∀ pair ∈ r.accepted, pair.2 ≤ now
  shows : ∀ later, now ≤ later → r.accepted.filter (livePair r.ttl later) =
    (log.rtake (max 1 r.maxEntries)).filter (livePair r.ttl later)

namespace Windows

variable {log : List (Key × Nat)} {now : Nat} {r : Reference Key}

omit [DecidableEq Key] in
theorem new (ttl maxEntries now : Nat) :
    Windows [] now (Reference.new ttl maxEntries : Reference Key) where
  sorted := .nil
  past := by simp
  remembered := by simp [Reference.new]
  shows := by simp [Reference.new]

omit [DecidableEq Key] in
theorem later (windows : Windows log now r) {later : Nat} (ordered : now ≤ later) :
    Windows log later r where
  sorted := windows.sorted
  past := fun pair member => (windows.past pair member).trans ordered
  remembered := fun pair member => (windows.remembered pair member).trans ordered
  shows := fun time after => windows.shows time (ordered.trans after)

theorem isDuplicate_eq (windows : Windows log now r) (key : Key) :
    r.isDuplicate now key = seenWithin (max 1 r.maxEntries) r.ttl now key log := by
  have any_filter (items : List (Key × Nat)) :
      items.any (fun pair => decide (pair.1 = key) && livePair r.ttl now pair) =
        (items.filter (livePair r.ttl now)).any fun pair => decide (pair.1 = key) := by
    rw [List.any_filter]
    congr 1
    funext pair
    exact Bool.and_comm _ _
  rw [seenWithin, any_filter, ← windows.shows now le_rfl, ← any_filter]
  rfl

omit [DecidableEq Key] in
/-- Making room leaves what a window shows that has one place less. -/
theorem makeRoom_shows (windows : Windows log now r) {time : Nat} (after : now ≤ time) :
    (r.makeRoom now).accepted.filter (livePair r.ttl time) =
      (log.rtake (max 1 r.maxEntries - 1)).filter (livePair r.ttl time) := by
  have shows := windows.shows now le_rfl
  have counted : r.accepted.countP (livePair r.ttl now) =
      (log.rtake (max 1 r.maxEntries)).countP (livePair r.ttl now) := by
    rw [List.countP_eq_length_filter, shows, ← List.countP_eq_length_filter]
  have bounded : (log.rtake (max 1 r.maxEntries)).countP (livePair r.ttl now) ≤
      max 1 r.maxEntries := List.countP_le_length.trans (length_rtake_le _ _)
  have condition : (r.accepted.countP fun pair => live r.ttl now pair.2) =
      r.accepted.countP (livePair r.ttl now) := rfl
  obtain ⟨n, size⟩ : ∃ n, max 1 r.maxEntries = n + 1 := ⟨max 1 r.maxEntries - 1, by omega⟩
  rw [size] at shows counted bounded
  rw [size, Nat.add_sub_cancel]
  unfold Reference.makeRoom
  rw [condition]
  split
  · rename_i full
    have rememberedAfter : ∀ pair ∈ r.accepted.eraseP (livePair r.ttl now), pair.2 ≤ now :=
      fun pair member => windows.remembered pair (List.mem_of_mem_eraseP member)
    have left : (r.accepted.eraseP (livePair r.ttl now)).filter (livePair r.ttl now) =
        (log.rtake n).filter (livePair r.ttl now) := by
      rw [filter_eraseP_self, shows]
      rcases Nat.eq_zero_or_pos n with rfl | positive
      · have short : ((log.rtake (0 + 1)).filter (livePair r.ttl now)).length ≤ 1 :=
          (List.length_filter_le _ _).trans (length_rtake_le _ _)
        rw [List.rtake_zero, List.filter_nil]
        apply List.eq_nil_of_length_eq_zero
        rw [List.length_tail]
        omega
      · have filled : (log.rtake (n + 1)).countP (livePair r.ttl now) = n + 1 := by omega
        have rest := tail_filter_rtake_succ filled
        have everyLive : ∀ pair ∈ log.rtake n, livePair r.ttl now pair = true := by
          intro pair member
          rw [← rest] at member
          exact (List.mem_filter.mp (List.mem_of_mem_tail member)).2
        rw [rest, List.filter_eq_self.mpr everyLive]
    have afterwards := congrArg (List.filter (livePair r.ttl time)) left
    rwa [filter_live_filter_live after rememberedAfter, filter_live_filter_live after
      fun pair member => windows.past pair ((rtake_sublist log n).subset member)] at afterwards
  · rename_i free
    have shownLater := windows.shows time after
    rw [size] at shownLater
    rw [shownLater]
    exact filter_rtake_succ_of_room windows.sorted windows.past after (by omega)

omit [DecidableEq Key] in
/-- An accepted key is the next one of the log. -/
theorem accept (windows : Windows log now r) {later : Nat} (ordered : now ≤ later) (key : Key) :
    Windows (log ++ [(key, now)]) later { r.makeRoom later with
      accepted := (r.makeRoom later).accepted ++ [(key, now)] } := by
  have windowsLater := windows.later ordered
  have kept : (r.makeRoom later).ttl = r.ttl ∧ (r.makeRoom later).maxEntries = r.maxEntries := by
    unfold Reference.makeRoom
    split
    · exact ⟨rfl, rfl⟩
    · exact ⟨rfl, rfl⟩
  have part : ∀ pair ∈ (r.makeRoom later).accepted, pair ∈ r.accepted := by
    intro pair member
    unfold Reference.makeRoom at member
    split at member
    · exact List.mem_of_mem_eraseP member
    · exact member
  refine ⟨?_, ?_, ?_, ?_⟩
  · rw [List.pairwise_append]
    refine ⟨windows.sorted, List.pairwise_singleton _ _, ?_⟩
    intro older member newer isNew
    rw [List.mem_singleton.mp isNew]
    exact windows.past older member
  · rw [List.forall_mem_append]
    exact ⟨windowsLater.past, List.forall_mem_singleton.mpr ordered⟩
  · rw [List.forall_mem_append]
    exact ⟨fun pair member => windowsLater.remembered pair (part pair member),
      List.forall_mem_singleton.mpr ordered⟩
  · intro time after
    obtain ⟨n, size⟩ : ∃ n, max 1 r.maxEntries = n + 1 := ⟨max 1 r.maxEntries - 1, by omega⟩
    have room := windowsLater.makeRoom_shows after
    rw [size, Nat.add_sub_cancel] at room
    simp only [kept.1, kept.2, size, List.rtake_concat_succ, List.filter_append, room]

end Windows

/-- The tracker remembers the window of a log, all of whose acceptances it has counted. -/
structure Follows (log : List (Key × Nat)) (now : Nat) (t : RequestTracker Key) : Prop where
  windows : ∃ r, Refines r now t ∧ Windows log now r
  counted : t.seq.toNat = log.length

namespace Follows

variable {log : List (Key × Nat)} {now : Nat} {t : RequestTracker Key}

theorem new (ttl maxEntries : Nat) :
    Follows [] 0 (RequestTracker.new ttl maxEntries : RequestTracker Key) :=
  ⟨⟨_, .new ttl maxEntries, .new ttl maxEntries 0⟩, rfl⟩

theorem later (follows : Follows log now t) {later : Nat} (ordered : now ≤ later) :
    Follows log later t := by
  rcases follows.windows with ⟨r, refines, windows⟩
  exact ⟨⟨r, refines.later ordered, windows.later ordered⟩, follows.counted⟩

theorem cleanupExpired (follows : Follows log now t) : Follows log now (t.cleanupExpired now) := by
  rcases follows.windows with ⟨r, refines, windows⟩
  exact ⟨⟨r, refines.cleanupExpired, windows⟩, follows.counted⟩

/-- A call answers what the window shows. -/
theorem checkAndMark_fst (follows : Follows log now t) (later : Nat) (key : Key) :
    (t.checkAndMark now later key).1 = seenWithin (max 1 t.maxEntries) t.ttl now key log := by
  rcases follows.windows with ⟨r, refines, windows⟩
  have same := refines.checkAndMark_fst later key
  rw [Reference.checkAndMark_fst, windows.isDuplicate_eq] at same
  rcases refines with ⟨acceptances, -, rfl⟩
  exact same

/-- A call that answers `false` adds its key to the log, and one that answers `true` nothing. -/
theorem checkAndMark (follows : Follows log now t) {later : Nat} (ordered : now ≤ later) (key : Key)
    (few : seenWithin (max 1 t.maxEntries) t.ttl now key log = false →
      log.length + 1 < 2 ^ 64) :
    Follows (if seenWithin (max 1 t.maxEntries) t.ttl now key log then log
      else log ++ [(key, now)]) later (t.checkAndMark now later key).2 := by
  have answer := follows.checkAndMark_fst later key
  have counter : (t.checkAndMark now later key).1 = false → t.seq.toNat + 1 < 2 ^ 64 := by
    rw [answer, follows.counted]
    exact few
  have counted := seq_checkAndMark t now later key counter
  rcases follows.windows with ⟨r, refines, windows⟩
  have sameAnswer := refines.checkAndMark_fst later key
  rw [Reference.checkAndMark_fst] at sameAnswer
  refine ⟨⟨_, refines.checkAndMark ordered key counter, ?_⟩, ?_⟩
  · cases seen : (t.checkAndMark now later key).1 with
    | true =>
        rw [seen] at answer sameAnswer
        rw [if_pos answer.symm, Reference.checkAndMark, if_pos sameAnswer.symm]
        exact windows.later ordered
    | false =>
        rw [seen] at answer sameAnswer
        rw [if_neg (Bool.eq_false_iff.mp answer.symm), Reference.checkAndMark,
          if_neg (Bool.eq_false_iff.mp sameAnswer.symm)]
        exact windows.accept ordered key
  · rw [counted, ← answer, follows.counted]
    cases (t.checkAndMark now later key).1 with
    | true => simp
    | false => simp

end Follows

theorem ttl_checkAndMark (t : RequestTracker Key) (now later : Nat) (key : Key) :
    (t.checkAndMark now later key).2.ttl = t.ttl := by
  simp only [RequestTracker.checkAndMark]
  split
  · split
    · rfl
    · simp [RequestTracker.insertNew, makeRoom_fields]
  · simp [RequestTracker.insertNew, makeRoom_fields]

/-- The answers of the window: when a call makes room, and when expired entries are cleaned up, is
nothing to it. -/
def windowAnswers (capacity ttl : Nat) (log : List (Key × Nat)) : List (TrackerOp Key) → List Bool
  | [] => []
  | .checkAndMark now _ key :: rest =>
      let seen := seenWithin capacity ttl now key log
      seen :: windowAnswers capacity ttl (if seen then log else log ++ [(key, now)]) rest
  | .cleanupExpired _ :: rest => windowAnswers capacity ttl log rest

theorem Follows.answers {log : List (Key × Nat)} {now : Nat} {t : RequestTracker Key}
    (follows : Follows log now t) {ops : List (TrackerOp Key)}
    (clock : (now :: ops.flatMap TrackerOp.readings).Pairwise (· ≤ ·))
    (few : log.length + t.accepts ops < 2 ^ 64) :
    t.answers ops = windowAnswers (max 1 t.maxEntries) t.ttl log ops := by
  induction ops generalizing log now t with
  | nil => rfl
  | cons op rest ih =>
      cases op with
      | cleanupExpired reading =>
          simp only [List.flatMap_cons, TrackerOp.readings, List.singleton_append] at clock
          rcases List.pairwise_cons.mp clock with ⟨ordered, clockRest⟩
          have cleaned := (follows.later (ordered reading List.mem_cons_self)).cleanupExpired
          exact ih cleaned clockRest few
      | checkAndMark reading later key =>
          simp only [List.flatMap_cons, TrackerOp.readings, List.cons_append,
            List.nil_append] at clock
          rcases List.pairwise_cons.mp clock with ⟨orderedNow, clockLater⟩
          rcases List.pairwise_cons.mp clockLater with ⟨orderedLater, clockRest⟩
          have followsNow := follows.later (orderedNow reading List.mem_cons_self)
          have answer := followsNow.checkAndMark_fst later key
          simp only [RequestTracker.accepts, RequestTracker.answers, answer,
            List.count_cons] at few
          have fewNow : seenWithin (max 1 t.maxEntries) t.ttl reading key log = false →
              log.length + 1 < 2 ^ 64 := by
            intro unseen
            simp only [unseen, beq_self_eq_true, if_true] at few
            omega
          have followsAfter := followsNow.checkAndMark (orderedLater later List.mem_cons_self) key
            fewNow
          have fewRest : (if seenWithin (max 1 t.maxEntries) t.ttl reading key log then log
              else log ++ [(key, reading)]).length +
              (t.checkAndMark reading later key).2.accepts rest < 2 ^ 64 := by
            rw [RequestTracker.accepts]
            cases seen : seenWithin (max 1 t.maxEntries) t.ttl reading key log with
            | true =>
                simp only [if_true]
                omega
            | false =>
                simp only [seen, beq_self_eq_true, if_true] at few
                simp only [Bool.false_eq_true, if_false, List.length_append, List.length_singleton]
                omega
          have later := ih followsAfter clockRest fewRest
          rw [maxEntries_checkAndMark, ttl_checkAndMark] at later
          simp only [RequestTracker.answers, windowAnswers, later, answer]

/-- When the checks are made one after another under a monotone clock, a call is told that its key
is a duplicate exactly when one of the last `max 1 max_entries` accepted calls had the key less than
a time-to-live ago. -/
theorem answers_eq_window (ttl maxEntries : Nat) (ops : List (TrackerOp Key))
    (clock : MonotoneReadings ops)
    (few : (RequestTracker.new ttl maxEntries).accepts ops < 2 ^ 64) :
    (RequestTracker.new ttl maxEntries).answers ops =
      windowAnswers (max 1 maxEntries) ttl [] ops := by
  have fromZero : (0 :: ops.flatMap TrackerOp.readings).Pairwise (· ≤ ·) :=
    List.pairwise_cons.mpr ⟨fun reading _ => Nat.zero_le reading, clock⟩
  exact (Follows.new ttl maxEntries).answers fromZero (by simpa using few)

/-- Room is made too late to keep a key that has expired meanwhile. -/
theorem answers_eq_window_slow :
    let ops : List (TrackerOp String) := [.checkAndMark 0 0 "a", .checkAndMark 1 1 "b",
      .checkAndMark 59 70 "c", .cleanupExpired 71, .checkAndMark 71 71 "a",
      .checkAndMark 72 72 "c"]
    (RequestTracker.new 60 2).answers ops = windowAnswers (max 1 2) 60 [] ops :=
  answers_eq_window 60 2 _ (by simp [MonotoneReadings, TrackerOp.readings]) (by decide)

end AxumConf.Dedup
