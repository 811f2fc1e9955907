import AxumConf.Fluent.SessionStore
import AxumConf.Lib.Components

/-!
# What the sealed store amounts to

Without the adversary the store is a map from ids to the records saved last, each of which is there
until it expires, and the sweeps of expired rows do not show.  With an adversary who leaves bytes
that verify in their place it is still a shelf of records, from which records may vanish and to
which they may come back as they once were, under an expiry of the adversary's choice.
-/

namespace AxumConf.Fluent

variable {Id Data : Type} [DecidableEq Id] [DecidableEq Data]

/-- The records under their ids, each with the time to which it is kept, and all that were saved. -/
structure Shelf (Id Data : Type) where
  entries : Id → Option (Record Id Data × ℤ)
  saved : List (Record Id Data)

inductive ShelfEvent (Id Data : Type) where
  | save (record : Record Id Data)
  | remove (id : Id)
  | sweep (now : ℤ)
  | restore (record : Record Id Data) (expiry : ℤ)

def Shelf.empty : Shelf Id Data where
  entries := fun _ => none
  saved := []

/-- Only what was saved before can be restored; what a sweep takes away depends on the expiry. -/
def shelf (swept : ℤ → ℤ → Bool) : Machine (Shelf Id Data) (ShelfEvent Id Data) where
  step state
    | .save record => some
        { entries := Function.update state.entries record.id (some (record, record.expiryDate))
          saved := record :: state.saved }
    | .remove id => some { state with entries := Function.update state.entries id none }
    | .sweep now => some
        { state with
          entries := fun id => (state.entries id).filter fun entry => !swept entry.2 now }
    | .restore record expiry =>
        if record ∈ state.saved then some
          { state with
            entries := Function.update state.entries record.id (some (record, expiry)) }
        else none

def Shelf.load (backend : Backend Id) (state : Shelf Id Data) (now : ℤ) (id : Id) :
    Option (Record Id Data) :=
  ((state.entries id).filter fun entry => backend.visible entry.2 now).map Prod.fst

/-- The record in the bytes of a row, with the row's expiry. -/
def rowEntry (store : SessionStore Id Data) (row : Row) : Option (Record Id Data × ℤ) :=
  (openSealed store.hmac store.signingKey row.sealed).bind fun data =>
    (store.codec.fromSlice data).toOption.map fun record => (record, row.expiresAt)

/-- The shelf has what the rows of the store hold. -/
structure ShownOn (store : SessionStore Id Data) (state : StoreState Id Data)
    (image : Shelf Id Data) : Prop where
  entries : ∀ id, image.entries id =
    (state.rows (store.backend.key id)).bind (rowEntry store)
  saved : image.saved = state.saved
  rows_seen : ∀ key row, state.rows key = some row → row.sealed ∈ state.seen
  seals : SealsSaved store state

section Rows

variable {store : SessionStore Id Data} {state next : StoreState Id Data} {image : Shelf Id Data}

omit [DecidableEq Id] [DecidableEq Data] in
theorem rowEntry_sealData {record : Record Id Data} {data : Bytes} (expiry : ℤ)
    (encoded : store.codec.toVec record = .ok data) :
    rowEntry store
      { sealed := sealData store.hmac store.signingKey data, expiresAt := expiry } =
        some (record, expiry) := by
  simp [rowEntry, openSealed_sealData, store.codec.fromSlice_toVec record data encoded,
    Except.toOption]

omit [DecidableEq Id] [DecidableEq Data] in
theorem expiry_of_rowEntry {row : Row} {entry : Record Id Data × ℤ}
    (isEntry : rowEntry store row = some entry) : entry.2 = row.expiresAt := by
  simp only [rowEntry, Option.bind_eq_some_iff, Option.map_eq_some_iff] at isEntry
  rcases isEntry with ⟨data, -, record, -, rfl⟩
  rfl

omit [DecidableEq Data] in
theorem update_entries (entries : ∀ id, image.entries id =
      (state.rows (store.backend.key id)).bind (rowEntry store)) (id : Id) (row : Option Row)
    (other : Id) :
    Function.update image.entries id (row.bind (rowEntry store)) other =
      (state.setRow (store.backend.key id) row (store.backend.key other)).bind
        (rowEntry store) := by
  rw [Function.update_apply]
  by_cases same : other = id
  · simp [same, StoreState.setRow]
  · have different : store.backend.key other ≠ store.backend.key id :=
      fun sameKey => same (store.backend.key_injective sameKey)
    rw [if_neg same, StoreState.setRow, if_neg different]
    exact entries other

omit [DecidableEq Id] [DecidableEq Data] in
theorem rows_seen_setRow {key : String} {row : Option Row} {seen : List Bytes}
    (old : ∀ other held, state.rows other = some held → held.sealed ∈ seen)
    (new : ∀ held, row = some held → held.sealed ∈ seen) (other : String) (held : Row)
    (found : state.setRow key row other = some held) : held.sealed ∈ seen := by
  unfold StoreState.setRow at found
  split at found
  · exact new held found
  · exact old other held found

omit [DecidableEq Id] [DecidableEq Data] in
/-- What is loaded is what the shelf holds; rows that open decode. -/
theorem ShownOn.load_eq (shown : ShownOn store state image) (now : ℤ) (id : Id) :
    load store state now id = .ok (image.load store.backend now id) := by
  have decodes : ∀ row, state.rows (store.backend.key id) = some row → ∀ data,
      openSealed store.hmac store.signingKey row.sealed = some data →
      ∃ record, store.codec.fromSlice data = .ok record := by
    intro row found data opened
    rcases shown.seals row.sealed (shown.rows_seen _ row found) data opened with
      ⟨record, -, encoded⟩
    exact ⟨record, store.codec.fromSlice_toVec record data encoded⟩
  unfold load Shelf.load
  rw [shown.entries id]
  cases found : state.rows (store.backend.key id) with
  | none => rfl
  | some row =>
      simp only [Option.bind_some, rowEntry]
      cases opened : openSealed store.hmac store.signingKey row.sealed with
      | none =>
          cases visible : store.backend.visible row.expiresAt now with
          | false => simp [Option.filter, visible]
          | true => simp [Option.filter, visible, opened]
      | some data =>
          rcases decodes row found data opened with ⟨record, decoded⟩
          cases visible : store.backend.visible row.expiresAt now with
          | false => simp [Option.filter, visible, decoded, Except.toOption]
          | true => simp [Option.filter, visible, opened, decoded, Except.toOption]

end Rows

section Simulation

variable {store : SessionStore Id Data} {state next : StoreState Id Data} {image : Shelf Id Data}

theorem shownOn_save (shown : ShownOn store state image) {record : Record Id Data}
    (saved : save store state record = .ok next)
    (stepped : (storeRuns store).step state (.save record) = some next) :
    ∃ after, (shelf store.backend.swept).run image [.save record] = some after ∧
      ShownOn store next after := by
  rcases save_ok saved with ⟨data, encoded, isSaved, isSeen, rows⟩
  refine ⟨_, rfl, ?_, ?_, ?_, sealsSaved_step shown.seals stepped⟩
  · intro id
    rw [rows, ← update_entries shown.entries, Option.bind_some, rowEntry_sealData _ encoded]
  · rw [isSaved, ← shown.saved]
  · intro key row found
    rw [rows] at found
    rw [isSeen]
    apply rows_seen_setRow ?_ ?_ key row found
    · intro other held isHeld
      exact List.mem_cons_of_mem _ (shown.rows_seen other held isHeld)
    · rintro held isNew
      cases isNew
      exact List.mem_cons_self

/-- Taking away the row of an id takes its record off the shelf. -/
theorem shownOn_remove (shown : ShownOn store state image) (id : Id)
    (rows : next.rows = state.setRow (store.backend.key id) none)
    (saved : next.saved = state.saved) (seen : next.seen = state.seen) :
    ∃ after, (shelf store.backend.swept).run image [.remove id] = some after ∧
      ShownOn store next after := by
  refine ⟨_, rfl, ?_, ?_, ?_, ?_⟩
  · intro other
    rw [rows, ← update_entries shown.entries]
    rfl
  · rw [saved, ← shown.saved]
  · intro key row found
    rw [rows] at found
    rw [seen]
    exact shown.rows_seen key row (setRow_none found)
  · rw [SealsSaved, saved, seen]
    exact shown.seals

theorem shownOn_sweep (shown : ShownOn store state image) (now : ℤ) :
    ∃ after, (shelf store.backend.swept).run image [.sweep now] = some after ∧
      ShownOn store (deleteExpired store state now) after := by
  refine ⟨_, rfl, ?_, shown.saved, ?_, shown.seals⟩
  · intro id
    simp only [deleteExpired, shown.entries id]
    cases found : state.rows (store.backend.key id) with
    | none => rfl
    | some row =>
        simp only [Option.bind_some]
        cases isEntry : rowEntry store row with
        | none =>
            cases expired : !store.backend.swept row.expiresAt now with
            | true => simp [Option.filter, expired, isEntry]
            | false => simp [Option.filter, expired]
        | some entry =>
            have expiry := expiry_of_rowEntry isEntry
            cases expired : !store.backend.swept row.expiresAt now with
            | true => simp [Option.filter, expiry, expired, isEntry]
            | false => simp [Option.filter, expiry, expired]
  · intro key row found
    exact shown.rows_seen key row (Option.filter_eq_some_iff.mp found).1

omit [DecidableEq Id] [DecidableEq Data] in
/-- A row under a key that belongs to no id does not show. -/
theorem shownOn_foreign (shown : ShownOn store state image) {key : String}
    (foreign : ∀ id, store.backend.key id ≠ key) {row : Option Row}
    (rows : next.rows = state.setRow key row) (saved : next.saved = state.saved)
    (seen : ∀ sealed ∈ state.seen, sealed ∈ next.seen)
    (rowSeen : ∀ held, row = some held → held.sealed ∈ next.seen)
    (seals : SealsSaved store next) : ShownOn store next image where
  entries id := by
    rw [rows, StoreState.setRow, if_neg (foreign id)]
    exact shown.entries id
  saved := by rw [saved, ← shown.saved]
  rows_seen other held found := by
    rw [rows] at found
    apply rows_seen_setRow ?_ rowSeen other held found
    intro key row isHeld
    exact seen _ (shown.rows_seen key row isHeld)
  seals := seals

/-- Bytes that the adversary puts into a row show as nothing, or as a record that was saved. -/
theorem shownOn_rewrite (shown : ShownOn store state image) {key : String} {row : Row}
    (keeps : KeepsPlace store (.rewrite key (some row)))
    (stepped : (storeRuns store).step state (.rewrite key (some row)) = some next) :
    ∃ labels after, (shelf store.backend.swept).run image labels = some after ∧
      ShownOn store next after := by
  have seals := sealsSaved_step shown.seals stepped
  rcases rewrite_some stepped with ⟨possible, saved, seen, rows⟩
  have rowsSeen : ∀ other held, next.rows other = some held → held.sealed ∈ next.seen := by
    intro other held found
    rw [rows] at found
    rw [seen]
    apply rows_seen_setRow ?_ ?_ other held found
    · intro other held isHeld
      exact List.mem_cons_of_mem _ (shown.rows_seen other held isHeld)
    · rintro held isNew
      cases isNew
      exact List.mem_cons_self
  by_cases own : ∃ id, store.backend.key id = key
  · rcases own with ⟨id, rfl⟩
    cases opened : openSealed store.hmac store.signingKey row.sealed with
    | none =>
        have nothing : rowEntry store row = none := by simp [rowEntry, opened]
        refine ⟨[.remove id], _, rfl, ?_, ?_, rowsSeen, seals⟩
        · intro other
          rw [rows, ← update_entries shown.entries, Option.bind_some, nothing]
        · rw [saved, ← shown.saved]
    | some data =>
        rcases saved_of_canWrite shown.seals possible opened with ⟨record, isSaved, encoded⟩
        have decoded := store.codec.fromSlice_toVec record data encoded
        have place : record.id = id := keeps id data record rfl opened decoded
        have something : rowEntry store row = some (record, row.expiresAt) := by
          simp [rowEntry, opened, decoded, Except.toOption]
        have onShelf : record ∈ image.saved := by
          rw [shown.saved]
          exact isSaved
        let restored : Shelf Id Data :=
          { image with
            entries := Function.update image.entries record.id (some (record, row.expiresAt)) }
        refine ⟨[.restore record row.expiresAt], restored, ?_, ?_, ?_, rowsSeen, seals⟩
        · simp [shelf, onShelf, restored]
        · intro other
          rw [rows, ← update_entries shown.entries, Option.bind_some, something, ← place]
        · rw [saved, ← shown.saved]
  · refine ⟨[], image, rfl, ?_⟩
    apply shownOn_foreign shown (fun id same => own ⟨id, same⟩) rows saved ?_ ?_ seals
    · intro sealed member
      rw [seen]
      exact List.mem_cons_of_mem _ member
    · rintro held isNew
      cases isNew
      rw [seen]
      exact List.mem_cons_self

/-- The adversary takes a row away. -/
theorem shownOn_withdraw (shown : ShownOn store state image) {key : String}
    (stepped : (storeRuns store).step state (.rewrite key none) = some next) :
    ∃ labels after, (shelf store.backend.swept).run image labels = some after ∧
      ShownOn store next after := by
  have seals := sealsSaved_step shown.seals stepped
  have rows : next.rows = state.setRow key none := by
    cases stepped
    rfl
  have same : next.saved = state.saved ∧ next.seen = state.seen := by
    cases stepped
    exact ⟨rfl, rfl⟩
  by_cases own : ∃ id, store.backend.key id = key
  · rcases own with ⟨id, rfl⟩
    exact ⟨[.remove id], shownOn_remove shown id rows same.1 same.2⟩
  · refine ⟨[], image, rfl, ?_⟩
    apply shownOn_foreign shown (fun id isKey => own ⟨id, isKey⟩) rows same.1 ?_ ?_ seals
    · intro sealed member
      rw [same.2]
      exact member
    · intro held isNew
      cases isNew

/-- A step of the store in which the adversary leaves bytes in their place is some run of the
shelf. -/
theorem storeRuns_refine_shelf :
    Machine.Refines (storeRuns store) (shelf store.backend.swept) (ShownOn store)
      (KeepsPlace store) := by
  intro state image event next shown keeps stepped
  cases event with
  | save record =>
      rcases save_step stepped with rfl | saved
      · exact ⟨[], image, rfl, shown⟩
      · exact ⟨[.save record], shownOn_save shown saved stepped⟩
  | delete id =>
      cases stepped
      exact ⟨[.remove id], shownOn_remove shown id rfl rfl rfl⟩
  | deleteExpired now =>
      cases stepped
      exact ⟨[.sweep now], shownOn_sweep shown now⟩
  | rewrite key row =>
      cases row with
      | none => exact shownOn_withdraw shown stepped
      | some row => exact shownOn_rewrite shown keeps stepped

omit [DecidableEq Id] [DecidableEq Data] in
theorem shownOn_empty : ShownOn store .empty (Shelf.empty : Shelf Id Data) where
  entries _ := rfl
  saved := rfl
  rows_seen _ _ found := by cases found
  seals := sealsSaved_empty

end Simulation

/-- Whoever writes to the backend without forging a seal, and without moving bytes that verify from
one id to another, can only take records off the shelf and bring them back as they once were saved,
under any expiry: after every run the store answers every load as a shelf does to which nothing else
has happened. -/
theorem tampering_restores (store : SessionStore Id Data) {events : List (StoreEvent Id Data)}
    (keeps : ∀ event ∈ events, KeepsPlace store event) {finish : StoreState Id Data}
    (ran : (storeRuns store).run .empty events = some finish) :
    ∃ image, (shelf store.backend.swept).Reachable (Shelf.empty : Shelf Id Data) image ∧
      image.saved = finish.saved ∧
      ∀ now id, load store finish now id = .ok (image.load store.backend now id) := by
  rcases storeRuns_refine_shelf.run shownOn_empty keeps ran with ⟨image, reachable, shown⟩
  exact ⟨image, reachable, shown.saved, shown.load_eq⟩

/-- The guest's record is deleted and put back to last longer. -/
def restoredGuest : List (StoreEvent String String) :=
  [.save guestRecord, .delete "guest-session",
    .rewrite "guest-session" (some
      { sealed := sealData paddedTag [7] [2]
        expiresAt := 3000000000000000000 })]

theorem restoredGuest_keepsPlace : ∀ event ∈ restoredGuest, KeepsPlace guestStore event := by
  simp only [restoredGuest, List.forall_mem_cons]
  refine ⟨trivial, trivial, ?_, by simp⟩
  intro id data record isKey opened decoded
  have bytes : data = [2] := by
    have seals := openSealed_sealData paddedTag [7] [2]
    exact Option.some.inj (opened.symm.trans seals)
  subst bytes
  cases decoded
  exact isKey.symm

/-- The guest is back after the logout and the expiry. -/
theorem tampering_restores_guest :
    ∃ finish, (storeRuns guestStore).run .empty restoredGuest = some finish ∧
      load guestStore finish 2500000000000000000 "guest-session" = .ok (some guestRecord) ∧
      ∃ image,
        (shelf guestStore.backend.swept).Reachable (Shelf.empty : Shelf String String) image ∧
        image.saved = finish.saved ∧
        ∀ now id, load guestStore finish now id =
          .ok (image.load guestStore.backend now id) := by
  refine ⟨_, rfl, rfl, ?_⟩
  exact tampering_restores guestStore restoredGuest_keepsPlace rfl

section LastSaved

variable (store : SessionStore Id Data) (now : ℤ) (id : Id)

/-- No adversary, and no sweep from the future. -/
def StoreEvent.IsHonest : StoreEvent Id Data → Prop
  | .deleteExpired swept => swept ≤ now
  | .rewrite _ _ => False
  | _ => True

/-- The record that the id has after the event. -/
def lastSaved (held : Option (Record Id Data)) : StoreEvent Id Data → Option (Record Id Data)
  | .save record =>
      match store.codec.toVec record with
      | .ok _ => if record.id = id then some record else held
      | .error _ => held
  | .delete other => if other = id then none else held
  | _ => held

/-- A row that has been swept would not be found any more. -/
def Backend.HidesSwept (backend : Backend Id) : Prop :=
  ∀ expiry swept now, backend.swept expiry swept = true → swept ≤ now →
    backend.visible expiry now = false

/-- The row is that of the last record, or is not there while the record would be hidden. -/
inductive RowKeeps : Option Row → Option (Record Id Data) → Prop where
  | row (record : Record Id Data) (data : Bytes) (encoded : store.codec.toVec record = .ok data) :
      RowKeeps
        (some
          { sealed := sealData store.hmac store.signingKey data, expiresAt := record.expiryDate })
        (some record)
  | gone (held : Option (Record Id Data))
      (hidden : ∀ record, held = some record →
        store.backend.visible record.expiryDate now = false) :
      RowKeeps none held

variable {store : SessionStore Id Data} {now : ℤ} {id : Id} {state next : StoreState Id Data}
  {held : Option (Record Id Data)}

omit [DecidableEq Id] [DecidableEq Data] in
theorem postgres_hidesSwept (text : Id → String) (injective : Function.Injective text)
    {column : ℤ → ℤ} (keeps : KeepsMicroseconds column) :
    (postgres text injective column keeps).HidesSwept := by
  intro expiry swept now gone past
  simp only [postgres, decide_eq_true_iff, keeps _] at gone
  simp only [postgres, decide_eq_false_iff_not, keeps _]
  omega

omit [DecidableEq Id] [DecidableEq Data] in
theorem redis_hidesSwept (text : Id → String) (injective : Function.Injective text)
    {present : ℤ → ℤ → Bool} (expires : ExpiresAtSecond present) :
    (redis text injective present expires).HidesSwept := by
  intro expiry swept now gone past
  cases gone

omit [DecidableEq Id] [DecidableEq Data] in
theorem RowKeeps.load_eq (keeps : RowKeeps store now (state.rows (store.backend.key id)) held) :
    load store state now id =
      .ok (held.filter fun record => store.backend.visible record.expiryDate now) := by
  unfold load
  generalize state.rows (store.backend.key id) = found at keeps
  cases keeps with
  | row record data encoded =>
      have decoded := store.codec.fromSlice_toVec record data encoded
      cases visible : store.backend.visible record.expiryDate now with
      | true => simp [Option.filter, visible, openSealed_sealData, decoded]
      | false => simp [Option.filter, visible]
  | gone held hidden =>
      cases held with
      | none => rfl
      | some record => simp [Option.filter, hidden record rfl]

omit [DecidableEq Data] in
theorem rowKeeps_step (hides : store.backend.HidesSwept) {event : StoreEvent Id Data}
    (honest : event.IsHonest now)
    (keeps : RowKeeps store now (state.rows (store.backend.key id)) held)
    (stepped : (storeRuns store).step state event = some next) :
    RowKeeps store now (next.rows (store.backend.key id)) (lastSaved store id held event) := by
  cases event with
  | save record =>
      simp only [storeRuns, save] at stepped
      cases encoded : store.codec.toVec record with
      | error message =>
          simp only [encoded, Option.some.injEq] at stepped
          rw [← stepped, lastSaved, encoded]
          exact keeps
      | ok data =>
          simp only [encoded, Option.some.injEq] at stepped
          rw [← stepped, lastSaved, encoded]
          by_cases same : record.id = id
          · simp only [same, StoreState.setRow, if_true]
            exact .row record data encoded
          · have different : store.backend.key id ≠ store.backend.key record.id :=
              fun sameKey => same (store.backend.key_injective sameKey).symm
            simp only [same, StoreState.setRow, different, if_false]
            exact keeps
  | delete other =>
      cases stepped
      by_cases same : other = id
      · simp only [delete, lastSaved, same, StoreState.setRow, if_true]
        exact .gone none (fun _ isHeld => by cases isHeld)
      · have different : store.backend.key id ≠ store.backend.key other :=
          fun sameKey => same (store.backend.key_injective sameKey).symm
        simp only [delete, lastSaved, same, StoreState.setRow, different, if_false]
        exact keeps
  | deleteExpired swept =>
      cases stepped
      simp only [deleteExpired, lastSaved]
      generalize state.rows (store.backend.key id) = found at keeps
      cases keeps with
      | row record data encoded =>
          cases gone : store.backend.swept record.expiryDate swept with
          | true =>
              simp only [Option.filter, gone, Bool.not_true, Bool.false_eq_true, if_false]
              apply RowKeeps.gone
              intro other same
              cases same
              exact hides _ swept now gone honest
          | false =>
              simp only [Option.filter, gone, Bool.not_false, if_true]
              exact .row record data encoded
      | gone held hidden => exact .gone held hidden
  | rewrite key row => exact honest.elim

omit [DecidableEq Data] in
theorem rowKeeps_run (hides : store.backend.HidesSwept) {events : List (StoreEvent Id Data)}
    (honest : ∀ event ∈ events, event.IsHonest now)
    (keeps : RowKeeps store now (state.rows (store.backend.key id)) held)
    (ran : (storeRuns store).run state events = some next) :
    RowKeeps store now (next.rows (store.backend.key id))
      (events.foldl (lastSaved store id) held) := by
  induction events generalizing state held with
  | nil =>
      cases ran
      exact keeps
  | cons event rest ih =>
      rcases Option.bind_eq_some_iff.mp ran with ⟨middle, stepped, ranRest⟩
      rcases List.forall_mem_cons.mp honest with ⟨honestFirst, honestRest⟩
      exact ih honestRest (rowKeeps_step hides honestFirst keeps stepped) ranRest

end LastSaved

omit [DecidableEq Data] in
/-- Without an adversary a load finds the record that was saved last under the id and not deleted
since, as long as it has not expired, however often expired rows have been swept. -/
theorem load_finds_lastSaved (store : SessionStore Id Data) (hides : store.backend.HidesSwept)
    {events : List (StoreEvent Id Data)} {now : ℤ}
    (honest : ∀ event ∈ events, event.IsHonest now) {finish : StoreState Id Data}
    (ran : (storeRuns store).run .empty events = some finish) (id : Id) :
    load store finish now id =
      .ok ((events.foldl (lastSaved store id) none).filter fun record =>
        store.backend.visible record.expiryDate now) := by
  have initially : RowKeeps store now
      ((StoreState.empty : StoreState Id Data).rows (store.backend.key id)) none :=
    .gone none (fun _ isHeld => by cases isHeld)
  exact (rowKeeps_run hides honest initially ran).load_eq

omit [DecidableEq Id] in
/-- Where the backends differ about a row: in the second of its expiry. -/
theorem visible_cases {text : Id → String} {injective : Function.Injective text}
    {column : ℤ → ℤ} (keeps : KeepsMicroseconds column) {present : ℤ → ℤ → Bool}
    (expires : ExpiresAtSecond present) (expiry now : ℤ) :
    (postgres text injective column keeps).visible expiry now =
        (redis text injective present expires).visible expiry now ∨
      ((postgres text injective column keeps).visible expiry now = true ∧
        (redis text injective present expires).visible expiry now = false ∧
          now / 1000000000 = expiry / 1000000000) ∨
      ((postgres text injective column keeps).visible expiry now = false ∧
        (redis text injective present expires).visible expiry now = true ∧
          now / 1000000 = expiry / 1000000000 * 1000) := by
  have onRedis : (redis text injective present expires).visible expiry now = true ↔
      now / 1000000 ≤ expiry / 1000000000 * 1000 := expires _ _
  have onPostgres : (postgres text injective column keeps).visible expiry now = true ↔
      now / 1000 * 1000 < expiry / 1000 * 1000 := by
    simp only [postgres, decide_eq_true_iff, keeps _]
  generalize (redis text injective present expires).visible expiry now = redisShows at *
  generalize (postgres text injective column keeps).visible expiry now = postgresShows at *
  cases postgresShows with
  | true =>
      cases redisShows with
      | true => exact .inl rfl
      | false =>
          right
          left
          simp only [Bool.false_eq_true, false_iff, true_iff] at onRedis onPostgres
          exact ⟨rfl, rfl, by omega⟩
  | false =>
      cases redisShows with
      | true =>
          right
          right
          simp only [Bool.false_eq_true, false_iff, true_iff] at onRedis onPostgres
          exact ⟨rfl, rfl, by omega⟩
      | false => exact .inl rfl

omit [DecidableEq Data] in
/-- After the same saves, deletions and sweeps both backends answer a load alike, whatever their
keys are, except in the second in which a record expires: Redis drops it behind the first
millisecond of that second, and Postgres at the microsecond of the expiry. -/
theorem postgres_redis_agree {text : Id → String} (injective : Function.Injective text)
    {column : ℤ → ℤ} (keeps : KeepsMicroseconds column) {present : ℤ → ℤ → Bool}
    (expires : ExpiresAtSecond present) (codec : Codec Id Data) (hmac other : Hmac)
    (key otherKey : Bytes) {events : List (StoreEvent Id Data)} {now : ℤ}
    (honest : ∀ event ∈ events, event.IsHonest now) {finish finishOther : StoreState Id Data}
    (ran : (storeRuns ⟨postgres text injective column keeps, codec, hmac, key⟩).run .empty
      events = some finish)
    (ranOther : (storeRuns ⟨redis text injective present expires, codec, other, otherKey⟩).run
      .empty events = some finishOther) (id : Id) :
    load ⟨postgres text injective column keeps, codec, hmac, key⟩ finish now id =
        load ⟨redis text injective present expires, codec, other, otherKey⟩ finishOther now id ∨
      ∃ record,
        (load ⟨postgres text injective column keeps, codec, hmac, key⟩ finish now id =
            .ok (some record) ∧
          load ⟨redis text injective present expires, codec, other, otherKey⟩ finishOther now id =
            .ok none ∧
          now / 1000000000 = record.expiryDate / 1000000000) ∨
        (load ⟨postgres text injective column keeps, codec, hmac, key⟩ finish now id = .ok none ∧
          load ⟨redis text injective present expires, codec, other, otherKey⟩ finishOther now id =
            .ok (some record) ∧
          now / 1000000 = record.expiryDate / 1000000000 * 1000) := by
  have onPostgres :=
    load_finds_lastSaved ⟨postgres text injective column keeps, codec, hmac, key⟩
      (postgres_hidesSwept text injective keeps) honest ran id
  have onRedis :=
    load_finds_lastSaved ⟨redis text injective present expires, codec, other, otherKey⟩
      (redis_hidesSwept text injective expires) honest ranOther id
  have same : events.foldl
        (lastSaved ⟨redis text injective present expires, codec, other, otherKey⟩ id) none =
      events.foldl
        (lastSaved ⟨postgres text injective column keeps, codec, hmac, key⟩ id) none := rfl
  rw [onPostgres, onRedis, same]
  cases events.foldl
      (lastSaved ⟨postgres text injective column keeps, codec, hmac, key⟩ id) none with
  | none => exact .inl rfl
  | some record =>
      have apart := @visible_cases _ text injective column keeps present expires
        record.expiryDate now
      rcases apart with alike | ⟨shows, hides, lastSecond⟩ | ⟨hides, shows, isStart⟩
      · left
        simp [Option.filter, alike]
      · right
        exact ⟨record, .inl ⟨by simp [Option.filter, shows], by simp [Option.filter, hides],
          lastSecond⟩⟩
      · right
        exact ⟨record, .inr ⟨by simp [Option.filter, hides], by simp [Option.filter, shows],
          isStart⟩⟩

/-- The guest logs in, out and in again while expired rows are swept. -/
def guestVisits : List (StoreEvent String String) :=
  [.save guestRecord, .delete "guest-session", .deleteExpired 1740000000000000000,
    .save guestRecord]

theorem guestVisits_honest : ∀ event ∈ guestVisits, event.IsHonest 1750000000000000000 := by
  simp only [guestVisits, List.forall_mem_cons]
  refine ⟨trivial, trivial, ?_, trivial, by simp⟩
  unfold StoreEvent.IsHonest
  omega

theorem load_finds_lastSaved_guest :
    ∃ finish, (storeRuns guestStore).run .empty guestVisits = some finish ∧
      ∀ id, load guestStore finish 1750000000000000000 id =
        .ok ((guestVisits.foldl (lastSaved guestStore id) none).filter fun record =>
          guestStore.backend.visible record.expiryDate 1750000000000000000) :=
  ⟨_, rfl, load_finds_lastSaved guestStore (postgres_hidesSwept id Function.injective_id
    fun _ => rfl) guestVisits_honest rfl⟩

/-- The guest's store, and one in Redis with another key. -/
def guestRedis : SessionStore String String where
  backend := redis id Function.injective_id
    (fun second now => now / 1000000 ≤ second * 1000) (by simp [ExpiresAtSecond])
  codec := twoRecords
  hmac := paddedTag
  signingKey := [8]

theorem postgres_redis_agree_guest :
    ∃ finish finishOther,
      (storeRuns guestStore).run .empty guestVisits = some finish ∧
      (storeRuns guestRedis).run .empty guestVisits = some finishOther ∧
      ∀ session,
        load guestStore finish 1750000000000000000 session =
          load guestRedis finishOther 1750000000000000000 session ∨
        ∃ record,
          (load guestStore finish 1750000000000000000 session = .ok (some record) ∧
            load guestRedis finishOther 1750000000000000000 session = .ok none ∧
            (1750000000000000000 : ℤ) / 1000000000 = record.expiryDate / 1000000000) ∨
          (load guestStore finish 1750000000000000000 session = .ok none ∧
            load guestRedis finishOther 1750000000000000000 session = .ok (some record) ∧
            (1750000000000000000 : ℤ) / 1000000 = record.expiryDate / 1000000000 * 1000) :=
  ⟨_, _, rfl, rfl, postgres_redis_agree Function.injective_id (fun _ => rfl)
    (by simp [ExpiresAtSecond]) twoRecords paddedTag paddedTag [7] [8] guestVisits_honest rfl rfl⟩

end AxumConf.Fluent
