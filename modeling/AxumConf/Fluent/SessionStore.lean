import AxumConf.Lib.Machine
import Mathlib.Data.Int.Notation
import Mathlib.Data.List.Basic
import Mathlib.Logic.Function.Basic

/-!
# Sealed session records

The stores that keep session records outside of the process.  A record is serialized, tagged and
written under its id; what is loaded for an id has to verify.  The tag covers the serialized bytes
and not the id they are stored under, so whoever can write to the backend may put bytes that verify
under another id.
-/

namespace AxumConf.Fluent

abbrev Bytes := List UInt8

/-- `tower_sessions::session::Record` -/
structure Record (Id Data : Type) where
  id : Id
  data : Data
  expiryDate : ℤ
  deriving DecidableEq, Repr

def tagLen : ℕ := 32

/-- HMAC-SHA256 -/
structure Hmac where
  /-- The tag of the data under a key. -/
  tag : Bytes → Bytes → Bytes
  tag_length : ∀ key data, (tag key data).length = tagLen

/-- `rmp_serde::to_vec` and `rmp_serde::from_slice` -/
structure Codec (Id Data : Type) where
  toVec : Record Id Data → Except String Bytes
  fromSlice : Bytes → Except String (Record Id Data)
  fromSlice_toVec : ∀ record data, toVec record = .ok data → fromSlice data = .ok record

/-- The key of an id's row, and whether a row with an expiry is found at a time, or taken away by a
sweep at that time; the times are in nanoseconds. -/
structure Backend (Id : Type) where
  key : Id → String
  key_injective : Function.Injective key
  visible : ℤ → ℤ → Bool
  swept : ℤ → ℤ → Bool
  exists_visible : ∀ expiry, ∃ now, visible expiry now = true

/-- A `TIMESTAMPTZ` keeps the microseconds of a time. -/
def KeepsMicroseconds (column : ℤ → ℤ) : Prop :=
  ∀ time, column time = time / 1000 * 1000

/-- `WHERE id = $1 AND expiry_date > now()`, with the text of an id, and sweeps of the rows `WHERE
expiry_date < now()`; `column` is what is kept of a time. -/
def postgres {Id : Type} (text : Id → String) (injective : Function.Injective text)
    (column : ℤ → ℤ) (keeps : KeepsMicroseconds column) : Backend Id where
  key := text
  key_injective := injective
  visible expiry now := column now < column expiry
  swept expiry now := column expiry < column now
  exists_visible expiry := ⟨expiry - 1000, by
    rw [keeps, keeps, decide_eq_true_iff]
    omega⟩

/-- Redis has a key to the end of the millisecond that its `EXAT` begins. -/
def ExpiresAtSecond (present : ℤ → ℤ → Bool) : Prop :=
  ∀ second now, present second now = true ↔ now / 1000000 ≤ second * 1000

/-- The key of the record expires at the second of its expiry, which `present` is asked about; there
are no sweeps. -/
def redis {Id : Type} (text : Id → String) (injective : Function.Injective text)
    (present : ℤ → ℤ → Bool) (expires : ExpiresAtSecond present) : Backend Id where
  key id := "tower-sessions:" ++ text id
  key_injective := by
    intro first second same
    apply injective
    have lists := congrArg String.toList same
    rw [String.toList_append, String.toList_append, List.append_cancel_left_eq] at lists
    exact String.toList_inj.mp lists
  visible expiry now := present (expiry / 1000000000) now
  swept _ _ := false
  exists_visible expiry := ⟨expiry / 1000000000 * 1000000000, by
    rw [expires]
    omega⟩

structure SessionStore (Id Data : Type) where
  backend : Backend Id
  codec : Codec Id Data
  hmac : Hmac
  signingKey : Bytes

section Sealing

variable (hmac : Hmac) (key : Bytes)

/-- The tag and the data behind it. -/
def sealData (data : Bytes) : Bytes :=
  hmac.tag key data ++ data

def openSealed (sealed : Bytes) : Option Bytes :=
  if sealed.length < tagLen then none
  else
    let (tag, data) := sealed.splitAt tagLen
    if hmac.tag key data = tag then some data else none

theorem openSealed_sealData (data : Bytes) :
    openSealed hmac key (sealData hmac key data) = some data := by
  have length := hmac.tag_length key data
  have long : ¬(sealData hmac key data).length < tagLen := by
    simp [sealData, length]
  have tag : (sealData hmac key data).take tagLen = hmac.tag key data := by
    rw [sealData, ← length, List.take_left]
  have rest : (sealData hmac key data).drop tagLen = data := by
    rw [sealData, ← length, List.drop_left]
  simp [openSealed, long, tag, rest]

theorem openSealed_short {sealed : Bytes} (short : sealed.length < tagLen) :
    openSealed hmac key sealed = none := by
  simp [openSealed, short]

/-- Of all the bytes only the seal of the data opens to them. -/
theorem eq_sealData_of_openSealed {sealed data : Bytes}
    (opened : openSealed hmac key sealed = some data) : sealed = sealData hmac key data := by
  unfold openSealed at opened
  split at opened
  · cases opened
  · simp only [List.splitAt_eq, Option.ite_none_right_eq_some, Option.some.injEq] at opened
    rcases opened with ⟨verifies, rfl⟩
    rw [sealData, verifies, List.take_append_drop]

/-- Sealing and opening under a key are inverse to each other. -/
theorem openSealed_inverse_sealData :
    (∀ data, openSealed hmac key (sealData hmac key data) = some data) ∧
      (∀ sealed data, openSealed hmac key sealed = some data →
        sealed = sealData hmac key data) ∧
      ∀ sealed : Bytes, sealed.length < tagLen → openSealed hmac key sealed = none := by
  refine ⟨openSealed_sealData hmac key, ?_, ?_⟩
  · intro sealed data opened
    exact eq_sealData_of_openSealed hmac key opened
  · intro sealed short
    exact openSealed_short hmac key short

end Sealing

inductive StoreError where
  | encode (message : String)
  | decode (message : String)
  deriving DecidableEq, Repr

structure Row where
  sealed : Bytes
  expiresAt : ℤ
  deriving DecidableEq, Repr

/-- The rows by key, the records that were saved, and all bytes that ever stood in the store. -/
structure StoreState (Id Data : Type) where
  rows : String → Option Row
  saved : List (Record Id Data)
  seen : List Bytes

/-- What key holders do, and what an adversary does who can write to the backend. -/
inductive StoreEvent (Id Data : Type) where
  | save (record : Record Id Data)
  | delete (id : Id)
  | deleteExpired (now : ℤ)
  | rewrite (key : String) (row : Option Row)

def StoreState.empty {Id Data : Type} : StoreState Id Data where
  rows := fun _ => none
  saved := []
  seen := []

variable {Id Data : Type}

def StoreState.setRow (state : StoreState Id Data) (key : String) (row : Option Row) :
    String → Option Row :=
  fun other => if other = key then row else state.rows other

section Operations

variable (store : SessionStore Id Data) (state : StoreState Id Data)

def load (now : ℤ) (id : Id) : Except StoreError (Option (Record Id Data)) :=
  match (state.rows (store.backend.key id)).filter
      (fun row => store.backend.visible row.expiresAt now) with
  | none => .ok none
  | some row =>
      match openSealed store.hmac store.signingKey row.sealed with
      | none => .ok none
      | some data =>
          match store.codec.fromSlice data with
          | .error message => .error (.decode message)
          | .ok record => .ok (some record)

def save (record : Record Id Data) : Except StoreError (StoreState Id Data) :=
  match store.codec.toVec record with
  | .error message => .error (.encode message)
  | .ok data =>
      let sealed := sealData store.hmac store.signingKey data
      let row := { sealed, expiresAt := record.expiryDate }
      .ok
        { rows := state.setRow (store.backend.key record.id) (some row)
          saved := record :: state.saved
          seen := sealed :: state.seen }

def delete (id : Id) : StoreState Id Data :=
  { state with rows := state.setRow (store.backend.key id) none }

def deleteExpired (now : ℤ) : StoreState Id Data :=
  { state with
    rows := fun key => (state.rows key).filter fun row =>
      !store.backend.swept row.expiresAt now }

/-- The adversary has only the bytes it has seen and such that do not verify. -/
def canWrite (sealed : Bytes) : Bool :=
  state.seen.contains sealed || (openSealed store.hmac store.signingKey sealed).isNone

def rewrite (key : String) : Option Row → Option (StoreState Id Data)
  | none => some { state with rows := state.setRow key none }
  | some row =>
      if canWrite store state row.sealed then
        some { state with rows := state.setRow key (some row), seen := row.sealed :: state.seen }
      else none

end Operations

def storeRuns (store : SessionStore Id Data) : Machine (StoreState Id Data) (StoreEvent Id Data)
    where
  step state
    | .save record =>
        match save store state record with
        | .error _ => some state
        | .ok next => some next
    | .delete id => some (delete store state id)
    | .deleteExpired now => some (deleteExpired store state now)
    | .rewrite key row => rewrite store state key row

/-- Whatever is loaded for an id was saved under that id. -/
def LoadsOwn (store : SessionStore Id Data) (state : StoreState Id Data) : Prop :=
  ∀ id now record, load store state now id = .ok (some record) →
    record ∈ state.saved ∧ record.id = id

/-- Bytes that verify are put under the key of the id of the record in them. -/
def KeepsPlace (store : SessionStore Id Data) : StoreEvent Id Data → Prop
  | .rewrite key (some row) => ∀ id data record, store.backend.key id = key →
      openSealed store.hmac store.signingKey row.sealed = some data →
      store.codec.fromSlice data = .ok record → record.id = id
  | _ => True

/-- All bytes that verify are seals of saved records. -/
def SealsSaved (store : SessionStore Id Data) (state : StoreState Id Data) : Prop :=
  ∀ sealed ∈ state.seen, ∀ data,
    openSealed store.hmac store.signingKey sealed = some data →
    ∃ record ∈ state.saved, store.codec.toVec record = .ok data

section Runs

variable {store : SessionStore Id Data} {state next : StoreState Id Data}

theorem load_ok_some {now : ℤ} {id : Id} {record : Record Id Data} :
    load store state now id = .ok (some record) ↔
      ∃ row data, state.rows (store.backend.key id) = some row ∧
        store.backend.visible row.expiresAt now = true ∧
        openSealed store.hmac store.signingKey row.sealed = some data ∧
        store.codec.fromSlice data = .ok record := by
  unfold load
  cases found : state.rows (store.backend.key id) with
  | none => simp
  | some row =>
      cases visible : store.backend.visible row.expiresAt now with
      | false => simp [Option.filter, visible]
      | true =>
          simp only [Option.filter, visible, if_true]
          cases opened : openSealed store.hmac store.signingKey row.sealed with
          | none => simp [opened]
          | some data =>
              cases decoded : store.codec.fromSlice data with
              | error message => simp [opened, decoded]
              | ok loaded => simp [opened, decoded, visible]

theorem setRow_some {key other : String} {row found : Row} :
    state.setRow key (some row) other = some found ↔
      (other = key ∧ row = found) ∨ (other ≠ key ∧ state.rows other = some found) := by
  by_cases same : other = key <;> simp [StoreState.setRow, same]

theorem setRow_none {key other : String} {found : Row}
    (isFound : state.setRow key none other = some found) : state.rows other = some found := by
  by_cases same : other = key
  · simp [StoreState.setRow, same] at isFound
  · simpa [StoreState.setRow, same] using isFound

/-- A record that cannot be serialized leaves the store as it is. -/
theorem save_step {record : Record Id Data}
    (stepped : (storeRuns store).step state (.save record) = some next) :
    next = state ∨ save store state record = .ok next := by
  simp only [storeRuns] at stepped
  cases saved : save store state record with
  | error problem =>
      simp only [saved, Option.some.injEq] at stepped
      exact .inl stepped.symm
  | ok after =>
      simp only [saved, Option.some.injEq] at stepped
      exact .inr (congrArg Except.ok stepped)

/-- What a save writes: the sealed record under its id. -/
theorem save_ok {record : Record Id Data} (saved : save store state record = .ok next) :
    ∃ data, store.codec.toVec record = .ok data ∧ next.saved = record :: state.saved ∧
      next.seen = sealData store.hmac store.signingKey data :: state.seen ∧
      next.rows = state.setRow (store.backend.key record.id) (some
        { sealed := sealData store.hmac store.signingKey data
          expiresAt := record.expiryDate }) := by
  unfold save at saved
  cases encoded : store.codec.toVec record with
  | error message => simp [encoded] at saved
  | ok data =>
      simp only [encoded, Except.ok.injEq] at saved
      subst saved
      exact ⟨data, rfl, rfl, rfl, rfl⟩

theorem rewrite_some {key : String} {row : Row}
    (rewritten : rewrite store state key (some row) = some next) :
    canWrite store state row.sealed = true ∧ next.saved = state.saved ∧
      next.seen = row.sealed :: state.seen ∧ next.rows = state.setRow key (some row) := by
  unfold rewrite at rewritten
  cases possible : canWrite store state row.sealed with
  | false => simp [possible] at rewritten
  | true =>
      simp only [possible, if_true, Option.some.injEq] at rewritten
      subst rewritten
      exact ⟨rfl, rfl, rfl, rfl⟩

/-- Bytes that verify and that the adversary can write are the seal of a saved record. -/
theorem saved_of_canWrite {sealed data : Bytes} (seals : SealsSaved store state)
    (possible : canWrite store state sealed = true)
    (opened : openSealed store.hmac store.signingKey sealed = some data) :
    ∃ record ∈ state.saved, store.codec.toVec record = .ok data := by
  simp only [canWrite, opened, Option.isNone_some, Bool.or_false, List.contains_iff_mem] at possible
  exact seals sealed possible data opened

theorem sealsSaved_step {event : StoreEvent Id Data} (seals : SealsSaved store state)
    (stepped : (storeRuns store).step state event = some next) : SealsSaved store next := by
  cases event with
  | save record =>
      rcases save_step stepped with rfl | saved
      · exact seals
      · rcases save_ok saved with ⟨written, encoded, isSaved, isSeen, -⟩
        rw [SealsSaved, isSaved, isSeen]
        intro sealed member data opened
        rcases List.mem_cons.mp member with rfl | earlier
        · rw [openSealed_sealData, Option.some.injEq] at opened
          exact ⟨record, by simp, by rw [← opened]; exact encoded⟩
        · rcases seals sealed earlier data opened with ⟨other, isOther, same⟩
          exact ⟨other, List.mem_cons_of_mem _ isOther, same⟩
  | delete id =>
      cases stepped
      exact seals
  | deleteExpired now =>
      cases stepped
      exact seals
  | rewrite key row =>
      cases row with
      | none =>
          cases stepped
          exact seals
      | some row =>
          rcases rewrite_some stepped with ⟨possible, isSaved, isSeen, -⟩
          rw [SealsSaved, isSaved, isSeen]
          intro sealed member data opened
          rcases List.mem_cons.mp member with rfl | earlier
          · exact saved_of_canWrite seals possible opened
          · exact seals sealed earlier data opened

/-- Where rows only go away, nothing new is loaded. -/
theorem LoadsOwn.of_rows (own : LoadsOwn store state)
    (fewer : ∀ key row, next.rows key = some row → state.rows key = some row)
    (sameSaved : next.saved = state.saved) : LoadsOwn store next := by
  intro id now record loaded
  rcases load_ok_some.mp loaded with ⟨row, data, found, rest⟩
  rw [sameSaved]
  exact own id now record (load_ok_some.mpr ⟨row, data, fewer _ row found, rest⟩)

theorem loadsOwn_save {record : Record Id Data} (own : LoadsOwn store state)
    (saved : save store state record = .ok next) : LoadsOwn store next := by
  rcases save_ok saved with ⟨written, encoded, isSaved, -, rows⟩
  intro id now other loaded
  rcases load_ok_some.mp loaded with ⟨row, data, found, visible, opened, decoded⟩
  rw [rows, setRow_some] at found
  rw [isSaved]
  rcases found with ⟨sameKey, rfl⟩ | ⟨-, found⟩
  · rw [openSealed_sealData, Option.some.injEq] at opened
    rw [← opened, store.codec.fromSlice_toVec record written encoded, Except.ok.injEq] at decoded
    rw [← decoded]
    exact ⟨by simp, (store.backend.key_injective sameKey).symm⟩
  · have earlier := own id now other
      (load_ok_some.mpr ⟨row, data, found, visible, opened, decoded⟩)
    exact ⟨List.mem_cons_of_mem _ earlier.1, earlier.2⟩

/-- A rewrite keeps what is loaded in its place exactly when it keeps its bytes in theirs. -/
theorem loadsOwn_rewrite_iff {key : String} {row : Row} (seals : SealsSaved store state)
    (own : LoadsOwn store state)
    (rewritten : rewrite store state key (some row) = some next) :
    LoadsOwn store next ↔ KeepsPlace store (.rewrite key (some row)) := by
  rcases rewrite_some rewritten with ⟨possible, isSaved, -, rows⟩
  constructor
  · intro ownNext id data record isKey opened decoded
    rcases store.backend.exists_visible row.expiresAt with ⟨now, visible⟩
    refine (ownNext id now record (load_ok_some.mpr ⟨row, data, ?_, visible, opened, decoded⟩)).2
    rw [rows, isKey, setRow_some]
    exact .inl ⟨rfl, rfl⟩
  · intro keeps id now record loaded
    rcases load_ok_some.mp loaded with ⟨found, data, isFound, visible, opened, decoded⟩
    rw [rows, setRow_some] at isFound
    rw [isSaved]
    rcases isFound with ⟨isKey, rfl⟩ | ⟨-, earlier⟩
    · rcases saved_of_canWrite seals possible opened with ⟨other, isOther, encoded⟩
      have same := store.codec.fromSlice_toVec other data encoded
      rw [decoded, Except.ok.injEq] at same
      subst same
      exact ⟨isOther, keeps id data record isKey opened decoded⟩
    · exact own id now record (load_ok_some.mpr ⟨found, data, earlier, visible, opened, decoded⟩)

/-- A step keeps what is loaded in its place exactly when it keeps its bytes in theirs. -/
theorem loadsOwn_step_iff (event : StoreEvent Id Data) (seals : SealsSaved store state)
    (own : LoadsOwn store state) :
    (∀ next, (storeRuns store).step state event = some next → LoadsOwn store next) ↔
      (((storeRuns store).step state event).isSome = true → KeepsPlace store event) := by
  cases event with
  | save record =>
      refine iff_of_true ?_ (fun _ => trivial)
      intro next stepped
      rcases save_step stepped with rfl | saved
      · exact own
      · exact loadsOwn_save own saved
  | delete id =>
      refine iff_of_true ?_ (fun _ => trivial)
      rintro next ⟨⟩
      exact own.of_rows (fun _ _ found => setRow_none found) rfl
  | deleteExpired now =>
      refine iff_of_true ?_ (fun _ => trivial)
      rintro next ⟨⟩
      exact own.of_rows (fun _ _ found => (Option.filter_eq_some_iff.mp found).1) rfl
  | rewrite key row =>
      cases row with
      | none =>
          refine iff_of_true ?_ (fun _ => trivial)
          rintro next ⟨⟩
          exact own.of_rows (fun _ _ found => setRow_none found) rfl
      | some row =>
          constructor
          · intro ownNext possible
            rcases Option.isSome_iff_exists.mp possible with ⟨next, rewritten⟩
            exact (loadsOwn_rewrite_iff seals own rewritten).mp (ownNext next rewritten)
          · intro keeps next rewritten
            exact (loadsOwn_rewrite_iff seals own rewritten).mpr
              (keeps (by rw [rewritten]; rfl))

theorem sealsSaved_empty : SealsSaved store .empty := by
  intro sealed member
  cases member

theorem loadsOwn_empty : LoadsOwn store .empty := by
  intro id now record loaded
  rcases load_ok_some.mp loaded with ⟨row, data, found, -⟩
  cases found

end Runs

/-- In a run, whatever is loaded for an id after any step was saved under that id, exactly as long
as no rewrite puts bytes that verify under the key of another id than that of the record in them. -/
theorem loadsOwn_along_iff (store : SessionStore Id Data) (events : List (StoreEvent Id Data)) :
    (storeRuns store).Along
        (fun state event => ∀ next, (storeRuns store).step state event = some next →
          LoadsOwn store next)
        .empty events ↔
      (storeRuns store).Along
        (fun state event => ((storeRuns store).step state event).isSome = true →
          KeepsPlace store event)
        .empty events := by
  apply Machine.along_invariant_iff_of_background (SealsSaved store) (LoadsOwn store)
  · intro state event next seals stepped
    exact sealsSaved_step seals stepped
  · intro state event seals own
    exact loadsOwn_step_iff event seals own
  · exact sealsSaved_empty
  · exact loadsOwn_empty

def adminRecord : Record String String where
  id := "admin-session"
  data := "roles: admin"
  expiryDate := 2000000000000000000

def guestRecord : Record String String where
  id := "guest-session"
  data := "roles: none"
  expiryDate := 2000000000000000000

/-- Serializes two records to one byte each. -/
def twoRecords : Codec String String where
  toVec record :=
    if record = adminRecord then .ok [1]
    else if record = guestRecord then .ok [2]
    else .error "unknown record"
  fromSlice data :=
    if data = [1] then .ok adminRecord
    else if data = [2] then .ok guestRecord
    else .error "unknown data"
  fromSlice_toVec := by
    intro record data encoded
    split at encoded
    · rename_i isAdmin
      cases encoded
      simp [isAdmin]
    · split at encoded
      · rename_i isGuest
        cases encoded
        simp [isGuest]
      · cases encoded

def paddedTag : Hmac where
  tag key data := (data ++ key ++ List.replicate tagLen 0).take tagLen
  tag_length key data := by
    simp only [List.length_take, List.length_append, List.length_replicate]
    omega

def guestStore : SessionStore String String where
  backend := postgres id Function.injective_id (fun time => time / 1000 * 1000) fun _ => rfl
  codec := twoRecords
  hmac := paddedTag
  signingKey := [7]

/-- The guest's row is overwritten with the bytes of the administrator's. -/
def swappedRows : List (StoreEvent String String) :=
  [.save adminRecord, .save guestRecord,
    .rewrite "guest-session" (some
      { sealed := sealData paddedTag [7] [1]
        expiresAt := 2000000000000000000 })]

/-- The guest's session is then the administrator's. -/
theorem guest_loads_adminRecord :
    ∃ finish, (storeRuns guestStore).run .empty swappedRows = some finish ∧
      load guestStore finish 1750000000000000000 "guest-session" = .ok (some adminRecord) ∧
      ¬LoadsOwn guestStore finish := by
  refine ⟨_, rfl, rfl, ?_⟩
  intro own
  have saved := own "guest-session" 1750000000000000000 adminRecord rfl
  exact absurd saved.2 (by decide)

end AxumConf.Fluent
