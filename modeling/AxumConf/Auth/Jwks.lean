import AxumConf.Auth.Bearer
import AxumConf.Lib.Machine
import Mathlib.Logic.Function.Basic

/-!
# The cache of signing keys

The keys that `JwksProvider` builds from a fetched set, and the checks of tokens against them.  A
check looks its key up, refreshes the cache once when the key is missing, and looks it up again; the
other checks and the background task may take their steps in between.  A refresh has two steps: its
fetch brings a set, and behind the wait for the lock the keys are exchanged for those of that set.
Refreshes that overlap may exchange the keys in another order than their sets were brought.
-/

namespace AxumConf.Auth

inductive Algorithm where
  | hs256
  | hs384
  | hs512
  | es256
  | es384
  | rs256
  | rs384
  | rs512
  | ps256
  | ps384
  | ps512
  | edDSA
  deriving DecidableEq, Repr

def Algorithm.name : Algorithm → String
  | hs256 => "HS256"
  | hs384 => "HS384"
  | hs512 => "HS512"
  | es256 => "ES256"
  | es384 => "ES384"
  | rs256 => "RS256"
  | rs384 => "RS384"
  | rs512 => "RS512"
  | ps256 => "PS256"
  | ps384 => "PS384"
  | ps512 => "PS512"
  | edDSA => "EdDSA"

/-- The algorithm that a key declares, which need not be one for signatures. -/
inductive KeyAlgorithm where
  | signing (algorithm : Algorithm)
  | encryption (name : String)
  deriving DecidableEq, Repr

structure Jwk where
  keyId : Option String
  keyAlgorithm : Option KeyAlgorithm
  material : String
  deriving DecidableEq, Repr

abbrev JwkSet := List Jwk

/-- The validation parameters of a provider, fixed for its lifetime. -/
structure JwksSettings where
  issuer : String
  audiences : List String
  isProduction : Bool
  deriving DecidableEq, Repr

def jwkSigningAlgorithm (jwk : Jwk) : Option Algorithm :=
  match jwk.keyAlgorithm with
  | some (.signing algorithm) => some algorithm
  | _ => none

section Keys

variable (fromJwk : Jwk → Option String) (settings : JwksSettings)

def cachedKey (jwk : Jwk) (decodingKey : String) : CachedKey where
  decodingKey
  validation :=
    { algorithm := ((jwkSigningAlgorithm jwk).getD .rs256).name
      issuer := settings.issuer
      audience := settings.audiences
      validateExp := true
      validateAud := !settings.audiences.isEmpty }

/-- Keys without an id, and those that `DecodingKey::from_jwk` does not read, are skipped. -/
def insertKey (keys : String → Option CachedKey) (jwk : Jwk) : String → Option CachedKey :=
  match jwk.keyId, fromJwk jwk with
  | some kid, some decodingKey =>
      Function.update keys kid (some (cachedKey settings jwk decodingKey))
  | _, _ => keys

/-- The keys by id; the last usable one of an id counts, and without audiences there are none in
production. -/
def buildKeys (jwks : JwkSet) : String → Option CachedKey :=
  if settings.audiences.isEmpty && settings.isProduction then fun _ => none
  else jwks.foldl (insertKey fromJwk settings) fun _ => none

end Keys

/-- `validate_token` or `verify_signature` -/
inductive Check where
  | token
  | signature
  deriving DecidableEq, Repr

inductive Verdict where
  | accepted (claims : Json)
  | rejected (error : TokenError)
  | checked (outcome : SignatureCheck)

namespace Check

def malformed : Check → Verdict
  | token => .rejected .invalid
  | signature => .checked .invalid

def unrefreshed : Check → Verdict
  | token => .rejected .invalid
  | signature => .checked .unverifiable

def unlocated : Check → Verdict
  | token => .rejected .keyNotFound
  | signature => .checked .unverifiable

/-- The verdict with a located key; of a signature neither the expiry nor the audience counts. -/
def located (external : External) (text : String) (cached : CachedKey) : Check → Verdict
  | token =>
      match external.decode text cached.decodingKey cached.validation with
      | some claims => .accepted claims
      | none => .rejected .invalid
  | signature =>
      let relaxed := { cached.validation with validateExp := false, validateAud := false }
      match external.decode text cached.decodingKey relaxed with
      | some _ => .checked .valid
      | none => .checked .invalid

end Check

inductive Progress where
  | idle
  | refreshing (check : Check) (text kid : String)
  | storing (check : Check) (text kid : String) (jwks : JwkSet)
  | refreshed (check : Check) (text kid : String)
  | finished (verdict : Verdict)
  | dropped

/-- The set that was brought and is not stored yet. -/
def Progress.held : Progress → Option JwkSet
  | storing _ _ _ jwks => some jwks
  | _ => none

def Progress.underWay : Progress → Bool
  | refreshing _ _ _ | storing _ _ _ _ | refreshed _ _ _ => true
  | idle | finished _ | dropped => false

/-- The keys, the checks, and the set that the background task has yet to store. -/
structure JwksState (Task : Type) where
  keys : String → Option CachedKey
  tasks : Task → Progress
  background : Option JwkSet

/-- The steps of the background task and of the checks; a fetch names what it brought, and a store
the set whose keys it puts into the cache.  A check that waits may be dropped with its request. -/
inductive JwksEvent (Task : Type) where
  | backgroundFetch (fetched : Option JwkSet)
  | backgroundStore (jwks : JwkSet)
  | start (task : Task) (external : External) (check : Check) (text : String)
  | fetch (task : Task) (fetched : Option JwkSet)
  | store (task : Task) (jwks : JwkSet)
  | retry (task : Task) (external : External)
  | drop (task : Task)

section Machine

variable {Task : Type} [DecidableEq Task] (fromJwk : Jwk → Option String)
  (settings : JwksSettings)

def firstLookup (keys : String → Option CachedKey) (external : External) (check : Check)
    (text : String) : Progress :=
  match external.decodeHeader text with
  | some (some kid) =>
      match keys kid with
      | some cached => .finished (check.located external text cached)
      | none => .refreshing check text kid
  | _ => .finished check.malformed

def secondLookup (keys : String → Option CachedKey) (external : External) (check : Check)
    (text kid : String) : Progress :=
  match keys kid with
  | some cached => .finished (check.located external text cached)
  | none => .finished check.unlocated

def afterFetch (check : Check) (text kid : String) : Option JwkSet → Progress
  | some jwks => .storing check text kid jwks
  | none => .finished check.unrefreshed

def JwksState.moves (state : JwksState Task) (task : Task) (progress : Progress) :
    JwksState Task :=
  { state with tasks := Function.update state.tasks task progress }

@[simp]
theorem JwksState.moves_self (state : JwksState Task) (task : Task) (progress : Progress) :
    (state.moves task progress).tasks task = progress :=
  Function.update_self ..

theorem JwksState.moves_of_ne (state : JwksState Task) {task other : Task} (progress : Progress)
    (foreign : other ≠ task) : (state.moves task progress).tasks other = state.tasks other :=
  Function.update_of_ne foreign ..

def JwksState.stores (state : JwksState Task) (jwks : JwkSet) : JwksState Task :=
  { state with keys := buildKeys fromJwk settings jwks }

def jwksRuns : Machine (JwksState Task) (JwksEvent Task) where
  step state
    | .backgroundFetch fetched =>
        match state.background with
        | none => some { state with background := fetched }
        | some _ => none
    | .backgroundStore jwks =>
        if state.background = some jwks then
          some { state.stores fromJwk settings jwks with background := none }
        else none
    | .start task external check text =>
        match state.tasks task with
        | .idle => some (state.moves task (firstLookup state.keys external check text))
        | _ => none
    | .fetch task fetched =>
        match state.tasks task with
        | .refreshing check text kid => some (state.moves task (afterFetch check text kid fetched))
        | _ => none
    | .store task jwks =>
        match state.tasks task with
        | .storing check text kid held =>
            if held = jwks then
              some ((state.stores fromJwk settings jwks).moves task (.refreshed check text kid))
            else none
        | _ => none
    | .retry task external =>
        match state.tasks task with
        | .refreshed check text kid =>
            some (state.moves task (secondLookup state.keys external check text kid))
        | _ => none
    | .drop task =>
        if (state.tasks task).underWay then some (state.moves task .dropped) else none

/-- A new provider has the keys of its first fetch. -/
def JwksState.new (first : JwkSet) : JwksState Task where
  keys := buildKeys fromJwk settings first
  tasks := fun _ => .idle
  background := none

end Machine

/-- The key set that a fetch brought. -/
def fetchedSet {Task : Type} : JwksEvent Task → Option JwkSet
  | .backgroundFetch fetched => fetched
  | .fetch _ fetched => fetched
  | _ => none

def storedSet {Task : Type} : JwksEvent Task → Option JwkSet
  | .backgroundStore jwks => some jwks
  | .store _ jwks => some jwks
  | _ => none

/-- The last set that the events name, after those before them. -/
def lastNamed {Task : Type} (named : JwksEvent Task → Option JwkSet) (first : JwkSet) :
    List (JwksEvent Task) → JwkSet
  | [] => first
  | event :: later => lastNamed named ((named event).getD first) later

/-- The key set that the most recent successful fetch brought. -/
def lastFetched {Task : Type} (first : JwkSet) (events : List (JwksEvent Task)) : JwkSet :=
  lastNamed fetchedSet first events

/-- The key set of the refresh that was the last to exchange the keys. -/
def lastStored {Task : Type} (first : JwkSet) (events : List (JwksEvent Task)) : JwkSet :=
  lastNamed storedSet first events

def isRefreshOf {Task : Type} [DecidableEq Task] (task : Task) : JwksEvent Task → Bool
  | .fetch other _ => other == task
  | _ => false

/-- A refresh has brought the set and not yet stored it. -/
def JwksState.Holds {Task : Type} (state : JwksState Task) (jwks : JwkSet) : Prop :=
  state.background = some jwks ∨ ∃ task, (state.tasks task).held = some jwks

/-- No refresh is between its two steps. -/
def JwksState.Settled {Task : Type} (state : JwksState Task) : Prop :=
  ∀ jwks, ¬state.Holds jwks

/-- No fetch brings a set while another set is yet to be stored, and who holds one is not
dropped. -/
structure InTurn {Task : Type} (state : JwksState Task) (event : JwksEvent Task) : Prop where
  fetches : (fetchedSet event).isSome = true → state.Settled
  keeps : ∀ task, event = .drop task → (state.tasks task).held = none

section Keys

variable {fromJwk : Jwk → Option String} {settings : JwksSettings}

/-- What a key of the set does to the cache. -/
theorem insertKey_cases (keys : String → Option CachedKey) (jwk : Jwk) :
    insertKey fromJwk settings keys jwk = keys ∨
      ∃ kid decodingKey, jwk.keyId = some kid ∧ fromJwk jwk = some decodingKey ∧
        insertKey fromJwk settings keys jwk =
          Function.update keys kid (some (cachedKey settings jwk decodingKey)) := by
  unfold insertKey
  cases isKid : jwk.keyId with
  | none => exact .inl rfl
  | some kid =>
      cases readable : fromJwk jwk with
      | none => exact .inl rfl
      | some decodingKey => exact .inr ⟨kid, decodingKey, rfl, rfl, rfl⟩

/-- A cached key was built from a key of the set with that id. -/
theorem foldl_insertKey_some {jwks : JwkSet} {keys : String → Option CachedKey} {kid : String}
    {cached : CachedKey}
    (found : jwks.foldl (insertKey fromJwk settings) keys kid = some cached) :
    keys kid = some cached ∨ ∃ jwk ∈ jwks, jwk.keyId = some kid ∧
      ∃ decodingKey, fromJwk jwk = some decodingKey ∧
        cached = cachedKey settings jwk decodingKey := by
  induction jwks generalizing keys with
  | nil => exact .inl found
  | cons jwk rest ih =>
      rcases ih found with inserted | ⟨later, member, isKey⟩
      · rcases insertKey_cases keys jwk with same | ⟨id, decodingKey, isKid, readable, updated⟩
        · rw [same] at inserted
          exact .inl inserted
        · rw [updated] at inserted
          by_cases same : kid = id
          · subst same
            rw [Function.update_self, Option.some.injEq] at inserted
            exact .inr ⟨jwk, List.mem_cons_self, isKid, decodingKey, readable, inserted.symm⟩
          · rw [Function.update_of_ne same] at inserted
            exact .inl inserted
      · exact .inr ⟨later, List.mem_cons_of_mem _ member, isKey⟩

theorem buildKeys_some {jwks : JwkSet} {kid : String} {cached : CachedKey}
    (found : buildKeys fromJwk settings jwks kid = some cached) :
    ∃ jwk ∈ jwks, jwk.keyId = some kid ∧ ∃ decodingKey, fromJwk jwk = some decodingKey ∧
      cached = cachedKey settings jwk decodingKey := by
  unfold buildKeys at found
  split at found
  · cases found
  · rcases foldl_insertKey_some found with absent | isKey
    · cases absent
    · exact isKey

/-- A key id that the set does not have is not cached. -/
theorem buildKeys_of_absent {jwks : JwkSet} {kid : String}
    (absent : ∀ jwk ∈ jwks, jwk.keyId ≠ some kid) :
    buildKeys fromJwk settings jwks kid = none := by
  apply Option.eq_none_iff_forall_ne_some.mpr
  intro cached found
  rcases buildKeys_some found with ⟨jwk, member, isKid, -⟩
  exact absent jwk member isKid

theorem buildKeys_closed (production : settings.isProduction = true)
    (noAudience : settings.audiences = []) (jwks : JwkSet) :
    buildKeys fromJwk settings jwks = fun _ => none := by
  simp [buildKeys, production, noAudience]

end Keys

section Runs

variable {Task : Type} [DecidableEq Task] {fromJwk : Jwk → Option String}
  {settings : JwksSettings} {state next : JwksState Task} {event : JwksEvent Task}

/-- What a step does, with what it needs of the party that takes it. -/
inductive JwksStepped (fromJwk : Jwk → Option String) (settings : JwksSettings)
    (state : JwksState Task) : JwksEvent Task → JwksState Task → Prop where
  | backgroundFetch (fetched : Option JwkSet) (isFree : state.background = none) :
      JwksStepped fromJwk settings state (.backgroundFetch fetched)
        { state with background := fetched }
  | backgroundStore (jwks : JwkSet) (isHeld : state.background = some jwks) :
      JwksStepped fromJwk settings state (.backgroundStore jwks)
        { state.stores fromJwk settings jwks with background := none }
  | start (task : Task) (external : External) (check : Check) (text : String)
      (isIdle : state.tasks task = .idle) :
      JwksStepped fromJwk settings state (.start task external check text)
        (state.moves task (firstLookup state.keys external check text))
  | fetch (task : Task) (fetched : Option JwkSet) {check : Check} {text kid : String}
      (isRefreshing : state.tasks task = .refreshing check text kid) :
      JwksStepped fromJwk settings state (.fetch task fetched)
        (state.moves task (afterFetch check text kid fetched))
  | store (task : Task) (jwks : JwkSet) {check : Check} {text kid : String}
      (isStoring : state.tasks task = .storing check text kid jwks) :
      JwksStepped fromJwk settings state (.store task jwks)
        ((state.stores fromJwk settings jwks).moves task (.refreshed check text kid))
  | retry (task : Task) (external : External) {check : Check} {text kid : String}
      (isRefreshed : state.tasks task = .refreshed check text kid) :
      JwksStepped fromJwk settings state (.retry task external)
        (state.moves task (secondLookup state.keys external check text kid))
  | drop (task : Task) (waits : (state.tasks task).underWay = true) :
      JwksStepped fromJwk settings state (.drop task) (state.moves task .dropped)

theorem jwksStepped_of_step (stepped : (jwksRuns fromJwk settings).step state event = some next) :
    JwksStepped fromJwk settings state event next := by
  cases event with
  | backgroundFetch fetched =>
      simp only [jwksRuns] at stepped
      split at stepped <;> cases stepped
      rename_i isFree
      exact .backgroundFetch fetched isFree
  | backgroundStore jwks =>
      simp only [jwksRuns] at stepped
      split at stepped <;> cases stepped
      rename_i isHeld
      exact .backgroundStore jwks isHeld
  | start task external check text =>
      simp only [jwksRuns] at stepped
      split at stepped <;> cases stepped
      rename_i isIdle
      exact .start task external check text isIdle
  | fetch task fetched =>
      simp only [jwksRuns] at stepped
      split at stepped <;> cases stepped
      rename_i isRefreshing
      exact .fetch task fetched isRefreshing
  | store task jwks =>
      simp only [jwksRuns] at stepped
      split at stepped
      · rename_i isStoring
        split at stepped <;> cases stepped
        rename_i same
        subst same
        exact .store task _ isStoring
      · cases stepped
  | retry task external =>
      simp only [jwksRuns] at stepped
      split at stepped <;> cases stepped
      rename_i isRefreshed
      exact .retry task external isRefreshed
  | drop task =>
      simp only [jwksRuns] at stepped
      split at stepped <;> cases stepped
      rename_i waits
      exact .drop task waits

/-- What a step does to the keys: they become those of the set that it stores, if any. -/
theorem keys_step (stepped : (jwksRuns fromJwk settings).step state event = some next) :
    next.keys = ((storedSet event).map (buildKeys fromJwk settings)).getD state.keys := by
  cases jwksStepped_of_step stepped with
  | backgroundFetch => rfl
  | backgroundStore => rfl
  | start => rfl
  | fetch => rfl
  | store => rfl
  | retry => rfl
  | drop => rfl

/-- A step keeps the cache that of the last stored set. -/
theorem keys_step_of_built {last : JwkSet} (built : state.keys = buildKeys fromJwk settings last)
    (stepped : (jwksRuns fromJwk settings).step state event = some next) :
    next.keys = buildKeys fromJwk settings ((storedSet event).getD last) := by
  rw [keys_step stepped, built]
  cases storedSet event <;> rfl

theorem keys_run {start finish : JwksState Task} {events : List (JwksEvent Task)} {first : JwkSet}
    (built : start.keys = buildKeys fromJwk settings first)
    (ran : (jwksRuns fromJwk settings).run start events = some finish) :
    finish.keys = buildKeys fromJwk settings (lastStored first events) := by
  induction events generalizing start first with
  | nil =>
      cases ran
      exact built
  | cons event later ih =>
      rcases Option.bind_eq_some_iff.mp ran with ⟨next, stepped, ranLater⟩
      exact ih (keys_step_of_built built stepped) ranLater

/-- Every set that is yet to be stored is the last one, whose keys the cache has otherwise. -/
structure Follows (fromJwk : Jwk → Option String) (settings : JwksSettings)
    (state : JwksState Task) (last : JwkSet) : Prop where
  held : ∀ jwks, state.Holds jwks → jwks = last
  built : state.Settled → state.keys = buildKeys fromJwk settings last

/-- What is held after a task got on was held before, or the task holds it now. -/
theorem JwksState.Holds.of_moves {task : Task} {progress : Progress} {jwks : JwkSet}
    (holds : (state.moves task progress).Holds jwks) :
    state.Holds jwks ∨ progress.held = some jwks := by
  rcases holds with background | ⟨other, held⟩
  · exact .inl (.inl background)
  · by_cases same : other = task
    · subst same
      rw [JwksState.moves_self] at held
      exact .inr held
    · rw [JwksState.moves_of_ne _ _ same] at held
      exact .inl (.inr ⟨other, held⟩)

theorem JwksState.Holds.moves {task : Task} {progress : Progress} {jwks : JwkSet}
    (holds : state.Holds jwks) (empty : (state.tasks task).held = none) :
    (state.moves task progress).Holds jwks := by
  rcases holds with background | ⟨other, held⟩
  · exact .inl background
  · right
    refine ⟨other, ?_⟩
    by_cases same : other = task
    · subst same
      rw [empty] at held
      cases held
    · rwa [JwksState.moves_of_ne _ _ same]

/-- A task that held nothing and holds nothing leaves the last set what it is. -/
theorem Follows.moves {last : JwkSet} (follows : Follows fromJwk settings state last) {task : Task}
    {progress : Progress} (empty : (state.tasks task).held = none)
    (stillEmpty : progress.held = none) :
    Follows fromJwk settings (state.moves task progress) last where
  held := by
    intro jwks holds
    rcases holds.of_moves with before | now
    · exact follows.held jwks before
    · rw [stillEmpty] at now
      cases now
  built := by
    intro settled
    exact follows.built fun jwks holds => settled jwks (holds.moves empty)

theorem held_firstLookup (keys : String → Option CachedKey) (external : External)
    (check : Check) (text : String) : (firstLookup keys external check text).held = none := by
  unfold firstLookup
  repeat' split
  all_goals rfl

theorem held_secondLookup (keys : String → Option CachedKey) (external : External)
    (check : Check) (text kid : String) :
    (secondLookup keys external check text kid).held = none := by
  unfold secondLookup
  split <;> rfl

/-- A step in turn: the set that a fetch brings is the last one from then on, and a store puts the
last one into the cache. -/
theorem follows_step {last : JwkSet} (follows : Follows fromJwk settings state last)
    (inTurn : InTurn state event)
    (stepped : (jwksRuns fromJwk settings).step state event = some next) :
    Follows fromJwk settings next ((fetchedSet event).getD last) := by
  cases jwksStepped_of_step stepped with
  | backgroundFetch fetched isFree =>
      cases fetched with
      | none =>
          have unchanged : { state with background := none } = state := by rw [← isFree]
          rw [unchanged]
          exact follows
      | some jwks =>
          have settled := inTurn.fetches rfl
          refine ⟨?_, fun settledNow => absurd (.inl rfl) (settledNow jwks)⟩
          rintro other (background | ⟨task, held⟩)
          · exact (Option.some.inj background).symm
          · exact absurd (.inr ⟨task, held⟩) (settled other)
  | backgroundStore jwks isHeld =>
      have isLast : jwks = last := follows.held jwks (.inl isHeld)
      subst isLast
      refine ⟨?_, fun _ => rfl⟩
      rintro other (background | ⟨task, held⟩)
      · cases background
      · exact follows.held other (.inr ⟨task, held⟩)
  | start task external check text isIdle =>
      exact follows.moves (by rw [isIdle]; rfl) (held_firstLookup state.keys external check text)
  | @fetch task fetched check text kid isRefreshing =>
      have empty : (state.tasks task).held = none := by
        rw [isRefreshing]
        rfl
      cases fetched with
      | none => exact follows.moves empty rfl
      | some jwks =>
          have settled := inTurn.fetches rfl
          refine ⟨?_, fun settledNow => absurd (.inr ⟨task, ?_⟩) (settledNow jwks)⟩
          · intro other holds
            rcases holds.of_moves with before | now
            · exact absurd before (settled other)
            · exact (Option.some.inj now).symm
          · rw [JwksState.moves_self]
            rfl
  | @store task jwks check text kid isStoring =>
      have isLast : jwks = last := follows.held jwks (.inr ⟨task, by rw [isStoring]; rfl⟩)
      subst isLast
      refine ⟨?_, fun _ => rfl⟩
      intro other holds
      rcases holds.of_moves with before | now
      · exact follows.held other before
      · cases now
  | retry task external isRefreshed =>
      exact follows.moves (by rw [isRefreshed]; rfl) (held_secondLookup state.keys external _ _ _)
  | drop task waits => exact follows.moves (inTurn.keeps task rfl) rfl

theorem follows_run {start finish : JwksState Task} {events : List (JwksEvent Task)}
    {first : JwkSet} (follows : Follows fromJwk settings start first)
    (inTurn : (jwksRuns fromJwk settings).Along InTurn start events)
    (ran : (jwksRuns fromJwk settings).run start events = some finish) :
    Follows fromJwk settings finish (lastFetched first events) := by
  induction events generalizing start first with
  | nil =>
      cases ran
      exact follows
  | cons event later ih =>
      rcases Option.bind_eq_some_iff.mp ran with ⟨next, stepped, ranLater⟩
      exact ih (follows_step follows inTurn.1 stepped) (inTurn.2 next stepped) ranLater

omit [DecidableEq Task] in
theorem follows_new (first : JwkSet) :
    Follows fromJwk settings (JwksState.new fromJwk settings first : JwksState Task) first where
  held := by
    rintro jwks (background | ⟨task, held⟩)
    · cases background
    · cases held
  built := fun _ => rfl

/-- How many refreshes a check may still make. -/
def Progress.refreshesLeft : Progress → ℕ
  | .idle => 1
  | .refreshing _ _ _ => 1
  | _ => 0

theorem refreshesLeft_firstLookup (keys : String → Option CachedKey) (external : External)
    (check : Check) (text : String) :
    (firstLookup keys external check text).refreshesLeft ≤ 1 := by
  unfold firstLookup
  repeat' split
  all_goals simp [Progress.refreshesLeft]

theorem refreshesLeft_afterFetch (check : Check) (text kid : String)
    (fetched : Option JwkSet) : (afterFetch check text kid fetched).refreshesLeft = 0 := by
  cases fetched <;> rfl

theorem refreshesLeft_secondLookup (keys : String → Option CachedKey) (external : External)
    (check : Check) (text kid : String) :
    (secondLookup keys external check text kid).refreshesLeft = 0 := by
  unfold secondLookup
  split <;> rfl

/-- A task that gets on leaves the others the refreshes that they may make. -/
theorem refreshesLeft_moves {task other : Task} {progress : Progress}
    (fewer : progress.refreshesLeft ≤ (state.tasks other).refreshesLeft) :
    ((state.moves other progress).tasks task).refreshesLeft ≤
      (state.tasks task).refreshesLeft := by
  by_cases same : task = other
  · subst same
    rwa [JwksState.moves_self]
  · rw [JwksState.moves_of_ne _ _ same]

/-- A refresh of a check uses up the one that it may make. -/
theorem refreshesLeft_step (task : Task)
    (stepped : (jwksRuns fromJwk settings).step state event = some next) :
    (next.tasks task).refreshesLeft + [event].countP (isRefreshOf task) ≤
      (state.tasks task).refreshesLeft := by
  cases jwksStepped_of_step stepped with
  | backgroundFetch fetched => simp [isRefreshOf]
  | backgroundStore jwks => simp [isRefreshOf, JwksState.stores]
  | start other external check text isIdle =>
      have left := refreshesLeft_firstLookup state.keys external check text
      have fewer : (firstLookup state.keys external check text).refreshesLeft ≤
          (state.tasks other).refreshesLeft := by
        rwa [isIdle]
      simpa [isRefreshOf] using refreshesLeft_moves fewer
  | @fetch other fetched check text kid isRefreshing =>
      by_cases same : task = other
      · subst same
        have before : (state.tasks task).refreshesLeft = 1 := by
          rw [isRefreshing, Progress.refreshesLeft]
        simp [before, JwksState.moves, refreshesLeft_afterFetch, isRefreshOf]
      · have foreign : (other == task) = false := by
          simpa using fun equal => same equal.symm
        simp [JwksState.moves, Function.update_of_ne same, isRefreshOf, foreign]
  | @store other jwks check text kid isStoring =>
      have fewer := @refreshesLeft_moves _ _ (state.stores fromJwk settings jwks) task other
        (.refreshed check text kid) (Nat.zero_le _)
      simpa [isRefreshOf, JwksState.stores] using fewer
  | @retry other external check text kid isRefreshed =>
      have fewer : (secondLookup state.keys external check text kid).refreshesLeft ≤
          (state.tasks other).refreshesLeft := by
        rw [refreshesLeft_secondLookup]
        exact Nat.zero_le _
      simpa [isRefreshOf] using refreshesLeft_moves fewer
  | drop other =>
      have fewer := @refreshesLeft_moves _ _ state task other .dropped (Nat.zero_le _)
      simpa [isRefreshOf] using fewer

theorem refreshes_run {start finish : JwksState Task} {events : List (JwksEvent Task)}
    (task : Task) (ran : (jwksRuns fromJwk settings).run start events = some finish) :
    (finish.tasks task).refreshesLeft + events.countP (isRefreshOf task) ≤
      (start.tasks task).refreshesLeft := by
  induction events generalizing start with
  | nil =>
      cases ran
      simp
  | cons event later ih =>
      rcases Option.bind_eq_some_iff.mp ran with ⟨next, stepped, ranLater⟩
      have atStep := refreshesLeft_step task stepped
      have rest := ih ranLater
      rw [← List.singleton_append, List.countP_append]
      omega

/-- The verdict of the check when no other party takes a step in between. -/
def verdictOf (external : External) (jwks : JwksProvider) (text : String) : Check → Verdict
  | .token =>
      match validateToken external jwks text with
      | .ok claims => .accepted claims
      | .error problem => .rejected problem
  | .signature => .checked (verifySignature external jwks text)

theorem firstLookup_malformed {keys : String → Option CachedKey} {external : External}
    {text : String} (malformed : ∀ kid, external.decodeHeader text ≠ some (some kid))
    (check : Check) (fetched : Option (String → Option CachedKey)) :
    firstLookup keys external check text =
      .finished (verdictOf external { keys, fetched } text check) := by
  unfold firstLookup verdictOf validateToken verifySignature
  cases decoded : external.decodeHeader text with
  | none => cases check <;> rfl
  | some header =>
      cases header with
      | none => cases check <;> rfl
      | some kid => exact absurd decoded (malformed kid)

theorem located_eq_verdictOf {keys : String → Option CachedKey} {external : External}
    {text kid : String} {cached : CachedKey}
    (decoded : external.decodeHeader text = some (some kid)) (found : keys kid = some cached)
    (check : Check) (fetched : Option (String → Option CachedKey)) :
    check.located external text cached = verdictOf external { keys, fetched } text check := by
  cases check with
  | token =>
      simp only [Check.located, verdictOf, validateToken, decoded, tryDecode, found]
      cases external.decode text cached.decodingKey cached.validation <;> rfl
  | signature =>
      simp only [Check.located, verdictOf, verifySignature, decoded, locateKey, found]
      cases external.decode text cached.decodingKey
        { cached.validation with validateExp := false, validateAud := false } <;> rfl

theorem secondLookup_eq_verdictOf {keys fetched : String → Option CachedKey}
    {external : External} {text kid : String}
    (decoded : external.decodeHeader text = some (some kid)) (missing : keys kid = none)
    (check : Check) :
    secondLookup fetched external check text kid =
      .finished (verdictOf external { keys, fetched := some fetched } text check) := by
  cases check with
  | token =>
      simp only [secondLookup, verdictOf, validateToken, decoded, tryDecode, missing]
      cases fetched kid with
      | none => rfl
      | some cached =>
          simp only [Check.located]
          cases external.decode text cached.decodingKey cached.validation <;> rfl
  | signature =>
      simp only [secondLookup, verdictOf, verifySignature, decoded, locateKey, missing,
        Option.bind_some]
      cases fetched kid with
      | none => rfl
      | some cached =>
          simp only [Check.located]
          cases external.decode text cached.decodingKey
            { cached.validation with validateExp := false, validateAud := false } <;> rfl

theorem unrefreshed_eq_verdictOf {keys : String → Option CachedKey} {external : External}
    {text kid : String} (decoded : external.decodeHeader text = some (some kid))
    (missing : keys kid = none) (check : Check) :
    check.unrefreshed = verdictOf external { keys, fetched := none } text check := by
  cases check with
  | token => simp [Check.unrefreshed, verdictOf, validateToken, decoded, tryDecode, missing]
  | signature => simp [Check.unrefreshed, verdictOf, verifySignature, decoded, locateKey, missing]

/-- A check that no one disturbs comes to the verdict of `validate_token` or `verify_signature`. -/
theorem undisturbed_check {task : Task} (isIdle : state.tasks task = .idle) (external : External)
    (check : Check) (text : String) (fetched : Option JwkSet) :
    ∃ events finish, (jwksRuns fromJwk settings).run state
        (.start task external check text :: events) = some finish ∧
      finish.tasks task = .finished (verdictOf external
        { keys := state.keys, fetched := fetched.map (buildKeys fromJwk settings) }
        text check) := by
  by_cases malformed : ∀ kid, external.decodeHeader text ≠ some (some kid)
  · refine ⟨[], _, by simp only [Machine.run_cons, jwksRuns, isIdle]; rfl, ?_⟩
    simp only [JwksState.moves, Function.update_self]
    exact firstLookup_malformed malformed check _
  · simp only [not_forall, not_not] at malformed
    rcases malformed with ⟨kid, decoded⟩
    cases located : state.keys kid with
    | some cached =>
        refine ⟨[], _, by simp only [Machine.run_cons, jwksRuns, isIdle]; rfl, ?_⟩
        simp only [JwksState.moves, Function.update_self, firstLookup, decoded, located]
        rw [located_eq_verdictOf decoded located]
    | none =>
        have looked : firstLookup state.keys external check text = .refreshing check text kid := by
          simp [firstLookup, decoded, located]
        cases fetched with
        | none =>
            refine ⟨[.fetch task none], _, by
              simp only [Machine.run_cons, jwksRuns, isIdle, looked, JwksState.moves,
                Function.update_self, Option.bind_some]
              rfl, ?_⟩
            simp only [Function.update_self, afterFetch]
            rw [unrefreshed_eq_verdictOf decoded located, Option.map_none]
        | some jwks =>
            refine ⟨[.fetch task (some jwks), .store task jwks, .retry task external], _, by
              simp only [Machine.run_cons, jwksRuns, isIdle, looked, JwksState.moves,
                Function.update_self, Option.bind_some, afterFetch, if_true]
              rfl, ?_⟩
            simp only [Function.update_self, JwksState.stores, Option.map_some]
            exact secondLookup_eq_verdictOf decoded located check

/-- There are no keys, and no token was accepted. -/
structure Closed (state : JwksState Task) : Prop where
  noKeys : state.keys = fun _ => none
  noneAccepted : ∀ task claims, state.tasks task ≠ .finished (.accepted claims)

/-- A task that gets on without accepting a token leaves the others' verdicts as they are. -/
theorem Closed.moves (closed : Closed state) {task : Task} {progress : Progress}
    (unaccepted : ∀ claims, progress ≠ .finished (.accepted claims)) :
    Closed (state.moves task progress) where
  noKeys := closed.noKeys
  noneAccepted := by
    intro other claims
    by_cases same : other = task
    · subst same
      simpa [JwksState.moves] using unaccepted claims
    · simpa [JwksState.moves, Function.update_of_ne same] using closed.noneAccepted other claims

theorem Check.unaccepted (check : Check) (claims : Json) :
    check.malformed ≠ .accepted claims ∧ check.unrefreshed ≠ .accepted claims ∧
      check.unlocated ≠ .accepted claims := by
  cases check <;> simp [Check.malformed, Check.unrefreshed, Check.unlocated]

theorem firstLookup_unaccepted (external : External) (check : Check) (text : String)
    (claims : Json) :
    firstLookup (fun _ => none) external check text ≠ .finished (.accepted claims) := by
  unfold firstLookup
  split
  · simp
  · simpa using (check.unaccepted claims).1

theorem afterFetch_unaccepted (check : Check) (text kid : String) (fetched : Option JwkSet)
    (claims : Json) : afterFetch check text kid fetched ≠ .finished (.accepted claims) := by
  cases fetched with
  | none => simpa [afterFetch] using (check.unaccepted claims).2.1
  | some jwks => simp [afterFetch]

theorem secondLookup_unaccepted (external : External) (check : Check) (text kid : String)
    (claims : Json) :
    secondLookup (fun _ => none) external check text kid ≠ .finished (.accepted claims) := by
  simpa [secondLookup] using (check.unaccepted claims).2.2

omit [DecidableEq Task] in
/-- A refresh finds no key to put into the cache either. -/
theorem Closed.stores (production : settings.isProduction = true)
    (noAudience : settings.audiences = []) (closed : Closed state) (jwks : JwkSet) :
    Closed (state.stores fromJwk settings jwks) where
  noKeys := buildKeys_closed production noAudience jwks
  noneAccepted := closed.noneAccepted

theorem closed_step (production : settings.isProduction = true)
    (noAudience : settings.audiences = []) (closed : Closed state)
    (stepped : (jwksRuns fromJwk settings).step state event = some next) : Closed next := by
  have noKeys := closed.noKeys
  cases jwksStepped_of_step stepped with
  | backgroundFetch => exact ⟨noKeys, closed.noneAccepted⟩
  | backgroundStore jwks =>
      exact ⟨(closed.stores production noAudience jwks).noKeys, closed.noneAccepted⟩
  | start task external check text =>
      apply closed.moves
      rw [noKeys]
      exact firstLookup_unaccepted external check text
  | fetch task fetched => exact closed.moves (afterFetch_unaccepted _ _ _ fetched)
  | store task jwks =>
      apply (closed.stores production noAudience jwks).moves
      simp
  | retry task external =>
      apply closed.moves
      rw [noKeys]
      exact secondLookup_unaccepted external _ _ _
  | drop task =>
      apply closed.moves
      simp

/-- Over every run the cache holds the keys of the set that was stored last, which is the last one
fetched where refreshes take turns; a check refreshes at most once, and in production no token is
accepted without audiences. -/
theorem jwksCache_follows_lastStored {first : JwkSet} {events : List (JwksEvent Task)}
    {finish : JwksState Task}
    (ran : (jwksRuns fromJwk settings).run (.new fromJwk settings first) events = some finish) :
    finish.keys = buildKeys fromJwk settings (lastStored first events) ∧
      (∀ kid, (∀ jwk ∈ lastStored first events, jwk.keyId ≠ some kid) →
        finish.keys kid = none) ∧
      (∀ event next, (jwksRuns fromJwk settings).step finish event = some next →
        storedSet event = none → next.keys = finish.keys) ∧
      ((jwksRuns fromJwk settings).Along InTurn (.new fromJwk settings first) events →
        finish.Settled →
          finish.keys = buildKeys fromJwk settings (lastFetched first events)) ∧
      (∀ task, events.countP (isRefreshOf task) ≤ 1) ∧
      (settings.isProduction = true → settings.audiences = [] →
        ∀ task claims, finish.tasks task ≠ .finished (.accepted claims)) := by
  have stored : finish.keys = buildKeys fromJwk settings (lastStored first events) :=
    keys_run rfl ran
  refine ⟨stored, ?_, ?_, ?_, ?_, ?_⟩
  · intro kid absent
    rw [stored]
    exact buildKeys_of_absent absent
  · intro event next stepped unstored
    rw [keys_step stepped, unstored]
    rfl
  · intro inTurn settled
    exact (follows_run (follows_new first) inTurn ran).built settled
  · intro task
    have used := refreshes_run task ran
    simp only [JwksState.new, Progress.refreshesLeft] at used
    omega
  · intro production noAudience
    have initially : Closed (JwksState.new fromJwk settings first : JwksState Task) :=
      ⟨buildKeys_closed production noAudience first, by simp [JwksState.new]⟩
    have closed := Machine.invariant_run Closed
      (fun state event next closedNow stepped =>
        closed_step production noAudience closedNow stepped) initially ran
    exact closed.noneAccepted

end Runs

def retiredKey : Jwk where
  keyId := some "2025"
  keyAlgorithm := some (.signing .rs256)
  material := "n=5"

def currentKey : Jwk where
  keyId := some "2026"
  keyAlgorithm := none
  material := "n=7"

/-- All tokens are signed with the current key. -/
def currentExternal : External :=
  { External.visible with
    decodeHeader := fun _ => some (some "2026")
    decode := fun _ decodingKey _ =>
      if decodingKey = "n=7" then some (.object [("sub", .string "ann")]) else none }

def apiSettings : JwksSettings where
  issuer := "https://sso.example.com"
  audiences := ["api"]
  isProduction := true

/-- The background task fails to fetch, and the only request, with a key that is unknown, brings
the new set. -/
def rotation : List (JwksEvent Unit) :=
  [.backgroundFetch none, .start () currentExternal .token "token",
    .fetch () (some [currentKey]), .store () [currentKey], .retry () currentExternal]

theorem settled_of_only {state : JwksState Unit} (background : state.background = none)
    (empty : (state.tasks ()).held = none) : state.Settled := by
  rintro jwks (held | ⟨⟨⟩, held⟩)
  · rw [background] at held
    cases held
  · rw [empty] at held
    cases held

theorem rotation_inTurn :
    (jwksRuns (fun jwk => some jwk.material) apiSettings).Along InTurn
      (.new (fun jwk => some jwk.material) apiSettings [retiredKey]) rotation := by
  refine ⟨⟨nofun, nofun⟩, ?_⟩
  rintro _ ⟨rfl⟩
  refine ⟨⟨nofun, nofun⟩, ?_⟩
  rintro _ ⟨rfl⟩
  refine ⟨⟨fun _ => settled_of_only rfl rfl, nofun⟩, ?_⟩
  rintro _ ⟨rfl⟩
  refine ⟨⟨nofun, nofun⟩, ?_⟩
  rintro _ ⟨rfl⟩
  refine ⟨⟨nofun, nofun⟩, ?_⟩
  rintro _ ⟨rfl⟩
  trivial

theorem jwksCache_follows_rotation :
    ∃ finish, (jwksRuns (fun jwk => some jwk.material) apiSettings).run
        (.new (fun jwk => some jwk.material) apiSettings [retiredKey]) rotation = some finish ∧
      finish.keys = buildKeys (fun jwk => some jwk.material) apiSettings
        (lastFetched [retiredKey] rotation) ∧
      finish.keys "2025" = none := by
  refine ⟨_, rfl, ?_⟩
  have follows := @jwksCache_follows_lastStored _ _ (fun jwk => some jwk.material) apiSettings
    [retiredKey] rotation _ rfl
  have inTurn := follows.2.2.2.1 rotation_inTurn (settled_of_only rfl rfl)
  exact ⟨inTurn, follows.2.1 "2025" (by decide)⟩

/-- The background task fetches the old set, the keys rotate, a token with the new key refreshes
the cache and is accepted, and the background task stores what it had fetched. -/
def overtaken : List (JwksEvent Unit) :=
  [.backgroundFetch (some [retiredKey]), .start () currentExternal .token "token",
    .fetch () (some [currentKey]), .store () [currentKey], .retry () currentExternal,
    .backgroundStore [retiredKey]]

/-- No refresh is under way any more, and the cache has the keys of the set before the last. -/
theorem retiredKey_returns :
    ∃ finish, (jwksRuns (fun jwk => some jwk.material) apiSettings).run
        (.new (fun jwk => some jwk.material) apiSettings [retiredKey]) overtaken = some finish ∧
      finish.Settled ∧ lastFetched [retiredKey] overtaken = [currentKey] ∧
      finish.keys ≠
        buildKeys (fun jwk => some jwk.material) apiSettings (lastFetched [retiredKey] overtaken) ∧
      finish.keys "2026" = none ∧ (finish.keys "2025").isSome = true := by
  refine ⟨_, rfl, settled_of_only rfl rfl, rfl, ?_, rfl, rfl⟩
  intro same
  have atCurrent := congrFun same "2026"
  cases atCurrent

end AxumConf.Auth
