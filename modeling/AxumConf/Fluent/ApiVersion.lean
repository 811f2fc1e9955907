import AxumConf.Http
import AxumConf.Lib.Address
import AxumConf.Lib.Substitution
import AxumConf.Lib.Text

/-!
# API versions

The layer of `setup_api_versioning` takes the version of a request from its path, from two headers,
and from its query.  The regular expression for the query wants a `?` or `&` in front of the name,
but the query that `http::Uri` hands out has lost its `?`, so a pair in the first place is not seen,
while a `?` inside a value makes a pair of what follows it.
-/

namespace AxumConf.Fluent

/-- The class `\d` of the regular expressions: among the ASCII characters, the digits. -/
structure DigitClass where
  isDigit : Char → Bool
  isDigit_ascii : ∀ character, character.toNat < 128 → isDigit character = character.isDigit

structure ApiVersion where
  version : UInt32
  deriving DecidableEq, Repr

/-- A number of ASCII digits that a `u32` can hold. -/
def decimalU32 (text : List Char) : Option UInt32 :=
  if text ≠ [] ∧ text.all Char.isDigit = true ∧ IpAddr.valueOf 10 text < 2 ^ 32 then
    some (UInt32.ofNat (IpAddr.valueOf 10 text))
  else none

/-- `str::parse::<u32>` -/
def parseU32 : List Char → Option UInt32
  | '+' :: digits => decimalU32 digits
  | digits => decimalU32 digits

variable (digits : DigitClass)

/-- The longest run of digits that follows `head` at the front of the text. -/
def digitsAfter (head : String) (text : List Char) : Option (List Char) :=
  if head.toList.isPrefixOf text then
    let run := (text.drop head.toList.length).takeWhile digits.isDigit
    if run = [] then none else some run
  else none

/-- `/v(\d+)(?:/|$)` -/
def versionPathRegex : Pattern Char (List Char) := fun text => do
  let run ← digitsAfter digits "/v" text
  match text.drop (2 + run.length) with
  | [] => some (run, 1 + run.length)
  | '/' :: _ => some (run, 2 + run.length)
  | _ => none

/-- `version=(\d+)` -/
def versionHeaderRegex : Pattern Char (List Char) := fun text =>
  (digitsAfter digits "version=" text).map fun run => (run, 7 + run.length)

/-- `[?&]version=(\d+)` -/
def versionQueryRegex : Pattern Char (List Char)
  | '?' :: rest | '&' :: rest =>
      (digitsAfter digits "version=" rest).map fun run => (run, 8 + run.length)
  | _ => none

/-- The version in the group that the leftmost match captures. -/
def captured (regex : Pattern Char (List Char)) (text : String) : Option ApiVersion :=
  ((regex.search text.toList).bind parseU32).map ApiVersion.mk

def fromPath (path : String) : Option ApiVersion := captured (versionPathRegex digits) path

def fromHeader (value : String) : Option ApiVersion :=
  match parseU32 (Text.trim value).toList with
  | some version => some { version }
  | none => captured (versionHeaderRegex digits) value

def fromQuery (query : String) : Option ApiVersion := captured (versionQueryRegex digits) query

/-- `uri().query()`: what follows the first `?`. -/
def uriQuery (head : RequestHead) : Option String :=
  head.pathAndQuery.bind fun text => (Text.splitOnce text '?').map Prod.snd

/-- What the path, `x-api-version` and `Accept` say, in this order. -/
def fromPathOrHeader (external : External) (head : RequestHead) : Option ApiVersion :=
  ((fromPath digits head.path).or
    ((external.headerText head.headers "x-api-version").bind (fromHeader digits))).or
    ((external.headerText head.headers "accept").bind (fromHeader digits))

/-- The version that the layer puts into the extensions of a request, where it is installed. -/
def setupApiVersioning (external : External) (config : Config) (defaultVersion : UInt32) :
    Option (Request → ApiVersion) :=
  if config.isMiddlewareEnabled .apiVersioning then
    some fun request =>
      ((fromPathOrHeader digits external request.head).or
        ((uriQuery request.head).bind (fromQuery digits))).getD { version := defaultVersion }
  else none

/-- The pairs of a query as they are written. -/
def queryPairs (query : String) : List (String × String) :=
  (Text.split query '&').filterMap fun piece => Text.splitOnce piece '='

/-- The number of the only pair named `version`. -/
def loneVersion (query : String) : Option ApiVersion :=
  match (queryPairs query).filter (·.1 = "version") with
  | [(_, value)] => (decimalU32 value.toList).map ApiVersion.mk
  | _ => none

/-- The layer, with whatever default, finds the version in the path, in a header, or in the only
pair of the query that is named so. -/
def ResolvesVersion (external : External) (config : Config) (request : Request) : Prop :=
  ∀ defaultVersion resolve, setupApiVersioning digits external config defaultVersion =
      some resolve →
    resolve request = ((fromPathOrHeader digits external request.head).or
      ((uriQuery request.head).bind loneVersion)).getD { version := defaultVersion }

/-- A text of digits, as far as they go. -/
structure IsRun (run rest : List Char) : Prop where
  nonempty : run ≠ []
  inside : ∀ character ∈ run, digits.isDigit character = true
  stops : ∀ character ∈ rest.head?, digits.isDigit character = false

/-- The text begins with a delimiter, the name `version`, and a run of digits. -/
def Delimited (delimiter : Char) (run text : List Char) : Prop :=
  (delimiter = '?' ∨ delimiter = '&') ∧
    ∃ rest, text = delimiter :: ("version=".toList ++ (run ++ rest)) ∧ IsRun digits run rest

/-- The delimiter and the digits of the first delimited version in a query. -/
def FirstDelimited (query : String) (delimiter : Char) (run : List Char) : Prop :=
  ∃ before text, query.toList = before ++ text ∧ Delimited digits delimiter run text ∧
    ∀ ahead behind, before = ahead ++ behind → behind ≠ [] →
      ∀ delimiter run, ¬Delimited digits delimiter run (behind ++ text)

/-- The query's only `version` pair is behind a `&` and no delimited version is ahead of it, unless
that one has the same number; or the query promises no version, and its first delimited one has no
digits that a `u32` can hold. -/
def QueryHeard (query : String) : Prop :=
  match loneVersion query with
  | some version =>
      (∃ run, FirstDelimited digits query '&' run) ∨
        ∃ run, FirstDelimited digits query '?' run ∧ decimalU32 run = some version.version
  | none => ∀ delimiter run, FirstDelimited digits query delimiter run → decimalU32 run = none

variable {digits} {run rest text : List Char} {query : String}

theorem isRun_takeWhile (nonempty : text.takeWhile digits.isDigit ≠ []) :
    IsRun digits (text.takeWhile digits.isDigit) (text.dropWhile digits.isDigit) := by
  refine ⟨nonempty, ?_, ?_⟩
  · intro character member
    exact List.mem_takeWhile_imp member
  · intro character isNext
    have stopped := List.head?_dropWhile_not digits.isDigit text
    rw [isNext] at stopped
    simpa using stopped

theorem digitsAfter_eq_some_iff {head : String} :
    digitsAfter digits head text = some run ↔
      ∃ rest, text = head.toList ++ (run ++ rest) ∧ IsRun digits run rest := by
  unfold digitsAfter
  constructor
  · intro isRun
    split at isRun
    · rename_i begins
      rcases List.isPrefixOf_iff_prefix.mp begins with ⟨behind, rfl⟩
      rw [List.drop_left] at isRun
      simp only at isRun
      split at isRun
      · cases isRun
      · rename_i nonempty
        cases isRun
        refine ⟨behind.dropWhile digits.isDigit, ?_, isRun_takeWhile nonempty⟩
        rw [List.takeWhile_append_dropWhile]
    · cases isRun
  · rintro ⟨rest, rfl, isRun⟩
    have begins : head.toList.isPrefixOf (head.toList ++ (run ++ rest)) = true :=
      List.isPrefixOf_iff_prefix.mpr ⟨run ++ rest, rfl⟩
    rw [if_pos begins, List.drop_left, Text.takeWhile_run isRun.inside isRun.stops]
    simp [isRun.nonempty]

theorem delimited_of_after {delimiter : Char} {after : List Char} {more : ℕ}
    (isDelimiter : delimiter = '?' ∨ delimiter = '&')
    (isMatch : (digitsAfter digits "version=" after).map (fun run => (run, 8 + run.length)) =
      some (run, more)) : Delimited digits delimiter run (delimiter :: after) := by
  rcases Option.map_eq_some_iff.mp isMatch with ⟨_, isAfter, same⟩
  cases same
  rcases digitsAfter_eq_some_iff.mp isAfter with ⟨rest, rfl, isRun⟩
  exact ⟨isDelimiter, rest, rfl, isRun⟩

theorem versionQueryRegex_eq_some_iff :
    (∃ more, versionQueryRegex digits text = some (run, more)) ↔
      ∃ delimiter, Delimited digits delimiter run text := by
  constructor
  · rintro ⟨more, isMatch⟩
    unfold versionQueryRegex at isMatch
    split at isMatch
    · exact ⟨'?', delimited_of_after (.inl rfl) isMatch⟩
    · exact ⟨'&', delimited_of_after (.inr rfl) isMatch⟩
    · cases isMatch
  · rintro ⟨delimiter, isDelimiter, rest, rfl, isRun⟩
    have isAfter : digitsAfter digits "version=" ("version=".toList ++ (run ++ rest)) = some run :=
      digitsAfter_eq_some_iff.mpr ⟨rest, rfl, isRun⟩
    refine ⟨8 + run.length, ?_⟩
    rcases isDelimiter with rfl | rfl
    · simp only [versionQueryRegex, isAfter, Option.map_some]
    · simp only [versionQueryRegex, isAfter, Option.map_some]

/-- What the search for a version captures are the digits of the first delimited one. -/
theorem search_versionQueryRegex_iff :
    (versionQueryRegex digits).search query.toList = some run ↔
      ∃ delimiter, FirstDelimited digits query delimiter run := by
  have begins_iff := @Pattern.search_eq_some_iff_begins _ _ (versionQueryRegex digits) query.toList
    run (fun run text => ∃ delimiter, Delimited digits delimiter run text) rfl
    fun _ _ => versionQueryRegex_eq_some_iff
  rw [begins_iff]
  simp only [not_exists]
  constructor
  · rintro ⟨before, text, append, ⟨delimiter, delimited⟩, leftmost⟩
    exact ⟨delimiter, before, text, append, delimited,
      fun ahead behind parts nonempty delimiter run =>
        leftmost ahead behind parts nonempty run delimiter⟩
  · rintro ⟨delimiter, before, text, append, delimited, leftmost⟩
    exact ⟨before, text, append, ⟨delimiter, delimited⟩,
      fun ahead behind parts nonempty run delimiter =>
        leftmost ahead behind parts nonempty delimiter run⟩

theorem IsRun.passes (isRun : IsRun digits run rest) :
    ∀ character ∈ run, (character != '&') = true := by
  intro character member
  rw [bne_iff_ne]
  rintro rfl
  have isDigit := isRun.inside '&' member
  rw [digits.isDigit_ascii '&' (by decide)] at isDigit
  cases isDigit

theorem parseU32_of_isRun (isRun : IsRun digits run rest) : parseU32 run = decimalU32 run := by
  unfold parseU32
  split
  · have isDigit := isRun.inside '+' List.mem_cons_self
    rw [digits.isDigit_ascii '+' (by decide)] at isDigit
    cases isDigit
  · rfl

theorem FirstDelimited.parseU32 {delimiter : Char}
    (first : FirstDelimited digits query delimiter run) : parseU32 run = decimalU32 run := by
  rcases first with ⟨before, text, append, ⟨isDelimiter, rest, shape, isRun⟩, leftmost⟩
  exact parseU32_of_isRun isRun

theorem fromQuery_eq_some_iff {version : ApiVersion} :
    fromQuery digits query = some version ↔
      ∃ delimiter run, FirstDelimited digits query delimiter run ∧
        decimalU32 run = some version.version := by
  simp only [fromQuery, captured, Option.map_eq_some_iff, Option.bind_eq_some_iff]
  constructor
  · rintro ⟨_, ⟨run, found, parsed⟩, rfl⟩
    rcases search_versionQueryRegex_iff.mp found with ⟨delimiter, first⟩
    rw [first.parseU32] at parsed
    exact ⟨delimiter, run, first, parsed⟩
  · rintro ⟨delimiter, run, first, parsed⟩
    rw [← first.parseU32] at parsed
    exact ⟨_, ⟨run, search_versionQueryRegex_iff.mpr ⟨delimiter, first⟩, parsed⟩, rfl⟩

theorem fromQuery_eq_none_iff : fromQuery digits query = none ↔
    ∀ delimiter run, FirstDelimited digits query delimiter run → decimalU32 run = none := by
  rw [Option.eq_none_iff_forall_ne_some]
  constructor
  · intro silent delimiter run first
    rw [Option.eq_none_iff_forall_ne_some]
    intro number parsed
    exact silent { version := number } (fromQuery_eq_some_iff.mpr ⟨delimiter, run, first, parsed⟩)
  · intro unreadable version found
    rcases fromQuery_eq_some_iff.mp found with ⟨delimiter, run, first, parsed⟩
    rw [unreadable delimiter run first] at parsed
    cases parsed

theorem DigitClass.isDigit_of_isDigit (digits : DigitClass) {character : Char}
    (isDigit : character.isDigit = true) : digits.isDigit character = true := by
  rw [digits.isDigit_ascii character _]
  · exact isDigit
  · simp only [Char.isDigit, Bool.and_eq_true, decide_eq_true_eq] at isDigit
    have upper : character.val ≤ '9'.val := isDigit.2
    have bound : character.val.toNat ≤ 57 := UInt32.le_iff_toNat_le.mp upper
    exact Nat.lt_of_le_of_lt bound (by decide)

theorem decimalU32_eq_some {number : UInt32} (parsed : decimalU32 text = some number) :
    ∀ character ∈ text, digits.isDigit character = true := by
  intro character member
  unfold decimalU32 at parsed
  split at parsed
  · rename_i decimal
    exact digits.isDigit_of_isDigit (List.all_eq_true.mp decimal.2.1 character member)
  · cases parsed

theorem loneVersion_eq_some_iff {version : ApiVersion} :
    loneVersion query = some version ↔
      ∃ name value, (queryPairs query).filter (·.1 = "version") = [(name, value)] ∧
        decimalU32 value.toList = some version.version := by
  unfold loneVersion
  constructor
  · intro lone
    split at lone
    · rename_i name value isOnly
      rcases Option.map_eq_some_iff.mp lone with ⟨number, parsed, rfl⟩
      exact ⟨name, value, isOnly, parsed⟩
    · cases lone
  · rintro ⟨name, value, isOnly, parsed⟩
    simp only [isOnly, parsed, Option.map_some]

/-- A text that begins with `version=` begins with a pair of that name. -/
theorem mem_queryPairs {after : List Char} :
    ("version", String.ofList (after.takeWhile (· != '&'))) ∈
      queryPairs (String.ofList ("version=".toList ++ after)) := by
  have passes : ∀ character ∈ "version=".toList, (character != '&') = true := by simp
  have piece := @Text.takeWhile_mem_splitOn Char _ _ '&' ("version=".toList ++ after)
  rw [List.takeWhile_append_of_pos passes] at piece
  have inSplit : String.ofList ("version=".toList ++ after.takeWhile (· != '&')) ∈
      Text.split (String.ofList ("version=".toList ++ after)) '&' := by
    rw [Text.split, String.toList_ofList]
    exact List.mem_map_of_mem piece
  apply List.mem_filterMap.mpr
  refine ⟨_, inSplit, ?_⟩
  rw [Text.splitOnce_eq_some_iff]
  constructor
  · decide
  · simp

theorem queryPairs_append {before after : List Char} :
    queryPairs (String.ofList (before ++ '&' :: after)) =
      queryPairs (String.ofList before) ++ queryPairs (String.ofList after) := by
  simp only [queryPairs, Text.split, String.toList_ofList, List.splitOn_append_cons_self,
    List.map_append, List.filterMap_append]

theorem FirstDelimited.decimalU32_of_lone {version : ApiVersion}
    (first : FirstDelimited digits query '&' run) (lone : loneVersion query = some version) :
    decimalU32 run = some version.version := by
  rcases first with ⟨before, text, append, ⟨-, rest, rfl, isRun⟩, -⟩
  rcases loneVersion_eq_some_iff.mp lone with ⟨name, value, isOnly, parsed⟩
  have isPair : ("version", String.ofList ((run ++ rest).takeWhile (· != '&'))) ∈
      queryPairs query := by
    rw [← @String.ofList_toList query, append, queryPairs_append]
    exact List.mem_append_right _ mem_queryPairs
  have isNamed : ("version", String.ofList ((run ++ rest).takeWhile (· != '&'))) ∈
      (queryPairs query).filter (·.1 = "version") :=
    List.mem_filter.mpr ⟨isPair, by simp⟩
  rw [isOnly, List.mem_singleton, List.takeWhile_append_of_pos isRun.passes] at isNamed
  cases isNamed
  rw [String.toList_ofList] at parsed
  have whole : rest.takeWhile (· != '&') = [] := by
    cases rest with
    | nil => rfl
    | cons character rest =>
        by_cases isEnd : (character != '&') = true
        · have isDigit := @decimalU32_eq_some digits _ _ parsed character (by simp [isEnd])
          rw [isRun.stops character (by simp)] at isDigit
          cases isDigit
        · exact List.takeWhile_cons_of_neg (by simpa using isEnd)
  rw [whole, List.append_nil] at parsed
  exact parsed

/-- The query parser finds what the query promises exactly when the query is heard. -/
theorem fromQuery_eq_loneVersion_iff :
    fromQuery digits query = loneVersion query ↔ QueryHeard digits query := by
  unfold QueryHeard
  cases lone : loneVersion query with
  | none => exact fromQuery_eq_none_iff
  | some version =>
      rw [fromQuery_eq_some_iff]
      constructor
      · rintro ⟨delimiter, run, first, parsed⟩
        have isDelimiter : delimiter = '?' ∨ delimiter = '&' := by
          rcases first with ⟨_, _, _, ⟨isDelimiter, _⟩, _⟩
          exact isDelimiter
        rcases isDelimiter with rfl | rfl
        · exact .inr ⟨run, first, parsed⟩
        · exact .inl ⟨run, first⟩
      · rintro (⟨run, first⟩ | ⟨run, first, parsed⟩)
        · exact ⟨'&', run, first, first.decimalU32_of_lone lone⟩
        · exact ⟨'?', run, first, parsed⟩

instance : Nontrivial ApiVersion := ⟨{ version := 0 }, { version := 1 }, by decide⟩

theorem eq_of_getD_eq {Value : Type} [Nontrivial Value] {first second : Option Value}
    (agree : ∀ default, first.getD default = second.getD default) : first = second := by
  cases first with
  | none =>
      cases second with
      | none => rfl
      | some value =>
          rcases exists_ne value with ⟨other, different⟩
          exact absurd (agree other) different
  | some value =>
      cases second with
      | none =>
          rcases exists_ne value with ⟨other, different⟩
          exact absurd (agree other).symm different
      | some other => exact congrArg some (agree value)

/-- Without a `?`, a query is not heard that has its only version pair in the first place. -/
theorem not_queryHeard_of_first {after : List Char} {version : ApiVersion}
    (begins : query.toList = "version=".toList ++ after) (noQuestion : '?' ∉ query.toList)
    (lone : loneVersion query = some version) : ¬QueryHeard digits query := by
  unfold QueryHeard
  rw [lone]
  rintro (⟨run, first⟩ | ⟨run, first, -⟩)
  · rcases first with ⟨before, text, append, ⟨-, rest, rfl, -⟩, -⟩
    rcases loneVersion_eq_some_iff.mp lone with ⟨name, value, isOnly, -⟩
    have beginsToo : ∃ front, before = "version=".toList ++ front := by
      rcases List.append_eq_append_iff.mp (begins.symm.trans append) with
        ⟨front, isFront, -⟩ | ⟨cut, isName, isRest⟩
      · exact ⟨front, isFront⟩
      · cases cut with
        | nil => exact ⟨[], by rw [isName, List.append_nil, List.append_nil]⟩
        | cons character cut =>
            have inName : '&' ∈ "version=".toList := by
              rw [isName, (List.cons.inj isRest).1]
              simp
            exact absurd inName (by decide)
    rcases beginsToo with ⟨front, rfl⟩
    have isNamed : ∀ tail, 0 < ((queryPairs (String.ofList ("version=".toList ++ tail))).filter
        (·.1 = "version")).length := by
      intro tail
      exact List.length_pos_of_mem (List.mem_filter.mpr ⟨mem_queryPairs, by simp⟩)
    have atFront := isNamed front
    have behind := isNamed (run ++ rest)
    rw [← @String.ofList_toList query, append, queryPairs_append, List.filter_append] at isOnly
    have two := congrArg List.length isOnly
    rw [List.length_append, List.length_singleton] at two
    omega
  · rcases first with ⟨before, text, append, ⟨-, rest, rfl, -⟩, -⟩
    apply noQuestion
    rw [append]
    simp

variable {external : External} {config : Config} {request : Request}

/-- Where the path and the headers say nothing, the layer resolves the promised version exactly of
the queries that are heard. -/
theorem resolvesVersion_iff (enabled : config.isMiddlewareEnabled .apiVersioning = true) :
    ResolvesVersion digits external config request ↔
      ((fromPathOrHeader digits external request.head).isSome = true ∨
        ∀ query, uriQuery request.head = some query → QueryHeard digits query) := by
  simp only [ResolvesVersion, setupApiVersioning, enabled, if_true, Option.some.injEq,
    forall_eq']
  cases fromPathOrHeader digits external request.head with
  | some version => simp
  | none =>
      cases uriQuery request.head with
      | none => simp
      | some query =>
          simp only [Option.none_or, Option.bind_some, Option.isSome_none, Bool.false_eq_true,
            false_or, Option.some.injEq, forall_eq']
          rw [← fromQuery_eq_loneVersion_iff]
          constructor
          · intro agree
            apply eq_of_getD_eq
            rintro ⟨defaultVersion⟩
            exact agree defaultVersion
          · intro same defaultVersion
            rw [same]

def asciiDigits : DigitClass where
  isDigit := Char.isDigit
  isDigit_ascii := fun _ _ => rfl

/-- A request for users whose query is the given one. -/
def usersRequest (query : String) : Request where
  head :=
    { path := "/users"
      pathAndQuery := some ("/users?" ++ query)
      headers := fun _ => none
      peerIp := none }

theorem pageAndVersion_resolved :
    ResolvesVersion asciiDigits External.visible {} (usersRequest "page=7&version=2") ∧
      fromQuery asciiDigits "page=7&version=2" = some { version := 2 } := by
  have heard : fromQuery asciiDigits "page=7&version=2" = loneVersion "page=7&version=2" := by
    decide +kernel
  have isQuery : uriQuery (usersRequest "page=7&version=2").head = some "page=7&version=2" := by
    decide +kernel
  constructor
  · apply (resolvesVersion_iff (by decide)).mpr
    right
    simp only [isQuery, Option.some.injEq, forall_eq']
    exact (@fromQuery_eq_loneVersion_iff asciiDigits "page=7&version=2").mp heard
  · decide +kernel

/-- `/users?version=2` gets the default version. -/
theorem firstVersion_unresolved :
    ¬ResolvesVersion asciiDigits External.visible {} (usersRequest "version=2") := by
  intro resolves
  have isPromised := resolves 1 _ (if_pos (by decide))
  revert isPromised
  decide +kernel

end AxumConf.Fluent
