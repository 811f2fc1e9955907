import AxumConf.Fluent.VersionPath

/-!
# Versions in headers

The header parser reads a plain number, signed ones included, or else the digits behind the first
`version=`, wherever that stands.  A parameter of the name ends where the next semicolon is.
-/

namespace AxumConf.Fluent

/-- The number of a parameter that is named `version` and has a plain number as its value. -/
def versionParameter (piece : String) : Option (List Char) :=
  (Text.stripPrefix (Text.trim piece) "version=").bind fun number =>
    if number.toList ≠ [] ∧ number.toList.all Char.isDigit = true then some number.toList else none

def versionParameters (value : String) : List (List Char) :=
  (Text.split value ';').filterMap versionParameter

/-- The value is a number that a `u32` can hold. -/
def PlainVersion (value : String) (version : ApiVersion) : Prop :=
  decimalU32 (Text.trim value).toList = some version.version

def NamesVersion (value : String) (version : ApiVersion) : Prop :=
  ∃ number ∈ versionParameters value, decimalU32 number = some version.version

def OnlyNamesVersion (value : String) (version : ApiVersion) : Prop :=
  ∃ number, versionParameters value = [number] ∧ decimalU32 number = some version.version

variable (digits : DigitClass)

/-- The parser finds only what the value says, and finds what it says once. -/
structure ReadsHeader (value : String) : Prop where
  sound : ∀ version, fromHeader digits value = some version →
    PlainVersion value version ∨ NamesVersion value version
  plain : ∀ version, PlainVersion value version → fromHeader digits value = some version
  only : ∀ version, OnlyNamesVersion value version → fromHeader digits value = some version

/-- The text begins with the name `version` and a run of digits. -/
def Named (run text : List Char) : Prop :=
  ∃ rest, text = "version=".toList ++ (run ++ rest) ∧ IsRun digits run rest

/-- The digits behind the first `version=` that has any. -/
def FirstNamed (value : String) (run : List Char) : Prop :=
  ∃ before text, value.toList = before ++ text ∧ Named digits run text ∧
    ∀ ahead behind, before = ahead ++ behind → behind ≠ [] →
      ∀ run, ¬Named digits run (behind ++ text)

/-- The value is no number with a plus sign, and what stands behind its first `version=` is the
number of a parameter, or denotes no version where no parameter has one. -/
structure HeaderHeard (value : String) : Prop where
  unsigned : ∀ number, (Text.trim value).toList = '+' :: number → decimalU32 number = none
  named : ∀ run, FirstNamed digits value run → match decimalU32 run with
    | some version => NamesVersion value { version }
    | none => ∀ version, ¬OnlyNamesVersion value version

variable {digits} {value piece : String} {run text number : List Char} {version : ApiVersion}

theorem versionHeaderRegex_eq_some_iff :
    (∃ more, versionHeaderRegex digits text = some (run, more)) ↔ Named digits run text := by
  simp only [versionHeaderRegex, Option.map_eq_some_iff, Prod.mk.injEq, digitsAfter_eq_some_iff]
  constructor
  · rintro ⟨more, _, isAfter, rfl, -⟩
    exact isAfter
  · intro isAfter
    exact ⟨_, run, isAfter, rfl, rfl⟩

theorem search_versionHeaderRegex_iff :
    (versionHeaderRegex digits).search value.toList = some run ↔ FirstNamed digits value run :=
  Pattern.search_eq_some_iff_begins rfl fun _ _ => versionHeaderRegex_eq_some_iff

theorem FirstNamed.parseU32 (first : FirstNamed digits value run) :
    parseU32 run = decimalU32 run := by
  rcases first with ⟨before, text, append, ⟨rest, shape, isRun⟩, leftmost⟩
  exact parseU32_of_isRun isRun

theorem FirstNamed.mem (first : FirstNamed digits value run) : 'v' ∈ value.toList := by
  rcases first with ⟨before, text, append, ⟨rest, rfl, isRun⟩, leftmost⟩
  rw [append]
  simp

theorem versionParameter_eq_some_iff :
    versionParameter piece = some number ↔
      (Text.trim piece).toList = "version=".toList ++ number ∧ number ≠ [] ∧
        number.all Char.isDigit = true := by
  simp only [versionParameter, Option.bind_eq_some_iff, Text.stripPrefix_eq_some_iff]
  constructor
  · rintro ⟨behind, named, isNumber⟩
    split at isNumber
    · rename_i decimal
      cases isNumber
      exact ⟨by rw [named, String.toList_append], decimal⟩
    · cases isNumber
  · rintro ⟨named, decimal⟩
    refine ⟨String.ofList number, ?_, ?_⟩
    · apply String.toList_inj.mp
      rw [named]
      simp
    · rw [String.toList_ofList, if_pos decimal]

/-- A parameter of the name is found somewhere in the value. -/
theorem infix_of_mem_versionParameters (isParameter : number ∈ versionParameters value) :
    "version=".toList ++ number <:+: value.toList ∧ number ≠ [] ∧
      number.all Char.isDigit = true := by
  rcases List.mem_filterMap.mp isParameter with ⟨piece, isPiece, named⟩
  rcases versionParameter_eq_some_iff.mp named with ⟨trimmed, isNumber⟩
  rcases List.mem_map.mp isPiece with ⟨symbols, inSplit, rfl⟩
  refine ⟨?_, isNumber⟩
  rw [← trimmed]
  have inPiece := Text.trim_infix (String.ofList symbols)
  rw [String.toList_ofList] at inPiece
  exact inPiece.trans (Text.infix_of_mem_splitOn inSplit)

theorem occurs_of_mem_versionParameters (isParameter : number ∈ versionParameters value) :
    (versionHeaderRegex digits).Occurs value.toList := by
  rcases infix_of_mem_versionParameters isParameter with
    ⟨⟨before, after, whole⟩, nonempty, isNumber⟩
  have startsRun : (number ++ after).takeWhile digits.isDigit ≠ [] := by
    cases number with
    | nil => exact absurd rfl nonempty
    | cons first more =>
        have isDigit := digits.isDigit_of_isDigit (List.all_eq_true.mp isNumber first (by simp))
        simp [isDigit]
  have named : Named digits ((number ++ after).takeWhile digits.isDigit)
      ("version=".toList ++ (number ++ after)) :=
    ⟨_, by rw [List.takeWhile_append_dropWhile], isRun_takeWhile startsRun⟩
  rcases versionHeaderRegex_eq_some_iff.mpr named with ⟨more, isMatch⟩
  refine ⟨before, "version=".toList ++ (number ++ after), ?_, by simp, by rw [isMatch]; rfl⟩
  rw [← whole]
  simp

theorem mem_of_mem_versionParameters (isParameter : number ∈ versionParameters value) :
    'v' ∈ value.toList := by
  have inValue := (infix_of_mem_versionParameters isParameter).1
  exact inValue.subset (by simp)

theorem decimalU32_plus (rest : List Char) : decimalU32 ('+' :: rest) = none := by
  unfold decimalU32
  rw [if_neg]
  rintro ⟨-, isNumber, -⟩
  cases isNumber

theorem parseU32_eq_some_iff {number : UInt32} :
    parseU32 text = some number ↔
      decimalU32 text = some number ∨
        ∃ rest, text = '+' :: rest ∧ decimalU32 rest = some number := by
  unfold parseU32
  split
  · rename_i rest
    simp [decimalU32_plus]
  · rename_i unsigned
    constructor
    · exact .inl
    · rintro (parsed | ⟨rest, isPlus, -⟩)
      · exact parsed
      · exact absurd isPlus (unsigned rest)

theorem not_mem_of_decimalU32 {number : UInt32} (parsed : decimalU32 text = some number) :
    'v' ∉ text := by
  intro member
  have isDigit := List.all_eq_true.mp (decimalU32_eq_some_iff.mp parsed).2.1 'v' member
  cases isDigit

/-- A value that is a number holds no letter, with a sign or without. -/
theorem not_mem_of_parseU32 {number : UInt32}
    (parsed : parseU32 (Text.trim value).toList = some number) : 'v' ∉ value.toList := by
  intro member
  have trimmed := Text.mem_trim member (by decide)
  rcases parseU32_eq_some_iff.mp parsed with isNumber | ⟨rest, signed, isNumber⟩
  · exact not_mem_of_decimalU32 isNumber trimmed
  · rw [signed] at trimmed
    rcases List.mem_cons.mp trimmed with isPlus | inRest
    · cases isPlus
    · exact not_mem_of_decimalU32 isNumber inRest

theorem NamesVersion.mem (names : NamesVersion value version) : 'v' ∈ value.toList := by
  rcases names with ⟨number, isParameter, -⟩
  exact mem_of_mem_versionParameters isParameter

theorem OnlyNamesVersion.names (only : OnlyNamesVersion value version) :
    NamesVersion value version := by
  rcases only with ⟨number, isOnly, parsed⟩
  exact ⟨number, by rw [isOnly]; exact List.mem_singleton_self number, parsed⟩

theorem OnlyNamesVersion.eq {other : ApiVersion} (only : OnlyNamesVersion value other)
    (names : NamesVersion value version) : other = version := by
  rcases only with ⟨number, isOnly, denotes⟩
  rcases names with ⟨named, isParameter, isNumber⟩
  rw [isOnly, List.mem_singleton] at isParameter
  rw [isParameter, denotes, Option.some.injEq] at isNumber
  exact congrArg ApiVersion.mk isNumber

theorem PlainVersion.parsed (plain : PlainVersion value version) :
    parseU32 (Text.trim value).toList = some version.version :=
  parseU32_eq_some_iff.mpr (.inl plain)

theorem PlainVersion.not_of_unparsed (unparsed : parseU32 (Text.trim value).toList = none) :
    ¬PlainVersion value version := by
  intro plain
  rw [plain.parsed] at unparsed
  cases unparsed

/-- Where nothing is read, the value may not say a version. -/
theorem readsHeader_iff_of_silent (silent : fromHeader digits value = none) :
    ReadsHeader digits value ↔
      (∀ version, ¬PlainVersion value version) ∧ ∀ version, ¬OnlyNamesVersion value version := by
  constructor
  · intro reads
    constructor
    · intro version plain
      have isFound := reads.plain version plain
      rw [silent] at isFound
      cases isFound
    · intro version only
      have isFound := reads.only version only
      rw [silent] at isFound
      cases isFound
  · rintro ⟨notPlain, unnamed⟩
    constructor
    · intro version isFound
      rw [silent] at isFound
      cases isFound
    · intro version plain
      exact absurd plain (notPlain version)
    · intro version only
      exact absurd only (unnamed version)

/-- Where a version is read, the value has to say it and no other. -/
theorem readsHeader_iff_of_found (found : fromHeader digits value = some version) :
    ReadsHeader digits value ↔
      (PlainVersion value version ∨ NamesVersion value version) ∧
        (∀ other, PlainVersion value other → other = version) ∧
        ∀ other, OnlyNamesVersion value other → other = version := by
  have found_iff : ∀ other, fromHeader digits value = some other ↔ other = version := by
    intro other
    rw [found, Option.some.injEq, eq_comm]
  constructor
  · intro reads
    refine ⟨reads.sound version found, ?_, ?_⟩
    · intro other plain
      exact (found_iff other).mp (reads.plain other plain)
    · intro other only
      exact (found_iff other).mp (reads.only other only)
  · rintro ⟨right, plainly, only⟩
    constructor
    · intro other isFound
      rw [(found_iff other).mp isFound]
      exact right
    · intro other plain
      exact (found_iff other).mpr (plainly other plain)
    · intro other named
      exact (found_iff other).mpr (only other named)

/-- A number is read, so that only a sign can be wrong with it. -/
theorem readsHeader_iff_of_number {number : UInt32}
    (parsed : parseU32 (Text.trim value).toList = some number) :
    ReadsHeader digits value ↔ HeaderHeard digits value := by
  have noLetter := not_mem_of_parseU32 parsed
  have found : fromHeader digits value = some { version := number } := by
    rw [fromHeader, parsed]
  rw [readsHeader_iff_of_found found]
  constructor
  · rintro ⟨plain | names, -⟩
    · constructor
      · intro rest signed
        rw [PlainVersion, signed, decimalU32_plus] at plain
        cases plain
      · intro run first
        exact absurd first.mem noLetter
    · exact absurd names.mem noLetter
  · intro heard
    refine ⟨.inl ?_, ?_, ?_⟩
    · rcases parseU32_eq_some_iff.mp parsed with isNumber | ⟨rest, signed, isNumber⟩
      · exact isNumber
      · rw [heard.unsigned rest signed] at isNumber
        cases isNumber
    · intro other plain
      have same := plain.parsed
      rw [parsed, Option.some.injEq] at same
      rw [same]
    · intro other only
      exact absurd only.names.mem noLetter

theorem fromHeader_of_unparsed (unparsed : parseU32 (Text.trim value).toList = none) :
    fromHeader digits value = captured (versionHeaderRegex digits) value := by
  rw [fromHeader, unparsed]

/-- The first digits decide what is read of a value that is no number. -/
theorem readsHeader_iff_of_run (unparsed : parseU32 (Text.trim value).toList = none)
    (first : FirstNamed digits value run) :
    ReadsHeader digits value ↔ match decimalU32 run with
      | some version => NamesVersion value { version }
      | none => ∀ version, ¬OnlyNamesVersion value version := by
  have found : fromHeader digits value = (decimalU32 run).map ApiVersion.mk := by
    rw [fromHeader_of_unparsed unparsed, captured, search_versionHeaderRegex_iff.mpr first,
      Option.bind_some, first.parseU32]
  cases parsed : decimalU32 run with
  | none =>
      rw [parsed] at found
      rw [readsHeader_iff_of_silent found]
      apply and_iff_right
      intro version
      exact PlainVersion.not_of_unparsed unparsed
  | some number =>
      rw [parsed] at found
      rw [readsHeader_iff_of_found found]
      constructor
      · rintro ⟨plain | names, -⟩
        · exact absurd plain (PlainVersion.not_of_unparsed unparsed)
        · exact names
      · intro names
        refine ⟨.inr names, ?_, ?_⟩
        · intro other plain
          exact absurd plain (PlainVersion.not_of_unparsed unparsed)
        · intro other only
          exact only.eq names

/-- A value without digits behind the name has no parameter of that name. -/
theorem readsHeader_of_no_run (unparsed : parseU32 (Text.trim value).toList = none)
    (noRun : (versionHeaderRegex digits).search value.toList = none) :
    ReadsHeader digits value := by
  have silent : fromHeader digits value = none := by
    rw [fromHeader_of_unparsed unparsed, captured, noRun]
    rfl
  apply (readsHeader_iff_of_silent silent).mpr
  constructor
  · intro version
    exact PlainVersion.not_of_unparsed unparsed
  · intro version only
    rcases only.names with ⟨number, isParameter, -⟩
    exact Pattern.search_eq_none_iff.mp noRun (occurs_of_mem_versionParameters isParameter)

/-- The header parser is right about a value exactly where the value is heard. -/
theorem readsHeader_iff (digits : DigitClass) (value : String) :
    ReadsHeader digits value ↔ HeaderHeard digits value := by
  cases parsed : parseU32 (Text.trim value).toList with
  | some number => exact readsHeader_iff_of_number parsed
  | none =>
      have unsigned : ∀ number, (Text.trim value).toList = '+' :: number →
          decimalU32 number = none := by
        intro rest signed
        rw [signed] at parsed
        exact parsed
      cases found : (versionHeaderRegex digits).search value.toList with
      | none =>
          have reads := readsHeader_of_no_run parsed found
          refine ⟨fun _ => ⟨unsigned, ?_⟩, fun _ => reads⟩
          intro run first
          rw [search_versionHeaderRegex_iff.mpr first] at found
          cases found
      | some run =>
          rw [readsHeader_iff_of_run parsed (search_versionHeaderRegex_iff.mp found)]
          constructor
          · intro named
            refine ⟨unsigned, ?_⟩
            intro other isFirst
            rw [search_versionHeaderRegex_iff.mpr isFirst, Option.some.injEq] at found
            rw [found]
            exact named
          · intro heard
            exact heard.named run (search_versionHeaderRegex_iff.mp found)

theorem not_readsHeader_of_found (found : fromHeader digits value = some version)
    (notPlain : decimalU32 (Text.trim value).toList = none)
    (noParameter : versionParameters value = []) : ¬ReadsHeader digits value := by
  rw [readsHeader_iff_of_found found]
  rintro ⟨plain | ⟨number, isParameter, -⟩, -⟩
  · rw [PlainVersion, notPlain] at plain
    cases plain
  · rw [noParameter] at isParameter
    cases isParameter

/-- A signed number, a longer name and a number with more behind it are all read as versions. -/
theorem lookalikes_read :
    ¬ReadsHeader asciiDigits "+2" ∧ ¬ReadsHeader asciiDigits "application/json;conversion=2" ∧
      ¬ReadsHeader asciiDigits "application/json;version=2abc" := by
  refine ⟨?_, ?_, ?_⟩
  · exact @not_readsHeader_of_found asciiDigits _ { version := 2 } (by decide +kernel)
      (by decide +kernel) (by decide +kernel)
  · exact @not_readsHeader_of_found asciiDigits _ { version := 2 } (by decide +kernel)
      (by decide +kernel) (by decide +kernel)
  · exact @not_readsHeader_of_found asciiDigits _ { version := 2 } (by decide +kernel)
      (by decide +kernel) (by decide +kernel)

end AxumConf.Fluent
