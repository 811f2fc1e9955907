import AxumConf.Fluent.ApiVersion
import AxumConf.Lib.Regex

/-!
# Versions in paths

The path parser finds the first segment of the form `v1`.  A segment ends where the next one begins,
so that the search for the expression can be followed from segment to segment.
-/

namespace AxumConf.Fluent

open Regex

section Expressions

variable (digits : DigitClass)

/-- `(\d+)` -/
def digitGroup : Regex Char := group (oneOrMore (one digits.isDigit))

/-- `(?:/|$)` -/
def slashOrEnd : Regex Char := either (word ['/']) endOfText

/-- `/v(\d+)(?:/|$)` -/
def versionPathExpression : Regex Char :=
  sequence (word "/v".toList) (sequence (digitGroup digits) slashOrEnd)

/-- `version=(\d+)` -/
def versionHeaderExpression : Regex Char :=
  sequence (word "version=".toList) (digitGroup digits)

/-- `[?&]version=(\d+)` -/
def versionQueryExpression : Regex Char :=
  sequence (one fun symbol => symbol == '?' || symbol == '&') (versionHeaderExpression digits)

end Expressions

variable {digits : DigitClass}

theorem not_isDigit_slash : digits.isDigit '/' = false := by
  rw [digits.isDigit_ascii '/' (by decide)]
  rfl

/-- Digits behind a word, as the first match of the expression for them. -/
theorem head?_results_wordDigits (head : String) (text : List Char) :
    ((sequence (word head.toList) (digitGroup digits)).results text).head?.bind (fun first =>
      first.captured.map fun run => (run, first.taken.length)) =
      (digitsAfter digits head text).map fun run => (run, head.toList.length + run.length) := by
  simp only [digitGroup, results_word_sequence, digitsAfter]
  split
  · rw [List.head?_map, head?_results_group]
    split
    · rfl
    · simp only [Option.map_some, Option.bind_some, Matched.followedBy, Option.some_or,
        List.length_append]
  · rfl

theorem head?_versionHeaderExpression (text : List Char) :
    ((versionHeaderExpression digits).results text).head?.bind (fun first =>
      first.captured.map fun run => (run, first.taken.length)) =
      (digitsAfter digits "version=" text).map fun run => (run, 8 + run.length) := by
  have eight : "version=".toList.length = 8 := by decide
  have found := @head?_results_wordDigits digits "version=" text
  rw [eight] at found
  exact found

/-- The patterns of the model are the expressions of the source. -/
theorem versionHeaderExpression_pattern :
    (versionHeaderExpression digits).pattern = versionHeaderRegex digits := by
  funext text
  have found := congrArg (Option.map fun result => (result.1, result.2 - 1))
    (@head?_versionHeaderExpression digits text)
  simp only [Option.map_bind, Option.map_map, Function.comp_def] at found
  simp only [pattern, found, versionHeaderRegex]
  cases digitsAfter digits "version=" text with
  | none => rfl
  | some run =>
      simp only [Option.map_some, Option.some.injEq, Prod.mk.injEq, true_and]
      omega

/-- A delimiter is read before the expression of the header. -/
theorem versionQueryExpression_cons (symbol : Char) (rest : List Char) :
    (versionQueryExpression digits).pattern (symbol :: rest) =
      if symbol = '?' ∨ symbol = '&' then
        (digitsAfter digits "version=" rest).map fun run => (run, 8 + run.length)
      else none := by
  rw [← head?_versionHeaderExpression]
  split
  · rename_i isDelimiter
    have delimits : (symbol == '?' || symbol == '&') = true := by simpa using isDelimiter
    simp only [pattern, versionQueryExpression, results, delimits, if_true,
      List.flatMap_singleton, List.head?_map, Option.bind_map]
    congr 1
    funext first
    simp [Matched.followedBy]
  · rename_i noDelimiter
    have delimits : (symbol == '?' || symbol == '&') = false := by simpa using noDelimiter
    simp only [pattern, versionQueryExpression, results, delimits]
    rfl

theorem versionQueryExpression_pattern :
    (versionQueryExpression digits).pattern = versionQueryRegex digits := by
  funext text
  cases text with
  | nil => rfl
  | cons symbol rest =>
      rw [versionQueryExpression_cons]
      unfold versionQueryRegex
      split
      · rename_i isDelimiter
        rcases isDelimiter with rfl | rfl
        · rfl
        · rfl
      · rename_i noDelimiter
        split
        · rename_i same
          exact absurd (.inl (List.cons.inj same).1) noDelimiter
        · rename_i same
          exact absurd (.inr (List.cons.inj same).1) noDelimiter
        · rfl

theorem slashOrEnd_nil : slashOrEnd.results [] = [.stop []] := rfl

theorem slashOrEnd_slash (rest : List Char) :
    slashOrEnd.results ('/' :: rest) = [{ taken := ['/'], captured := none, rest }] := by
  rw [slashOrEnd, results_either, results_word]
  rfl

theorem slashOrEnd_of_ne {symbol : Char} {rest : List Char} (notSlash : symbol ≠ '/') :
    slashOrEnd.results (symbol :: rest) = [] := by
  rw [slashOrEnd, results_either, results_word_of_ne [] notSlash]
  rfl

theorem versionPathExpression_pattern :
    (versionPathExpression digits).pattern = versionPathRegex digits := by
  funext text
  have blocked : ∀ symbol rest, digits.isDigit symbol = true →
      slashOrEnd.results (symbol :: rest) = [] := by
    intro symbol rest isDigit
    apply slashOrEnd_of_ne
    rintro rfl
    rw [not_isDigit_slash] at isDigit
    cases isDigit
  simp only [pattern, versionPathExpression, digitGroup, results_word_sequence,
    results_group_sequence blocked, versionPathRegex, digitsAfter]
  split
  · split
    · rfl
    · have after := Text.drop_length_takeWhile digits.isDigit (text.drop "/v".toList.length)
      rw [List.drop_drop] at after
      simp only [Option.bind_eq_bind, Option.bind_some]
      generalize (text.drop "/v".toList.length).takeWhile digits.isDigit = run at after ⊢
      rw [show 2 = "/v".toList.length from rfl, after]
      cases (text.drop "/v".toList.length).dropWhile digits.isDigit with
      | nil => simp [slashOrEnd_nil, Matched.stop, Matched.followedBy, Nat.add_comm]
      | cons symbol rest =>
          by_cases isSlash : symbol = '/'
          · subst isSlash
            simp [slashOrEnd_slash, Matched.followedBy]
            omega
          · rw [slashOrEnd_of_ne isSlash]
            split
            · rename_i empty
              cases empty
            · rename_i same
              exact absurd (List.cons.inj same).1 isSlash
            · rfl
  · rfl

/-- What follows each slash of a path, up to the next one or the end. -/
def pathSegments (path : String) : List (List Char) := (path.toList.splitOn '/').tail

/-- The segment is a `v` and a number. -/
def IsVersionSegment (segment number : List Char) : Prop :=
  segment = 'v' :: number ∧ number ≠ [] ∧ number.all Char.isDigit = true

def segmentNumber : List Char → Option (List Char)
  | 'v' :: number => if number ≠ [] ∧ number.all Char.isDigit = true then some number else none
  | _ => none

theorem segmentNumber_eq_some_iff {segment number : List Char} :
    segmentNumber segment = some number ↔ IsVersionSegment segment number := by
  unfold segmentNumber IsVersionSegment
  split
  · rename_i digits
    split
    · rename_i isNumber
      constructor
      · rintro ⟨⟩
        exact ⟨rfl, isNumber⟩
      · rintro ⟨same, -⟩
        rw [(List.cons.inj same).2]
    · rename_i noNumber
      constructor
      · intro found
        cases found
      · rintro ⟨same, isNumber⟩
        rw [← (List.cons.inj same).2] at isNumber
        exact absurd isNumber noNumber
  · rename_i noVersion
    constructor
    · intro found
      cases found
    · rintro ⟨same, -⟩
      exact absurd same (noVersion number)

theorem segmentNumber_eq_none_iff {segment : List Char} :
    segmentNumber segment = none ↔ ∀ number, ¬IsVersionSegment segment number := by
  simp only [Option.eq_none_iff_forall_ne_some, ne_eq, segmentNumber_eq_some_iff]

def Ascii (text : List Char) : Prop := ∀ character ∈ text, character.toNat < 128

theorem decimalU32_eq_some_iff {text : List Char} {number : UInt32} :
    decimalU32 text = some number ↔
      text ≠ [] ∧ text.all Char.isDigit = true ∧ IpAddr.valueOf 10 text = number.toNat := by
  unfold decimalU32
  split
  · rename_i decimal
    rcases decimal with ⟨nonempty, isNumber, bound⟩
    simp only [Option.some.injEq, nonempty, isNumber, ne_eq, not_false_eq_true, true_and]
    rw [← UInt32.toNat_inj, UInt32.toNat_ofNat_of_lt' bound]
  · rename_i notDecimal
    constructor
    · intro found
      cases found
    · rintro ⟨nonempty, isNumber, value⟩
      exact absurd ⟨nonempty, isNumber, by rw [value]; exact number.toNat_lt⟩ notDecimal

theorem parseU32_of_digits {text : List Char} (isNumber : text.all Char.isDigit = true) :
    parseU32 text = decimalU32 text := by
  unfold parseU32
  split
  · cases isNumber
  · rfl

section Segments

variable {run segment rest text : List Char}

/-- The rest of a path behind a segment. -/
def EndsSegment (rest : List Char) : Prop := ∀ stop ∈ rest.head?, stop = '/'

theorem IsRun.no_slash (isRun : IsRun digits run rest) : '/' ∉ run := by
  intro member
  have isDigit := isRun.inside '/' member
  rw [not_isDigit_slash] at isDigit
  cases isDigit

/-- What stands behind the `v` and the number. -/
theorem drop_segment (run rest : List Char) :
    ("/v".toList ++ (run ++ rest)).drop (2 + run.length) = rest := by
  rw [← List.drop_drop]
  exact List.drop_left

theorem versionPathRegex_eq_some_iff :
    (∃ more, versionPathRegex digits text = some (run, more)) ↔
      ∃ rest, text = "/v".toList ++ (run ++ rest) ∧ IsRun digits run rest ∧
        EndsSegment rest := by
  simp only [versionPathRegex, Option.bind_eq_bind, Option.bind_eq_some_iff,
    digitsAfter_eq_some_iff]
  constructor
  · rintro ⟨more, found, ⟨rest, rfl, isRun⟩, ending⟩
    rw [drop_segment] at ending
    split at ending
    · cases ending
      exact ⟨[], rfl, isRun, by simp [EndsSegment]⟩
    · cases ending
      exact ⟨_, rfl, isRun, by simp [EndsSegment]⟩
    · cases ending
  · rintro ⟨rest, rfl, isRun, ends⟩
    cases rest with
    | nil => exact ⟨1 + run.length, run, ⟨[], rfl, isRun⟩, by rw [drop_segment]⟩
    | cons stop rest =>
        have isSlash : stop = '/' := ends stop (by simp)
        subst isSlash
        exact ⟨2 + run.length, run, ⟨'/' :: rest, rfl, isRun⟩, by simp only [drop_segment]⟩

theorem takeWhile_segment (noSlash : '/' ∉ segment) (ends : EndsSegment rest) :
    (segment ++ rest).takeWhile (· != '/') = segment := by
  apply Text.takeWhile_run
  · intro symbol member
    rw [bne_iff_ne]
    rintro rfl
    exact noSlash member
  · intro stop isStop
    simp [ends stop isStop]

/-- A text has one segment at its front. -/
theorem segment_unique {other behind : List Char} (noSlash : '/' ∉ segment)
    (ends : EndsSegment rest) (noneOther : '/' ∉ other) (endsOther : EndsSegment behind)
    (same : segment ++ rest = other ++ behind) : segment = other := by
  rw [← takeWhile_segment noSlash ends, same, takeWhile_segment noneOther endsOther]

theorem versionPathRegex_segment (noSlash : '/' ∉ segment) (ends : EndsSegment rest)
    (ascii : Ascii segment) :
    (versionPathRegex digits ('/' :: (segment ++ rest))).map Prod.fst =
      segmentNumber segment := by
  apply Option.ext
  intro number
  have isMatch : (versionPathRegex digits ('/' :: (segment ++ rest))).map Prod.fst = some number ↔
      ∃ more, versionPathRegex digits ('/' :: (segment ++ rest)) = some (number, more) := by
    simp
  rw [isMatch, versionPathRegex_eq_some_iff, segmentNumber_eq_some_iff]
  constructor
  · rintro ⟨behind, same, isRun, endsBehind⟩
    have noneRun : '/' ∉ 'v' :: number := by simp [isRun.no_slash]
    have isSegment : segment = 'v' :: number :=
      segment_unique noSlash ends noneRun endsBehind (List.cons.inj same).2
    refine ⟨isSegment, isRun.nonempty, ?_⟩
    rw [List.all_eq_true]
    intro character member
    rw [← digits.isDigit_ascii character (ascii character (by simp [isSegment, member]))]
    exact isRun.inside character member
  · rintro ⟨rfl, nonempty, isNumber⟩
    rw [List.all_eq_true] at isNumber
    refine ⟨rest, rfl, ⟨nonempty, ?_, ?_⟩, ends⟩
    · intro character member
      rw [digits.isDigit_ascii character (ascii character (by simp [member]))]
      exact isNumber character member
    · intro stop isStop
      rw [ends stop isStop]
      exact not_isDigit_slash

theorem noneBegins_of_no_slash (noSlash : '/' ∉ segment) (rest : List Char) :
    (versionPathRegex digits).NoneBegins segment rest := by
  intro ahead behind parts nonempty
  cases found : versionPathRegex digits (behind ++ rest) with
  | none => rfl
  | some result =>
      rcases versionPathRegex_eq_some_iff.mp ⟨result.2, found⟩ with ⟨after, same, -⟩
      cases behind with
      | nil => exact absurd rfl nonempty
      | cons symbol behind =>
          have isSlash : symbol = '/' := (List.cons.inj same).1
          exact absurd (by simp [parts, isSlash]) noSlash

/-- The search tries one segment after the other. -/
theorem search_segment (noSlash : '/' ∉ segment) (ends : EndsSegment rest)
    (ascii : Ascii segment) :
    (versionPathRegex digits).search ('/' :: (segment ++ rest)) =
      (segmentNumber segment).or ((versionPathRegex digits).search rest) := by
  have isMatch := @versionPathRegex_segment digits segment rest noSlash ends ascii
  cases found : versionPathRegex digits ('/' :: (segment ++ rest)) with
  | none =>
      rw [found] at isMatch
      rw [← isMatch, Pattern.search_of_no_match found,
        Pattern.search_of_noneBegins (noneBegins_of_no_slash noSlash rest)]
      rfl
  | some result =>
      rw [found] at isMatch
      rw [← isMatch, Pattern.search_of_match found]
      rfl

/-- The search stops at the first segment that is a version. -/
theorem search_slash (ascii : Ascii text) :
    (versionPathRegex digits).search ('/' :: text) =
      (text.splitOn '/').findSome? segmentNumber := by
  induction text using Text.pieces_induction '/' with
  | last segment noSlash =>
      have found := @search_segment digits segment [] noSlash (by simp [EndsSegment]) ascii
      rw [List.append_nil] at found
      rw [found, List.splitOn_eq_singleton noSlash, List.findSome?_singleton]
      exact Option.or_none
  | more segment rest noSlash ih =>
      have found := @search_segment digits segment ('/' :: rest) noSlash (by simp [EndsSegment])
        fun character member => ascii character (by simp [member])
      rw [found, ih fun character member => ascii character (by simp [member]),
        List.splitOn_append_cons_self_of_not_mem noSlash rest, List.findSome?_cons]
      cases segmentNumber segment with
      | none => rfl
      | some number => rfl

theorem search_versionPathRegex {path : String} (ascii : Ascii path.toList) :
    (versionPathRegex digits).search path.toList =
      (pathSegments path).findSome? segmentNumber := by
  unfold pathSegments
  generalize path.toList = text at ascii ⊢
  cases text using Text.pieces_induction '/' with
  | last segment noSlash =>
      rw [List.splitOn_eq_singleton noSlash]
      have silent := Pattern.search_of_noneBegins (@noneBegins_of_no_slash digits _ noSlash [])
      rw [List.append_nil] at silent
      rw [silent]
      rfl
  | more segment rest noSlash ih =>
      rw [Pattern.search_of_noneBegins (noneBegins_of_no_slash noSlash _),
        search_slash fun character member => ascii character (by simp [member]),
        List.splitOn_append_cons_self_of_not_mem noSlash rest, List.tail_cons]

end Segments

/-- The version of a path is what its first segment of the form `v1` denotes. -/
theorem fromPath_eq_some_iff (digits : DigitClass) (path : String) (version : ApiVersion)
    (ascii : Ascii path.toList) :
    fromPath digits path = some version ↔
      ∃ before segment number after, pathSegments path = before ++ segment :: after ∧
        (∀ earlier ∈ before, ∀ number, ¬IsVersionSegment earlier number) ∧
        IsVersionSegment segment number ∧
        IpAddr.valueOf 10 number = version.version.toNat := by
  have parsed_iff : ∀ number : List Char, number ≠ [] ∧ number.all Char.isDigit = true →
      (parseU32 number = some version.version ↔
        IpAddr.valueOf 10 number = version.version.toNat) := by
    intro number isNumber
    rw [parseU32_of_digits isNumber.2, decimalU32_eq_some_iff]
    simp only [isNumber, ne_eq, not_false_eq_true, true_and]
  have version_eq : ∀ number : UInt32, ApiVersion.mk number = version ↔
      number = version.version := by
    intro number
    constructor
    · rintro rfl
      rfl
    · rintro rfl
      rfl
  simp only [fromPath, captured, search_versionPathRegex ascii, Option.map_eq_some_iff,
    Option.bind_eq_some_iff, version_eq, List.findSome?_eq_some_iff, segmentNumber_eq_some_iff,
    segmentNumber_eq_none_iff]
  constructor
  · rintro ⟨_, ⟨number, ⟨before, segment, after, parts, isSegment, earlier⟩, parsed⟩, rfl⟩
    exact ⟨before, segment, number, after, parts, earlier, isSegment,
      (parsed_iff number isSegment.2).mp parsed⟩
  · rintro ⟨before, segment, number, after, parts, earlier, isSegment, value⟩
    exact ⟨version.version, ⟨number, ⟨before, segment, after, parts, isSegment, earlier⟩,
      (parsed_iff number isSegment.2).mpr value⟩, rfl⟩

theorem fromPath_users :
    fromPath asciiDigits "/api/v2/users" = some { version := 2 } ↔
      ∃ before segment number after,
        pathSegments "/api/v2/users" = before ++ segment :: after ∧
        (∀ earlier ∈ before, ∀ number, ¬IsVersionSegment earlier number) ∧
        IsVersionSegment segment number ∧ IpAddr.valueOf 10 number = (2 : UInt32).toNat :=
  fromPath_eq_some_iff asciiDigits "/api/v2/users" { version := 2 } (by simp [Ascii])

end AxumConf.Fluent
