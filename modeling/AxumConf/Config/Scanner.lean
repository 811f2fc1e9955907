import AxumConf.Config.Loading
import AxumConf.Lib.Regex

/-!
# The scanner behind the placeholders

The regular expression of the source finds the same placeholders as the scanner of the model, and
the substitution is a single walk over the text: a placeholder where one begins, one character
where none does.
-/

namespace AxumConf

open Regex

section Expression

/-- `\s*\}\}` -/
def closingBraces : Regex Char := sequence (many (one Text.isWhitespace)) (word ['}', '}'])

/-- `([A-Z0-9_]+)\s*\}\}` -/
def closedName : Regex Char := sequence (group (oneOrMore (one isVariableChar))) closingBraces

/-- `\{\{\s*([A-Z0-9_]+)\s*\}\}` -/
def handlebarExpression : Regex Char :=
  sequence (word ['{', '{']) (sequence (many (one Text.isWhitespace)) closedName)

theorem closingBraces_results (text : List Char) :
    closingBraces.results text =
      if ['}', '}'].isPrefixOf (text.dropWhile Text.isWhitespace) then
        [{ taken := text.takeWhile Text.isWhitespace ++ ['}', '}'], captured := none
           rest := (text.dropWhile Text.isWhitespace).drop 2 }]
      else [] := by
  rw [closingBraces, results_many_sequence]
  · rw [results_word]
    split <;> simp [Matched.followedBy]
  · intro symbol rest isBlank
    apply results_word_of_ne
    rintro rfl
    cases isBlank

theorem closedName_results (text : List Char) :
    closedName.results text =
      if text.takeWhile isVariableChar = [] then []
      else (closingBraces.results (text.dropWhile isVariableChar)).map (Matched.followedBy
        { taken := text.takeWhile isVariableChar
          captured := some (text.takeWhile isVariableChar)
          rest := text.dropWhile isVariableChar }) := by
  apply results_group_sequence
  intro symbol rest isVariable
  have notBlank := not_isWhitespace_of_isVariableChar isVariable
  have notBrace : symbol ≠ '}' := by
    rintro rfl
    cases isVariable
  rw [closingBraces_results, if_neg]
  simp [notBlank, List.isPrefixOf, notBrace.symm]

theorem handlebarExpression_results (text : List Char) :
    handlebarExpression.results text =
      if ['{', '{'].isPrefixOf text then
        ((closedName.results ((text.drop 2).dropWhile Text.isWhitespace)).map (Matched.followedBy
          { taken := (text.drop 2).takeWhile Text.isWhitespace, captured := none
            rest := (text.drop 2).dropWhile Text.isWhitespace })).map (Matched.followedBy
          { taken := ['{', '{'], captured := none, rest := text.drop 2 })
      else [] := by
  rw [handlebarExpression, results_word_sequence, results_many_sequence]
  · rfl
  · intro symbol rest isBlank
    rw [closedName_results, if_pos]
    cases isVariable : isVariableChar symbol with
    | true => exact absurd isBlank (not_isWhitespace_of_isVariableChar isVariable)
    | false => simp [isVariable]

theorem handlebarExpression_opened (opened : List Char) :
    handlebarExpression.pattern ('{' :: '{' :: opened) =
      handlebarRegexp ('{' :: '{' :: opened) := by
  have begins : ['{', '{'].isPrefixOf ('{' :: '{' :: opened) = true := by simp [List.isPrefixOf]
  simp only [pattern, handlebarExpression_results, begins, if_true, closedName_results,
    closingBraces_results, handlebarRegexp, List.drop_succ_cons, List.drop_zero]
  have blanks := Text.length_takeWhile_add_dropWhile Text.isWhitespace opened
  generalize opened.dropWhile Text.isWhitespace = trimmed at blanks ⊢
  have named := Text.length_takeWhile_add_dropWhile isVariableChar trimmed
  generalize trimmed.takeWhile isVariableChar = name at named ⊢
  have more := Text.length_takeWhile_add_dropWhile Text.isWhitespace
    (trimmed.dropWhile isVariableChar)
  cases name with
  | nil => simp
  | cons first others =>
      generalize (trimmed.dropWhile isVariableChar).dropWhile Text.isWhitespace = closed at more ⊢
      rw [if_neg (List.cons_ne_nil first others)]
      by_cases closes : ['}', '}'] <+: closed
      · rcases closes with ⟨after, rfl⟩
        rw [if_pos (by simp [List.isPrefixOf])]
        simp only [List.map_cons, List.map_nil, List.head?_cons, Option.bind_some,
          Matched.followedBy, Option.none_or, Option.some_or, Option.map_some, List.cons_append,
          List.nil_append, List.length_cons, List.length_append, List.length_nil]
          at blanks named more ⊢
        congr 2
        omega
      · rw [if_neg (by rwa [List.isPrefixOf_iff_prefix])]
        split
        · exact absurd ⟨_, rfl⟩ closes
        · rfl

/-- The scanner of the model is the regular expression of the source. -/
theorem handlebarExpression_pattern : handlebarExpression.pattern = handlebarRegexp := by
  funext text
  by_cases begins : ['{', '{'] <+: text
  · rcases begins with ⟨opened, rfl⟩
    exact handlebarExpression_opened opened
  · have noMatch : handlebarRegexp text = none := by
      unfold handlebarRegexp
      split
      · exact absurd ⟨_, rfl⟩ begins
      · rfl
    rw [← List.isPrefixOf_iff_prefix] at begins
    rw [noMatch, pattern, handlebarExpression_results, if_neg begins]
    rfl

end Expression

/-- A placeholder begins at the front of the text. -/
def BeginsPlaceholder (text : List Char) : Prop :=
  ∃ name placeholder after, text = placeholder ++ after ∧ IsPlaceholder name placeholder

/-- One walk from left to right: a placeholder becomes the value of its variable, and a character
where no placeholder begins is copied.  What is written is not read. -/
inductive Scans (value : List Char → List Char) : List Char → List Char → Prop
  | done : Scans value [] []
  | substituted {name placeholder rest output : List Char}
      (isPlaceholder : IsPlaceholder name placeholder) (scanned : Scans value rest output) :
      Scans value (placeholder ++ rest) (value name ++ output)
  | copied {character : Char} {rest output : List Char}
      (noneBegins : ¬BeginsPlaceholder (character :: rest)) (scanned : Scans value rest output) :
      Scans value (character :: rest) (character :: output)

section Walks

variable {value : List Char → List Char} {text output : List Char}

theorem handlebarRegexp_eq_none_iff : handlebarRegexp text = none ↔ ¬BeginsPlaceholder text := by
  constructor
  · rintro noMatch ⟨name, placeholder, after, rfl, isPlaceholder⟩
    rw [handlebarRegexp_placeholder isPlaceholder] at noMatch
    cases noMatch
  · intro noneBegins
    cases found : handlebarRegexp text with
    | none => rfl
    | some result =>
        rcases placeholder_of_handlebarRegexp found with ⟨placeholder, after, rfl, isPlaceholder⟩
        exact absurd ⟨_, placeholder, after, rfl, isPlaceholder⟩ noneBegins

theorem replaceAll_copied {character : Char} {rest : List Char}
    (noneBegins : ¬BeginsPlaceholder (character :: rest)) :
    handlebarRegexp.replaceAll value (character :: rest) =
      character :: handlebarRegexp.replaceAll value rest := by
  have noMatch := handlebarRegexp_eq_none_iff.mpr noneBegins
  simp only [Pattern.replaceAll, Pattern.pieces_of_no_match noMatch, List.flatMap_cons,
    Piece.write, List.singleton_append]

theorem Scans.replaceAll (scans : Scans value text output) :
    handlebarRegexp.replaceAll value text = output := by
  induction scans with
  | done => rfl
  | substituted isPlaceholder scanned ih => rw [replaceAll_placeholder isPlaceholder, ih]
  | copied noneBegins scanned ih => rw [replaceAll_copied noneBegins, ih]

theorem scans_replaceAll (value : List Char → List Char) (text : List Char) :
    Scans value text (handlebarRegexp.replaceAll value text) := by
  induction text using Pattern.pieces_induction handlebarRegexp with
  | nil => exact .done
  | matched first rest name more isMatch ih =>
      rcases placeholder_of_handlebarRegexp isMatch with
        ⟨placeholder, after, shape, isPlaceholder⟩
      rw [shape, handlebarRegexp_placeholder isPlaceholder] at isMatch
      have rest_eq : rest.drop more = after := by
        have dropped := congrArg (List.drop placeholder.length) shape
        rw [List.drop_left] at dropped
        cases isMatch
        rcases isPlaceholder with ⟨left, right, rfl, -⟩
        simpa using dropped
      rw [shape, replaceAll_placeholder isPlaceholder]
      rw [rest_eq] at ih
      exact .substituted isPlaceholder ih
  | literal first rest noMatch ih =>
      have noneBegins := handlebarRegexp_eq_none_iff.mp noMatch
      rw [replaceAll_copied noneBegins]
      exact .copied noneBegins ih

end Walks

/-- Substitution is the walk that replaces the leftmost placeholders, for every text and every
environment. -/
theorem replaceHandlebarsWithEnv_eq_iff_scans (environment : String → Except String String)
    (input output : String) :
    (replaceHandlebarsWithEnv environment input).value = output ↔
      Scans (variableValue environment) input.toList output.toList := by
  constructor
  · rintro rfl
    simp only [replaceHandlebarsWithEnv, String.toList_ofList]
    exact scans_replaceAll (variableValue environment) input.toList
  · intro scans
    simp only [replaceHandlebarsWithEnv, scans.replaceAll, String.ofList_toList]

end AxumConf
