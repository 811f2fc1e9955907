import AxumConf.Lib.Substitution
import Mathlib.Data.List.TakeWhile

/-!
# Regular expressions with leftmost-first matches

The matches at the front of a text are listed in the order in which a backtracking matcher tries
them: the first alternative before the second one, and one more repetition before none.  The match
of an expression is the first of the list.
-/

namespace AxumConf

universe u v

inductive Regex (Symbol : Type u) where
  | nothing
  | one (holds : Symbol → Bool)
  | endOfText
  | sequence (first second : Regex Symbol)
  | either (first second : Regex Symbol)
  | many (body : Regex Symbol)
  | group (body : Regex Symbol)

/-- What a match took from the front of a text, what its group captured, and what is left. -/
structure Matched (Symbol : Type u) where
  taken : List Symbol
  captured : Option (List Symbol)
  rest : List Symbol
  deriving DecidableEq, Repr

namespace Matched

variable {Symbol : Type u}

def stop (text : List Symbol) : Matched Symbol := { taken := [], captured := none, rest := text }

def followedBy (first second : Matched Symbol) : Matched Symbol where
  taken := first.taken ++ second.taken
  captured := second.captured.or first.captured
  rest := second.rest

end Matched

namespace Regex

variable {Symbol : Type u}

/-- Repetitions, most of them first; one that takes nothing is not repeated. -/
def repeated (body : List Symbol → List (Matched Symbol)) : ℕ → List Symbol → List (Matched Symbol)
  | 0, text => [.stop text]
  | fuel + 1, text =>
      ((body text).filter fun first => !first.taken.isEmpty).flatMap
        (fun first => (repeated body fuel first.rest).map first.followedBy) ++ [.stop text]

def results : Regex Symbol → List Symbol → List (Matched Symbol)
  | nothing, text => [.stop text]
  | one _, [] => []
  | one holds, symbol :: rest =>
      if holds symbol then [{ taken := [symbol], captured := none, rest }] else []
  | endOfText, [] => [.stop []]
  | endOfText, _ :: _ => []
  | sequence first second, text =>
      (first.results text).flatMap fun ahead => (second.results ahead.rest).map ahead.followedBy
  | either first second, text => first.results text ++ second.results text
  | many body, text => repeated body.results text.length text
  | group body, text =>
      (body.results text).map fun inside => { inside with captured := some inside.taken }

/-- The group of the first match, with the number of symbols that the match has after its first. -/
def pattern (regex : Regex Symbol) : Pattern Symbol (List Symbol) := fun text =>
  (regex.results text).head?.bind fun first =>
    first.captured.map fun run => (run, first.taken.length - 1)

def word [BEq Symbol] : List Symbol → Regex Symbol
  | [] => nothing
  | symbol :: symbols => sequence (one (· == symbol)) (word symbols)

def oneOrMore (body : Regex Symbol) : Regex Symbol := sequence body (many body)

variable {holds : Symbol → Bool} {text : List Symbol} {next : Regex Symbol}

@[simp] theorem results_nothing : (nothing : Regex Symbol).results text = [.stop text] := by
  cases text <;> rfl

theorem results_sequence (first second : Regex Symbol) :
    (sequence first second).results text = (first.results text).flatMap fun ahead =>
      (second.results ahead.rest).map ahead.followedBy := by
  cases text <;> rfl

theorem results_either (first second : Regex Symbol) :
    (either first second).results text = first.results text ++ second.results text := by
  cases text <;> rfl

theorem results_group (body : Regex Symbol) :
    (group body).results text =
      (body.results text).map fun inside => { inside with captured := some inside.taken } := by
  cases text <;> rfl

@[simp] theorem results_many_nil : (many (one holds)).results [] = [.stop []] := rfl

theorem results_many_cons {symbol : Symbol} {rest : List Symbol} :
    (many (one holds)).results (symbol :: rest) =
      (if holds symbol then ((many (one holds)).results rest).map
        (Matched.followedBy { taken := [symbol], captured := none, rest }) else []) ++
      [.stop (symbol :: rest)] := by
  simp only [results, List.length_cons, repeated]
  cases holds symbol <;> simp

theorem results_many_of_not {symbol : Symbol} {rest : List Symbol} (fails : holds symbol = false) :
    (many (one holds)).results (symbol :: rest) = [.stop (symbol :: rest)] := by
  simp [results_many_cons, fails]

/-- The longest run comes first. -/
theorem head?_results_many (holds : Symbol → Bool) (text : List Symbol) :
    ((many (one holds)).results text).head? = some
      { taken := text.takeWhile holds, captured := none, rest := text.dropWhile holds } := by
  induction text with
  | nil => rfl
  | cons symbol rest ih =>
      cases found : holds symbol with
      | true => simp [results_many_cons, found, ih, Matched.followedBy]
      | false => simp [results_many_of_not found, found, Matched.stop]

/-- Where what follows a run fails inside it, only the whole run is left to match. -/
theorem flatMap_results_many {Result : Type v} (follow : Matched Symbol → List Result)
    (blocked : ∀ ahead symbol rest, ahead.rest = symbol :: rest → holds symbol = true →
      follow ahead = []) (text : List Symbol) :
    ((many (one holds)).results text).flatMap follow = follow
      { taken := text.takeWhile holds, captured := none, rest := text.dropWhile holds } := by
  induction text generalizing follow with
  | nil => simp [Matched.stop]
  | cons symbol rest ih =>
      cases found : holds symbol with
      | false => simp [results_many_of_not found, found, Matched.stop]
      | true =>
          have shorter : follow (.stop (symbol :: rest)) = [] := blocked _ symbol rest rfl found
          have longer := ih (fun ahead => follow (Matched.followedBy
            { taken := [symbol], captured := none, rest } ahead))
            (fun ahead other behind ends => blocked _ other behind ends)
          simp only [results_many_cons, found, if_true, List.flatMap_append, List.flatMap_map,
            List.flatMap_singleton, shorter, List.append_nil, longer, List.takeWhile_cons,
            List.dropWhile_cons]
          rfl

theorem results_many_sequence
    (blocked : ∀ symbol rest, holds symbol = true → next.results (symbol :: rest) = []) :
    (sequence (many (one holds)) next).results text = (next.results (text.dropWhile holds)).map
      (Matched.followedBy
        { taken := text.takeWhile holds, captured := none, rest := text.dropWhile holds }) := by
  rw [results_sequence]
  apply flatMap_results_many
  intro ahead symbol rest ends isInside
  rw [ends, blocked symbol rest isInside, List.map_nil]

theorem results_group_oneOrMore {symbol : Symbol} {rest : List Symbol}
    (isInside : holds symbol = true) :
    (group (oneOrMore (one holds))).results (symbol :: rest) =
      ((many (one holds)).results rest).map fun more =>
        { taken := symbol :: more.taken, captured := some (symbol :: more.taken)
          rest := more.rest } := by
  rw [results_group, oneOrMore, results_sequence]
  simp [results, isInside, Matched.followedBy]

/-- A run that is not empty begins with the first symbol. -/
theorem exists_cons_of_takeWhile (nonempty : text.takeWhile holds ≠ []) :
    ∃ symbol rest, text = symbol :: rest ∧ holds symbol = true := by
  cases text with
  | nil => exact absurd rfl nonempty
  | cons symbol rest => exact ⟨symbol, rest, rfl, by simpa using nonempty⟩

theorem results_group_oneOrMore_of_takeWhile_nil (text : List Symbol)
    (noRun : text.takeWhile holds = []) : (group (oneOrMore (one holds))).results text = [] := by
  cases text with
  | nil => rfl
  | cons symbol rest =>
      have outside : holds symbol = false := by simpa using noRun
      simp [results, oneOrMore, outside]

/-- The same where the run is captured and has a symbol at least. -/
theorem results_group_sequence
    (blocked : ∀ symbol rest, holds symbol = true → next.results (symbol :: rest) = []) :
    (sequence (group (oneOrMore (one holds))) next).results text =
      if text.takeWhile holds = [] then []
      else (next.results (text.dropWhile holds)).map (Matched.followedBy
        { taken := text.takeWhile holds, captured := some (text.takeWhile holds)
          rest := text.dropWhile holds }) := by
  rw [results_sequence]
  split
  · rename_i noRun
    rw [results_group_oneOrMore_of_takeWhile_nil text noRun, List.flatMap_nil]
  · rename_i nonempty
    rcases exists_cons_of_takeWhile nonempty with ⟨symbol, rest, rfl, isInside⟩
    rw [results_group_oneOrMore isInside, List.flatMap_map, flatMap_results_many]
    · simp [isInside]
    · intro ahead other behind ends otherInside
      rw [ends, blocked other behind otherInside, List.map_nil]

/-- The longest run comes first also where it is captured and nothing follows. -/
theorem head?_results_group (text : List Symbol) :
    ((group (oneOrMore (one holds))).results text).head? =
      if text.takeWhile holds = [] then none
      else some
        { taken := text.takeWhile holds, captured := some (text.takeWhile holds)
          rest := text.dropWhile holds } := by
  split
  · rename_i noRun
    rw [results_group_oneOrMore_of_takeWhile_nil text noRun, List.head?_nil]
  · rename_i nonempty
    rcases exists_cons_of_takeWhile nonempty with ⟨symbol, rest, rfl, isInside⟩
    simp [results_group_oneOrMore isInside, head?_results_many, isInside]

section Words

variable [BEq Symbol] [LawfulBEq Symbol]

/-- A word matches where the text begins with it. -/
theorem results_word (symbols text : List Symbol) :
    (word symbols).results text =
      if symbols.isPrefixOf text then
        [{ taken := symbols, captured := none, rest := text.drop symbols.length }]
      else [] := by
  induction symbols generalizing text with
  | nil => simp [word, Matched.stop]
  | cons symbol symbols ih =>
      cases text with
      | nil => simp [word, results]
      | cons first rest =>
          cases same : first == symbol with
          | false =>
              have different : (symbol == first) = false := by
                rw [← same]
                exact Bool.beq_comm
              simp [word, results, same, List.isPrefixOf, different]
          | true =>
              have isFirst : symbol = first := (beq_iff_eq.mp same).symm
              subst isFirst
              simp only [word, results_sequence, results, same, if_true, List.flatMap_singleton, ih,
                List.isPrefixOf, Bool.true_and, List.length_cons, List.drop_succ_cons]
              split <;> simp [Matched.followedBy]

theorem results_word_of_ne {symbol first : Symbol} (symbols : List Symbol) {rest : List Symbol}
    (different : first ≠ symbol) : (word (symbol :: symbols)).results (first :: rest) = [] := by
  rw [results_word, if_neg]
  simp [List.isPrefixOf, different.symm]

theorem results_word_sequence (symbols : List Symbol) :
    (sequence (word symbols) next).results text =
      if symbols.isPrefixOf text then
        (next.results (text.drop symbols.length)).map (Matched.followedBy
          { taken := symbols, captured := none, rest := text.drop symbols.length })
      else [] := by
  rw [results_sequence, results_word]
  split <;> simp

end Words

end Regex

end AxumConf
