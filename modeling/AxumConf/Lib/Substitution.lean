import Mathlib.Data.List.Basic

/-!
# Matches of a pattern and their substitution

A pattern reads a match at the front of a text: what it captured, and how many symbols the match has
after its first one.  A search finds the leftmost match of a text.  Substitution cuts a text at the
matches, leftmost first and without overlap, and writes a value in the place of each.  What is
written is not read again, so that a second substitution can find matches that the first one left
behind.
-/

namespace AxumConf

universe u v

abbrev Pattern (Symbol : Type u) (Capture : Type v) := List Symbol → Option (Capture × ℕ)

inductive Piece (Symbol : Type u) (Capture : Type v) where
  | literal (symbol : Symbol)
  | matched (capture : Capture)
  deriving DecidableEq, Repr

namespace Piece

variable {Symbol : Type u} {Capture : Type v}

def write (value : Capture → List Symbol) : Piece Symbol Capture → List Symbol
  | literal symbol => [symbol]
  | matched capture => value capture

def capture? : Piece Symbol Capture → Option Capture
  | literal _ => none
  | matched capture => some capture

end Piece

namespace Pattern

variable {Symbol : Type u} {Capture : Type v} (pattern : Pattern Symbol Capture)

/-- The pieces of a text of which so many symbols still belong to the match before it. -/
def piecesFrom : ℕ → List Symbol → List (Piece Symbol Capture)
  | _, [] => []
  | skipped + 1, _ :: rest => piecesFrom skipped rest
  | 0, symbol :: rest =>
      match pattern (symbol :: rest) with
      | some (capture, more) => .matched capture :: piecesFrom more rest
      | none => .literal symbol :: piecesFrom 0 rest

def pieces (text : List Symbol) : List (Piece Symbol Capture) := pattern.piecesFrom 0 text

def captures (text : List Symbol) : List Capture := (pattern.pieces text).filterMap Piece.capture?

def replaceAll (value : Capture → List Symbol) (text : List Symbol) : List Symbol :=
  (pattern.pieces text).flatMap (Piece.write value)

/-- The text has a match somewhere. -/
def Occurs (text : List Symbol) : Prop :=
  ∃ before after, text = before ++ after ∧ after ≠ [] ∧ (pattern after).isSome = true

/-- No match of `before ++ after` begins in `before`. -/
def NoneBegins (before after : List Symbol) : Prop :=
  ∀ ahead behind, before = ahead ++ behind → behind ≠ [] → pattern (behind ++ after) = none

/-- The capture of the leftmost match. -/
def search (text : List Symbol) : Option Capture := (pattern.captures text).head?

variable {pattern} {text : List Symbol} {capture : Capture} {more : ℕ}

theorem piecesFrom_eq_drop (skipped : ℕ) (text : List Symbol) :
    pattern.piecesFrom skipped text = pattern.pieces (text.drop skipped) := by
  induction text generalizing skipped with
  | nil => simp [piecesFrom, pieces]
  | cons symbol rest ih =>
      cases skipped with
      | zero => rfl
      | succ fewer => simp only [piecesFrom, ih, List.drop_succ_cons]

@[simp] theorem pieces_nil : pattern.pieces [] = [] := rfl

theorem pieces_of_match {symbol : Symbol}
    (isMatch : pattern (symbol :: text) = some (capture, more)) :
    pattern.pieces (symbol :: text) = .matched capture :: pattern.pieces (text.drop more) := by
  simp only [pieces, piecesFrom, isMatch]
  rw [piecesFrom_eq_drop]
  rfl

theorem pieces_of_no_match {symbol : Symbol} (noMatch : pattern (symbol :: text) = none) :
    pattern.pieces (symbol :: text) = .literal symbol :: pattern.pieces text := by
  simp only [pieces, piecesFrom, noMatch]

/-- Induction along the matches of a text. -/
theorem pieces_induction (pattern : Pattern Symbol Capture) {motive : List Symbol → Prop}
    (nil : motive [])
    (matched : ∀ symbol text capture more, pattern (symbol :: text) = some (capture, more) →
      motive (text.drop more) → motive (symbol :: text))
    (literal : ∀ symbol text, pattern (symbol :: text) = none → motive text →
      motive (symbol :: text))
    (text : List Symbol) : motive text := by
  induction length : text.length using Nat.strongRecOn generalizing text with
  | _ _ ih =>
      cases text with
      | nil => exact nil
      | cons symbol rest =>
          cases found : pattern (symbol :: rest) with
          | none => exact literal symbol rest found (ih _ (by simp [← length]) rest rfl)
          | some result =>
              rcases result with ⟨capture, more⟩
              refine matched symbol rest capture more found (ih _ ?_ _ rfl)
              simp only [← length, List.length_drop, List.length_cons]
              omega

/-- Nothing is captured from a text exactly when the pattern matches nowhere in it. -/
theorem captures_eq_nil_iff : pattern.captures text = [] ↔ ¬pattern.Occurs text := by
  induction text using pieces_induction pattern with
  | nil => simp [captures, Occurs]
  | matched symbol rest capture more isMatch ih =>
      have occurs : pattern.Occurs (symbol :: rest) :=
        ⟨[], symbol :: rest, rfl, by simp, by simp [isMatch]⟩
      simp [captures, pieces_of_match isMatch, Piece.capture?, occurs]
  | literal symbol rest noMatch ih =>
      have occurs_iff : pattern.Occurs (symbol :: rest) ↔ pattern.Occurs rest := by
        constructor
        · rintro ⟨before, after, append, nonempty, isMatch⟩
          cases before with
          | nil =>
              rw [List.nil_append] at append
              rw [← append, noMatch] at isMatch
              exact absurd isMatch (by simp)
          | cons _ before =>
              exact ⟨before, after, (List.cons.inj append).2, nonempty, isMatch⟩
        · rintro ⟨before, after, rfl, nonempty, isMatch⟩
          exact ⟨symbol :: before, after, rfl, nonempty, isMatch⟩
      rw [occurs_iff, ← ih]
      simp [captures, pieces_of_no_match noMatch, Piece.capture?]

theorem search_of_match {symbol : Symbol}
    (isMatch : pattern (symbol :: text) = some (capture, more)) :
    pattern.search (symbol :: text) = some capture := by
  simp [search, captures, pieces_of_match isMatch, Piece.capture?]

theorem search_of_no_match {symbol : Symbol} (noMatch : pattern (symbol :: text) = none) :
    pattern.search (symbol :: text) = pattern.search text := by
  simp only [search, captures, pieces_of_no_match noMatch]
  rw [List.filterMap_cons_none (by rfl)]

@[simp] theorem noneBegins_nil {after : List Symbol} : pattern.NoneBegins [] after := by
  intro ahead behind parts nonempty
  exact absurd (List.append_eq_nil_iff.mp parts.symm).2 nonempty

theorem noneBegins_cons_iff {symbol : Symbol} {before after : List Symbol} :
    pattern.NoneBegins (symbol :: before) after ↔
      pattern (symbol :: (before ++ after)) = none ∧ pattern.NoneBegins before after := by
  constructor
  · intro silent
    refine ⟨silent [] (symbol :: before) rfl (by simp), ?_⟩
    intro ahead behind parts nonempty
    apply silent (symbol :: ahead) behind _ nonempty
    rw [parts, List.cons_append]
  · rintro ⟨notHere, silent⟩ ahead behind parts nonempty
    cases ahead with
    | nil =>
        rw [List.nil_append] at parts
        rw [← parts]
        exact notHere
    | cons _ ahead => exact silent ahead behind (List.cons.inj parts).2 nonempty

theorem search_of_noneBegins {before after : List Symbol}
    (silent : pattern.NoneBegins before after) :
    pattern.search (before ++ after) = pattern.search after := by
  induction before with
  | nil => rfl
  | cons symbol before ih =>
      rcases noneBegins_cons_iff.mp silent with ⟨notHere, silent⟩
      rw [List.cons_append, search_of_no_match notHere]
      exact ih silent

/-- A capture is found where a match begins and none begins before. -/
theorem search_eq_some_iff : pattern.search text = some capture ↔
    ∃ before after more, text = before ++ after ∧ after ≠ [] ∧
      pattern after = some (capture, more) ∧ pattern.NoneBegins before after := by
  induction text with
  | nil =>
      simp only [List.nil_eq, List.append_eq_nil_iff]
      constructor
      · intro found
        cases found
      · rintro ⟨_, _, _, ⟨-, rfl⟩, nonempty, -⟩
        exact absurd rfl nonempty
  | cons symbol rest ih =>
      cases isMatch : pattern (symbol :: rest) with
      | some result =>
          rcases result with ⟨first, length⟩
          rw [search_of_match isMatch, Option.some.injEq]
          constructor
          · rintro rfl
            exact ⟨[], symbol :: rest, length, rfl, by simp, isMatch, noneBegins_nil⟩
          · rintro ⟨before, after, more, append, -, captured, silent⟩
            cases before with
            | nil =>
                rw [List.nil_append] at append
                rw [← append, isMatch] at captured
                cases captured
                rfl
            | cons next before =>
                have notHere := (noneBegins_cons_iff.mp silent).1
                rw [← List.cons_append, ← append, isMatch] at notHere
                cases notHere
      | none =>
          rw [search_of_no_match isMatch, ih]
          constructor
          · rintro ⟨before, after, more, rfl, nonempty, captured, silent⟩
            exact ⟨symbol :: before, after, more, rfl, nonempty, captured,
              noneBegins_cons_iff.mpr ⟨isMatch, silent⟩⟩
          · rintro ⟨before, after, more, append, nonempty, captured, silent⟩
            cases before with
            | nil =>
                rw [List.nil_append] at append
                rw [← append, isMatch] at captured
                cases captured
            | cons next before =>
                exact ⟨before, after, more, (List.cons.inj append).2, nonempty, captured,
                  (noneBegins_cons_iff.mp silent).2⟩

theorem search_eq_none_iff : pattern.search text = none ↔ ¬pattern.Occurs text := by
  rw [search, List.head?_eq_none_iff, captures_eq_nil_iff]

/-- A search stated by what begins where a match does. -/
theorem search_eq_some_iff_begins {Begins : Capture → List Symbol → Prop}
    (empty : pattern [] = none) (begins_iff : ∀ capture text,
      (∃ more, pattern text = some (capture, more)) ↔ Begins capture text) :
    pattern.search text = some capture ↔
      ∃ before after, text = before ++ after ∧ Begins capture after ∧
        ∀ ahead behind, before = ahead ++ behind → behind ≠ [] →
          ∀ other, ¬Begins other (behind ++ after) := by
  have noMatch_iff : ∀ text, pattern text = none ↔ ∀ other, ¬Begins other text := by
    intro text
    simp only [← begins_iff, not_exists]
    rw [Option.eq_none_iff_forall_ne_some]
    constructor
    · intro noMatch other more
      exact noMatch (other, more)
    · rintro noMatch ⟨other, more⟩
      exact noMatch other more
  rw [search_eq_some_iff]
  simp only [NoneBegins, noMatch_iff]
  constructor
  · rintro ⟨before, after, more, append, -, isMatch, leftmost⟩
    exact ⟨before, after, append, (begins_iff capture after).mp ⟨more, isMatch⟩, leftmost⟩
  · rintro ⟨before, after, append, begins, leftmost⟩
    rcases (begins_iff capture after).mpr begins with ⟨more, isMatch⟩
    refine ⟨before, after, more, append, ?_, isMatch, leftmost⟩
    rintro rfl
    rw [empty] at isMatch
    cases isMatch

/-- Where nothing is captured, every symbol is copied. -/
theorem replaceAll_of_captures_nil {value : Capture → List Symbol}
    (nothing : pattern.captures text = []) : pattern.replaceAll value text = text := by
  induction text using pieces_induction pattern with
  | nil => rfl
  | matched symbol rest capture more isMatch ih =>
      simp [captures, pieces_of_match isMatch, Piece.capture?] at nothing
  | literal symbol rest noMatch ih =>
      simp only [captures, pieces_of_no_match noMatch] at nothing
      simp only [replaceAll, pieces_of_no_match noMatch, List.flatMap_cons, Piece.write]
      exact congrArg (symbol :: ·) (ih nothing)

/-- Symbols that begin no match are copied. -/
theorem replaceAll_literals {value : Capture → List Symbol} {run : List Symbol}
    (literal : ∀ symbol ∈ run, ∀ rest, pattern (symbol :: rest) = none) (rest : List Symbol) :
    pattern.replaceAll value (run ++ rest) = run ++ pattern.replaceAll value rest := by
  induction run with
  | nil => rfl
  | cons symbol run ih =>
      have noMatch := literal symbol (by simp) (run ++ rest)
      have copied := ih fun other member => literal other (by simp [member])
      simp only [List.cons_append, replaceAll, pieces_of_no_match noMatch, List.flatMap_cons,
        Piece.write] at copied ⊢
      exact congrArg (symbol :: ·) copied

/-- No match that begins in front of the text reaches it or depends on it. -/
def Separates (pattern : Pattern Symbol Capture) (behind : List Symbol) : Prop :=
  ∀ before, before ≠ [] → pattern (before ++ behind) = pattern before ∧
    ∀ capture more, pattern before = some (capture, more) → more < before.length

/-- Texts that no match connects are substituted on their own. -/
theorem Separates.replaceAll_append {behind : List Symbol} (separates : pattern.Separates behind)
    (value : Capture → List Symbol) (before : List Symbol) :
    pattern.replaceAll value (before ++ behind) =
      pattern.replaceAll value before ++ pattern.replaceAll value behind := by
  induction before using pieces_induction pattern with
  | nil => rfl
  | matched first rest capture more isMatch ih =>
      rcases separates (first :: rest) (by simp) with ⟨longer, bound⟩
      rw [isMatch, List.cons_append] at longer
      have within : more ≤ rest.length := by
        simpa [Nat.lt_succ_iff] using bound _ _ isMatch
      simp only [List.cons_append, replaceAll, pieces_of_match isMatch, pieces_of_match longer,
        List.flatMap_cons, List.append_assoc] at ih ⊢
      rw [List.drop_append_of_le_length within, ih]
  | literal first rest noMatch ih =>
      have longer := (separates (first :: rest) (by simp)).1
      rw [noMatch, List.cons_append] at longer
      simp only [List.cons_append, replaceAll, pieces_of_no_match noMatch,
        pieces_of_no_match longer, List.flatMap_cons, Piece.write, List.append_assoc] at ih ⊢
      rw [ih]

end Pattern

end AxumConf
