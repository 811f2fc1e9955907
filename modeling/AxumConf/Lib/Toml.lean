import AxumConf.Lib.Text

/-!
# TOML documents

The part of TOML that decides how a quoted value is read: a document is a sequence of expressions
(blank lines, comments, and keys with a basic string are read here), a basic string ends at the
first quotation mark that is not escaped, and a backslash escapes.  Table headers, values of other
kinds and multi-line strings are left to a `Grammar`, as is the question which keys may stand
together.
-/

namespace AxumConf.Toml

inductive Value (Other : Type) where
  | string (content : List Char)
  | other (value : Other)
  deriving DecidableEq, Repr

inductive Statement (Other : Type) where
  | header (name : List Char)
  | pair (key : List Char) (value : Value Other)
  deriving DecidableEq, Repr

section BasicStrings

/-- `basic-unescaped`: every character but quotation mark, backslash and the control characters
other than tab. -/
def isUnescaped (character : Char) : Bool :=
  let code := character.toNat
  code == 0x09 || (0x20 ≤ code && code != 0x22 && code != 0x5C && code != 0x7F)

inductive StringMode where
  | text
  | escape
  | scalar (digits value : ℕ)
  deriving DecidableEq, Repr

def escapedChar : Char → Option Char
  | 'b' => some '\x08'
  | 't' => some '\t'
  | 'n' => some '\n'
  | 'f' => some '\x0C'
  | 'r' => some '\r'
  | 'e' => some '\x1B'
  | '"' => some '"'
  | '\\' => some '\\'
  | _ => none

def scalarDigits : Char → Option ℕ
  | 'x' => some 2
  | 'u' => some 4
  | 'U' => some 8
  | _ => none

def hexDigit (character : Char) : Option ℕ :=
  let code := character.toNat
  if 0x30 ≤ code ∧ code ≤ 0x39 then some (code - 0x30)
  else if 0x41 ≤ code ∧ code ≤ 0x46 then some (code - 0x41 + 10)
  else if 0x61 ≤ code ∧ code ≤ 0x66 then some (code - 0x61 + 10)
  else none

def scalarValue (value : ℕ) : Option Char :=
  if value.isValidChar then some (Char.ofNat value) else none

/-- Reads a basic string behind its opening quotation mark: its content, and the text behind its
closing one. -/
def basicString : StringMode → List Char → Option (List Char × List Char)
  | _, [] => none
  | .text, character :: rest =>
      if character = '"' then some ([], rest)
      else if character = '\\' then basicString .escape rest
      else if isUnescaped character then
        (basicString .text rest).map fun read => (character :: read.1, read.2)
      else none
  | .escape, character :: rest =>
      match escapedChar character, scalarDigits character with
      | some escaped, _ => (basicString .text rest).map fun read => (escaped :: read.1, read.2)
      | none, some digits => basicString (.scalar digits 0) rest
      | none, none => none
  | .scalar digits value, character :: rest =>
      match hexDigit character with
      | none => none
      | some digit =>
          if digits ≤ 1 then
            match scalarValue (16 * value + digit) with
            | some escaped =>
                (basicString .text rest).map fun read => (escaped :: read.1, read.2)
            | none => none
          else basicString (.scalar (digits - 1) (16 * value + digit)) rest

/-- A text that a basic string holds as it stands. -/
def IsPlain (content : List Char) : Prop := content.all isUnescaped = true

instance (content : List Char) : Decidable (IsPlain content) :=
  inferInstanceAs (Decidable (content.all isUnescaped = true))

@[simp] theorem isPlain_cons {character : Char} {content : List Char} :
    IsPlain (character :: content) ↔ isUnescaped character = true ∧ IsPlain content := by
  simp [IsPlain]

/-- The text ends here, or the line does. -/
def EndsLine (rest : List Char) : Prop := rest = [] ∨ ∃ below, rest = '\n' :: below

theorem basicString_quote (rest : List Char) :
    basicString .text ('"' :: rest) = some ([], rest) := by
  simp [basicString]

theorem ne_of_isUnescaped {character other : Char} (unescaped : isUnescaped character = true)
    (foreign : isUnescaped other = false) : character ≠ other := by
  rintro rfl
  exact absurd unescaped (by simp [foreign])

theorem basicString_unescaped {character : Char} (unescaped : isUnescaped character = true)
    (rest : List Char) : basicString .text (character :: rest) =
      (basicString .text rest).map fun read => (character :: read.1, read.2) := by
  have notQuote : character ≠ '"' := ne_of_isUnescaped unescaped (by decide)
  have notBackslash : character ≠ '\\' := ne_of_isUnescaped unescaped (by decide)
  simp [basicString, notQuote, notBackslash, unescaped]

/-- A plain text between quotation marks is read as it stands. -/
theorem basicString_of_isPlain {content : List Char} (plain : IsPlain content) (rest : List Char) :
    basicString .text (content ++ '"' :: rest) = some (content, rest) := by
  induction content with
  | nil => exact basicString_quote rest
  | cons character more ih =>
      rcases isPlain_cons.mp plain with ⟨unescaped, plainMore⟩
      simp only [List.cons_append, basicString_unescaped unescaped, ih plainMore, Option.map_some]

theorem basicString_of_endsLine {rest : List Char} (ends : EndsLine rest) :
    basicString .text rest = none := by
  rcases ends with rfl | ⟨below, rfl⟩
  · rfl
  · simp [basicString, isUnescaped]

/-- What one character does: it ends the string, is part of an escape, or ends a character. -/
theorem basicString_cons {mode : StringMode} {character : Char} {body content rest : List Char}
    (read : basicString mode (character :: body) = some (content, rest)) :
    (mode = .text ∧ content = []) ∨
      (∃ next, basicString next body = some (content, rest)) ∨
      ∃ written more, basicString .text body = some (more, rest) ∧ content = written :: more ∧
        (mode = .text → isUnescaped character = true) := by
  have written : ∀ {written : Char}, (mode = .text → isUnescaped character = true) →
      (basicString .text body).map (fun read => (written :: read.1, read.2)) =
        some (content, rest) →
      ∃ written more, basicString .text body = some (more, rest) ∧ content = written :: more ∧
        (mode = .text → isUnescaped character = true) := by
    intro written unescaped mapped
    rcases Option.map_eq_some_iff.mp mapped with ⟨⟨more, after⟩, readMore, rfl, rfl⟩
    exact ⟨written, more, readMore, rfl, unescaped⟩
  cases mode with
  | text =>
      simp only [basicString] at read
      split at read
      · simp only [Option.some.injEq, Prod.mk.injEq] at read
        exact .inl ⟨rfl, read.1.symm⟩
      · split at read
        · exact .inr (.inl ⟨_, read⟩)
        · split at read
          · rename_i unescaped
            exact .inr (.inr (written (fun _ => unescaped) read))
          · exact absurd read (by simp)
  | escape =>
      simp only [basicString] at read
      split at read
      · exact .inr (.inr (written (by simp) read))
      · exact .inr (.inl ⟨_, read⟩)
      · exact absurd read (by simp)
  | scalar digits value =>
      simp only [basicString] at read
      split at read
      · exact absurd read (by simp)
      · split at read
        · split at read
          · exact .inr (.inr (written (by simp) read))
          · exact absurd read (by simp)
        · exact .inr (.inl ⟨_, read⟩)

/-- What is read on one line is never longer than what stands before the line's last quotation
mark: an escape is longer than the character it stands for. -/
theorem length_le_of_basicString {mode : StringMode} {body content rest below : List Char}
    (ends : EndsLine below)
    (read : basicString mode (body ++ '"' :: below) = some (content, rest)) :
    content.length ≤ body.length := by
  induction body generalizing mode content with
  | nil =>
      cases mode with
      | text =>
          simp only [List.nil_append, basicString_quote, Option.some.injEq, Prod.mk.injEq] at read
          simp [← read.1]
      | escape => simp [basicString, escapedChar, basicString_of_endsLine ends] at read
      | scalar digits value => simp [basicString, hexDigit] at read
  | cons character body ih =>
      rcases basicString_cons read with ⟨-, rfl⟩ | ⟨next, readNext⟩ | ⟨_, _, readMore, rfl, -⟩
      · simp
      · exact (ih readNext).trans (Nat.le_succ _)
      · exact Nat.succ_le_succ (ih readMore)

/-- Only a plain text is read back in its full length. -/
theorem isPlain_of_basicString {body content rest below : List Char} (ends : EndsLine below)
    (read : basicString .text (body ++ '"' :: below) = some (content, rest))
    (same : content.length = body.length) : IsPlain body := by
  induction body generalizing content with
  | nil => simp [IsPlain]
  | cons character body ih =>
      rcases basicString_cons read with ⟨-, rfl⟩ | ⟨next, readNext⟩ |
        ⟨_, _, readMore, rfl, unescaped⟩
      · exact absurd same (by simp)
      · have bound := length_le_of_basicString ends readNext
        rw [List.length_cons] at same
        omega
      · exact isPlain_cons.mpr ⟨unescaped rfl, ih readMore (by simpa using same)⟩

end BasicStrings

section Documents

def isBlank (character : Char) : Bool := character == ' ' || character == '\t'

/-- The characters of unquoted keys, and the dots between them. -/
def isKeyChar (character : Char) : Bool :=
  let code := character.toNat
  (0x41 ≤ code && code ≤ 0x5A) || (0x61 ≤ code && code ≤ 0x7A) || (0x30 ≤ code && code ≤ 0x39) ||
    code == 0x5F || code == 0x2D || code == 0x2E

/-- A dotted key whose parts are unquoted. -/
def isKey (key : List Char) : Bool :=
  key.all isKeyChar && (key.splitOn '.').all fun part => !part.isEmpty

def isCommentChar (character : Char) : Bool :=
  let code := character.toNat
  code == 0x09 || (0x20 ≤ code && code != 0x7F)

def newline : List Char → Option (List Char)
  | [] => some []
  | '\n' :: rest => some rest
  | '\r' :: '\n' :: rest => some rest
  | _ => none

/-- Reads blanks and a comment up to the end of the line. -/
def lineEnd (text : List Char) : Option (List Char) :=
  match text.dropWhile isBlank with
  | '#' :: comment => newline (comment.dropWhile isCommentChar)
  | rest => newline rest

/-- Reads a key, the equals sign and the quotation mark that opens its value. -/
def keyAndQuote (text : List Char) : Option (List Char × List Char) :=
  let trimmed := text.dropWhile isBlank
  let key := trimmed.takeWhile isKeyChar
  match (trimmed.dropWhile isKeyChar).dropWhile isBlank with
  | '=' :: value =>
      match value.dropWhile isBlank with
      | '"' :: body => if isKey key then some (key, body) else none
      | _ => none
  | _ => none

/-- What is left to the rest of TOML. -/
structure Grammar (Other : Type) where
  /-- Reads an expression that is neither blank nor an unquoted key with a basic string. -/
  expression : List Char → Option (List (Statement Other) × List Char)
  /-- The keys and headers of a document are consistent. -/
  valid : List (Statement Other) → Bool
  message : String → String

variable {Other : Type} (grammar : Grammar Other)

namespace Grammar

def readExpression (text : List Char) : Option (List (Statement Other) × List Char) :=
  match lineEnd text with
  | some rest => some ([], rest)
  | none =>
      match keyAndQuote text with
      | none => grammar.expression text
      | some (key, body) =>
          -- three quotation marks open a multi-line string
          if ['"', '"'].isPrefixOf body then grammar.expression text
          else
            match basicString .text body with
            | some (content, after) =>
                (lineEnd after).map fun rest => ([.pair key (.string content)], rest)
            | none => none

def statementsFrom : ℕ → List Char → Option (List (Statement Other))
  | _, [] => some []
  | 0, _ :: _ => none
  | fuel + 1, character :: text =>
      match grammar.readExpression (character :: text) with
      | some (read, rest) =>
          if rest.length < (character :: text).length then
            (statementsFrom fuel rest).map (read ++ ·)
          else none
      | none => none

def statements (text : List Char) : Option (List (Statement Other)) :=
  grammar.statementsFrom text.length text

end Grammar

/-- A statement without the content of its string. -/
def Statement.skeleton : Statement Other → Statement Other
  | .pair key (.string _) => .pair key (.string [])
  | statement => statement

/-- The consistency of a document does not depend on the contents of its strings. -/
def Grammar.parse (text : String) : Except String (List (Statement Other)) :=
  match grammar.statements text.toList with
  | some statements =>
      if grammar.valid (statements.map Statement.skeleton) then .ok statements
      else .error (grammar.message text)
  | none => .error (grammar.message text)

variable {grammar}

namespace Grammar

theorem parse_eq_ok_iff {text : String} {all : List (Statement Other)} :
    grammar.parse text = .ok all ↔
      grammar.statements text.toList = some all ∧
        grammar.valid (all.map Statement.skeleton) = true := by
  simp only [parse]
  split
  · rename_i statements read
    by_cases valid : grammar.valid (statements.map Statement.skeleton) = true
    · simp only [valid, if_true, Except.ok.injEq, read, Option.some.injEq]
      constructor
      · rintro rfl
        exact ⟨rfl, valid⟩
      · rintro ⟨rfl, -⟩
        rfl
    · simp only [valid, read, Option.some.injEq]
      constructor
      · simp
      · rintro ⟨rfl, valid'⟩
        exact absurd valid' valid
  · rename_i unread
    simp [unread]

/-- Fuel for the length of the text is enough. -/
theorem statementsFrom_eq {fuel more : ℕ} {text : List Char} (enough : text.length ≤ fuel)
    (enoughMore : text.length ≤ more) :
    grammar.statementsFrom fuel text = grammar.statementsFrom more text := by
  induction fuel generalizing more text with
  | zero =>
      cases text with
      | nil => simp [statementsFrom]
      | cons character text => simp at enough
  | succ fuel ih =>
      cases text with
      | nil => simp [statementsFrom]
      | cons character text =>
          cases more with
          | zero => simp at enoughMore
          | succ more =>
              simp only [List.length_cons] at enough enoughMore
              simp only [statementsFrom, List.length_cons]
              split
              · rename_i read rest found
                split
                · rename_i shorter
                  have same : grammar.statementsFrom fuel rest = grammar.statementsFrom more rest :=
                    ih (by omega) (by omega)
                  rw [same]
                · rfl
              · rfl

@[simp] theorem statements_nil : grammar.statements [] = some [] := rfl

/-- A document is its first expression and the document behind it. -/
theorem statements_of_readExpression {text rest : List Char} {read : List (Statement Other)}
    (first : grammar.readExpression text = some (read, rest))
    (shorter : rest.length < text.length) :
    grammar.statements text = (grammar.statements rest).map (read ++ ·) := by
  cases text with
  | nil => simp at shorter
  | cons character text =>
      simp only [statements, List.length_cons, statementsFrom, first]
      rw [if_pos (by simpa using shorter)]
      rw [statementsFrom_eq (Nat.lt_succ_iff.mp (by simpa using shorter)) le_rfl]

theorem exists_readExpression {text : List Char} {all : List (Statement Other)}
    (nonempty : text ≠ []) (read : grammar.statements text = some all) :
    ∃ first rest more, grammar.readExpression text = some (first, rest) ∧ all = first ++ more := by
  cases text with
  | nil => exact absurd rfl nonempty
  | cons character text =>
      simp only [statements, List.length_cons, statementsFrom] at read
      split at read
      · rename_i first rest found
        split at read
        · rcases Option.map_eq_some_iff.mp read with ⟨more, -, rfl⟩
          exact ⟨first, rest, more, found, rfl⟩
        · exact absurd read (by simp)
      · exact absurd read (by simp)

/-- The text is whole lines of a document, which read as the statements whatever stands below. -/
def ReadsAs (grammar : Grammar Other) (text : List Char) (above : List (Statement Other)) : Prop :=
  ∀ below, grammar.statements (text ++ below) = (grammar.statements below).map (above ++ ·)

/-- A line that gives a key a basic string. -/
def stringLine (key body : List Char) : List Char :=
  key ++ ' ' :: '=' :: ' ' :: '"' :: (body ++ ['"'])

/-- What the TOML documentation says about the parts that are left to the grammar: a multi-line
string is delimited by three quotation marks and no escape in it is shorter than what it stands for,
and a document may consist of a single key. -/
structure Documented (grammar : Grammar Other) : Prop where
  multiline : ∀ key text read rest, isKey key = true →
    grammar.expression (key ++ ' ' :: '=' :: ' ' :: '"' :: '"' :: '"' :: text) =
      some (read, rest) →
    ∃ content, read = [.pair key (.string content)] ∧ content.length + 3 ≤ text.length
  single : ∀ key, isKey key = true → grammar.valid [.pair key (.string [])] = true

theorem stringLine_append (key body below : List Char) :
    stringLine key body ++ below = key ++ ' ' :: '=' :: ' ' :: '"' :: (body ++ '"' :: below) := by
  simp [stringLine]

theorem ne_of_isKeyChar {character other : Char} (inKey : isKeyChar character = true)
    (foreign : isKeyChar other = false) : character ≠ other := by
  rintro rfl
  exact absurd inKey (by simp [foreign])

theorem not_isBlank_of_isKeyChar {character : Char} (inKey : isKeyChar character = true) :
    ¬isBlank character = true := by
  intro blank
  simp only [isBlank, Bool.or_eq_true, beq_iff_eq] at blank
  rcases blank with space | tab
  · exact ne_of_isKeyChar inKey (by decide) space
  · exact ne_of_isKeyChar inKey (by decide) tab

theorem exists_cons_of_isKey {key : List Char} (isKey : isKey key = true) :
    ∃ first more, key = first :: more ∧ isKeyChar first = true := by
  cases key with
  | nil => exact absurd isKey (by decide)
  | cons first more =>
      simp only [Toml.isKey, List.all_cons, Bool.and_eq_true] at isKey
      exact ⟨first, more, rfl, isKey.1.1⟩

theorem keyAndQuote_of_isKey {key : List Char} (isKey : isKey key = true) (rest : List Char) :
    keyAndQuote (key ++ ' ' :: '=' :: ' ' :: '"' :: rest) = some (key, rest) := by
  rcases exists_cons_of_isKey isKey with ⟨first, more, rfl, firstInKey⟩
  have inKey : ∀ character ∈ first :: more, isKeyChar character = true := by
    simp only [Toml.isKey, Bool.and_eq_true] at isKey
    exact List.all_eq_true.mp isKey.1
  have stop : ∀ character ∈ (' ' :: '=' :: ' ' :: '"' :: rest).head?,
      isKeyChar character = false := by
    simp [isKeyChar]
  have key := Text.takeWhile_run inKey stop
  have afterKey := Text.dropWhile_run inKey stop
  have trimmed := List.dropWhile_cons_of_neg (l := more ++ ' ' :: '=' :: ' ' :: '"' :: rest)
    (not_isBlank_of_isKeyChar firstInKey)
  simp only [List.cons_append] at key afterKey ⊢
  simp [keyAndQuote, trimmed, key, afterKey, isBlank, isKey]

theorem lineEnd_of_isKey {key : List Char} (isKey : isKey key = true) (rest : List Char) :
    lineEnd (key ++ rest) = none := by
  rcases exists_cons_of_isKey isKey with ⟨first, more, rfl, firstInKey⟩
  have notHash : first ≠ '#' := ne_of_isKeyChar firstInKey (by decide)
  have notNewline : first ≠ '\n' := ne_of_isKeyChar firstInKey (by decide)
  have notReturn : first ≠ '\r' := ne_of_isKeyChar firstInKey (by decide)
  have trimmed := List.dropWhile_cons_of_neg (l := more ++ rest)
    (not_isBlank_of_isKeyChar firstInKey)
  simp [lineEnd, trimmed, notHash, newline, notNewline, notReturn]

theorem statements_newline (below : List Char) :
    grammar.statements ('\n' :: below) = grammar.statements below := by
  have blank : grammar.readExpression ('\n' :: below) = some ([], below) := by
    simp [readExpression, Toml.lineEnd, isBlank, newline]
  rw [statements_of_readExpression blank (by simp)]
  simp

theorem readExpression_stringLine (grammar : Grammar Other) {key : List Char}
    (isKey : isKey key = true) (body below : List Char) :
    grammar.readExpression (stringLine key body ++ below) =
      if ['"', '"'].isPrefixOf (body ++ '"' :: below) then
        grammar.expression (stringLine key body ++ below)
      else
        match basicString .text (body ++ '"' :: below) with
        | some (content, after) =>
            (Toml.lineEnd after).map fun rest => ([.pair key (.string content)], rest)
        | none => none := by
  simp only [readExpression, stringLine_append, lineEnd_of_isKey isKey, keyAndQuote_of_isKey isKey]

theorem not_multiline_of_isPlain {body below : List Char} (plain : IsPlain body)
    (ends : EndsLine below) : ['"', '"'].isPrefixOf (body ++ '"' :: below) = false := by
  cases body with
  | nil =>
      rcases ends with rfl | ⟨below, rfl⟩
      · rfl
      · simp [List.isPrefixOf]
  | cons character body =>
      have notQuote : character ≠ '"' := ne_of_isUnescaped (isPlain_cons.mp plain).1 (by decide)
      simp [List.isPrefixOf, notQuote.symm]

/-- A line whose string is plain gives its key that string. -/
theorem statements_stringLine (grammar : Grammar Other) {key body below : List Char}
    (isKey : isKey key = true) (plain : IsPlain body) (ends : EndsLine below) :
    grammar.statements (stringLine key body ++ below) =
      (grammar.statements below).map (.pair key (.string body) :: ·) := by
  have read := readExpression_stringLine grammar isKey body below
  rw [not_multiline_of_isPlain plain ends, basicString_of_isPlain plain] at read
  rcases ends with rfl | ⟨below, rfl⟩
  · have last : grammar.readExpression (stringLine key body ++ []) =
        some ([.pair key (.string body)], []) := read
    rw [statements_of_readExpression last (by simp [stringLine])]
    rfl
  · have line : grammar.readExpression (stringLine key body ++ '\n' :: below) =
        some ([.pair key (.string body)], below) := by
      rw [read]
      simp [Toml.lineEnd, isBlank, newline]
    rw [statements_of_readExpression line (by simp [stringLine]; omega), statements_newline]
    rfl

/-- A document of one line gives its key the text between the quotation marks only where that is
plain. -/
theorem isPlain_of_statements {key body : List Char} (documented : grammar.Documented)
    (isKey : isKey key = true)
    (read : grammar.statements (stringLine key body) = some [.pair key (.string body)]) :
    IsPlain body := by
  rcases exists_readExpression (by simp [stringLine]) read with ⟨first, rest, more, found, same⟩
  have line := readExpression_stringLine grammar isKey body []
  rw [List.append_nil, found] at line
  split at line
  · rename_i multiline
    rcases List.isPrefixOf_iff_prefix.mp multiline with ⟨text, opened⟩
    have lengths := congrArg List.length opened
    have shape : stringLine key body = key ++ ' ' :: '=' :: ' ' :: '"' :: '"' :: '"' :: text := by
      have behind : '"' :: '"' :: text = body ++ ['"'] := opened
      rw [stringLine, ← behind]
    rw [shape] at line
    rcases documented.multiline key text first rest isKey line.symm with ⟨content, rfl, short⟩
    simp only [List.cons_append, List.nil_append, List.cons.injEq, Statement.pair.injEq,
      Value.string.injEq, true_and] at same
    rw [← same.1] at short
    simp only [List.length_append, List.length_cons, List.length_nil] at lengths
    omega
  · split at line
    · rename_i content after readString
      rcases Option.map_eq_some_iff.mp line.symm with ⟨rest, -, pairs⟩
      simp only [Prod.mk.injEq] at pairs
      rw [← pairs.1] at same
      simp only [List.cons_append, List.nil_append, List.cons.injEq, Statement.pair.injEq,
        Value.string.injEq, true_and] at same
      refine isPlain_of_basicString (.inl rfl) readString ?_
      rw [← same.1]
    · exact absurd line (by simp)

end Grammar

end Documents

end AxumConf.Toml
