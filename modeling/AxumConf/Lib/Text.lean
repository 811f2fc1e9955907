import Mathlib.Data.List.Basic
import Mathlib.Data.List.DropRight
import Mathlib.Data.List.TakeDrop
import Mathlib.Data.List.TakeWhile
import Mathlib.Data.String.Basic

/-!
# Text operations

String slices as lists of characters: the operations of a string library that a translated program
reads its input with, written so that they compute.
-/

namespace AxumConf.Text

/-- The characters with the Unicode property `White_Space`. -/
def isWhitespace (character : Char) : Bool :=
  let code := character.toNat
  (9 ≤ code && code ≤ 13) || code == 0x20 || code == 0x85 || code == 0xA0 || code == 0x1680 ||
    (0x2000 ≤ code && code ≤ 0x200A) || code == 0x2028 || code == 0x2029 || code == 0x202F ||
    code == 0x205F || code == 0x3000

def trim (text : String) : String :=
  String.ofList
    (((text.toList.dropWhile isWhitespace).reverse.dropWhile isWhitespace).reverse)

def startsWith (text head : String) : Bool :=
  head.toList.isPrefixOf text.toList

def stripPrefix (text head : String) : Option String :=
  if startsWith text head then some (String.ofList (text.toList.drop head.toList.length)) else none

def endsWith (text : String) (character : Char) : Bool :=
  text.toList.getLast? == some character

/-- The text without the run of `character` at its end. -/
def trimEndMatches (text : String) (character : Char) : String :=
  String.ofList (text.toList.rdropWhile (· == character))

def contains (text pattern : String) : Bool :=
  text.toList.tails.any fun rest => pattern.toList.isPrefixOf rest

def split (text : String) (separator : Char) : List String :=
  (text.toList.splitOn separator).map String.ofList

/-- The parts before and after the first `separator`. -/
def splitOnce (text : String) (separator : Char) : Option (String × String) :=
  match text.toList.span (· != separator) with
  | (before, _ :: after) => some (String.ofList before, String.ofList after)
  | (_, []) => none

theorem startsWith_iff {text head : String} :
    startsWith text head = true ↔ ∃ rest, text = head ++ rest := by
  simp only [startsWith, List.isPrefixOf_iff_prefix]
  constructor
  · rintro ⟨rest, append⟩
    refine ⟨String.ofList rest, ?_⟩
    apply String.toList_inj.mp
    simp [append]
  · rintro ⟨rest, rfl⟩
    exact ⟨rest.toList, by simp⟩

theorem startsWith_append (head rest : String) : startsWith (head ++ rest) head = true :=
  startsWith_iff.mpr ⟨rest, rfl⟩

theorem stripPrefix_eq_some_iff {text head rest : String} :
    stripPrefix text head = some rest ↔ text = head ++ rest := by
  unfold stripPrefix
  constructor
  · intro stripped
    split at stripped
    · rename_i starts
      rcases startsWith_iff.mp starts with ⟨behind, rfl⟩
      simp at stripped
      rw [stripped]
    · cases stripped
  · rintro rfl
    simp [startsWith_append]

theorem stripPrefix_eq_none_iff {text head : String} :
    stripPrefix text head = none ↔ startsWith text head = false := by
  unfold stripPrefix
  cases startsWith text head with
  | true => simp
  | false => simp

theorem endsWith_iff {text : String} {character : Char} :
    endsWith text character = true ↔ ∃ front, text = front ++ String.ofList [character] := by
  simp only [endsWith, beq_iff_eq, List.getLast?_eq_some_iff]
  constructor
  · rintro ⟨front, whole⟩
    refine ⟨String.ofList front, ?_⟩
    apply String.toList_inj.mp
    simp [whole]
  · rintro ⟨front, rfl⟩
    exact ⟨front.toList, by simp⟩

theorem trimEndMatches_eq_self_iff {text : String} {character : Char} :
    trimEndMatches text character = text ↔ endsWith text character = false := by
  have onLists : trimEndMatches text character = text ↔
      text.toList.rdropWhile (· == character) = text.toList := by
    rw [trimEndMatches, ← String.toList_inj, String.toList_ofList]
  rw [onLists, List.rdropWhile_eq_self_iff, endsWith]
  cases text.toList using List.reverseRecOn with
  | nil => simp
  | append_singleton front last => simp

/-- What is left of a text without blanks around it. -/
theorem trim_toList (text : String) : ∃ left right,
    text.toList = left ++ ((trim text).toList ++ right) ∧
      (∀ symbol ∈ left ++ right, isWhitespace symbol = true) := by
  have front := List.takeWhile_append_dropWhile (p := isWhitespace) (l := text.toList)
  have back := List.takeWhile_append_dropWhile (p := isWhitespace)
    (l := (text.toList.dropWhile isWhitespace).reverse)
  refine ⟨text.toList.takeWhile isWhitespace,
    ((text.toList.dropWhile isWhitespace).reverse.takeWhile isWhitespace).reverse, ?_, ?_⟩
  · have whole := congrArg List.reverse back
    rw [List.reverse_append, List.reverse_reverse] at whole
    rw [trim, String.toList_ofList, whole, front]
  · intro symbol member
    rcases List.mem_append.mp member with inFront | behind
    · exact List.mem_takeWhile_imp inFront
    · exact List.mem_takeWhile_imp (List.mem_reverse.mp behind)

theorem mem_trim {text : String} {symbol : Char} (member : symbol ∈ text.toList)
    (visible : isWhitespace symbol = false) : symbol ∈ (trim text).toList := by
  rcases trim_toList text with ⟨left, right, whole, blank⟩
  rw [whole, List.mem_append, List.mem_append] at member
  rcases member with inFront | inside | behind
  · rw [blank symbol (List.mem_append_left right inFront)] at visible
    cases visible
  · exact inside
  · rw [blank symbol (List.mem_append_right left behind)] at visible
    cases visible

theorem trim_infix (text : String) : (trim text).toList <:+: text.toList := by
  rcases trim_toList text with ⟨left, right, whole, -⟩
  exact ⟨left, right, by rw [whole, List.append_assoc]⟩

section Runs

variable {Symbol : Type*} {holds : Symbol → Bool} {run rest : List Symbol}

theorem takeWhile_run (all : ∀ symbol ∈ run, holds symbol = true)
    (stop : ∀ symbol ∈ rest.head?, holds symbol = false) : (run ++ rest).takeWhile holds = run := by
  rw [List.takeWhile_append_of_pos all]
  cases rest with
  | nil => simp
  | cons symbol _ => simp [stop symbol (by simp)]

theorem dropWhile_run (all : ∀ symbol ∈ run, holds symbol = true)
    (stop : ∀ symbol ∈ rest.head?, holds symbol = false) :
    (run ++ rest).dropWhile holds = rest := by
  rw [List.dropWhile_append_of_pos all]
  cases rest with
  | nil => simp
  | cons symbol _ => simp [stop symbol (by simp)]

theorem drop_length_takeWhile (holds : Symbol → Bool) (symbols : List Symbol) :
    symbols.drop (symbols.takeWhile holds).length = symbols.dropWhile holds := by
  have parts := List.takeWhile_append_dropWhile (p := holds) (l := symbols)
  have dropped := @List.drop_left _ (symbols.takeWhile holds) (symbols.dropWhile holds)
  rw [parts] at dropped
  exact dropped

theorem length_takeWhile_add_dropWhile (holds : Symbol → Bool) (symbols : List Symbol) :
    (symbols.takeWhile holds).length + (symbols.dropWhile holds).length = symbols.length := by
  rw [← List.length_append, List.takeWhile_append_dropWhile]

end Runs

section Separators

variable {Symbol : Type*} [BEq Symbol] [LawfulBEq Symbol] {separator stop : Symbol}
  {symbols rest : List Symbol}

theorem not_mem_takeWhile_ne : separator ∉ symbols.takeWhile (· != separator) := by
  intro member
  have passes := List.mem_takeWhile_imp member
  simp at passes

theorem eq_of_dropWhile_ne (later : symbols.dropWhile (· != separator) = stop :: rest) :
    stop = separator := by
  have stopped := List.head?_dropWhile_not (· != separator) symbols
  rw [later] at stopped
  simpa using stopped

/-- Induction along the pieces between separators. -/
theorem pieces_induction (separator : Symbol) {motive : List Symbol → Prop}
    (last : ∀ piece, separator ∉ piece → motive piece)
    (more : ∀ piece rest, separator ∉ piece → motive rest → motive (piece ++ separator :: rest))
    (symbols : List Symbol) : motive symbols := by
  induction length : symbols.length using Nat.strongRecOn generalizing symbols with
  | _ _ ih =>
      have parts := List.takeWhile_append_dropWhile (p := (· != separator)) (l := symbols)
      have absent : separator ∉ symbols.takeWhile (· != separator) := not_mem_takeWhile_ne
      cases later : symbols.dropWhile (· != separator) with
      | nil =>
          rw [later, List.append_nil] at parts
          rw [parts] at absent
          exact last symbols absent
      | cons stop rest =>
          rw [later, eq_of_dropWhile_ne later] at parts
          rw [← parts]
          apply more _ rest absent
          apply ih _ _ rest rfl
          rw [← length, ← parts, List.length_append, List.length_cons]
          omega

end Separators

theorem infix_of_mem_splitOn {Symbol : Type*} [BEq Symbol] [LawfulBEq Symbol]
    {separator : Symbol} {symbols piece : List Symbol}
    (isPiece : piece ∈ symbols.splitOn separator) : piece <:+: symbols := by
  induction symbols using pieces_induction separator with
  | last symbols absent =>
      rw [List.splitOn_eq_singleton absent, List.mem_singleton] at isPiece
      subst isPiece
      exact List.infix_refl piece
  | more first rest absent ih =>
      rw [List.splitOn_append_cons_self_of_not_mem absent rest] at isPiece
      rcases List.mem_cons.mp isPiece with rfl | later
      · exact List.infix_append_left
      · exact (ih later).trans (List.infix_append_of_infix_right (List.infix_cons List.infix_rfl))

/-- The text before the separator does not hold it, and the one after is what is left. -/
theorem splitOnce_eq_some_iff {text before after : String} {separator : Char} :
    splitOnce text separator = some (before, after) ↔
      separator ∉ before.toList ∧ text.toList = before.toList ++ separator :: after.toList := by
  unfold splitOnce
  rw [List.span_eq_takeWhile_dropWhile]
  constructor
  · intro isSplit
    split at isSplit
    · rename_i ahead stop rest parts
      simp only [Prod.mk.injEq] at parts
      simp only [Option.some.injEq, Prod.mk.injEq] at isSplit
      rcases isSplit with ⟨rfl, rfl⟩
      rcases parts with ⟨rfl, isRest⟩
      have isStop := eq_of_dropWhile_ne isRest
      subst isStop
      constructor
      · rw [String.toList_ofList]
        exact not_mem_takeWhile_ne
      · rw [String.toList_ofList, String.toList_ofList, ← isRest, List.takeWhile_append_dropWhile]
    · cases isSplit
  · rintro ⟨absent, whole⟩
    have all : ∀ symbol ∈ before.toList, (symbol != separator) = true := by
      intro symbol member
      rw [bne_iff_ne]
      rintro rfl
      exact absent member
    have stop : ∀ symbol ∈ (separator :: after.toList).head?, (symbol != separator) = false := by
      simp
    simp only [whole, takeWhile_run all stop, dropWhile_run all stop, String.ofList_toList]

theorem not_mem_of_mem_splitOn {Symbol : Type*} [BEq Symbol] [LawfulBEq Symbol]
    {separator : Symbol} {symbols piece : List Symbol}
    (isPiece : piece ∈ symbols.splitOn separator) : separator ∉ piece := by
  induction symbols generalizing piece with
  | nil =>
      simp only [List.splitOn_nil, List.mem_singleton] at isPiece
      simp [isPiece]
  | cons symbol rest ih =>
      rw [List.splitOn_cons_eq_if_modifyHead] at isPiece
      split at isPiece
      · rcases List.mem_cons.mp isPiece with rfl | later
        · simp
        · exact ih later
      · rename_i different
        cases pieces : rest.splitOn separator with
        | nil => exact absurd pieces (List.splitOn_ne_nil separator rest)
        | cons first later =>
            rw [pieces] at ih isPiece
            rcases List.mem_cons.mp isPiece with rfl | isLater
            · intro member
              rcases List.mem_cons.mp member with rfl | inFirst
              · simp at different
              · exact ih List.mem_cons_self inFirst
            · exact ih (List.mem_cons_of_mem _ isLater)

/-- The text before the first separator is a piece. -/
theorem takeWhile_mem_splitOn {Symbol : Type*} [BEq Symbol] [LawfulBEq Symbol]
    {separator : Symbol} (symbols : List Symbol) :
    symbols.takeWhile (· != separator) ∈ symbols.splitOn separator := by
  have absent : separator ∉ symbols.takeWhile (· != separator) := not_mem_takeWhile_ne
  have parts := List.takeWhile_append_dropWhile (p := (· != separator)) (l := symbols)
  cases later : symbols.dropWhile (· != separator) with
  | nil =>
      rw [later, List.append_nil] at parts
      rw [parts] at absent ⊢
      rw [List.splitOn_eq_singleton absent]
      exact List.mem_singleton_self symbols
  | cons stop rest =>
      rw [later, eq_of_dropWhile_ne later] at parts
      have pieces := List.splitOn_append_cons_self_of_not_mem absent rest
      rw [parts] at pieces
      rw [pieces]
      exact List.mem_cons_self

end AxumConf.Text
