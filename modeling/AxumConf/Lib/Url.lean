import Mathlib.Data.List.DropRight
import Mathlib.Data.String.Basic

/-!
# Where a reference leads

The states of the URL standard's parser that decide about the origin of a string which is resolved
against an `http` or `https` URL.  Only the origin is kept; the parsers of authorities and of
strings with a scheme of their own are parameters.
-/

namespace AxumConf.Url

inductive Scheme where
  | http
  | https
  deriving DecidableEq, Repr

structure Origin where
  scheme : Scheme
  host : String
  port : Option ℕ
  deriving DecidableEq, Repr

structure Parser where
  /-- Host and port of an authority, unless it is invalid. -/
  authority : Scheme → List Char → Option (String × Option ℕ)
  /-- The origin of a string that starts with a letter, as schemes do. -/
  schemeStart : Origin → List Char → Option Origin

def isTabOrNewline (character : Char) : Bool :=
  character == '\t' || character == '\n' || character == '\r'

def isC0OrSpace (character : Char) : Bool :=
  character.toNat ≤ 32

/-- In URLs with a special scheme the backslash separates like the slash. -/
def isSlash (character : Char) : Bool :=
  character == '/' || character == '\\'

def endsAuthority (character : Char) : Bool :=
  isSlash character || character == '?' || character == '#'

def preprocess (input : List Char) : List Char :=
  ((input.dropWhile isC0OrSpace).rdropWhile isC0OrSpace).filter fun character =>
    !isTabOrNewline character

section States

variable (parser : Parser) (base : Origin)

def authorityState (input : List Char) : Option Origin :=
  (parser.authority base.scheme (input.takeWhile fun character => !endsAuthority character)).map
    fun (host, port) => { scheme := base.scheme, host, port }

def specialAuthorityIgnoreSlashesState (input : List Char) : Option Origin :=
  authorityState parser base (input.dropWhile isSlash)

def relativeSlashState : List Char → Option Origin
  | [] => some base
  | character :: rest =>
      if isSlash character then specialAuthorityIgnoreSlashesState parser base rest else some base

def relativeState : List Char → Option Origin
  | [] => some base
  | character :: rest =>
      if isSlash character then relativeSlashState parser base rest else some base

/-- The origin of the string resolved against a base of the given origin, unless it is invalid. -/
def resolve (input : String) : Option Origin :=
  match preprocess input.toList with
  | [] => some base
  | character :: rest =>
      if character.isAlpha then parser.schemeStart base (character :: rest)
      else relativeState parser base (character :: rest)

end States

/-- Whatever `http` or `https` URL the string is resolved against, it has the same origin. -/
def StaysOnOrigin (parser : Parser) (input : String) : Prop :=
  ∀ base, resolve parser base input = some base

/-- Once tabs and newlines are gone, the first character is followed by a slash or backslash. -/
def HidesSlash (input : String) : Prop :=
  ∃ character, ((input.toList.drop 1).find? fun other => !isTabOrNewline other) = some character ∧
    isSlash character = true

variable {parser : Parser} {base : Origin} {rest : List Char}

theorem not_isC0OrSpace_of_isSlash {character : Char} (slash : isSlash character = true) :
    isC0OrSpace character = false := by
  simp only [isSlash, Bool.or_eq_true, beq_iff_eq] at slash
  rcases slash with rfl | rfl
  · decide
  · decide

theorem rdropWhile_cons_of_not {holds : Char → Bool} {first : Char} (stays : holds first = false) :
    (first :: rest).rdropWhile holds = first :: rest.rdropWhile holds := by
  induction rest using List.reverseRecOn with
  | nil => simp [List.rdropWhile_singleton, stays]
  | append_singleton front last ih =>
      rw [← List.cons_append, List.rdropWhile_concat, List.rdropWhile_concat]
      split
      · exact ih
      · rfl

/-- What trimming cuts off does not change which slash comes first. -/
theorem find_rdropWhile_slash (holds : Char → Bool) :
    ((rest.rdropWhile isC0OrSpace).find? holds).any isSlash = (rest.find? holds).any isSlash := by
  have parts := @List.rdropWhile_append_rtakeWhile _ isC0OrSpace rest
  conv_rhs => rw [← parts, List.find?_append]
  cases kept : (rest.rdropWhile isC0OrSpace).find? holds with
  | some character => rfl
  | none =>
      cases cut : (rest.rtakeWhile isC0OrSpace).find? holds with
      | none => rfl
      | some character =>
          have isCut := List.mem_rtakeWhile_imp (List.mem_of_find?_eq_some cut)
          cases slash : isSlash character with
          | false => simp [slash]
          | true => simp [not_isC0OrSpace_of_isSlash slash] at isCut

/-- A path is resolved as what follows its first slash in the preprocessed string. -/
theorem resolve_path {path : String} (isPath : path.toList = '/' :: rest) :
    resolve parser base path = relativeSlashState parser base
      ((rest.rdropWhile isC0OrSpace).filter fun other => !isTabOrNewline other) := by
  have preprocessed : preprocess path.toList =
      '/' :: (rest.rdropWhile isC0OrSpace).filter fun other => !isTabOrNewline other := by
    rw [preprocess, isPath, List.dropWhile_cons_of_neg (by decide),
      rdropWhile_cons_of_not (by decide), List.filter_cons_of_pos (by decide)]
  have notLetter : Char.isAlpha '/' = false := by decide
  have separates : isSlash '/' = true := by decide
  simp only [resolve, preprocessed, notLetter, relativeState, separates, if_true,
    Bool.false_eq_true, if_false]

theorem hidesSlash_path {path : String} (isPath : path.toList = '/' :: rest) :
    HidesSlash path ↔
      (((rest.rdropWhile isC0OrSpace).filter fun other => !isTabOrNewline other).head?).any
        isSlash = true := by
  rw [List.head?_filter, find_rdropWhile_slash, Option.any_eq_true]
  simp only [HidesSlash, isPath, List.drop_succ_cons, List.drop_zero]

/-- Behind two slashes stands an authority of its own, so one of two bases is left. -/
theorem exists_authorityState_ne (input : List Char) :
    ∃ other, authorityState parser other input ≠ some other := by
  cases parsed : parser.authority .http
      (input.takeWhile fun character => !endsAuthority character) with
  | none =>
      refine ⟨{ scheme := .http, host := "a.example", port := none }, ?_⟩
      simp [authorityState, parsed]
  | some authority =>
      rcases authority with ⟨host, port⟩
      by_cases same : host = "a.example"
      · refine ⟨{ scheme := .http, host := "b.example", port := none }, ?_⟩
        simp [authorityState, parsed, same]
      · refine ⟨{ scheme := .http, host := "a.example", port := none }, ?_⟩
        simp [authorityState, parsed, same]

/-- A path leads to the origin of every base unless a second slash shows once tabs and newlines are
gone. -/
theorem staysOnOrigin_path_iff {path : String} (isPath : path.toList = '/' :: rest) :
    StaysOnOrigin parser path ↔ ¬HidesSlash path := by
  rw [hidesSlash_path isPath]
  simp only [StaysOnOrigin, resolve_path isPath]
  cases (rest.rdropWhile isC0OrSpace).filter fun other => !isTabOrNewline other with
  | nil => simp [relativeSlashState]
  | cons character tail =>
      simp only [relativeSlashState, List.head?_cons, Option.any_some]
      cases slash : isSlash character with
      | false => simp
      | true =>
          simp only [if_true, not_true_eq_false, iff_false, not_forall]
          exact exists_authorityState_ne _

end AxumConf.Url
