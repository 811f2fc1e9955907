import AxumConf.Config.Error
import AxumConf.Lib.Substitution
import AxumConf.Lib.Text
import Mathlib.Data.List.Induction

/-!
# Loading a configuration

A configuration is a TOML text in which placeholders name variables of the environment.  The
entry points substitute them and hand the text to the TOML parser, which is outside the repository
and enters as a parameter.  What a substitution looks up in the environment is recorded with its
result: `from_toml` substitutes before it calls `parse`, and `from_str` behind `parse` substitutes
once more, so that placeholders which the values bring along are expanded as well.
-/

namespace AxumConf

section Placeholders

/-- `[A-Z0-9_]`. -/
def isVariableChar (character : Char) : Bool :=
  let code := character.toNat
  (0x41 ≤ code && code ≤ 0x5A) || (0x30 ≤ code && code ≤ 0x39) || code == 0x5F

/-- `HANDLEBAR_REGEXP`, matched at the front of a text. -/
def handlebarRegexp : Pattern Char (List Char)
  | '{' :: '{' :: opened =>
      let trimmed := opened.dropWhile Text.isWhitespace
      let name := trimmed.takeWhile isVariableChar
      match name, (trimmed.dropWhile isVariableChar).dropWhile Text.isWhitespace with
      | _ :: _, '}' :: '}' :: after => some (name, opened.length - after.length + 1)
      | _, _ => none
  | _ => none

/-- The placeholder of a variable: its name between double braces, with blanks around it. -/
def IsPlaceholder (name placeholder : List Char) : Prop :=
  ∃ left right, placeholder = '{' :: '{' :: (left ++ (name ++ (right ++ ['}', '}']))) ∧
    name ≠ [] ∧ name.all isVariableChar = true ∧ (left ++ right).all Text.isWhitespace = true

/-- A placeholder stands somewhere in the text. -/
def HasPlaceholder (text : List Char) : Prop :=
  ∃ before name placeholder after, text = before ++ (placeholder ++ after) ∧
    IsPlaceholder name placeholder

theorem not_isWhitespace_of_isVariableChar {character : Char}
    (isVariable : isVariableChar character = true) : ¬Text.isWhitespace character = true := by
  simp only [isVariableChar, Text.isWhitespace, Bool.or_eq_true, Bool.and_eq_true, beq_iff_eq,
    decide_eq_true_eq] at isVariable ⊢
  omega

theorem handlebarRegexp_placeholder {name placeholder : List Char}
    (isPlaceholder : IsPlaceholder name placeholder) (after : List Char) :
    handlebarRegexp (placeholder ++ after) = some (name, placeholder.length - 1) := by
  rcases isPlaceholder with ⟨left, right, rfl, nonempty, isVariable, isBlank⟩
  rw [List.all_eq_true] at isVariable isBlank
  cases name with
  | nil => exact absurd rfl nonempty
  | cons first more =>
      have afterLeft : (left ++ (first :: more ++ (right ++ '}' :: '}' :: after))).dropWhile
          Text.isWhitespace = first :: more ++ (right ++ '}' :: '}' :: after) := by
        refine Text.dropWhile_run (fun blank member => isBlank blank (by simp [member])) ?_
        simpa using not_isWhitespace_of_isVariableChar (isVariable first (by simp))
      have stop : ∀ symbol ∈ (right ++ '}' :: '}' :: after).head?,
          isVariableChar symbol = false := by
        cases right with
        | nil => simp [isVariableChar]
        | cons blank _ =>
            simp only [List.cons_append, List.head?_cons, Option.mem_def, Option.some.injEq,
              forall_eq']
            by_contra isVariable
            exact not_isWhitespace_of_isVariableChar (by simpa using isVariable)
              (isBlank blank (by simp))
      have afterName := Text.dropWhile_run isVariable stop
      have name := Text.takeWhile_run isVariable stop
      have afterRight : (right ++ '}' :: '}' :: after).dropWhile Text.isWhitespace =
          '}' :: '}' :: after :=
        Text.dropWhile_run (fun blank member => isBlank blank (by simp [member]))
          (by simp [Text.isWhitespace])
      simp only [List.cons_append, List.append_assoc, List.nil_append] at afterLeft afterName name ⊢
      simp only [handlebarRegexp, afterLeft, afterName, name, afterRight]
      simp only [List.length_append, List.length_cons, Option.some.injEq, Prod.mk.injEq, true_and,
        List.length_nil]
      omega

theorem replaceAll_placeholder {value : List Char → List Char} {name placeholder : List Char}
    (isPlaceholder : IsPlaceholder name placeholder) (rest : List Char) :
    handlebarRegexp.replaceAll value (placeholder ++ rest) =
      value name ++ handlebarRegexp.replaceAll value rest := by
  have isMatch := handlebarRegexp_placeholder isPlaceholder rest
  cases placeholder with
  | nil =>
      rcases isPlaceholder with ⟨left, right, shape, -⟩
      cases shape
  | cons first more =>
      rw [List.cons_append] at isMatch ⊢
      simp only [Pattern.replaceAll, Pattern.pieces_of_match isMatch, List.flatMap_cons,
        Piece.write, List.length_cons, Nat.add_sub_cancel, List.drop_left]

theorem placeholder_of_handlebarRegexp {text name : List Char} {more : ℕ}
    (isMatch : handlebarRegexp text = some (name, more)) :
    ∃ placeholder after, text = placeholder ++ after ∧ IsPlaceholder name placeholder := by
  simp only [handlebarRegexp] at isMatch
  split at isMatch
  · rename_i opened
    generalize trimmed_eq : opened.dropWhile Text.isWhitespace = trimmed at isMatch
    split at isMatch
    · rename_i first others after named closed
      rw [named] at isMatch
      simp only [Option.some.injEq, Prod.mk.injEq] at isMatch
      rcases isMatch with ⟨rfl, -⟩
      refine ⟨'{' :: '{' :: (opened.takeWhile Text.isWhitespace ++ (first :: others ++
        ((trimmed.dropWhile isVariableChar).takeWhile Text.isWhitespace ++ ['}', '}']))), after,
        ?_, _, _, rfl, by simp, ?_, ?_⟩
      · have parts := List.takeWhile_append_dropWhile
          (p := Text.isWhitespace) (l := trimmed.dropWhile isVariableChar)
        rw [closed] at parts
        have name := List.takeWhile_append_dropWhile (p := isVariableChar) (l := trimmed)
        rw [named, ← parts] at name
        have front := List.takeWhile_append_dropWhile (p := Text.isWhitespace) (l := opened)
        rw [trimmed_eq, ← name] at front
        simpa using front.symm
      · rw [← named]
        exact List.all_takeWhile
      · rw [List.all_append, List.all_takeWhile, List.all_takeWhile]
        rfl
    · exact absurd isMatch (by simp)
  · exact absurd isMatch (by simp)

/-- The scanner stops at a placeholder exactly where one stands. -/
theorem handlebarRegexp_occurs_iff {text : List Char} :
    handlebarRegexp.Occurs text ↔ HasPlaceholder text := by
  constructor
  · rintro ⟨before, found, rfl, -, isMatch⟩
    rcases Option.isSome_iff_exists.mp isMatch with ⟨⟨name, more⟩, isMatch⟩
    rcases placeholder_of_handlebarRegexp isMatch with ⟨placeholder, after, rfl, isPlaceholder⟩
    exact ⟨before, name, placeholder, after, rfl, isPlaceholder⟩
  · rintro ⟨before, name, placeholder, after, rfl, isPlaceholder⟩
    refine ⟨before, placeholder ++ after, rfl, ?_, ?_⟩
    · rcases isPlaceholder with ⟨left, right, rfl, -⟩
      simp
    · simp [handlebarRegexp_placeholder isPlaceholder]

theorem captures_eq_nil_iff {text : List Char} :
    handlebarRegexp.captures text = [] ↔ ¬HasPlaceholder text := by
  rw [Pattern.captures_eq_nil_iff, handlebarRegexp_occurs_iff]

instance (text : List Char) : Decidable (HasPlaceholder text) :=
  decidable_of_iff (handlebarRegexp.captures text ≠ [])
    (by rw [ne_eq, captures_eq_nil_iff, not_not])

/-- A run without an opening brace is copied. -/
theorem handlebarRegexp_replaceAll_run (value : List Char → List Char) {run : List Char}
    (noBrace : '{' ∉ run) (rest : List Char) :
    handlebarRegexp.replaceAll value (run ++ rest) =
      run ++ handlebarRegexp.replaceAll value rest := by
  refine Pattern.replaceAll_literals ?_ rest
  intro character member rest
  have notBrace : character ≠ '{' := by
    rintro rfl
    exact noBrace member
  simp [handlebarRegexp, notBrace]

/-- A placeholder that begins in front of the text ends in front of it, where the text has no brace
up to a character that no placeholder contains. -/
theorem IsPlaceholder.before {name placeholder before run after rest : List Char} {stop : Char}
    (isPlaceholder : IsPlaceholder name placeholder)
    (same : placeholder ++ rest = before ++ (run ++ stop :: after)) (noBrace : '}' ∉ run)
    (foreign : stop ∉ placeholder) : ∃ more, before = placeholder ++ more := by
  rcases List.append_eq_append_iff.mp same with ⟨more, inFront, -⟩ | ⟨crossing, rfl, behind⟩
  · exact ⟨more, inFront⟩
  · have inRun : ∃ more, run = crossing ++ more := by
      rcases List.append_eq_append_iff.mp behind with ⟨stopping, rfl, stopped⟩ | ⟨more, rfl, -⟩
      · cases stopping with
        | nil => exact ⟨[], by simp⟩
        | cons first stopping =>
            rw [List.cons_append, List.cons.injEq] at stopped
            exact absurd (by simp [stopped.1]) foreign
      · exact ⟨more, rfl⟩
    rcases inRun with ⟨more, rfl⟩
    have closing : (before ++ crossing).getLast? = some '}' := by
      rcases isPlaceholder with ⟨left, right, shape, -⟩
      have last : before ++ crossing =
          '{' :: '{' :: (left ++ (name ++ (right ++ ['}']))) ++ ['}'] := by
        simp [shape]
      rw [last, List.getLast?_concat]
    cases crossing using List.reverseRecOn with
    | nil => exact ⟨[], by simp⟩
    | append_singleton inner last =>
        have isBrace : last = '}' := by simpa using closing
        exact absurd (by simp [isBrace]) noBrace

theorem IsPlaceholder.not_mem {name placeholder : List Char} {character : Char}
    (isPlaceholder : IsPlaceholder name placeholder) (notBrace : character ≠ '{' ∧ character ≠ '}')
    (notVariable : isVariableChar character = false)
    (notBlank : Text.isWhitespace character = false) : character ∉ placeholder := by
  rcases isPlaceholder with ⟨left, right, rfl, -, isVariable, isBlank⟩
  rw [List.all_eq_true] at isVariable isBlank
  intro member
  simp only [List.mem_cons, List.mem_append, List.not_mem_nil, or_false, notBrace, false_or]
    at member
  rcases member with member | member | member
  · exact absurd (isBlank character (by simp [member])) (by simp [notBlank])
  · exact absurd (isVariable character member) (by simp [notVariable])
  · exact absurd (isBlank character (by simp [member])) (by simp [notBlank])

/-- No placeholder reaches from the text in front over a run without a closing brace and a quotation
mark. -/
theorem handlebarRegexp_separates {run : List Char} (noBrace : '}' ∉ run) (after : List Char) :
    handlebarRegexp.Separates (run ++ '"' :: after) := by
  have inFront : ∀ {before name placeholder rest : List Char}, IsPlaceholder name placeholder →
      before ++ (run ++ '"' :: after) = placeholder ++ rest →
      ∃ more, before = placeholder ++ more := by
    intro before name placeholder rest isPlaceholder same
    exact isPlaceholder.before same.symm noBrace
      (isPlaceholder.not_mem (by decide) (by decide) (by decide))
  intro before nonempty
  cases found : handlebarRegexp before with
  | none =>
      refine ⟨?_, by simp⟩
      cases longer : handlebarRegexp (before ++ (run ++ '"' :: after)) with
      | none => rfl
      | some result =>
          rcases placeholder_of_handlebarRegexp longer with ⟨placeholder, rest, same, isPlaceholder⟩
          rcases inFront isPlaceholder same with ⟨more, rfl⟩
          rw [handlebarRegexp_placeholder isPlaceholder] at found
          exact absurd found (by simp)
  | some result =>
      rcases placeholder_of_handlebarRegexp found with ⟨placeholder, rest, rfl, isPlaceholder⟩
      rw [handlebarRegexp_placeholder isPlaceholder] at found
      rw [List.append_assoc, handlebarRegexp_placeholder isPlaceholder, found]
      refine ⟨rfl, ?_⟩
      rintro name more ⟨⟩
      rcases isPlaceholder with ⟨left, right, rfl, -⟩
      simp only [Option.some.injEq, Prod.mk.injEq] at found
      simp only [List.length_append, List.length_cons] at found ⊢
      omega

end Placeholders

/-- A result, and the environment variables that were looked up on the way to it. -/
structure Lookups (Value : Type) where
  names : List String
  value : Value
  deriving DecidableEq, Repr

instance : Monad Lookups where
  pure value := { names := [], value }
  bind first next :=
    { names := first.names ++ (next first.value).names
      value := (next first.value).value }

/-- `Config<T>`: what is deserialized from the text, and the flag that no text can set. -/
structure LoadedConfig (Content : Type) where
  content : Content
  isProduction : Bool := true
  deriving DecidableEq, Repr

def isProductionEnv (rustEnv : String) : Bool :=
  let env := (Text.trim rustEnv).toLower
  env.isEmpty || env == "prod" || env == "production" || env == "release"

section EntryPoints

variable {Content : Type} (environment : String → Except String String)
  (toml : String → Except String Content) (files : String → Except String String)

/-- `env::var`, which fails for a variable that is missing or not Unicode. -/
def envVar (name : String) : Lookups (Except String String) :=
  { names := [name], value := environment name }

def variableValue (name : List Char) : List Char :=
  match environment (String.ofList name) with
  | .ok value => value.toList
  | .error _ => []

def replaceHandlebarsWithEnv (input : String) : Lookups String :=
  { names := (handlebarRegexp.captures input.toList).map String.ofList
    value := String.ofList (handlebarRegexp.replaceAll (variableValue environment) input.toList) }

/-- `toml::from_str`. -/
def parseToml (text : String) : Except Error (LoadedConfig Content) :=
  match toml text with
  | .ok content => .ok { content }
  | .error message => .error (Error.config message)

theorem parseToml_eq_ok_iff {text : String} {content : Content} :
    parseToml toml text = .ok { content } ↔ toml text = .ok content := by
  simp only [parseToml]
  split
  · rename_i parsed
    simp [parsed]
  · rename_i failed
    simp [failed]

def fromStr (text : String) : Lookups (Except Error (LoadedConfig Content)) := do
  let configFile ← replaceHandlebarsWithEnv environment text
  pure (parseToml toml configFile)

def fromToml (text : String) : Lookups (Except Error (LoadedConfig Content)) := do
  let replaced ← replaceHandlebarsWithEnv environment text
  fromStr environment toml replaced

def withProduction (config : LoadedConfig Content) (isProduction : Bool) : LoadedConfig Content :=
  { config with isProduction }

def fromTomlFile (env : String) : Lookups (Except Error (LoadedConfig Content)) :=
  match files ("config/" ++ env ++ ".toml") with
  | .error message => pure (.error { kind := .io, message })
  | .ok text => do
      let config ← fromToml environment toml text
      pure (config.map fun config => withProduction config (isProductionEnv env))

def fromRustEnv : Lookups (Except Error (LoadedConfig Content)) := do
  match ← envVar environment "RUST_ENV" with
  | .error message => pure (.error (Error.config message))
  | .ok env => fromTomlFile environment toml files env

/-- The literal parts of a template with the values of its variables between them. -/
def assembled (template : String) : List Char :=
  (handlebarRegexp.pieces template.toList).flatMap (Piece.write (variableValue environment))

theorem replaceHandlebarsWithEnv_value (template : String) :
    (replaceHandlebarsWithEnv environment template).value =
      String.ofList (assembled environment template) := rfl

theorem fromToml_names (template : String) :
    (fromToml environment toml template).names =
      (replaceHandlebarsWithEnv environment template).names ++
        (handlebarRegexp.captures (assembled environment template)).map String.ofList := by
  simp [fromToml, fromStr, replaceHandlebarsWithEnv, bind, pure, assembled, Pattern.replaceAll]

end EntryPoints

section SinglePass

variable (environment : String → Except String String)

/-- A text is loaded with one substitution: `from_toml` hands to the parser what one pass makes of
it and looks up nothing else, and the other ways in load the same configuration. -/
structure LoadsOnce (template : String) : Prop where
  onePass : ∀ {Content : Type} (toml : String → Except String Content),
    fromToml environment toml template = do
      let text ← replaceHandlebarsWithEnv environment template
      pure (parseToml toml text)
  fromStr_eq : ∀ {Content : Type} (toml : String → Except String Content),
    fromStr environment toml template = fromToml environment toml template
  fromTomlFile_eq : ∀ {Content : Type} (toml : String → Except String Content)
    (files : String → Except String String) (env : String),
    files ("config/" ++ env ++ ".toml") = .ok template →
    fromTomlFile environment toml files env = do
      let config ← fromStr environment toml template
      pure (config.map fun config => withProduction config (isProductionEnv env))
  fromRustEnv_eq : ∀ {Content : Type} (toml : String → Except String Content)
    (files : String → Except String String) (env : String),
    environment "RUST_ENV" = .ok env → files ("config/" ++ env ++ ".toml") = .ok template →
    fromRustEnv environment toml files = do
      let _ ← envVar environment "RUST_ENV"
      let config ← fromStr environment toml template
      pure (config.map fun config => withProduction config (isProductionEnv env))

variable {environment} {template : String}

/-- A second substitution of a text without placeholders changes nothing and looks up nothing. -/
theorem fromToml_of_not_hasPlaceholder (clean : ¬HasPlaceholder (assembled environment template))
    {Content : Type} (toml : String → Except String Content) :
    fromToml environment toml template = fromStr environment toml template := by
  have nothing : handlebarRegexp.captures (assembled environment template) = [] :=
    captures_eq_nil_iff.mpr clean
  have again :
      replaceHandlebarsWithEnv environment (String.ofList (assembled environment template)) =
        { names := [], value := String.ofList (assembled environment template) } := by
    simp [replaceHandlebarsWithEnv, nothing, Pattern.replaceAll_of_captures_nil nothing]
  simp only [fromToml, fromStr, bind, replaceHandlebarsWithEnv_value, again]
  rfl

/-- What `from_toml` looks up beyond one pass are the placeholders of the assembled text. -/
theorem LoadsOnce.not_hasPlaceholder (loadsOnce : LoadsOnce environment template) :
    ¬HasPlaceholder (assembled environment template) := by
  intro hasPlaceholder
  have once := congrArg Lookups.names (loadsOnce.onePass fun _ => (.ok () : Except String Unit))
  rw [fromToml_names] at once
  have nothing : handlebarRegexp.captures (assembled environment template) = [] := by
    simpa [bind, pure] using once
  exact captures_eq_nil_iff.mp nothing hasPlaceholder

theorem fromTomlFile_of_not_hasPlaceholder
    (clean : ¬HasPlaceholder (assembled environment template)) {Content : Type}
    (toml : String → Except String Content) {files : String → Except String String} {env : String}
    (read : files ("config/" ++ env ++ ".toml") = .ok template) :
    fromTomlFile environment toml files env = (do
      let config ← fromStr environment toml template
      pure (config.map fun config => withProduction config (isProductionEnv env))) := by
  simp only [fromTomlFile, read, fromToml_of_not_hasPlaceholder clean toml]

/-- Loading is a single substitution exactly where the values, written between the literal parts of
the template, make up no placeholder. -/
theorem loadsOnce_iff (environment : String → Except String String) (template : String) :
    LoadsOnce environment template ↔ ¬HasPlaceholder (assembled environment template) := by
  constructor
  · exact LoadsOnce.not_hasPlaceholder
  · intro clean
    refine ⟨fun toml => fromToml_of_not_hasPlaceholder clean toml,
      fun toml => (fromToml_of_not_hasPlaceholder clean toml).symm,
      fun toml files env read => fromTomlFile_of_not_hasPlaceholder clean toml read, ?_⟩
    intro Content toml files env named read
    have file := fromTomlFile_of_not_hasPlaceholder clean toml read
    simp only [fromRustEnv, envVar, bind, named] at file ⊢
    rw [file]

/-- A variable whose value names another one. -/
def nestedVariable (name : String) : Except String String :=
  if name = "A" then .ok "{{ B }}"
  else if name = "B" then .ok "x"
  else .error "environment variable not found"

theorem not_loadsOnce_nested : ¬LoadsOnce nestedVariable "{{ A }}" := by
  intro loadsOnce
  have same := loadsOnce.fromStr_eq Except.ok
  exact absurd (congrArg Lookups.value same) (by decide)

/-- A placeholder can also come together from a value and the text around it. -/
example :
    let environment := fun name => if name = "A" then .ok "B" else .ok "x"
    (fromToml environment Except.ok "{{ {{A}} }}").value = .ok { content := "x" } := by decide

end SinglePass

end AxumConf
