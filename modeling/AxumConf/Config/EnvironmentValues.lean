import AxumConf.Config.Loading
import AxumConf.Lib.Toml

/-!
# What becomes of an environment value

The value of a variable replaces its placeholder in the text of the configuration, before the text
is parsed.  Between quotation marks it is therefore read by the grammar of TOML strings: it arrives
as it is exactly when a basic string holds it without an escape.
-/

namespace AxumConf

open Toml.Grammar (stringLine stringLine_append)

/-- The ways in that take a text. -/
inductive EntryPoint where
  | fromStr
  | fromToml
  deriving DecidableEq, Repr

namespace EntryPoint

def load {Content : Type} (environment : String → Except String String)
    (toml : String → Except String Content) :
    EntryPoint → String → Lookups (Except Error (LoadedConfig Content))
  | fromStr => AxumConf.fromStr environment toml
  | fromToml => AxumConf.fromToml environment toml

def passes : EntryPoint → ℕ
  | fromStr => 1
  | fromToml => 2

theorem passes_pos (entry : EntryPoint) : 0 < entry.passes := by
  cases entry with
  | fromStr => decide
  | fromToml => decide

end EntryPoint

section Values

variable (environment : String → Except String String)

def substituted : ℕ → List Char → List Char
  | 0, text => text
  | passes + 1, text =>
      handlebarRegexp.replaceAll (variableValue environment) (substituted passes text)

theorem load_value {Content : Type} (toml : String → Except String Content) (entry : EntryPoint)
    (template : List Char) :
    (entry.load environment toml (String.ofList template)).value =
      parseToml toml (String.ofList (substituted environment entry.passes template)) := by
  cases entry with
  | fromStr =>
      simp [EntryPoint.load, fromStr, bind, pure, replaceHandlebarsWithEnv, substituted,
        EntryPoint.passes]
  | fromToml =>
      simp [EntryPoint.load, fromToml, fromStr, bind, pure, replaceHandlebarsWithEnv, substituted,
        EntryPoint.passes]

@[simp] theorem substituted_nil (passes : ℕ) : substituted environment passes [] = [] := by
  induction passes with
  | zero => rfl
  | succ passes ih =>
      rw [substituted, ih]
      rfl

theorem not_mem_of_isKey {key : List Char} (isKey : Toml.isKey key = true) {character : Char}
    (foreign : Toml.isKeyChar character = false) : character ∉ key := by
  intro member
  simp only [Toml.isKey, Bool.and_eq_true, List.all_eq_true] at isKey
  exact absurd (isKey.1 character member) (by simp [foreign])

/-- A line with a quoted value is substituted apart from the lines above and below it. -/
theorem replaceAll_stringLine {key : List Char} (isKey : Toml.isKey key = true)
    (value : List Char → List Char) (before body below : List Char) :
    handlebarRegexp.replaceAll value (before ++ (stringLine key body ++ below)) =
      handlebarRegexp.replaceAll value before ++
        (stringLine key (handlebarRegexp.replaceAll value body) ++
          handlebarRegexp.replaceAll value below) := by
  have noOpening : '{' ∉ key ++ [' ', '=', ' ', '"'] := by
    simp [not_mem_of_isKey isKey (by decide : Toml.isKeyChar '{' = false)]
  have noClosing : '}' ∉ key ++ [' ', '=', ' '] := by
    simp [not_mem_of_isKey isKey (by decide : Toml.isKeyChar '}' = false)]
  have front := (handlebarRegexp_separates noClosing (body ++ '"' :: below)).replaceAll_append
    value before
  have line := handlebarRegexp_replaceAll_run value noOpening (body ++ '"' :: below)
  have closing := (handlebarRegexp_separates (by simp : '}' ∉ []) below).replaceAll_append
    value body
  have quote := handlebarRegexp_replaceAll_run value (by simp : '{' ∉ ['"']) below
  simp only [List.append_assoc, List.cons_append, List.nil_append] at front line closing quote
  simp only [stringLine_append]
  rw [front, line, closing, quote]

theorem substituted_stringLine {key : List Char} (isKey : Toml.isKey key = true)
    (before body below : List Char) (passes : ℕ) :
    substituted environment passes (before ++ (stringLine key body ++ below)) =
      substituted environment passes before ++
        (stringLine key (substituted environment passes body) ++
          substituted environment passes below) := by
  induction passes with
  | zero => rfl
  | succ passes ih => simp only [substituted, ih, replaceAll_stringLine isKey]

variable {environment}

/-- A placeholder becomes its variable's value, and stays so when that contains none. -/
theorem substituted_placeholder {name placeholder : List Char} {value : String}
    (isPlaceholder : IsPlaceholder name placeholder)
    (set : environment (String.ofList name) = .ok value)
    (noPlaceholder : ¬HasPlaceholder value.toList) {passes : ℕ} (substitutes : 0 < passes) :
    substituted environment passes placeholder = value.toList := by
  induction passes with
  | zero => exact absurd substitutes (Nat.lt_irrefl 0)
  | succ passes ih =>
      rcases Nat.eq_zero_or_pos passes with rfl | substituted
      · have replaced := @replaceAll_placeholder (variableValue environment) _ _ isPlaceholder []
        rw [List.append_nil, variableValue, set] at replaced
        simpa [AxumConf.substituted, Pattern.replaceAll] using replaced
      · rw [AxumConf.substituted, ih substituted]
        exact Pattern.replaceAll_of_captures_nil (captures_eq_nil_iff.mpr noPlaceholder)

variable (environment) in
theorem endsLine_substituted {below : List Char} (ends : Toml.EndsLine below) (passes : ℕ) :
    Toml.EndsLine (substituted environment passes below) := by
  induction passes with
  | zero => exact ends
  | succ passes ih =>
      rw [substituted]
      rcases ih with none | ⟨rest, newline⟩
      · rw [none]
        exact .inl rfl
      · have kept := handlebarRegexp_replaceAll_run (variableValue environment)
          (by simp : '{' ∉ ['\n']) rest
        rw [newline]
        exact .inr ⟨_, kept⟩

end Values

section Arrival

variable {Other : Type} (grammar : Toml.Grammar Other)

/-- The value arrives as it is: wherever its placeholder stands between the quotation marks of a
line of a document whose other lines can be loaded, the line's key has the value and the other
lines read as they do in the template. -/
def ArrivesIntact (value : String) : Prop :=
  ∀ (environment : String → Except String String) (name placeholder : List Char),
    IsPlaceholder name placeholder → environment (String.ofList name) = .ok value →
  ∀ (entry : EntryPoint) (before key below : List Char) (above under : List (Toml.Statement Other)),
    Toml.isKey key = true → Toml.EndsLine below →
    grammar.ReadsAs (substituted environment entry.passes before) above →
    grammar.statements (substituted environment entry.passes below) = some under →
    grammar.valid ((above ++ .pair key (.string []) :: under).map Toml.Statement.skeleton) = true →
    (entry.load environment grammar.parse
        (String.ofList (before ++ (stringLine key placeholder ++ below)))).value =
      .ok { content := above ++ .pair key (.string value.toList) :: under }

variable {grammar} {value : String}

theorem arrivesIntact_of_isPlain (noPlaceholder : ¬HasPlaceholder value.toList)
    (plain : Toml.IsPlain value.toList) : ArrivesIntact grammar value := by
  intro environment name placeholder isPlaceholder set entry before key below above under isKey ends
    readsAbove readsUnder valid
  have placed := substituted_placeholder isPlaceholder set noPlaceholder entry.passes_pos
  have line := grammar.statements_stringLine isKey plain
    (endsLine_substituted environment ends entry.passes)
  have document : grammar.statements (substituted environment entry.passes
      (before ++ (stringLine key placeholder ++ below))) =
        some (above ++ .pair key (.string value.toList) :: under) := by
    rw [substituted_stringLine environment isKey, placed, readsAbove, line, readsUnder]
    rfl
  have sameSkeleton : (above ++ .pair key (.string value.toList) :: under).map
      Toml.Statement.skeleton =
        (above ++ .pair key (.string []) :: under).map Toml.Statement.skeleton := by
    simp [Toml.Statement.skeleton]
  rw [load_value]
  refine (parseToml_eq_ok_iff _).mpr (Toml.Grammar.parse_eq_ok_iff.mpr ⟨?_, ?_⟩)
  · simpa using document
  · rw [sameSkeleton]
    exact valid

/-- The placeholder of the variable `V`, alone on a line. -/
theorem isPlaceholder_variable : IsPlaceholder ['V'] "{{ V }}".toList :=
  ⟨[' '], [' '], by decide, by decide, by decide, by decide⟩

/-- A line alone in its document tells whether a value arrives. -/
theorem isPlain_of_arrivesIntact (documented : grammar.Documented)
    (noPlaceholder : ¬HasPlaceholder value.toList) (intact : ArrivesIntact grammar value) :
    Toml.IsPlain value.toList := by
  have isKey : Toml.isKey ['k'] = true := by decide
  obtain ⟨environment, set⟩ : ∃ environment : String → Except String String,
      ∀ name, environment name = .ok value := ⟨fun _ => .ok value, fun _ => rfl⟩
  have loaded := intact environment ['V'] _ isPlaceholder_variable (set _) .fromStr [] ['k'] []
    [] [] isKey (.inl rfl) (fun below => by simp) (by simp) (documented.single _ isKey)
  have placed := substituted_placeholder isPlaceholder_variable (set _) noPlaceholder
    EntryPoint.fromStr.passes_pos
  rw [load_value, substituted_stringLine _ isKey, placed] at loaded
  have read := (Toml.Grammar.parse_eq_ok_iff.mp ((parseToml_eq_ok_iff _).mp loaded)).1
  refine Toml.Grammar.isPlain_of_statements documented isKey ?_
  simpa using read

/-- The values that arrive as they are are those that a basic string holds without an escape. -/
theorem arrivesIntact_iff (documented : grammar.Documented)
    (noPlaceholder : ¬HasPlaceholder value.toList) :
    ArrivesIntact grammar value ↔ Toml.IsPlain value.toList := by
  constructor
  · exact isPlain_of_arrivesIntact documented noPlaceholder
  · exact arrivesIntact_of_isPlain noPlaceholder

end Arrival

section Tables

/-- Where the keys and headers of a document stand. -/
def places : List Char → List (Toml.Statement Empty) → List (List Char × List Char)
  | _, [] => []
  | _, .header name :: rest => (name, []) :: places name rest
  | table, .pair key _ :: rest => (table, key) :: places table rest

/-- Documents of table headers and quoted values, in which nothing is defined twice. -/
def tableGrammar : Toml.Grammar Empty where
  expression
    | '[' :: text =>
        match text.dropWhile Toml.isKeyChar with
        | ']' :: after =>
            if Toml.isKey (text.takeWhile Toml.isKeyChar) then
              (Toml.lineEnd after).map fun rest =>
                ([.header (text.takeWhile Toml.isKeyChar)], rest)
            else none
        | _ => none
    | _ => none
  valid statements := decide (places [] statements).Nodup
  message _ := "TOML parse error"

theorem tableGrammar_documented : tableGrammar.Documented where
  multiline key text read rest isKey found := by
    rcases Toml.Grammar.exists_cons_of_isKey isKey with ⟨first, more, rfl, inKey⟩
    have notHeader : first ≠ '[' := Toml.Grammar.ne_of_isKeyChar inKey (by decide)
    simp [tableGrammar, notHeader] at found
  single key isKey := by simp [tableGrammar, places]

theorem arrivesIntact_iff_blanks : ArrivesIntact tableGrammar "it's a = #1 {secret}" :=
  (arrivesIntact_iff tableGrammar_documented (by decide)).mpr (by decide)

/-- The lines around the value read as they do in the template. -/
example :
    (fromStr (fun _ => .ok "it's") tableGrammar.parse
        "[app]\nuser = \"{{ V }}\"\nrole = \"a\\tb\"\n").value =
      .ok { content := [.header "app".toList, .pair "user".toList (.string "it's".toList),
        .pair "role".toList (.string "a\tb".toList)] } := by decide

/-- What stands behind a quotation mark in the value is read as the next line of the document. -/
theorem not_arrivesIntact_quote : ¬ArrivesIntact tableGrammar "guest\"\nrole = \"admin" := by
  intro intact
  have loaded := intact (fun _ => .ok "guest\"\nrole = \"admin") ['V'] _ isPlaceholder_variable rfl
    .fromStr [] "user".toList [] [] [] (by decide) (.inl rfl) (fun below => by simp) (by simp)
    (by decide)
  exact absurd loaded (by decide)

end Tables

end AxumConf
