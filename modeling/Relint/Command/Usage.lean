import Relint.Command.Options

/-!
What the command line says about itself: what it is for, and a line for each option.
-/

namespace Relint

/-- What is shown of an option: its letter if it has one, its name, how values follow, and
what it is for. An option with a default is that where it is not given, and one with
choices takes nothing else. -/
structure OptionHelp where
  letter : Option Char
  name : String
  values : String
  purpose : String
  default? : Option String := none
  choices : List String := []

namespace OptionHelp

def spelling (h : OptionHelp) : String :=
  let letter :=
    match h.letter with
    | some c => "  -" ++ c.toString ++ ", "
    | none => "      "
  letter ++ "--" ++ h.name ++ if h.values = "" then "" else " " ++ h.values

def description (h : OptionHelp) : String :=
  h.purpose ++
    (match h.default? with
      | some value => " [default: " ++ value ++ "]"
      | none => "") ++
    if h.choices.isEmpty then "" else " [possible values: " ++ ", ".intercalate h.choices ++ "]"

/-- The line of an option, in which the spelling takes up some columns. -/
def line (columns : Nat) (h : OptionHelp) : String :=
  h.spelling.pushn ' ' (columns - h.spelling.length) ++ "  " ++ h.description ++ "\n"

end OptionHelp

namespace Options

def helps : List OptionHelp := [
  { letter := none, name := "tslint", values := "<PATH>"
    purpose := "TSLint configuration file to convert", default? := some "tslint.json" },
  { letter := some 'c', name := "config", values := "<PATH>"
    purpose := "ESLint configuration file to write", default? := some ".eslintrc.js" },
  { letter := none, name := "eslint", values := "<PATH>"
    purpose := "Existing ESLint configuration to build on (defaults to the output file when " ++
      "it exists)" },
  { letter := none, name := "editor", values := "<PATH>"
    purpose := "VS Code settings file to convert in place" },
  { letter := none, name := "comments", values := "[<GLOB>...]"
    purpose := "Rewrite tslint: comment directives in files matching these globs" },
  { letter := none, name := "prettier", values := ""
    purpose := "Leave formatting rules to Prettier" },
  { letter := none, name := "type-checked", values := ""
    purpose := "Generate a configuration that uses type information" },
  { letter := none, name := "dry-run", values := ""
    purpose := "Report what would change without writing any file" },
  { letter := some 'v', name := "verbose", values := "", purpose := "Enable verbose output" },
  { letter := some 'f', name := "format", values := "<FORMAT>", purpose := "Report format"
    default? := some "text", choices := ["text", "json"] },
  { letter := some 'h', name := "help", values := "", purpose := "Print help" },
  { letter := some 'V', name := "version", values := "", purpose := "Print version" }]

/-- The options that are shown are those that are read. -/
theorem names_helps : (helps.map (·.name)).Perm (longNames.map (·.1)) := by
  decide

/-- A letter stands for the name that is shown beside it. -/
theorem readOption_letter (d : Draft) : ∀ h ∈ helps, ∀ c ∈ h.letter,
    readOption d (String.ofList ['-', c]) = readOption d ("--" ++ h.name) := by
  intro h hmem c hletter
  simp only [helps, List.mem_cons, List.not_mem_nil, or_false] at hmem
  rcases hmem with rfl | rfl | rfl | rfl | rfl | rfl | rfl | rfl | rfl | rfl | rfl | rfl
  -- A row without letter is no case, and any other one is read by the same computation.
  all_goals cases hletter
  all_goals rfl

/-- To give an option its default changes nothing. -/
theorem read_default : ∀ h ∈ helps, ∀ value ∈ h.default?,
    read ["--" ++ h.name, value] = read [] := by
  decide

/-- The values that an option is shown to have are those that it takes. -/
theorem accepts_choices (value : String) :
    Valued.format.accepts value = true ↔
      ∃ h ∈ helps, h.name = "format" ∧ value ∈ h.choices := by
  have hshown : (∃ h ∈ helps, h.name = "format" ∧ value ∈ h.choices) ↔
      value = "text" ∨ value = "json" := by
    simp [helps]
  rw [hshown]
  change (ReportFormat.ofName? value).isSome = true ↔ _
  unfold ReportFormat.ofName?
  split
  · simp
  · simp
  · simp_all

end Options

def versionLine : String :=
  "tslint-to-eslint-config 0.1.0\n"

def usage : String :=
  let columns := (Options.helps.map (·.spelling.length)).foldl max 0
  "Converts a TSLint configuration to the closest possible ESLint equivalent\n\n" ++
    "Usage: tslint-to-eslint-config [OPTIONS]\n\nOptions:\n" ++
    String.join (Options.helps.map (·.line columns))

end Relint
