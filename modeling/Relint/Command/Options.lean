/-!
The options of the command line. Arguments are read from left to right, and the
first one that does not fit refuses the whole line.
-/

namespace Relint

/-- The formats of reports. -/
inductive ReportFormat where
  | text
  | json
  deriving DecidableEq, Inhabited, Repr

def ReportFormat.ofName? : String → Option ReportFormat
  | "text" => some .text
  | "json" => some .json
  | _ => none

/-- The options of a run. Comments are converted only on demand, in the files that
some patterns stand for or else in all sources. -/
structure Options where
  tslint : String
  config : String
  eslint : Option String
  editor : Option String
  comments : Option (List String)
  prettier : Bool
  typeChecked : Bool
  dryRun : Bool
  verbose : Bool
  format : ReportFormat
  deriving DecidableEq, Inhabited, Repr

/-- What a command line asks for. -/
inductive Invocation where
  | run (options : Options)
  | version
  | help
  | refused
  deriving DecidableEq, Repr

namespace Options

/-- The options that take one value. -/
inductive Valued where
  | tslint
  | config
  | eslint
  | editor
  | format
  deriving DecidableEq, Repr

/-- The options that take no value. -/
inductive Flag where
  | prettier
  | typeChecked
  | dryRun
  | verbose
  deriving DecidableEq, Repr

/-- Whether an option takes a value: a format must be known, and a path must not be
empty. -/
def Valued.accepts (option : Valued) (value : String) : Bool :=
  match option with
  | .format => (ReportFormat.ofName? value).isSome
  | .tslint | .config | .eslint | .editor => value != ""

/-- The options that have been read. -/
structure Draft where
  values : List (Valued × String)
  flags : List Flag
  comments : Option (List String)

namespace Draft

def empty : Draft :=
  ⟨[], [], none⟩

/-- Gives an option its value. It must have none yet. -/
def set? (d : Draft) (option : Valued) (value : String) : Option Draft :=
  if (d.values.lookup option).isNone && option.accepts value then
    some { d with values := (option, value) :: d.values }
  else none

/-- Raises a flag. It must not be raised yet. -/
def raise? (d : Draft) (flag : Flag) : Option Draft :=
  if d.flags.contains flag then none else some { d with flags := flag :: d.flags }

/-- Asks for comments, with some more patterns. -/
def addPatterns (d : Draft) (patterns : List String) : Draft :=
  { d with comments := some (d.comments.getD [] ++ patterns) }

def options (d : Draft) : Options where
  tslint := (d.values.lookup .tslint).getD "tslint.json"
  config := (d.values.lookup .config).getD ".eslintrc.js"
  eslint := d.values.lookup .eslint
  editor := d.values.lookup .editor
  comments := d.comments
  prettier := d.flags.contains .prettier
  typeChecked := d.flags.contains .typeChecked
  dryRun := d.flags.contains .dryRun
  verbose := d.flags.contains .verbose
  format := ((d.values.lookup .format).bind ReportFormat.ofName?).getD .text

end Draft

/-- What the arguments before still ask for. -/
inductive Awaiting where
  | nothing
  | value (option : Valued)
  | patterns
  deriving DecidableEq

/-- The outcome of one argument. -/
inductive Reading where
  | goOn (draft : Draft) (awaiting : Awaiting)
  | version
  | help
  | refused

def Reading.ofDraft? : Option Draft → Reading
  | some d => .goOn d .nothing
  | none => .refused

/-- What a long name stands for. -/
inductive LongName where
  | valued (option : Valued)
  | flag (flag : Flag)
  | comments
  | version
  | help

def longNames : List (String × LongName) := [
  ("tslint", .valued .tslint),
  ("config", .valued .config),
  ("eslint", .valued .eslint),
  ("editor", .valued .editor),
  ("format", .valued .format),
  ("comments", .comments),
  ("prettier", .flag .prettier),
  ("type-checked", .flag .typeChecked),
  ("dry-run", .flag .dryRun),
  ("verbose", .flag .verbose),
  ("version", .version),
  ("help", .help)]

/-- Reads an option with a long name and the value behind its equals sign. -/
def readLong (d : Draft) (name : String) (attached : Option String) : Reading :=
  match longNames.lookup name, attached with
  | some (.valued option), none => .goOn d (.value option)
  | some (.valued option), some value => .ofDraft? (d.set? option value)
  | some .comments, none => .goOn (d.addPatterns []) .patterns
  | some .comments, some value => .goOn (d.addPatterns [value]) .nothing
  | some (.flag flag), none => .ofDraft? (d.raise? flag)
  | some .version, none => .version
  | some .help, none => .help
  | _, _ => .refused

/-- Reads an option with a one-letter name, whose value may follow at once or behind
an equals sign. -/
def readValued (d : Draft) (option : Valued) : List Char → Reading
  | [] => .goOn d (.value option)
  | '=' :: value => .ofDraft? (d.set? option (String.ofList value))
  | value => .ofDraft? (d.set? option (String.ofList value))

def readLetters (d : Draft) : List Char → Reading
  | [] => .goOn d .nothing
  | 'c' :: rest => readValued d .config rest
  | 'f' :: rest => readValued d .format rest
  | 'v' :: rest =>
      match d.raise? .verbose with
      | some d => readLetters d rest
      | none => .refused
  | 'V' :: _ => .version
  | 'h' :: _ => .help
  | _ => .refused

def attachedValue : List Char → Option String
  | [] => none
  | '=' :: value => some (String.ofList value)
  | _ :: rest => attachedValue rest

def readOption (d : Draft) (argument : String) : Reading :=
  match argument.toList with
  | '-' :: '-' :: text =>
      readLong d (String.ofList (text.takeWhile (· ≠ '='))) (attachedValue text)
  | '-' :: letters => readLetters d letters
  | _ => .refused

/-- Whether an argument can only be a value: it does not begin with a dash, or it is a
dash alone. -/
def isValue (argument : String) : Bool :=
  argument == "-" || argument.toList.head? != some '-'

/-- Reads the arguments that are left. Behind two dashes there may be none. -/
def readFrom (d : Draft) (awaiting : Awaiting) : List String → Invocation
  | [] =>
      match awaiting with
      | .value _ => .refused
      | .nothing | .patterns => .run d.options
  | argument :: rest =>
      if isValue argument then
        match awaiting with
        | .nothing => .refused
        | .value option =>
            match d.set? option argument with
            | some d => readFrom d .nothing rest
            | none => .refused
        | .patterns => readFrom (d.addPatterns [argument]) .patterns rest
      else
        match awaiting with
        | .value _ => .refused
        | .nothing | .patterns =>
            if argument = "--" then if rest.isEmpty then .run d.options else .refused
            else
              match readOption d argument with
              | .goOn d awaiting => readFrom d awaiting rest
              | .version => .version
              | .help => .help
              | .refused => .refused

def read (arguments : List String) : Invocation :=
  readFrom .empty .nothing arguments

end Options

end Relint
