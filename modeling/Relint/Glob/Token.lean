/-!
Globs: patterns for paths, as the tokens that they are made of.
-/

namespace Relint

namespace Glob

/-- A part of a glob. The three kinds of runs of directories are those at the
beginning, at the end and in the middle of a path. -/
inductive Token where
  | literal (c : Char)
  | anyOne
  | anyRun
  | charClass (negated : Bool) (ranges : List (Char × Char))
  | leadingDirectories
  | trailingPath
  | innerDirectories
  | alternatives (branches : List (List Token))
  deriving Inhabited

/-- Why a text is not a glob. -/
inductive Cause where
  | unclosedClass
  | invalidRange (low high : Char)
  | unopenedGroup
  | unclosedGroup
  | danglingEscape
  deriving DecidableEq, Repr

def Cause.text : Cause → String
  | .unclosedClass => "unclosed character class; missing ']'"
  | .invalidRange low high =>
      "invalid range; '" ++ String.singleton low ++ "' > '" ++ String.singleton high ++ "'"
  | .unopenedGroup =>
      "unopened alternate group; missing '\x7b' (maybe escape '\x7d' with '[\x7d]'?)"
  | .unclosedGroup =>
      "unclosed alternate group; missing '\x7d' (maybe escape '\x7b' with '[\x7b]'?)"
  | .danglingEscape => "dangling '\\'"

/-- A text that is not a glob, and why. -/
structure Fault where
  glob : String
  cause : Cause
  deriving DecidableEq, Repr

def Fault.message (f : Fault) : String :=
  "error parsing glob '" ++ f.glob ++ "': " ++ f.cause.text

end Glob

/-- A glob. -/
structure Glob where
  tokens : List Glob.Token
  deriving Inhabited

end Relint
