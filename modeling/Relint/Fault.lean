import Relint.Config.Eslint
import Relint.Config.Tslint
import Relint.Editor.Conversion
import Relint.Files.Discovery

/-!
Everything that stops a migration, with the kind that each reason belongs to.
-/

namespace Relint

/-- The kinds of reasons for stopping. -/
inductive FaultKind where
  | config
  | file
  | parse
  | glob
  deriving DecidableEq, Repr

namespace FaultKind

def name : FaultKind → String
  | .config => "Config"
  | .file => "File"
  | .parse => "Parse"
  | .glob => "Glob"

def heading : FaultKind → String
  | .config => "Configuration error"
  | .file => "File error"
  | .parse => "Parse error"
  | .glob => "Glob error"

end FaultKind

/-- What stops a migration. -/
inductive Fault where
  | tslint (fault : TslintFault)
  | eslint (fault : EslintFault)
  | editor (fault : EditorFault)
  | discovery (fault : DiscoveryFault)
  | unreadable (path : String) (fault : FileFault)
  deriving DecidableEq

namespace Fault

/-- The kind of a reason: a text that is no JSON or no YAML fails to parse, and one
that is fails as a configuration. -/
def kind : Fault → FaultKind
  | .tslint (.malformed _) => .parse
  | .tslint (.misshapen _) | .tslint (.setting _) => .config
  | .eslint (.malformedJson _) | .eslint .malformedYaml => .parse
  | .eslint (.script _) | .eslint .root | .eslint (.rules _) => .config
  | .editor (.malformed _) => .parse
  | .editor .root => .config
  | .discovery _ => .glob
  | .unreadable _ _ => .file

def reason : Fault → String
  | .tslint fault => fault.reason
  | .eslint fault => fault.reason
  | .editor fault => fault.reason
  | .discovery fault => fault.reason
  | .unreadable path fault => "Failed to read " ++ path ++ ": " ++ fault.message

/-- The message: the kind and the reason. -/
def message (f : Fault) : String :=
  f.kind.heading ++ ": " ++ f.reason

end Fault

end Relint
