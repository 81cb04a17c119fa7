import Relint.Files.Tree
import Relint.Glob.Match
import Relint.Glob.Reader

/-!
Finding the source files that are searched for comment directives. A pattern that
names a file stands for it, and every other pattern is a glob for the files below
the working directory.
-/

namespace Relint

/-- Why a search cannot be made. -/
inductive DiscoveryFault where
  | exclusion (fault : Glob.Fault)
  | pattern (text : String) (fault : Glob.Fault)
  deriving DecidableEq

def DiscoveryFault.reason : DiscoveryFault → String
  | .exclusion fault => "Invalid glob pattern: " ++ fault.message
  | .pattern text fault => "Invalid pattern '" ++ text ++ "': " ++ fault.message

def builtinExclusions : List String :=
  ["**/node_modules/**", "**/.git/**"]

def defaultPatterns : List String :=
  ["**/*.ts", "**/*.tsx", "**/*.js", "**/*.jsx"]

/-- A search that leaves out some files. -/
structure SourceSearch where
  exclusions : List Glob

namespace SourceSearch

/-- The search that leaves out what some globs match, besides what is never searched. -/
def excluding (globs : List String) : Except DiscoveryFault SourceSearch :=
  ((builtinExclusions ++ globs).mapM fun glob => (Glob.read glob).mapError .exclusion).map
    SourceSearch.mk

/-- Whether a path is left out. The path counts as it is spelled. -/
def ignores (search : SourceSearch) (path : String) : Bool :=
  search.exclusions.any (·.matches path)

/-- What a pattern stands for. -/
inductive Pattern where
  | file (path : String)
  | glob (glob : Glob)

def readPattern (t : FileTree) (pattern : String) : Except DiscoveryFault Pattern :=
  if t.isPlainFile pattern then .ok (.file pattern)
  else ((Glob.read pattern).map Pattern.glob).mapError (.pattern pattern)

def Pattern.file? : Pattern → Option String
  | .file path => some path
  | .glob _ => none

def Pattern.glob? : Pattern → Option Glob
  | .file _ => none
  | .glob g => some g

def matchedFiles (t : FileTree) (globs : List Glob) : List String :=
  (t.filesBelow.map fun names => "/".intercalate names).filter fun path =>
    globs.any (·.matches path)

def fullNames (t : FileTree) (path : String) : List String :=
  if Path.isAbsolute path then Path.names path
  else t.working ++ (Path.names path).filter (· ≠ ".")

def mergeNeighbours (t : FileTree) : List String → List String
  | a :: b :: rest =>
      if fullNames t a = fullNames t b then mergeNeighbours t (a :: rest)
      else a :: mergeNeighbours t (b :: rest)
  | paths => paths
termination_by paths => paths.length

def sortPaths (t : FileTree) (paths : List String) : List String :=
  mergeNeighbours t
    (paths.mergeSort fun a b => Path.namesLe (fullNames t a) (fullNames t b))

/-- The paths that a search for some patterns finds. The files that patterns name are
spelled as they are there. -/
def discover (search : SourceSearch) (t : FileTree) (patterns : List String) :
    Except DiscoveryFault (List String) :=
  (patterns.mapM (readPattern t)).map fun patterns =>
    sortPaths t ((patterns.filterMap Pattern.file? ++
      matchedFiles t (patterns.filterMap Pattern.glob?)).filter (!search.ignores ·))

end SourceSearch

end Relint
