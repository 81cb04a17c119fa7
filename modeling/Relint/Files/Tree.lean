import Relint.Assoc
import Relint.Path

/-!
A tree of files as a program sees it: files, directories and symbolic links at
their locations. A path is followed from the working directory or from the root,
one step at a time, and links on the way are replaced by what they point to.
-/

namespace Relint

/-- What a file holds: a text, or bytes that are not text in UTF-8. -/
inductive Content where
  | text (s : String)
  | binary (bytes : List UInt8)
  deriving DecidableEq

def Content.ofBytes (bytes : ByteArray) : Content :=
  match String.fromUTF8? bytes with
  | some s => .text s
  | none => .binary bytes.toList

/-- What stands at a location. -/
inductive Entry where
  | file (content : Content)
  | directory
  | link (target : String)
  deriving DecidableEq

/-- The names that lead from the root to a place. -/
abbrev Location := List String

/-- A tree of files and the working directory in it. The path of the working
directory is kept as it is to be shown. -/
structure FileTree where
  entries : List (Location × Entry)
  working : Location
  workingPath : String

/-- Why an access to a tree fails. -/
inductive FileFault where
  | notFound
  | alreadyThere
  | notDirectory
  | isDirectory
  | tooManyLinks
  | notText
  deriving DecidableEq, Repr

def FileFault.message : FileFault → String
  | .notFound => "No such file or directory (os error 2)"
  | .alreadyThere => "File exists (os error 17)"
  | .notDirectory => "Not a directory (os error 20)"
  | .isDirectory => "Is a directory (os error 21)"
  | .tooManyLinks => "Too many levels of symbolic links (os error 40)"
  | .notText => "stream did not contain valid UTF-8"

def setEntry (location : Location) (entry : Entry) :
    List (Location × Entry) → List (Location × Entry)
  | [] => [(location, entry)]
  | (l, old) :: rest =>
      if l = location then (location, entry) :: rest else (l, old) :: setEntry location entry rest

namespace FileTree

/-- What stands at a location. The root is always a directory. -/
def entryAt (t : FileTree) (location : Location) : Option Entry :=
  if location.isEmpty then some .directory else t.entries.lookup location

def put (t : FileTree) (location : Location) (entry : Entry) : FileTree :=
  { t with entries := setEntry location entry t.entries }

/-- Puts directories at a location and at those above it, where nothing stands. -/
def putDirectories (t : FileTree) (location : Location) : FileTree :=
  (List.range location.length).foldl (fun t n =>
    let directory := location.take (n + 1)
    if (t.entryAt directory).isNone then t.put directory .directory else t) t

/-- The tree of some entries, together with the directories that they stand in. -/
def ofEntries (entries : List (Location × Entry)) (working : Location)
    (workingPath : String) : FileTree :=
  entries.foldl (fun t (location, entry) =>
      (t.putDirectories location.dropLast).put location entry)
    (FileTree.putDirectories ⟨[], working, workingPath⟩ working)

def startOf (directory : Location) (path : String) : Location :=
  if Path.isAbsolute path then [] else directory

/-- Follows steps from a directory until a link has to be followed. The last step may
lead to nothing, and a link there is followed on demand only. To follow a link is to
`jump` to the directory that its target starts from, with all steps that are left. -/
def walkUntil (t : FileTree) (follow : Bool)
    (jump : Location → List String → Except FileFault Location) (directory : Location) :
    List String → Except FileFault Location
  | [] => .ok directory
  | name :: rest =>
      if name = "." then t.walkUntil follow jump directory rest
      else if name = ".." then t.walkUntil follow jump directory.dropLast rest
      else
        let location := directory ++ [name]
        match t.entryAt location with
        | none => if rest.isEmpty then .ok location else .error .notFound
        | some .directory => t.walkUntil follow jump location rest
        | some (.file _) => if rest.isEmpty then .ok location else .error .notDirectory
        | some (.link target) =>
            if rest.isEmpty && !follow then .ok location
            else jump (startOf directory target) (Path.steps target ++ rest)

/-- Follows steps from a directory, and at most `links` links on the way. -/
def walk (t : FileTree) (follow : Bool) :
    Nat → Location → List String → Except FileFault Location
  | 0 => t.walkUntil follow fun _ _ => .error .tooManyLinks
  | links + 1 => t.walkUntil follow (t.walk follow links)

def linkLimit : Nat :=
  40

def locate (t : FileTree) (follow : Bool) (path : String) : Except FileFault Location :=
  t.walk follow linkLimit (startOf t.working path) (Path.steps path)

/-- What a path leads to, if it leads to anything. -/
def find? (t : FileTree) (follow : Bool) (path : String) : Option Entry :=
  match t.locate follow path with
  | .ok location => t.entryAt location
  | .error _ => none

/-- Whether a path leads to a file, through links too. -/
def isFile (t : FileTree) (path : String) : Bool :=
  match t.find? true path with
  | some (.file _) => true
  | _ => false

def isPlainFile (t : FileTree) (path : String) : Bool :=
  match t.find? false path with
  | some (.file _) => true
  | _ => false

def isLink (t : FileTree) (path : String) : Bool :=
  match t.find? false path with
  | some (.link _) => true
  | _ => false

/-- Whether a path leads to a directory, through links too. -/
def isDirectory (t : FileTree) (path : String) : Bool :=
  t.find? true path == some .directory

def read (t : FileTree) (path : String) : Except FileFault String := do
  match t.entryAt (← t.locate true path) with
  | some (.file (.text s)) => .ok s
  | some (.file (.binary _)) => .error .notText
  | some .directory => .error .isDirectory
  | some (.link _) => .error .tooManyLinks
  | none => .error .notFound

/-- The files below the working directory, by their names from there on. Links are
not followed. -/
def filesBelow (t : FileTree) : List (List String) :=
  t.entries.filterMap fun (location, entry) =>
    match entry with
    | .file _ =>
        if t.working.isPrefixOf location then some (location.drop t.working.length) else none
    | _ => none

def changedSince (t before : FileTree) : List (Location × Content) :=
  t.entries.filterMap fun (location, entry) =>
    match entry with
    | .file content =>
        if before.entryAt location = some (.file content) then none else some (location, content)
    | _ => none

end FileTree

end Relint
