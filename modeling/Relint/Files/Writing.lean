import Relint.Files.Tree

/-!
Changing a tree of files. What has been changed before an access fails stays
changed.
-/

namespace Relint

/-- Something that a program does to a tree of files. It may fail, and the tree is
that up to the failure then. -/
abbrev FileAction (ε α : Type) := ExceptT ε (StateM FileTree) α

/-- Why a file is not written. -/
inductive WriteFault where
  | symbolicLink (path : String)
  | access (fault : FileFault)
  deriving DecidableEq

def WriteFault.message : WriteFault → String
  | .symbolicLink path => "Refusing to write file because it is a symbolic link: " ++ path
  | .access fault => fault.message

namespace FileTree

/-- A path through some names, from the root or from the working directory. -/
def pathOf (absolute : Bool) (names : List String) : String :=
  (if absolute then "/" else "") ++ "/".intercalate names

def makeDirectory (t : FileTree) (path : String) : Except FileFault FileTree := do
  let location ← t.locate false path
  match t.entryAt location with
  | some _ => .error .alreadyThere
  | none => .ok (t.put location .directory)

def ensureDirectory (t : FileTree) (path : String) : Except FileFault FileTree :=
  match t.makeDirectory path with
  | .ok t => .ok t
  | .error fault => if t.isDirectory path then .ok t else .error fault

/-- The path of a directory and those of the directories above it, from the inside
out. The names come in reverse. -/
def directoryChain (absolute : Bool) : List String → List String
  | [] => if absolute then ["/"] else []
  | name :: names => pathOf absolute (name :: names).reverse :: directoryChain absolute names

end FileTree

namespace FileAction

variable {ε α : Type}

def change (f : FileTree → Except ε FileTree) : FileAction ε Unit := do
  match f (← get) with
  | .ok t => set t
  | .error fault => throw fault

def ask (f : FileTree → Except ε α) : FileAction ε α := do
  match f (← get) with
  | .ok a => return a
  | .error fault => throw fault

/-- Makes the first directory of a chain. Where it cannot be made because the one
above it is missing, that is made before. -/
def makeDirectories : List String → FileAction FileFault Unit
  | [] => return
  | path :: parents => do
      let t ← get
      match t.makeDirectory path with
      | .ok t => set t
      | .error .notFound =>
          makeDirectories parents
          change (·.ensureDirectory path)
      | .error fault => if t.isDirectory path then return else throw fault

/-- Makes the directory that a file is to stand in, and those above it. -/
def makeParents (path : String) : FileAction FileFault Unit :=
  match (Path.names path).reverse with
  | [] => return
  | _ :: names => makeDirectories (FileTree.directoryChain (Path.isAbsolute path) names)

/-- Gives a file a new text, and makes it if it is missing. A path that ends in a
slash can only be that of a directory. -/
def overwrite (path text : String) : FileAction FileFault Unit :=
  change fun t => do
    if path.toList.getLast? = some '/' then .error .isDirectory
    else
      let location ← t.locate true path
      match t.entryAt location with
      | some .directory => .error .isDirectory
      | some (.link _) => .error .tooManyLinks
      | some (.file _) | none => .ok (t.put location (.file (.text text)))

/-- Writes a file together with the directories that it needs. A path that names a
link is refused. -/
def writeFile (path text : String) : FileAction WriteFault Unit := do
  if (← get).isLink path then throw (.symbolicLink path)
  (makeParents path).adapt .access
  (overwrite path text).adapt .access

end FileAction

end Relint
