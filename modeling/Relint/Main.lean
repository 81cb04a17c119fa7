import Relint.Command.Run

/-!
The command line on the files of a computer. What a run may look at is loaded into
a tree, the run is made on that tree, and what it changed there is written back.
-/

namespace Relint

namespace Disk

def pathOf (location : Location) : String :=
  "/" ++ "/".intercalate location

def nowhere : String :=
  "/nowhere/at/all"

/-- The content of a file. One that cannot be read counts as one that is no text. -/
def contentOf (bytes : IO ByteArray) : IO Content := do
  match ← bytes.toBaseIO with
  | .ok bytes => return .ofBytes bytes
  | .error _ => return .binary []

/-- Loads what a link leads to. The link is kept with the path behind all links. -/
def loadLink (t : FileTree) (location : Location) : IO FileTree := do
  match ← (IO.FS.realPath (pathOf location)).toBaseIO with
  | .error _ => return t.put location (.link nowhere)
  | .ok target =>
      let place := Path.names target.toString
      let t := (t.put location (.link target.toString)).putDirectories place.dropLast
      if ← target.isDir then return t.putDirectories place
      return t.put place (.file (← contentOf (IO.FS.readBinFile target)))

def loadName (t : FileTree) (directory : Location) (name : String) : IO FileTree := do
  let location := directory ++ [name]
  let path := (← IO.FS.realPath (pathOf directory)) / name
  match ← path.symlinkMetadata.toBaseIO with
  | .error _ => return t
  | .ok found =>
      match found.type with
      | .file => return t.put location (.file (← contentOf (IO.FS.readBinFile path)))
      | .dir => return t.putDirectories location
      | .symlink => loadLink t location
      | .other => return t

def loadSteps (t : FileTree) (directory : Location) : List String → IO FileTree
  | [] => return t
  | "." :: rest => loadSteps t directory rest
  | ".." :: rest => loadSteps t directory.dropLast rest
  | name :: rest => do
      let t ← loadName t directory name
      match t.walk true FileTree.linkLimit directory [name] with
      | .ok location =>
          if t.entryAt location = some .directory then loadSteps t location rest else return t
      | .error _ => return t

def loadPath (t : FileTree) (path : String) : IO FileTree :=
  loadSteps t (FileTree.startOf t.working path) (Path.steps path)

/-- Loads all files below a directory but those that are never searched. -/
partial def loadBelow (t : FileTree) (directory : Location) : IO FileTree := do
  let mut t := t
  for found in ← (← IO.FS.realPath (pathOf directory)).readDir do
    unless found.fileName = "node_modules" || found.fileName = ".git" do
      t ← loadName t directory found.fileName
      let location := directory ++ [found.fileName]
      if t.entryAt location = some .directory then
        t ← loadBelow t location
  return t

def load (t : FileTree) (o : Options) : IO FileTree := do
  let named := [o.tslint, o.config, "pnpm-lock.yaml", "yarn.lock"] ++ o.eslint.toList ++
    o.editor.toList ++ o.comments.getD []
  let t ← named.foldlM loadPath t
  if o.comments.isSome then loadBelow t t.working else return t

def save (t before : FileTree) : IO Unit :=
  for (location, entry) in t.entries do
    unless before.entryAt location = some entry do
      match entry with
      | .directory => IO.FS.createDirAll (pathOf location)
      | .file (.text s) => IO.FS.writeFile (pathOf location) s
      | .file (.binary _) | .link _ => pure ()

def run (arguments : List String) : IO ExitStatus := do
  let working := (← IO.FS.realPath ".").toString
  let start := FileTree.ofEntries [] (Path.names working) working
  let before ←
    match Options.read arguments with
    | .run o => load start o
    | .version | .help => pure start
    | .refused => IO.eprint usage; pure start
  let outcome := runArguments arguments before
  save outcome.tree before
  IO.print outcome.output
  if let some fault := outcome.fault then IO.eprintln fault.message
  return outcome.status

end Disk

end Relint

def main (arguments : List String) : IO UInt32 := do
  return (← Relint.Disk.run arguments).code.toUInt32
