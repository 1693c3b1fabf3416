import ClassAtlas.Failure.FileError
import ClassAtlas.Files.Path

/-!
# File systems

A file system maps locations to files and directories. Following a path demands
that every step but the last starts at a directory that is there.
-/

namespace ClassAtlas

inductive FileNode where
  | file (content : ByteArray)
  | directory

/-- The names on the way from the root, innermost first. -/
abbrev Location :=
  List String

structure FileSystem where
  nodes : List (Location × FileNode)
  workingDirectory : Location

namespace FileSystem

/-- What is at a location. The root is always a directory. -/
def node? (files : FileSystem) : Location → Option FileNode
  | [] => some .directory
  | name :: outer =>
      (files.nodes.find? fun entry => entry.1 = name :: outer).map Prod.snd

/-!
# Following paths
-/

def follow (files : FileSystem) (here : Location) (step : List Char) :
    Except FileError Location :=
  match files.node? here with
  | none => .error .notFound
  | some (.file _) => .error .notDirectory
  | some .directory =>
      if Path.isIdle step then .ok here
      else if step = ['.', '.'] then .ok here.tail
      else if Path.isStepTooLong step then .error .nameTooLong
      else .ok (String.ofList step :: here)

/-- The location that a path names, whether anything is there or not. -/
def locate (files : FileSystem) (path : String) : Except FileError Location :=
  if '\x00' ∈ path.toList then .error .invalidName
  else if Path.isTooLong path then .error .nameTooLong
  else if path.isEmpty then .error .notFound
  else
    (path.toList.splitOn '/').foldlM files.follow
      (if Path.isAbsolute path then [] else files.workingDirectory)

def lookup (files : FileSystem) (path : String) : Except FileError FileNode := do
  match files.node? (← files.locate path) with
  | some node => return node
  | none => throw .notFound

def isPresent (files : FileSystem) (path : String) : Bool :=
  match files.lookup path with
  | .ok _ => true
  | .error _ => false

def isDirectory (files : FileSystem) (path : String) : Bool :=
  match files.lookup path with
  | .ok .directory => true
  | _ => false

def isFile (files : FileSystem) (path : String) : Bool :=
  match files.lookup path with
  | .ok (.file _) => true
  | _ => false

/-!
# Reading
-/

def read (files : FileSystem) (path : String) : Except FileError ByteArray := do
  match ← files.lookup path with
  | .file content => return content
  | .directory => throw .isDirectory

def readText (files : FileSystem) (path : String) : Except FileError String := do
  match String.fromUTF8? (← files.read path) with
  | some text => return text
  | none => throw .notText

def contents (files : FileSystem) : List ByteArray :=
  files.nodes.filterMap fun entry =>
    match entry.2 with
    | .file content => some content
    | .directory => none

theorem mem_contents_of_node? {files : FileSystem} {location : Location} {content : ByteArray}
    (found : files.node? location = some (.file content)) : content ∈ files.contents := by
  cases location with
  | nil => exact absurd (Option.some.inj found) (by simp)
  | cons name outer =>
      rcases Option.map_eq_some_iff.mp found with ⟨entry, isEntry, isFile⟩
      exact List.mem_filterMap.mpr
        ⟨entry, List.mem_of_find?_eq_some isEntry, by simp [isFile]⟩

theorem mem_contents_of_read {files : FileSystem} {path : String} {content : ByteArray}
    (read : files.read path = .ok content) : content ∈ files.contents := by
  unfold FileSystem.read lookup at read
  cases located : files.locate path with
  | error error => rw [located] at read; exact nomatch read
  | ok location =>
      rw [located] at read
      cases found : files.node? location with
      | none => simp only [bind, Except.bind, found] at read; exact nomatch read
      | some node =>
          simp only [bind, Except.bind, found] at read
          cases node with
          | directory => exact nomatch read
          | file inside =>
              obtain rfl : inside = content := Except.ok.inj read
              exact mem_contents_of_node? found

def childName? (directory : Location) : Location → Option String
  | [] => none
  | name :: outer => if outer = directory then some name else none

def childNames (files : FileSystem) (path : String) : List String :=
  match files.locate path with
  | .error _ => []
  | .ok here =>
      match files.node? here with
      | some .directory => files.nodes.filterMap fun entry => childName? here entry.1
      | _ => []

/-!
# Writing
-/

def put (files : FileSystem) (location : Location) (node : FileNode) : FileSystem :=
  { files with
    nodes := (files.nodes.filter fun entry => entry.1 ≠ location) ++ [(location, node)] }

def makeDirectory (files : FileSystem) (path : String) : Except FileError FileSystem := do
  let location ← files.locate path
  match files.node? location with
  | some _ => throw .alreadyExists
  | none => return files.put location .directory

/-- Makes the first directory of a list, and before it those that it needs. -/
def makeDirectories (files : FileSystem) : List String → Except FileError FileSystem
  | [] => .ok files
  | path :: outer =>
      match files.makeDirectory path with
      | .ok made => .ok made
      | .error .notFound => do
          let prepared ← files.makeDirectories outer
          match prepared.makeDirectory path with
          | .ok made => return made
          | .error error => if prepared.isDirectory path then return prepared else throw error
      | .error error => if files.isDirectory path then .ok files else .error error

/-- Writes a file that may be there already. A path with a slash at its end names
a directory. -/
def write (files : FileSystem) (path : String) (content : ByteArray) :
    Except FileError FileSystem := do
  if path.toList.getLast? = some '/' then
    let trimmed := (path.toList.reverse.dropWhile (· = '/')).reverse
    unless trimmed.isEmpty do
      let _ ← files.locate (String.ofList trimmed)
    throw .isDirectory
  let location ← files.locate path
  match files.node? location with
  | some .directory => throw .isDirectory
  | _ => return files.put location (.file content)

def writeWithin (files : FileSystem) (path : String) (content : ByteArray) :
    Except FileError FileSystem := do
  match Path.parent? path with
  | none => files.write path content
  | some directory =>
      (← files.makeDirectories (Path.ancestors directory)).write path content

end FileSystem
end ClassAtlas
