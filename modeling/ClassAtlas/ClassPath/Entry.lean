import ClassAtlas.Archive.Basic
import ClassAtlas.Failure.ClassPathError
import ClassAtlas.Files.FileSystem
import ClassAtlas.RuntimeImage

/-!
# Entries of a class path

An entry is a directory, an archive or a runtime image; the first bytes of a file
tell which. Whatever its form, an entry maps resource paths such as
`java/lang/Object.class` to contents, and names the files directly inside a
directory.
-/

namespace ClassAtlas
namespace ClassPath

inductive Entry where
  | directory (path : String)
  /-- Resources lie under a directory inside the archive. -/
  | archive (path : String) (members : Archive) (inside : String)
  | image (content : RuntimeImage)

namespace Entry

/-!
# Opening
-/

/-- The directory of an archive that its classes lie under, by the first two bytes
of the file: an archive of classes, or a packed module. -/
def archiveForm? : List UInt8 → Option String
  | 0x50 :: 0x4B :: _ => some ""
  | 0x4A :: 0x4D :: _ => some "classes/"
  | _ => none

def openFile (path : String) (content : ByteArray) : Except ClassPathError Entry :=
  match Bytes.slice? content 0 4 with
  | none => .error (.file path .tooShort)
  | some start =>
      match archiveForm? start.toList with
      | some inside =>
          match Archive.read? content with
          | some members => .ok (.archive path members inside)
          | none => .error (.archive path)
      | none =>
          if (RuntimeImage.order? content).isSome then
            match RuntimeImage.read? content with
            | some content => .ok (.image content)
            | none => .error (.image path)
          else .error (.unrecognized path)

def openPath (files : FileSystem) (path : String) : Except ClassPathError Entry :=
  if files.isDirectory path then .ok (.directory path)
  else
    match files.read path with
    | .error error => .error (.file path error)
    | .ok content => openFile path content

/-!
# Resources
-/

def archiveError (path : String) : MemberFault → ClassPathError
  | .inaccessible => .archive path
  | .broken error => .file path error

def read (files : FileSystem) (entry : Entry) (resource : String) :
    Except ClassPathError (Option ByteArray) :=
  match entry with
  | directory path =>
      let file := Path.join path resource
      if files.isFile file then
        match files.read file with
        | .ok content => .ok (some content)
        | .error error => .error (.file file error)
      else .ok none
  | archive path members inside =>
      match members.member? (inside ++ resource) with
      | none => .ok none
      | some member =>
          match members.content member with
          | .ok content => .ok (some content)
          | .error fault => .error (archiveError path fault)
  | image content => .ok (content.resources.lookup resource)

def childName? (directory : String) (resource : String) : Option String :=
  match Text.afterStart? (directory.toList ++ ['/']) resource.toList with
  | some (c :: rest) => if '/' ∈ c :: rest then none else some (String.ofList (c :: rest))
  | _ => none

def fileNames (files : FileSystem) (entry : Entry) (inner : String) : List String :=
  match entry with
  | directory path =>
      let place := Path.join path inner
      (files.childNames place).filter fun name => files.isFile (Path.join place name)
  | archive _ members inside =>
      members.select fun name =>
        ((Text.afterStart? inside.toList name.toList).map String.ofList).bind
          (childName? inner)
  | image content => content.resources.filterMap fun resource => childName? inner resource.1

end Entry
end ClassPath
end ClassAtlas
