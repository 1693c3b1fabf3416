import ClassAtlas.ClassName.Nested
import ClassAtlas.ClassPath.Entry

/-!
# Class paths

A class path is searched entry by entry, and the first entry that has a class
wins. A class is tried under each spelling of a nested class before the next
spelling is tried at all.
-/

namespace ClassAtlas

structure ClassPath where
  entries : List ClassPath.Entry

namespace ClassPath

def empty : ClassPath :=
  ⟨[]⟩

def push (files : FileSystem) (classPath : ClassPath) (path : String) :
    Except ClassPathError ClassPath := do
  return ⟨classPath.entries ++ [← Entry.openPath files path]⟩

def ofPaths (files : FileSystem) (paths : List String) : Except ClassPathError ClassPath := do
  return ⟨← paths.mapM (Entry.openPath files)⟩

/-!
# Finding classes
-/

def classFilePath (path : String) : String :=
  path ++ ".class"

def find (files : FileSystem) (classPath : ClassPath) (name : ClassName) :
    Except ClassPathError (Option ByteArray) :=
  name.binaryNames.findSomeM? fun path =>
    classPath.entries.findSomeM? fun entry => entry.read files (classFilePath path)

/-!
# Listing packages
-/

/-- Class files that stand for a package or a module and not for a class. -/
def descriptorNames : List String :=
  ["package-info", "module-info"]

/-- The class a file name stands for, unless it is nested or no class. -/
def topLevelClass? (fileName : String) : Option String :=
  match Text.beforeEnd? ".class".toList fileName.toList with
  | none => none
  | some simple =>
      if '$' ∈ simple || descriptorNames.contains (String.ofList simple) then none
      else some (String.ofList simple)

def insertName (name : ClassName) : List ClassName → List ClassName
  | [] => [name]
  | first :: rest =>
      if name.text < first.text then name :: first :: rest
      else if name = first then first :: rest
      else first :: insertName name rest

def packageDirectory (package : String) : String :=
  String.ofList (package.toList.map fun c => if c = '.' then '/' else c)

/-- The top-level classes directly in a package, in ascending order. -/
def list (files : FileSystem) (classPath : ClassPath) (package : String) : List ClassName :=
  let fileNames := classPath.entries.flatMap fun entry =>
    entry.fileNames files (packageDirectory package)
  let names := (fileNames.filterMap topLevelClass?).map fun simple =>
    ClassName.ofPath (package ++ "." ++ simple)
  names.foldl (fun known name => insertName name known) []

end ClassPath
end ClassAtlas
