import ClassAtlas.ClassFile.Declaration
import ClassAtlas.ClassPath.Basic
import ClassAtlas.Selection
import ClassAtlas.Source.Basic

/-!
# Class paths as sources

A class path answers with what its class files declare. Of a package it lists
the public classes only, which takes loading each of them. Its answers come
from finitely many files.
-/

namespace ClassAtlas
namespace ClassPath

def load (files : FileSystem) (classPath : ClassPath) (name : ClassName) :
    Except LoadError ClassDecl :=
  match classPath.find files name with
  | .error error => .error error.toLoadError
  | .ok none => .error (.notFound name)
  | .ok (some content) => ClassDecl.ofClassFile name content

/-- Those names whose classes are public; the first class that fails to load
fails them all. -/
def publicOnes (files : FileSystem) (classPath : ClassPath) :
    List ClassName → Except LoadError (List ClassName)
  | [] => .ok []
  | name :: rest => do
      let decl ← classPath.load files name
      let others ← publicOnes files classPath rest
      return if decl.isPublic then name :: others else others

def listPublic (files : FileSystem) (classPath : ClassPath) (package : String) :
    Except LoadError (List ClassName) :=
  classPath.publicOnes files (classPath.list files package)

def source (files : FileSystem) (classPath : ClassPath) : ClassSource Unit where
  load := fun name state => (classPath.load files name, state)
  list := fun package state => (classPath.listPublic files package, state)

/-!
# What a class path holds
-/

namespace Entry

def contents (files : FileSystem) : Entry → List ByteArray
  | directory _ => files.contents
  | archive _ members _ => members.contents
  | image content => content.resources.map Prod.snd

theorem mem_contents_of_read {files : FileSystem} {entry : Entry} {resource : String}
    {content : ByteArray} (read : entry.read files resource = .ok (some content)) :
    content ∈ entry.contents files := by
  cases entry with
  | directory path =>
      simp only [Entry.read] at read
      split at read
      · split at read
        · next found =>
            rcases Option.some.inj (Except.ok.inj read) with rfl
            exact FileSystem.mem_contents_of_read found
        · exact of_error_eq_ok read
      · exact absurd (Except.ok.inj read) (by simp)
  | archive path members inside =>
      simp only [Entry.read] at read
      split at read
      · exact absurd (Except.ok.inj read) (by simp)
      · next member found =>
          split at read
          · next isContent =>
              rcases Option.some.inj (Except.ok.inj read) with rfl
              exact Archive.mem_contents_of_member found isContent
          · exact of_error_eq_ok read
  | image image =>
      exact List.mem_map_of_mem (mem_of_lookup_eq_some (Except.ok.inj read))

end Entry

def contents (files : FileSystem) (classPath : ClassPath) : List ByteArray :=
  classPath.entries.flatMap (Entry.contents files)

theorem mem_contents_of_find {files : FileSystem} {classPath : ClassPath} {name : ClassName}
    {content : ByteArray} (found : classPath.find files name = .ok (some content)) :
    content ∈ classPath.contents files := by
  rcases exists_of_findSomeM? found with ⟨path, _, readPath⟩
  rcases exists_of_findSomeM? readPath with ⟨entry, mem, read⟩
  exact List.mem_flatMap.mpr ⟨entry, mem, Entry.mem_contents_of_read read⟩

theorem finite_source (files : FileSystem) (classPath : ClassPath) :
    (classPath.source files).Finite where
  bounded := by
    refine ⟨(classPath.contents files).flatMap ClassDecl.namesInClassFile, ?_⟩
    intro name state decl later loaded other mem
    have answer : classPath.load files name = .ok decl := (Prod.mk.inj loaded).left
    unfold load at answer
    split at answer
    · exact of_error_eq_ok answer
    · exact of_error_eq_ok answer
    · next content found =>
        exact List.mem_flatMap.mpr
          ⟨content, mem_contents_of_find found, ClassDecl.mem_namesInClassFile answer mem⟩

end ClassPath
end ClassAtlas
