import ClassAtlas.Declaration.Codec
import ClassAtlas.Json.Parser
import ClassAtlas.Json.Printer
import ClassAtlas.Source.Basic

/-!
# Snapshots

A snapshot holds declarations in memory, one for each name, in the order in
which the names came. It is written and read as structured text. As a source it
keeps a journal of the classes it was asked for.
-/

namespace ClassAtlas

structure Snapshot where
  classes : List ClassDecl
  /-- Why every request fails, if it does. -/
  unavailable : Option String

namespace Snapshot

def empty : Snapshot :=
  ⟨[], none⟩

def insertDecl (decl : ClassDecl) : List ClassDecl → List ClassDecl
  | [] => [decl]
  | first :: rest =>
      if first.name = decl.name then decl :: rest else first :: insertDecl decl rest

/-- A declaration takes the place of an earlier one of that name. -/
def insert (snapshot : Snapshot) (decl : ClassDecl) : Snapshot :=
  { snapshot with classes := insertDecl decl snapshot.classes }

def ofDecls (decls : List ClassDecl) : Snapshot :=
  decls.foldl insert empty

/-!
# Text
-/

def fieldNames : List String :=
  ["classes"]

def toJson (snapshot : Snapshot) : Json :=
  .object [("classes", .array (snapshot.classes.map ClassDecl.toJson))]

def ofJson? (value : Json) : Option Snapshot := do
  match ← Json.fields? .refused fieldNames value with
  | [classes] => return ofDecls (← Json.required? (Json.list? ClassDecl.ofJson?) classes)
  | _ => none

def render (snapshot : Snapshot) : String :=
  snapshot.toJson.pretty

def parse (text : String) : Except Cause Snapshot :=
  match (Json.parse? .none text).bind ofJson? with
  | some snapshot => .ok snapshot
  | none => .error .notJson

/-!
# Requests
-/

def load (snapshot : Snapshot) (name : ClassName) : Except LoadError ClassDecl :=
  match snapshot.unavailable with
  | some reason => .error (.unavailable reason)
  | none =>
      match snapshot.classes.find? fun decl => decl.name = name with
      | some decl => .ok decl
      | none => .error (.notFound name)

def list (snapshot : Snapshot) (package : String) : Except LoadError (List ClassName) :=
  match snapshot.unavailable with
  | some reason => .error (.unavailable reason)
  | none =>
      .ok ((snapshot.classes.map ClassDecl.name).filter fun name => name.package? = some package)

/-- The names a snapshot was asked for, oldest first. -/
abbrev Journal :=
  List ClassName

/-- An unavailable snapshot does not even note what it is asked for. -/
def note (snapshot : Snapshot) (name : ClassName) (journal : Journal) : Journal :=
  if snapshot.unavailable.isSome then journal else journal ++ [name]

def source (snapshot : Snapshot) : ClassSource Journal where
  load := fun name journal => (snapshot.load name, snapshot.note name journal)
  list := fun package journal => (snapshot.list package, journal)

theorem mem_classes_of_load {snapshot : Snapshot} {name : ClassName} {decl : ClassDecl}
    (loaded : snapshot.load name = .ok decl) : decl ∈ snapshot.classes := by
  unfold load at loaded
  split at loaded
  · exact of_error_eq_ok loaded
  · split at loaded
    · next found =>
        rcases Except.ok.inj loaded with rfl
        exact List.mem_of_find?_eq_some found
    · exact of_error_eq_ok loaded

def mentioned (snapshot : Snapshot) : List ClassName :=
  snapshot.classes.flatMap ClassDecl.mentioned

theorem mem_mentioned_of_load {snapshot : Snapshot} {name : ClassName} {decl : ClassDecl}
    (loaded : snapshot.load name = .ok decl) {other : ClassName} (mem : other ∈ decl.mentioned) :
    other ∈ snapshot.mentioned :=
  List.mem_flatMap.mpr ⟨decl, mem_classes_of_load loaded, mem⟩

theorem finite_source (snapshot : Snapshot) : snapshot.source.Finite where
  bounded := by
    refine ⟨snapshot.mentioned, ?_⟩
    intro name journal decl later loaded other mem
    exact mem_mentioned_of_load (Prod.mk.inj loaded).left mem

end Snapshot
end ClassAtlas
