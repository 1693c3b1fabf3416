import ClassAtlas.Proofs.Declaration.Codec
import ClassAtlas.Source.Snapshot

/-!
# Snapshots are read back

A snapshot that is written and read holds the same declarations in the same order. Each
name stands for one declaration, so putting them into an empty snapshot one after the other
finds every name new.
-/

namespace ClassAtlas
namespace Snapshot

/-!
# Inserting
-/

theorem names_insertDecl (decl : ClassDecl) (classes : List ClassDecl) :
    (insertDecl decl classes).map ClassDecl.name =
      if decl.name ∈ classes.map ClassDecl.name then classes.map ClassDecl.name
      else classes.map ClassDecl.name ++ [decl.name] := by
  induction classes with
  | nil => rfl
  | cons first rest ih =>
      rw [insertDecl, List.map_cons]
      by_cases same : first.name = decl.name
      · rw [if_pos same, if_pos (List.mem_cons.mpr (Or.inl same.symm)), List.map_cons, same]
      · rw [if_neg same, List.map_cons, ih]
        simp only [List.mem_cons, Ne.symm same, false_or]
        split <;> rfl

theorem insertDecl_of_fresh {decl : ClassDecl} {classes : List ClassDecl}
    (fresh : decl.name ∉ classes.map ClassDecl.name) :
    insertDecl decl classes = classes ++ [decl] := by
  induction classes with
  | nil => rfl
  | cons first rest ih =>
      rw [List.map_cons, List.mem_cons, not_or] at fresh
      rw [insertDecl, if_neg (Ne.symm fresh.left), ih fresh.right]
      rfl

theorem nodup_names_insert {snapshot : Snapshot} (decl : ClassDecl)
    (nodup : (snapshot.classes.map ClassDecl.name).Nodup) :
    ((snapshot.insert decl).classes.map ClassDecl.name).Nodup := by
  rw [insert, names_insertDecl]
  split
  · exact nodup
  · next fresh =>
      rw [← List.concat_eq_append]
      exact List.Nodup.concat fresh nodup

theorem nodup_names_ofDecls (decls : List ClassDecl) :
    ((ofDecls decls).classes.map ClassDecl.name).Nodup := by
  have all : ∀ snapshot : Snapshot, (snapshot.classes.map ClassDecl.name).Nodup →
      ((decls.foldl insert snapshot).classes.map ClassDecl.name).Nodup := by
    induction decls with
    | nil => exact fun _ nodup => nodup
    | cons first rest ih =>
        intro snapshot nodup
        exact ih (snapshot.insert first) (nodup_names_insert first nodup)
  exact all empty List.nodup_nil

theorem foldl_insert_of_nodup {decls : List ClassDecl} {snapshot : Snapshot}
    (nodup : ((snapshot.classes ++ decls).map ClassDecl.name).Nodup) :
    decls.foldl insert snapshot = { snapshot with classes := snapshot.classes ++ decls } := by
  induction decls generalizing snapshot with
  | nil => rw [List.append_nil]; rfl
  | cons first rest ih =>
      have fresh : first.name ∉ snapshot.classes.map ClassDecl.name := by
        rw [List.map_append, List.nodup_append] at nodup
        intro mem
        exact nodup.right.right first.name mem first.name List.mem_cons_self rfl
      have inserted : snapshot.insert first =
          { snapshot with classes := snapshot.classes ++ [first] } := by
        rw [insert, insertDecl_of_fresh fresh]
      rw [List.append_cons] at nodup
      rw [List.foldl_cons, inserted, ih nodup, List.append_assoc]
      rfl

theorem ofDecls_of_nodup {decls : List ClassDecl} (nodup : (decls.map ClassDecl.name).Nodup) :
    ofDecls decls = ⟨decls, none⟩ :=
  foldl_insert_of_nodup nodup

theorem unavailable_ofDecls (decls : List ClassDecl) : (ofDecls decls).unavailable = none := by
  have all : ∀ snapshot : Snapshot,
      (decls.foldl insert snapshot).unavailable = snapshot.unavailable := by
    induction decls with
    | nil => exact fun _ => rfl
    | cons first rest ih => exact fun snapshot => ih (snapshot.insert first)
  exact all empty

/-- Filling an empty snapshot with what one holds makes the same snapshot. -/
theorem ofDecls_classes_ofDecls (decls : List ClassDecl) :
    ofDecls (ofDecls decls).classes = ofDecls decls := by
  rw [ofDecls_of_nodup (nodup_names_ofDecls decls), ← unavailable_ofDecls decls]

/-!
# Writing and reading
-/

theorem textual_toJson (snapshot : Snapshot) : Json.Textual snapshot.toJson := by
  refine .object ?_
  simp only [List.forall_mem_cons]
  exact ⟨ClassDecl.carries.list.textual _, List.forall_mem_nil _⟩

theorem ofJson?_toJson (snapshot : Snapshot) :
    ofJson? snapshot.toJson = some (ofDecls snapshot.classes) := by
  have fields : Json.fields? .refused fieldNames snapshot.toJson = some _ :=
    Json.fields?_object rfl (by decide)
  simp [ofJson?, fields, Json.required?, ClassDecl.carries.list.reads]

/-- Whatever classes a snapshot has been filled with, reading what is written for it
succeeds and gives the same declarations under the same names in the same order. -/
theorem parse_render (decls : List ClassDecl) (unavailable : Option String) :
    parse (render { ofDecls decls with unavailable }) = .ok (ofDecls decls) := by
  have read := Json.parse?_pretty (textual_toJson { ofDecls decls with unavailable })
  rw [parse, render, read, Option.bind_some, ofJson?_toJson, ofDecls_classes_ofDecls]

end Snapshot
end ClassAtlas
