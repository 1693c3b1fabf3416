import ClassAtlas.ClassPath.Basic
import Mathlib.Data.List.Sort
import Mathlib.Data.String.Basic

/-!
# Listings of packages

A listing is in ascending order and has each class once, so it is settled by the classes that
are in it. These are the top-level classes among the files that the entries list.
-/

namespace ClassAtlas
namespace ClassPath

/-- Each name comes after those before it. -/
def IsAscending (names : List ClassName) : Prop :=
  names.Pairwise fun earlier later => earlier.text < later.text

theorem IsAscending.eq_of_mem_iff {names others : List ClassName} (ascending : IsAscending names)
    (ascendingOthers : IsAscending others) (same : ∀ name, name ∈ names ↔ name ∈ others) :
    names = others := by
  have irrefl : Std.Irrefl fun earlier later : ClassName => earlier.text < later.text :=
    ⟨fun name => String.lt_irrefl name.text⟩
  have antisymm : Std.Antisymm fun earlier later : ClassName => earlier.text < later.text :=
    ⟨fun _ _ before after => absurd (String.lt_trans before after) (String.lt_irrefl _)⟩
  exact List.Pairwise.eq_of_mem_iff ascending ascendingOthers same

/-!
# Putting names in their places
-/

theorem mem_insertName_iff {name other : ClassName} {known : List ClassName} :
    other ∈ insertName name known ↔ other = name ∨ other ∈ known := by
  induction known with
  | nil => simp [insertName]
  | cons first rest ih =>
      rw [insertName]
      split
      · exact List.mem_cons
      · split
        · next same => simp [same]
        · rw [List.mem_cons, ih, List.mem_cons]
          exact or_left_comm

theorem isAscending_insertName {name : ClassName} {known : List ClassName}
    (ascending : IsAscending known) : IsAscending (insertName name known) := by
  induction known with
  | nil => exact List.pairwise_singleton _ name
  | cons first rest ih =>
      rcases List.pairwise_cons.mp ascending with ⟨firstLeast, ascendingRest⟩
      rw [insertName]
      split
      · next before =>
          refine List.pairwise_cons.mpr ⟨List.forall_mem_cons.mpr ⟨before, ?_⟩, ascending⟩
          exact fun other mem => String.lt_trans before (firstLeast other mem)
      · next notBefore =>
          split
          · exact ascending
          · next different =>
              have after : first.text < name.text := by
                rcases lt_trichotomy name.text first.text with before | same | after
                · exact absurd before notBefore
                · exact absurd (congrArg ClassName.mk same) different
                · exact after
              refine List.pairwise_cons.mpr ⟨?_, ih ascendingRest⟩
              intro other mem
              rcases mem_insertName_iff.mp mem with rfl | inRest
              · exact after
              · exact firstLeast other inRest

theorem foldl_insertName {names known : List ClassName} (ascending : IsAscending known) :
    IsAscending (names.foldl (fun known name => insertName name known) known) ∧
      ∀ name, name ∈ names.foldl (fun known name => insertName name known) known ↔
        name ∈ names ∨ name ∈ known := by
  induction names generalizing known with
  | nil => exact ⟨ascending, by simp⟩
  | cons first rest ih =>
      rcases @ih (insertName first known) (isAscending_insertName ascending) with
        ⟨ascendingAll, mem_iff⟩
      refine ⟨ascendingAll, fun name => ?_⟩
      rw [List.foldl_cons, mem_iff, mem_insertName_iff, List.mem_cons, or_assoc]
      exact or_left_comm

/-!
# What a listing has
-/

theorem topLevelClass?_eq_some_iff {fileName simple : String} :
    topLevelClass? fileName = some simple ↔
      fileName = classFilePath simple ∧ '$' ∉ simple.toList ∧ simple ∉ descriptorNames := by
  have named : fileName = classFilePath simple ↔
      Text.beforeEnd? ".class".toList fileName.toList = some simple.toList := by
    rw [Text.beforeEnd?_eq_some_iff, classFilePath, ← String.toList_inj, String.toList_append]
  rw [named]
  unfold topLevelClass?
  cases Text.beforeEnd? ".class".toList fileName.toList with
  | none => simp
  | some stem =>
      by_cases same : stem = simple.toList
      · simp [same]
      · have different : String.ofList stem ≠ simple := by
          intro isStem
          rw [← isStem, String.toList_ofList] at same
          exact same rfl
        simp [same, different]

def classInside (package simple : String) : ClassName :=
  .ofPath (package ++ "." ++ simple)

/-- A class is listed if an entry has a file for it that stands for a top-level class. -/
theorem list_spec (files : FileSystem) (classPath : ClassPath) (package : String) :
    IsAscending (classPath.list files package) ∧
      ∀ name, name ∈ classPath.list files package ↔ ∃ simple,
        '$' ∉ simple.toList ∧ simple ∉ descriptorNames ∧ name = classInside package simple ∧
          ∃ entry ∈ classPath.entries,
            classFilePath simple ∈ entry.fileNames files (packageDirectory package) := by
  rcases @foldl_insertName (((classPath.entries.flatMap fun entry =>
    entry.fileNames files (packageDirectory package)).filterMap topLevelClass?).map
      (classInside package)) [] List.Pairwise.nil with ⟨ascending, mem_iff⟩
  refine ⟨ascending, fun name => (mem_iff name).trans ?_⟩
  simp only [List.mem_map, List.mem_filterMap, List.mem_flatMap, topLevelClass?_eq_some_iff,
    List.not_mem_nil, or_false]
  constructor
  · intro found
    rcases found with ⟨simple, ⟨fileName, ⟨entry, mem, listed⟩, rfl, flat, isClass⟩, rfl⟩
    exact ⟨simple, flat, isClass, rfl, entry, mem, listed⟩
  · intro found
    rcases found with ⟨simple, flat, isClass, rfl, entry, mem, listed⟩
    exact ⟨simple, ⟨_, ⟨entry, mem, listed⟩, rfl, flat, isClass⟩, rfl⟩

end ClassPath
end ClassAtlas
