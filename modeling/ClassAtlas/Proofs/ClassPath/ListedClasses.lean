import ClassAtlas.ClassPath.Source
import ClassAtlas.Proofs.ClassPath.Interchange

/-!
# Listed classes

A listing takes the names of class files in the directory of a package for simple names. A class
that is listed is found again and is in the package, unless the file name has a dot: then the
name belongs to an inner package, and is looked for there. The members of an archive are listed
by the names that their bytes stand for, and found by the bytes.
-/

namespace ClassAtlas

/-!
# Names inside a package
-/

namespace ClassName

variable {package simple : String}

theorem mem_respellings (path : List Char) : path ∈ respellings path := by
  fun_cases respellings path <;> exact List.mem_cons_self

theorem internalName_mem_binaryNames (name : ClassName) : name.internalName ∈ name.binaryNames :=
  List.mem_map_of_mem (mem_respellings name.slashedChars)

theorem chars_append_dot :
    (⟨package ++ "." ++ simple⟩ : ClassName).chars = package.toList ++ '.' :: simple.toList := by
  simp [chars, String.toList_append]

theorem package?_eq_some_iff :
    (⟨package ++ "." ++ simple⟩ : ClassName).package? = some package ↔ '.' ∉ simple.toList := by
  rw [package?, chars_append_dot, Option.map_eq_some_iff]
  constructor
  · intro found
    rcases found with ⟨⟨before, after⟩, split, rfl⟩
    rcases Text.eq_append_of_splitLast? split with ⟨whole, clean⟩
    rw [String.toList_ofList] at whole
    rw [(List.cons.inj (List.append_cancel_left whole)).right]
    exact clean
  · intro dotless
    exact ⟨_, Text.splitLast?_append_cons dotless, String.ofList_toList⟩

end ClassName

namespace ClassPath

variable {files : FileSystem} {classPath : ClassPath} {entry : Entry} {package simple : String}

theorem classInside_eq (valid : (⟨package⟩ : ClassName).isWellFormed = true)
    (single : '/' ∉ simple.toList) : classInside package simple = ⟨package ++ "." ++ simple⟩ := by
  have clean : '/' ∉ package.toList :=
    ClassName.not_mem_of_isWellFormed valid (by decide) (by decide)
  have cleanBoth : '/' ∉ (package ++ "." ++ simple).toList := by
    simp [String.toList_append, clean, single]
  exact ClassName.ofPath_eq_mk cleanBoth

theorem classFilePath_internalName (dotless : '.' ∉ simple.toList) :
    classFilePath (⟨package ++ "." ++ simple⟩ : ClassName).internalName =
      packageDirectory package ++ "/" ++ classFilePath simple := by
  have kept : simple.toList.map (fun c => if c = '.' then '/' else c) = simple.toList := by
    refine (List.map_congr_left fun c mem => if_neg ?_).trans (List.map_id' _)
    rintro rfl
    exact dotless mem
  rw [ClassName.internalName, ClassName.slashedChars, ClassName.chars_append_dot, List.map_append,
    List.map_cons, kept, classFilePath, classFilePath, packageDirectory, ← String.toList_inj]
  simp [String.toList_append]

/-!
# Files that are listed
-/

/-- An archive has its members under the bytes of their names. -/
def Entry.IsNamed : Entry → Prop
  | .archive _ members _ =>
      ∀ member ∈ members.members, member.rawName = member.name.toUTF8.data.toList
  | _ => True

theorem Entry.slash_not_mem_of_listed (tree : files.IsTree) {directory child : String}
    (listed : child ∈ entry.fileNames files directory) : '/' ∉ child.toList := by
  cases entry with
  | directory root =>
      rcases FileSystem.mem_childNames_iff.mp (List.mem_of_mem_filter listed) with
        ⟨_, _, _, present⟩
      exact (tree.named present).right.left
  | archive path members inside =>
      rw [Entry.fileNames, Resources.mem_select_iff] at listed
      rcases listed with ⟨member, _, isChosen, _⟩
      rcases Option.bind_eq_some_iff.mp isChosen with ⟨name, _, isChild⟩
      exact (childName?_eq_some_iff.mp isChild).right.right
  | image content =>
      rcases List.mem_filterMap.mp listed with ⟨_, _, isChild⟩
      exact (childName?_eq_some_iff.mp isChild).right.right

/-- What an entry lists it has, if its members are found by the names that are listed. -/
theorem Entry.has_of_listed (tree : files.IsTree) {directory child : String}
    (plain : Path.IsPlain directory) (named : entry.IsNamed)
    (listed : child ∈ entry.fileNames files directory) :
    entry.Has files (directory ++ "/" ++ child) := by
  cases entry with
  | directory root =>
      rcases List.mem_filter.mp listed with ⟨isChild, isFile⟩
      rcases FileSystem.mem_childNames_iff.mp isChild with ⟨_, _, _, present⟩
      -- Listing joins the package to the root and then the file; reading joins both at once.
      have relative := Path.isAbsolute_of_isPlain (tree.named present).left
      rw [Path.join_join plain relative] at isFile
      exact isFile
  | archive path members inside =>
      rcases (Resources.mem_select_inside_iff named).mp listed with ⟨name, isMember, isChild⟩
      rw [← (childName?_eq_some_iff.mp isChild).left]
      exact isMember
  | image content =>
      rcases List.mem_filterMap.mp listed with ⟨item, mem, isChild⟩
      rw [Entry.Has, ← (childName?_eq_some_iff.mp isChild).left]
      exact List.mem_map_of_mem mem

/-- The entry lists a file in the directory of a package that stands for a top-level class. -/
structure Entry.ListsClass (files : FileSystem) (package simple : String) (entry : Entry) :
    Prop where
  flat : '$' ∉ simple.toList
  isClass : simple ∉ descriptorNames
  listed : classFilePath simple ∈ entry.fileNames files (packageDirectory package)

theorem Entry.ListsClass.slash_not_mem (tree : files.IsTree)
    (lists : entry.ListsClass files package simple) : '/' ∉ simple.toList := by
  have clean := Entry.slash_not_mem_of_listed tree lists.listed
  rw [classFilePath, String.toList_append, List.mem_append, not_or] at clean
  exact clean.left

theorem mem_list_iff (tree : files.IsTree) (valid : (⟨package⟩ : ClassName).isWellFormed = true)
    {name : ClassName} : name ∈ classPath.list files package ↔ ∃ entry ∈ classPath.entries,
      ∃ simple, entry.ListsClass files package simple ∧ name = ⟨package ++ "." ++ simple⟩ := by
  rw [(list_spec files classPath package).right]
  constructor
  · intro found
    rcases found with ⟨simple, flat, isClass, rfl, entry, mem, listed⟩
    have lists : entry.ListsClass files package simple := ⟨flat, isClass, listed⟩
    exact ⟨entry, mem, simple, lists, classInside_eq valid (lists.slash_not_mem tree)⟩
  · intro found
    rcases found with ⟨entry, mem, simple, lists, rfl⟩
    exact ⟨simple, lists.flat, lists.isClass,
      (classInside_eq valid (lists.slash_not_mem tree)).symm, entry, mem, lists.listed⟩

/-!
# Loading what is listed
-/

theorem ofClassFile_ne_notFound (name missing : ClassName) (content : ByteArray) :
    ClassDecl.ofClassFile name content ≠ .error (.notFound missing) := by
  unfold ClassDecl.ofClassFile
  cases ClassFile.read? content with
  | none => simp
  | some file =>
      simp only
      cases file.declare name <;> simp [Except.mapError]

theorem find_of_load_notFound {name missing : ClassName}
    (fails : classPath.load files name = .error (.notFound missing)) :
    missing = name ∧ classPath.find files name = .ok none := by
  unfold load at fails
  split at fails
  · cases Except.error.inj fails
  · next absent => exact ⟨(LoadError.notFound.inj (Except.error.inj fails)).symm, absent⟩
  · exact absurd fails (ofClassFile_ne_notFound name missing _)

theorem find_of_publicOnes_notFound {names : List ClassName} {missing : ClassName}
    (fails : classPath.publicOnes files names = .error (.notFound missing)) :
    missing ∈ names ∧ classPath.find files missing = .ok none := by
  induction names with
  | nil => cases fails
  | cons first rest ih =>
      unfold publicOnes at fails
      cases loaded : classPath.load files first with
      | error error =>
          rw [loaded] at fails
          rcases Except.error.inj fails with rfl
          rcases find_of_load_notFound loaded with ⟨rfl, absent⟩
          exact ⟨List.mem_cons_self, absent⟩
      | ok decl =>
          rw [loaded] at fails
          cases others : classPath.publicOnes files rest with
          | ok names =>
              rw [others] at fails
              cases fails
          | error error =>
              rw [others] at fails
              rcases Except.error.inj fails with rfl
              rcases ih others with ⟨mem, absent⟩
              exact ⟨List.mem_cons_of_mem first mem, absent⟩

/-!
# Soundness
-/

/-- A listing is in ascending order and names what the entries list. What is listed is in the
package exactly if its file name has no dot. It is found exactly if some entry has it under one
of its spellings, so at least if it is in the package and was not listed from an archive with
another name than its own. Looking for what is public among the listed classes misses a class
only if that class is not found. -/
theorem listed_inside_and_found (tree : files.IsTree)
    (valid : (⟨package⟩ : ClassName).isWellFormed = true)
    (answers : ∀ name ∈ classPath.list files package, ∀ entry ∈ classPath.entries,
      entry.Answers files name) :
    IsAscending (classPath.list files package) ∧
    (∀ name, name ∈ classPath.list files package ↔ ∃ entry ∈ classPath.entries, ∃ simple,
      entry.ListsClass files package simple ∧ name = ⟨package ++ "." ++ simple⟩) ∧
    (∀ entry ∈ classPath.entries, ∀ simple, entry.ListsClass files package simple →
      ((⟨package ++ "." ++ simple⟩ : ClassName).package? = some package ↔
        '.' ∉ simple.toList) ∧
      (classPath.Finds files ⟨package ++ "." ++ simple⟩ ↔
        ∃ path ∈ (⟨package ++ "." ++ simple⟩ : ClassName).binaryNames,
          ∃ holder ∈ classPath.entries, holder.Has files (classFilePath path)) ∧
      ('.' ∉ simple.toList → entry.IsNamed →
        classPath.Finds files ⟨package ++ "." ++ simple⟩)) ∧
    ∀ missing, classPath.listPublic files package = .error (.notFound missing) →
      missing ∈ classPath.list files package ∧ ¬ classPath.Finds files missing := by
  refine ⟨(list_spec files classPath package).left, fun _ => mem_list_iff tree valid, ?_, ?_⟩
  · intro entry mem simple lists
    have isListed := (mem_list_iff tree valid).mpr ⟨entry, mem, simple, lists, rfl⟩
    have finds := finds_iff (answers _ isListed)
    refine ⟨ClassName.package?_eq_some_iff, finds, fun dotless named => finds.mpr ?_⟩
    refine ⟨_, ClassName.internalName_mem_binaryNames _, entry, mem, ?_⟩
    rw [classFilePath_internalName dotless]
    exact Entry.has_of_listed tree (isPlain_packageDirectory valid) named lists.listed
  · intro missing fails
    rcases find_of_publicOnes_notFound fails with ⟨isListed, absent⟩
    refine ⟨isListed, fun found => ?_⟩
    rcases found with ⟨content, found⟩
    cases absent.symm.trans found

/-- A directory with two class files for a package, one of them with a further dot in its name. -/
def dottedFileName : FileSystem where
  nodes := [(["cp"], .directory), (["p", "cp"], .directory),
    (["C.class", "p", "cp"], .file ⟨#[1]⟩), (["a.b.class", "p", "cp"], .file ⟨#[2]⟩)]
  workingDirectory := []

theorem isTree_dottedFileName : dottedFileName.IsTree := by
  refine FileSystem.isTree_of_nodes (by decide) ?_
  exact List.forall_mem_cons.mpr ⟨rfl, List.forall_mem_cons.mpr ⟨rfl, List.forall_mem_cons.mpr
    ⟨rfl, List.forall_mem_singleton.mpr rfl⟩⟩⟩

theorem listed_inside_and_found_dottedFileName :
    list dottedFileName ⟨[.directory "cp"]⟩ "p" = [⟨"p.C"⟩, ⟨"p.a.b"⟩] ∧
    ((⟨"p.C"⟩ : ClassName).package? = some "p" ∧
      Finds dottedFileName ⟨[.directory "cp"]⟩ ⟨"p.C"⟩) ∧
    (⟨"p.a.b"⟩ : ClassName).package? ≠ some "p" ∧
      ¬ Finds dottedFileName ⟨[.directory "cp"]⟩ ⟨"p.a.b"⟩ := by
  have spellings : (⟨"p.C"⟩ : ClassName).binaryNames = ["p/C"] := by decide +kernel
  have spellingsDotted : (⟨"p.a.b"⟩ : ClassName).binaryNames = ["p/a/b"] := by decide +kernel
  have listed : list dottedFileName ⟨[.directory "cp"]⟩ "p" = [⟨"p.C"⟩, ⟨"p.a.b"⟩] := by decide
  have answers : ∀ name ∈ list dottedFileName ⟨[.directory "cp"]⟩ "p",
      ∀ entry ∈ [Entry.directory "cp"], entry.Answers dottedFileName name := by
    unfold Entry.Answers
    rw [listed]
    refine List.forall_mem_cons.mpr ⟨?_, List.forall_mem_singleton.mpr ?_⟩
    · rw [spellings]
      exact List.forall_mem_singleton.mpr (List.forall_mem_singleton.mpr ⟨_, rfl⟩)
    · rw [spellingsDotted]
      exact List.forall_mem_singleton.mpr (List.forall_mem_singleton.mpr ⟨_, rfl⟩)
  rcases listed_inside_and_found isTree_dottedFileName (by decide) answers with
    ⟨_, _, sound, _⟩
  have lists : (Entry.directory "cp").ListsClass dottedFileName "p" "C" :=
    ⟨by decide, by decide, by decide⟩
  have listsDotted : (Entry.directory "cp").ListsClass dottedFileName "p" "a.b" :=
    ⟨by decide, by decide, by decide⟩
  rcases sound _ (List.mem_singleton_self _) _ lists with ⟨inside, _, found⟩
  rcases sound _ (List.mem_singleton_self _) _ listsDotted with ⟨insideDotted, foundDotted, _⟩
  refine ⟨listed, ⟨inside.mpr (by decide), found (by decide) trivial⟩, ?_, ?_⟩
  · exact fun same => insideDotted.mp same (by decide)
  · intro finds
    rcases foundDotted.mp finds with ⟨path, inSpellings, holder, mem, has⟩
    have spelled : path ∈ (⟨"p.a.b"⟩ : ClassName).binaryNames := inSpellings
    rw [spellingsDotted] at spelled
    rcases List.mem_singleton.mp spelled with rfl
    rcases List.mem_singleton.mp mem with rfl
    exact absurd has (by decide : ¬ dottedFileName.isFile "cp/p/a/b.class" = true)

end ClassPath
end ClassAtlas
