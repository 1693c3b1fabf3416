import ClassAtlas.ClassName.Path
import ClassAtlas.Proofs.ClassPath.Finding
import ClassAtlas.Proofs.ClassPath.Listing
import ClassAtlas.Proofs.ClassPath.Resources

/-!
# Interchangeable entries

Whether resources are held as a directory, as an archive or as a runtime image makes no
difference to a class path: every class is found alike and every package is listed alike. So
one form may take the place of another anywhere in a class path.
-/

namespace ClassAtlas

/-!
# Stored paths of names
-/

namespace ClassName

/-- The steps of the path are names without dots. -/
def IsStoredPath (path : List Char) : Prop :=
  ∀ step ∈ path.splitOn '/', step ≠ [] ∧ '.' ∉ step

theorem isStoredPath_slashedChars {name : ClassName} (valid : name.isWellFormed = true) :
    IsStoredPath name.slashedChars := by
  intro step mem
  rw [slashedChars, Text.splitOn_map_dot (not_mem_of_isWellFormed valid (by decide) (by decide))]
    at mem
  exact ⟨Text.isIdentifier_ne_nil (segments_of_isWellFormed valid mem),
    Text.not_mem_of_mem_splitOn mem⟩

theorem IsStoredPath.respelled {before after : List Char}
    (stored : IsStoredPath (before ++ '/' :: after)) (last : '/' ∉ after) :
    IsStoredPath (before ++ '$' :: after) := by
  rw [IsStoredPath, List.splitOn_append_cons_self, List.splitOn_eq_singleton last] at stored
  have lastStep := stored after (List.mem_append_right _ List.mem_cons_self)
  intro step mem
  rcases Text.mem_splitOn_append (by simp [last]) mem with early | ⟨joined, inBefore, rfl⟩
  · exact stored step (List.mem_append_left _ early)
  · have joinedStep := stored joined (List.mem_append_left _ inBefore)
    exact ⟨by simp, by simp [joinedStep.right, lastStep.right]⟩

theorem IsStoredPath.of_mem_respellings {path : List Char} (stored : IsStoredPath path) :
    ∀ spelled ∈ respellings path, IsStoredPath spelled := by
  fun_induction respellings path with
  | case1 path none => exact List.forall_mem_singleton.mpr stored
  | case2 path before after split upper ih =>
      rcases Text.eq_append_of_splitLast? split with ⟨rfl, last⟩
      exact List.forall_mem_cons.mpr ⟨stored, ih (stored.respelled last)⟩
  | case3 path before after split lower => exact List.forall_mem_singleton.mpr stored

end ClassName

namespace ClassPath

theorem plain_of_not_dot {step : List Char} (stored : step ≠ [] ∧ '.' ∉ step) :
    step ≠ [] ∧ step ≠ ['.'] ∧ step ≠ ['.', '.'] := by
  refine ⟨stored.left, ?_, ?_⟩ <;>
    · intro dots
      rw [dots] at stored
      exact stored.right List.mem_cons_self

theorem isPlain_classFilePath {path : List Char} (stored : ClassName.IsStoredPath path) :
    Path.IsPlain (classFilePath (String.ofList path)) := by
  intro step mem
  rw [classFilePath, String.toList_append, String.toList_ofList] at mem
  rcases Text.mem_splitOn_append (by decide) mem with early | ⟨last, inPath, rfl⟩
  · exact plain_of_not_dot (stored step early)
  · have long : 6 ≤ (last ++ ".class".toList).length := by simp
    refine ⟨?_, ?_, ?_⟩ <;>
      · intro short
        rw [short] at long
        exact absurd long (by decide)

theorem isClass_classFilePath (path : String) :
    RuntimeImage.isClass (classFilePath path) = true :=
  isClass_iff.mpr ⟨path.toList, String.toList_append⟩

theorem isPlain_packageDirectory {package : String}
    (valid : (⟨package⟩ : ClassName).isWellFormed = true) :
    Path.IsPlain (packageDirectory package) := by
  intro step mem
  rw [packageDirectory, String.toList_ofList] at mem
  exact plain_of_not_dot (ClassName.isStoredPath_slashedChars valid step mem)

/-!
# Finding
-/

variable {files : FileSystem} {resources : Resources} {entry other : Entry}

/-- What the resources have for a class, under the first of its spellings that they have. -/
def Resources.find? (resources : Resources) (name : ClassName) : Option ByteArray :=
  name.binaryNames.findSome? fun path => resources.content? (classFilePath path)

theorem Entry.Serves.reads_binaryNames (serves : entry.Serves files resources) {name : ClassName}
    (valid : name.isWellFormed = true) :
    ∀ path ∈ name.binaryNames, entry.read files (classFilePath path) =
      .ok (resources.content? (classFilePath path)) := by
  intro path mem
  rcases List.mem_map.mp mem with ⟨spelled, inSpellings, rfl⟩
  have stored := (ClassName.isStoredPath_slashedChars valid).of_mem_respellings spelled inSpellings
  exact serves.reads _ (isPlain_classFilePath stored) (isClass_classFilePath _)

/-!
# Listing
-/

/-- The resources have a top-level class directly inside a package. -/
structure Resources.HasInside (resources : Resources) (package simple : String) : Prop where
  flat : '$' ∉ simple.toList ∧ '/' ∉ simple.toList
  isClass : simple ∉ descriptorNames
  held : packageDirectory package ++ "/" ++ classFilePath simple ∈ resources.paths

theorem Entry.Serves.lists_iff (serves : entry.Serves files resources) {package : String}
    (valid : (⟨package⟩ : ClassName).isWellFormed = true) (simple : String) :
    classFilePath simple ∈ entry.fileNames files (packageDirectory package) ↔
      '/' ∉ simple.toList ∧
        packageDirectory package ++ "/" ++ classFilePath simple ∈ resources.paths := by
  have noSlash : '/' ∉ (classFilePath simple).toList ↔ '/' ∉ simple.toList := by
    simp [classFilePath, String.toList_append]
  rw [serves.lists _ _ (isPlain_packageDirectory valid) (isClass_classFilePath simple), noSlash]

theorem exists_mem_replace_iff {holds : Entry → Prop} (same : holds entry ↔ holds other)
    {before after : List Entry} :
    (∃ one ∈ before ++ entry :: after, holds one) ↔
      ∃ one ∈ before ++ other :: after, holds one := by
  simp only [List.mem_append, List.mem_cons, or_and_right, exists_or, exists_eq_left, same]

/-!
# A class and a note in every form
-/

def classBytes : ByteArray := ⟨#[0xCA, 0xFE]⟩

def noteBytes : ByteArray := ⟨#[0x68, 0x69, 0x21]⟩

def classAndNote : Resources where
  items := [("a/b/C.class", classBytes), ("a/notes.txt", noteBytes)]
  distinct := by decide
  plain := List.forall_mem_cons.mpr ⟨(by decide : Path.IsPlain "a/b/C.class"),
    List.forall_mem_singleton.mpr (by decide : Path.IsPlain "a/notes.txt")⟩

/-- A directory with the class and the note, one with another class of the package, and one
with another version of the class. -/
def library : FileSystem where
  nodes := [(["lib"], .directory), (["a", "lib"], .directory), (["b", "a", "lib"], .directory),
    (["C.class", "b", "a", "lib"], .file classBytes),
    (["notes.txt", "a", "lib"], .file noteBytes),
    (["front"], .directory), (["a", "front"], .directory), (["b", "a", "front"], .directory),
    (["D.class", "b", "a", "front"], .file ⟨#[1]⟩),
    (["back"], .directory), (["a", "back"], .directory), (["b", "a", "back"], .directory),
    (["C.class", "b", "a", "back"], .file ⟨#[2]⟩)]
  workingDirectory := []

theorem isTree_library : library.IsTree := by
  refine FileSystem.isTree_of_nodes (by decide) ?_
  simp [library, FileSystem.node?]

theorem classAndNote_inDirectory : classAndNote.InDirectory library "/lib" ["lib"] where
  tree := isTree_library
  located := rfl
  isDirectory := rfl
  held := List.forall_mem_cons.mpr ⟨⟨rfl, by decide⟩,
    List.forall_mem_singleton.mpr ⟨rfl, by decide⟩⟩
  only := by
    intro inner content there
    have mem := FileSystem.mem_nodes_of_file there
    have outermost : (inner ++ ["lib"]).getLast? = some "lib" := List.getLast?_concat
    simp only [library, List.mem_cons, Prod.mk.injEq, reduceCtorEq, and_false, List.not_mem_nil,
      or_false, false_or] at mem
    rcases mem with isClass | isNote | isFront | isBack
    · exact ⟨"a/b/C.class", by decide, isClass.left⟩
    · exact ⟨"a/notes.txt", by decide, isNote.left⟩
    · rw [isFront.left] at outermost
      exact absurd outermost (by decide)
    · rw [isBack.left] at outermost
      exact absurd outermost (by decide)

def storedMember (name : String) (content : ByteArray) (header : Nat) : Archive.Member where
  rawName := name.toUTF8.data.toList
  name := name
  comment := ""
  isEncrypted := false
  hasCipher := false
  method := 0
  checksum := Checksum.ofBytes content
  storedSize := content.size
  size := content.size
  header := header

theorem content_storedMember (archive : Archive) (name : String) {content : ByteArray}
    {header : Nat}
    (headed : Decoder.readAt? Archive.headerRest archive.bytes header = some (0, 0))
    (part : archive.bytes.extract (header + 30)
      (min (header + 30 + content.size) archive.bytes.size) = content) :
    archive.content (storedMember name content header) = .ok content := by
  have stored : archive.stored? (storedMember name content header) = some content := by
    unfold Archive.stored? storedMember
    simp only [headed]
    exact congrArg some part
  have accessible : Archive.isAccessible (storedMember name content header) = true := rfl
  have decoded : Archive.decoded (storedMember name content header) content = .ok content :=
    if_pos rfl
  have checked : Archive.checked (storedMember name content header) content = .ok content :=
    if_pos rfl
  rw [Archive.content, stored]
  simp only [accessible, if_true, decoded, bind, Except.bind, checked, Except.mapError]

def storedBytes : ByteArray :=
  ⟨#[0x50, 0x4B, 0x03, 0x04, 0, 0, 0, 0, 0, 0, 0, 0, 0, 0, 0, 0, 0, 0, 0, 0, 0, 0, 0, 0, 0, 0,
    0, 0, 0, 0, 0xCA, 0xFE,
    0x50, 0x4B, 0x03, 0x04, 0, 0, 0, 0, 0, 0, 0, 0, 0, 0, 0, 0, 0, 0, 0, 0, 0, 0, 0, 0, 0, 0,
    0, 0, 0, 0, 0x68, 0x69, 0x21]⟩

/-- The class and the note inside a directory of an archive, and one member more. -/
def storedArchive (inside more : String) : Archive where
  bytes := storedBytes
  members := [storedMember more classBytes 0, storedMember (inside ++ "a/b/C.class") classBytes 0,
    storedMember (inside ++ "a/notes.txt") noteBytes 32]

theorem storedBytes_class : Decoder.readAt? Archive.headerRest storedBytes 0 = some (0, 0) ∧
    storedBytes.extract (0 + 30) (min (0 + 30 + classBytes.size) storedBytes.size) =
      classBytes := by
  decide +kernel

theorem storedBytes_note : Decoder.readAt? Archive.headerRest storedBytes 32 = some (0, 0) ∧
    storedBytes.extract (32 + 30) (min (32 + 30 + noteBytes.size) storedBytes.size) =
      noteBytes := by
  decide +kernel

def libraryDirectory : Entry := .directory "/lib"

def libraryJar : Entry := .archive "lib.jar" (storedArchive "" "a/b/") ""

def libraryModule : Entry :=
  .archive "lib.jmod" (storedArchive "classes/" "bin/a/b/D.class") "classes/"

def libraryImage : Entry :=
  .image (.ofResources [("/m/a/notes.txt", noteBytes), ("/m/a/b/C.class", classBytes)])

theorem named_storedArchive (inside more : String) : ∀ member ∈ (storedArchive inside more).members,
    member.rawName = member.name.toUTF8.data.toList :=
  List.forall_mem_cons.mpr ⟨rfl, List.forall_mem_cons.mpr ⟨rfl, List.forall_mem_singleton.mpr rfl⟩⟩

theorem classAndNote_inArchive {inside more : String}
    (distinct : ((storedArchive inside more).members.map Archive.Member.name).Nodup)
    (outside : ∀ name, more = inside ++ name → name.toList.getLast? = some '/') :
    classAndNote.InArchive (storedArchive inside more) inside where
  named := named_storedArchive inside more
  held := by
    have classThere : storedMember (inside ++ "a/b/C.class") classBytes 0 ∈
        (storedArchive inside more).members := by simp [storedArchive]
    have noteThere : storedMember (inside ++ "a/notes.txt") noteBytes 32 ∈
        (storedArchive inside more).members := by simp [storedArchive]
    have isClass := content_storedMember (storedArchive inside more) (inside ++ "a/b/C.class")
      storedBytes_class.left storedBytes_class.right
    have isNote := content_storedMember (storedArchive inside more) (inside ++ "a/notes.txt")
      storedBytes_note.left storedBytes_note.right
    have named := named_storedArchive inside more
    exact List.forall_mem_cons.mpr
      ⟨⟨_, Resources.member?_of_mem named distinct classThere, isClass⟩,
        List.forall_mem_singleton.mpr
          ⟨_, Resources.member?_of_mem named distinct noteThere, isNote⟩⟩
  only := by
    intro member mem name named
    simp only [storedArchive, List.mem_cons, List.not_mem_nil, or_false] at mem
    rcases mem with rfl | rfl | rfl
    · exact Or.inr (Or.inl (outside name named))
    · have same : "a/b/C.class" = name := (String.append_right_inj _).mp named
      exact Or.inr (Or.inr (by rw [← same]; decide))
    · have same : "a/notes.txt" = name := (String.append_right_inj _).mp named
      exact Or.inr (Or.inr (by rw [← same]; decide))

theorem libraryDirectory_presents : libraryDirectory.Presents library classAndNote :=
  .directory classAndNote_inDirectory

theorem libraryJar_presents : libraryJar.Presents library classAndNote := by
  refine .archive (classAndNote_inArchive (by decide) ?_)
  intro name same
  rw [String.empty_append] at same
  rw [← same]
  decide

theorem libraryModule_presents : libraryModule.Presents library classAndNote := by
  refine .archive (classAndNote_inArchive (by decide) ?_)
  intro name same
  have first := congrArg (fun text => text.toList.head?) same
  simp at first

theorem libraryImage_presents : libraryImage.Presents library classAndNote := by
  have isClass : Resources.IsRowName "/m/a/b/C.class" "a/b/C.class" :=
    .inModule "m" "a/b/C.class" (by decide)
  have isNote : Resources.IsRowName "/m/a/notes.txt" "a/notes.txt" :=
    .inModule "m" "a/notes.txt" (by decide)
  refine .image ⟨?_, ?_⟩
  · exact List.forall_mem_cons.mpr ⟨⟨_, isClass, by simp⟩,
      List.forall_mem_singleton.mpr ⟨_, isNote, by simp⟩⟩
  · exact List.forall_mem_cons.mpr ⟨⟨_, isNote, by simp [classAndNote]⟩,
      List.forall_mem_singleton.mpr ⟨_, isClass, by simp [classAndNote]⟩⟩

/-- The class path with another class of the package in front of the entry, and another version
of the class behind it. -/
def around (entry : Entry) : ClassPath :=
  ⟨[.directory "/front", entry, .directory "/back"]⟩

theorem classAndNote_find? : classAndNote.find? ⟨"a.b.C"⟩ = some classBytes := by
  have spellings : (⟨"a.b.C"⟩ : ClassName).binaryNames = ["a/b/C"] := by decide +kernel
  rw [Resources.find?, spellings]
  rfl

theorem find_around_libraryDirectory :
    find library (around libraryDirectory) ⟨"a.b.C"⟩ = .ok (some classBytes) := by
  have spellings : (⟨"a.b.C"⟩ : ClassName).binaryNames = ["a/b/C"] := by decide +kernel
  rw [find, spellings]
  rfl

theorem list_around_libraryDirectory :
    list library (around libraryDirectory) "a.b" = [⟨"a.b.C"⟩, ⟨"a.b.D"⟩] := by
  decide +kernel

theorem list_libraryDirectory : list library ⟨[libraryDirectory]⟩ "a" = [] := by
  decide +kernel

/-!
# Interchange
-/

/-- Two forms of the same resources. Either of them may stand for the other at any place of a
class path: a well-formed name is found alike, and a package is listed alike. Alone on a class
path, a form finds what the resources have for the name, without failing, and lists the classes
that the resources have inside the package, once each and in ascending order. -/
theorem interchange_of_presents (presents : entry.Presents files resources)
    (presentsOther : other.Presents files resources) (before after : List Entry) :
    (∀ name : ClassName, name.isWellFormed = true →
      find files ⟨before ++ entry :: after⟩ name = find files ⟨before ++ other :: after⟩ name ∧
      find files ⟨[entry]⟩ name = .ok (resources.find? name)) ∧
    ∀ package : String, (⟨package⟩ : ClassName).isWellFormed = true →
      list files ⟨before ++ entry :: after⟩ package =
        list files ⟨before ++ other :: after⟩ package ∧
      IsAscending (list files ⟨[entry]⟩ package) ∧
      ∀ name, name ∈ list files ⟨[entry]⟩ package ↔
        ∃ simple, resources.HasInside package simple ∧ name = classInside package simple := by
  have serves := presents.serves
  have servesOther := presentsOther.serves
  constructor
  · intro name valid
    have reads := serves.reads_binaryNames valid
    have readsOther := servesOther.reads_binaryNames valid
    constructor
    · refine findSomeM?_congr fun path mem => findSomeM?_replace ?_ before after
      rw [reads path mem, readsOther path mem]
    · refine findSomeM?_eq_ok fun path mem => ?_
      rw [List.findSomeM?_cons, reads path mem]
      cases resources.content? (classFilePath path) <;> rfl
  · intro package valid
    have lists := serves.lists_iff valid
    have same : ∀ simple, classFilePath simple ∈ entry.fileNames files (packageDirectory package) ↔
        classFilePath simple ∈ other.fileNames files (packageDirectory package) :=
      fun simple => (lists simple).trans (servesOther.lists_iff valid simple).symm
    rcases list_spec files ⟨before ++ entry :: after⟩ package with ⟨ascending, mem_iff⟩
    rcases list_spec files ⟨before ++ other :: after⟩ package with ⟨ascendingOther, memOther_iff⟩
    rcases list_spec files ⟨[entry]⟩ package with ⟨ascendingAlone, memAlone_iff⟩
    refine ⟨ascending.eq_of_mem_iff ascendingOther fun name => ?_, ascendingAlone, fun name => ?_⟩
    · rw [mem_iff, memOther_iff]
      exact exists_congr fun simple => and_congr_right fun _ => and_congr_right fun _ =>
        and_congr_right fun _ => exists_mem_replace_iff (same simple)
    · rw [memAlone_iff]
      simp only [List.mem_singleton, exists_eq_left, lists]
      constructor
      · intro found
        rcases found with ⟨simple, flat, isClass, named, single, held⟩
        exact ⟨simple, ⟨⟨flat, single⟩, isClass, held⟩, named⟩
      · intro found
        rcases found with ⟨simple, has, named⟩
        exact ⟨simple, has.flat.left, has.isClass, named, has.flat.right, has.held⟩

theorem interchange_of_presents_classAndNote :
    find library (around libraryDirectory) ⟨"a.b.C"⟩ = .ok (some classBytes) ∧
    find library (around libraryJar) ⟨"a.b.C"⟩ = .ok (some classBytes) ∧
    find library (around libraryModule) ⟨"a.b.C"⟩ = .ok (some classBytes) ∧
    find library (around libraryImage) ⟨"a.b.C"⟩ = .ok (some classBytes) ∧
    list library (around libraryDirectory) "a.b" = [⟨"a.b.C"⟩, ⟨"a.b.D"⟩] ∧
    list library (around libraryJar) "a.b" = [⟨"a.b.C"⟩, ⟨"a.b.D"⟩] ∧
    list library (around libraryModule) "a.b" = [⟨"a.b.C"⟩, ⟨"a.b.D"⟩] ∧
    list library (around libraryImage) "a.b" = [⟨"a.b.C"⟩, ⟨"a.b.D"⟩] ∧
    find library ⟨[libraryModule]⟩ ⟨"a.b.C"⟩ = .ok (some classBytes) ∧
    list library ⟨[libraryModule]⟩ "a" = [] := by
  have valid : (⟨"a.b.C"⟩ : ClassName).isWellFormed = true := by decide
  have validPackage : (⟨"a.b"⟩ : ClassName).isWellFormed = true := by decide
  have validOuter : (⟨"a"⟩ : ClassName).isWellFormed = true := by decide
  have found := find_around_libraryDirectory
  have listed := list_around_libraryDirectory
  have jar := interchange_of_presents libraryJar_presents libraryDirectory_presents
    [.directory "/front"] [.directory "/back"]
  have module := interchange_of_presents libraryModule_presents libraryDirectory_presents
    [.directory "/front"] [.directory "/back"]
  have image := interchange_of_presents libraryImage_presents libraryDirectory_presents
    [.directory "/front"] [.directory "/back"]
  have alone := interchange_of_presents libraryModule_presents libraryDirectory_presents [] []
  refine ⟨found, (jar.left _ valid).left.trans found, (module.left _ valid).left.trans found,
    (image.left _ valid).left.trans found, listed, (jar.right _ validPackage).left.trans listed,
    (module.right _ validPackage).left.trans listed,
    (image.right _ validPackage).left.trans listed, ?_,
    (alone.right _ validOuter).left.trans list_libraryDirectory⟩
  rw [(alone.left _ valid).right, classAndNote_find?]

end ClassPath
end ClassAtlas
