import ClassAtlas.ClassPath.Basic
import ClassAtlas.Proofs.Files.Following
import ClassAtlas.Selection
import Mathlib.Data.List.Nodup

/-!
# Resources of class path entries

Resources are contents under paths. An entry may hold them as the files of a directory, as the
members of an archive or as the rows of a runtime image. As far as class files go, it is read
and listed alike.
-/

namespace ClassAtlas

namespace ClassPath

/-- Contents under paths, each step of which leads further down. -/
structure Resources where
  items : List (String × ByteArray)
  distinct : (items.map Prod.fst).Nodup
  plain : ∀ item ∈ items, Path.IsPlain item.1

namespace Resources

def paths (resources : Resources) : List String :=
  resources.items.map Prod.fst

def content? (resources : Resources) (path : String) : Option ByteArray :=
  resources.items.lookup path

theorem content?_eq_some_iff {resources : Resources} {path : String} {content : ByteArray} :
    resources.content? path = some content ↔ (path, content) ∈ resources.items := by
  constructor
  · exact mem_of_lookup_eq_some
  · intro mem
    have isFound := lookup_isSome_iff_mem_map.mpr (List.mem_map_of_mem mem)
    rcases Option.isSome_iff_exists.mp isFound with ⟨found, isFound⟩
    have same := List.inj_on_of_nodup_map resources.distinct mem (mem_of_lookup_eq_some isFound) rfl
    rw [(Prod.mk.inj same).right]
    exact isFound

theorem content?_eq_none_iff {resources : Resources} {path : String} :
    resources.content? path = none ↔ path ∉ resources.paths := by
  rw [content?, ← Option.isNone_iff_eq_none, ← Option.not_isSome, paths,
    Bool.not_eq_true', ← Bool.not_eq_true, lookup_isSome_iff_mem_map]

end Resources

/-!
# Forms of an entry
-/

namespace Resources

variable {files : FileSystem} {resources : Resources}

/-- The files below a directory of the tree are the resources, and no path to one of them is
too long. -/
structure InDirectory (files : FileSystem) (resources : Resources) (root : String)
    (here : Location) : Prop where
  tree : files.IsTree
  located : files.locate root = .ok here
  isDirectory : files.node? here = some .directory
  held : ∀ item ∈ resources.items,
    files.node? (Path.below here item.1) = some (.file item.2) ∧
      Path.isTooLong (Path.join root item.1) = false
  only : ∀ inner content, files.node? (inner ++ here) = some (.file content) →
    ∃ path ∈ resources.paths, inner ++ here = Path.below here path

/-- The members of an archive under an inner directory are the resources, and directories. Each
member has the bytes of its name. -/
structure InArchive (resources : Resources) (archive : Archive) (inside : String) : Prop where
  named : ∀ member ∈ archive.members, member.rawName = member.name.toUTF8.data.toList
  held : ∀ item ∈ resources.items, ∃ member,
    archive.member? (inside ++ item.1) = some member ∧ archive.content member = .ok item.2
  only : ∀ member ∈ archive.members, ∀ name, member.name = inside ++ name →
    name = "" ∨ name.toList.getLast? = some '/' ∨ name ∈ resources.paths

/-- A row of an image has the name of a path by itself, or behind the name of a module. -/
inductive IsRowName : String → String → Prop where
  | plain (path : String) : IsRowName path path
  | inModule (module path : String) (single : '/' ∉ module.toList) :
      IsRowName ("/" ++ module ++ "/" ++ path) path

structure InImage (resources : Resources) (rows : List (String × ByteArray)) : Prop where
  held : ∀ item ∈ resources.items, ∃ name, IsRowName name item.1 ∧ (name, item.2) ∈ rows
  only : ∀ row ∈ rows, ∃ path, IsRowName row.1 path ∧ (path, row.2) ∈ resources.items

end Resources

/-- The entry is one form or another of the resources. The inner directory of an archive is
empty for a plain one, and named for a packed module. -/
inductive Entry.Presents (files : FileSystem) (resources : Resources) : Entry → Prop where
  | directory {root : String} {here : Location}
      (inDirectory : resources.InDirectory files root here) :
      Presents files resources (.directory root)
  | archive {path : String} {members : Archive} {inside : String}
      (inArchive : resources.InArchive members inside) :
      Presents files resources (.archive path members inside)
  | image {rows : List (String × ByteArray)} (inImage : resources.InImage rows) :
      Presents files resources (.image (.ofResources rows))

/-- The entry has the class files among the resources, and lists them where they are. -/
structure Entry.Serves (files : FileSystem) (resources : Resources) (entry : Entry) : Prop where
  reads : ∀ path, Path.IsPlain path → RuntimeImage.isClass path = true →
    entry.read files path = .ok (resources.content? path)
  lists : ∀ directory child, Path.IsPlain directory → RuntimeImage.isClass child = true →
    (child ∈ entry.fileNames files directory ↔
      '/' ∉ child.toList ∧ directory ++ "/" ++ child ∈ resources.paths)

theorem isClass_iff {name : String} :
    RuntimeImage.isClass name = true ↔ ∃ stem, name.toList = stem ++ ".class".toList := by
  unfold RuntimeImage.isClass
  rw [Option.isSome_iff_exists]
  simp only [Text.beforeEnd?_eq_some_iff]

theorem isClass_append (front : String) {name : String}
    (isClass : RuntimeImage.isClass name = true) : RuntimeImage.isClass (front ++ name) = true := by
  rcases isClass_iff.mp isClass with ⟨stem, whole⟩
  exact isClass_iff.mpr ⟨front.toList ++ stem, by simp [String.toList_append, whole]⟩

theorem ne_empty_of_isClass {name : String} (isClass : RuntimeImage.isClass name = true) :
    name ≠ "" := by
  intro empty
  rw [empty] at isClass
  exact absurd isClass (by decide)

theorem isPlain_of_isClass {name : String} (isClass : RuntimeImage.isClass name = true)
    (single : '/' ∉ name.toList) : Path.IsPlain name := by
  rcases isClass_iff.mp isClass with ⟨stem, whole⟩
  have long : 6 ≤ name.toList.length := by simp [whole]
  intro step mem
  rw [List.splitOn_eq_singleton single] at mem
  rcases List.mem_singleton.mp mem with rfl
  refine ⟨?_, ?_, ?_⟩ <;>
    · intro short
      rw [short] at long
      exact absurd long (by decide)

theorem childName?_eq_some_iff {directory resource child : String} :
    Entry.childName? directory resource = some child ↔
      resource = directory ++ "/" ++ child ∧ child ≠ "" ∧ '/' ∉ child.toList := by
  have whole : resource = directory ++ "/" ++ child ↔
      Text.afterStart? (directory.toList ++ ['/']) resource.toList = some child.toList := by
    rw [Text.afterStart?_eq_some_iff, ← String.toList_inj]
    simp [String.toList_append]
  rw [whole, ← String.toList_eq_nil_iff.ne]
  unfold Entry.childName?
  cases Text.afterStart? (directory.toList ++ ['/']) resource.toList with
  | none => simp
  | some rest =>
      cases rest with
      | nil =>
          simp only [reduceCtorEq, Option.some.injEq, false_iff, not_and]
          exact fun empty filled => absurd empty.symm filled
      | cons c rest =>
          by_cases slash : '/' ∈ c :: rest
          · simp only [if_pos slash, reduceCtorEq, Option.some.injEq, false_iff, not_and]
            exact fun same _ clean => clean (same ▸ slash)
          · simp only [if_neg slash, Option.some.injEq]
            constructor
            · intro same
              rw [← same, String.toList_ofList]
              exact ⟨rfl, List.cons_ne_nil c rest, slash⟩
            · intro same
              rw [same.left, String.ofList_toList]

namespace Resources

variable {files : FileSystem} {resources : Resources}

/-!
# Directories
-/

namespace InDirectory

variable {root : String} {here : Location}

theorem isFile_iff (form : resources.InDirectory files root here) {path : String}
    (plain : Path.IsPlain path) :
    files.isFile (Path.join root path) = true ↔ path ∈ resources.paths := by
  rw [FileSystem.isFile_iff]
  simp only [form.tree.lookup_join_iff form.located plain]
  constructor
  · intro found
    rcases found with ⟨content, there, _⟩
    rcases form.only _ content there with ⟨other, mem, same⟩
    rw [Path.below_inj same]
    exact mem
  · intro mem
    rcases List.mem_map.mp mem with ⟨item, inItems, rfl⟩
    exact ⟨item.2, form.held item inItems⟩

theorem serves (form : resources.InDirectory files root here) :
    Entry.Serves files resources (.directory root) := by
  constructor
  · intro path plain _
    show (if files.isFile (Path.join root path) then _ else _) = _
    cases found : resources.content? path with
    | none =>
        have absent := content?_eq_none_iff.mp found
        rw [if_neg (mt (form.isFile_iff plain).mp absent)]
    | some content =>
        have mem := content?_eq_some_iff.mp found
        rcases form.held _ mem with ⟨there, short⟩
        have isFile := (form.isFile_iff plain).mpr (List.mem_map_of_mem mem)
        have read := FileSystem.read_of_lookup
          ((form.tree.lookup_join_iff form.located plain).mpr ⟨there, short⟩)
        rw [if_pos isFile, read]
  · intro directory child plain isClass
    show child ∈ (files.childNames (Path.join root directory)).filter _ ↔ _
    rw [List.mem_filter, form.tree.mem_files_iff form.located plain]
    refine and_congr_right fun single => ?_
    have plainChild := isPlain_of_isClass isClass single
    rw [form.isFile_iff (Path.isPlain_append plain plainChild)]
    exact and_iff_right plainChild

end InDirectory

/-!
# Archives
-/

variable {archive : Archive} {inside path : String}

theorem name_of_member?
    (named : ∀ member ∈ archive.members, member.rawName = member.name.toUTF8.data.toList)
    {name : String} {member : Archive.Member} (found : archive.member? name = some member) :
    member ∈ archive.members ∧ member.name = name := by
  have counts : archive.members.find?
      (fun other => decide (other.rawName = name.toUTF8.data.toList)) = some member := found
  have mem := List.mem_of_find?_eq_some counts
  have holds := List.find?_some counts
  have raw := of_decide_eq_true holds
  rw [named member mem] at raw
  exact ⟨mem, String.toByteArray_inj.mp (ByteArray.ext (Array.toList_inj.mp raw))⟩

theorem member?_of_mem {archive : Archive}
    (named : ∀ member ∈ archive.members, member.rawName = member.name.toUTF8.data.toList)
    (distinct : (archive.members.map Archive.Member.name).Nodup) {member : Archive.Member}
    (mem : member ∈ archive.members) : archive.member? member.name = some member := by
  have found : (archive.member? member.name).isSome = true :=
    List.find?_isSome.mpr ⟨member, mem, decide_eq_true (named member mem)⟩
  rcases Option.isSome_iff_exists.mp found with ⟨other, found⟩
  rcases name_of_member? named found with ⟨isMember, isName⟩
  rw [found, List.inj_on_of_nodup_map distinct isMember mem isName]

theorem mem_select_iff {α : Type} {choose : String → Option α} {chosen : α} :
    chosen ∈ archive.select choose ↔ ∃ member ∈ archive.members,
      choose member.name = some chosen ∧ archive.memberNamed? member.rawName = some member := by
  unfold Archive.select
  rw [List.mem_filterMap]
  simp only [Option.filter_eq_some_iff, decide_eq_true_iff]

theorem mem_select_inside_iff
    (named : ∀ member ∈ archive.members, member.rawName = member.name.toUTF8.data.toList)
    {α : Type} {choose : String → Option α} {chosen : α} :
    (chosen ∈ archive.select fun name =>
      ((Text.afterStart? inside.toList name.toList).map String.ofList).bind choose) ↔
      ∃ name, (∃ member, archive.member? (inside ++ name) = some member) ∧
        choose name = some chosen := by
  rw [mem_select_iff]
  constructor
  · intro found
    rcases found with ⟨member, mem, isChosen, counts⟩
    rcases Option.bind_eq_some_iff.mp isChosen with ⟨name, isRest, isChosen⟩
    rcases Option.map_eq_some_iff.mp isRest with ⟨rest, starts, rfl⟩
    refine ⟨_, ⟨member, ?_⟩, isChosen⟩
    have whole : member.name = inside ++ String.ofList rest := by
      rw [← String.toList_inj, Text.afterStart?_eq_some_iff.mp starts]
      simp [String.toList_append]
    rw [Archive.member?, ← whole, ← named member mem]
    exact counts
  · intro found
    rcases found with ⟨name, ⟨member, found⟩, isChosen⟩
    rcases name_of_member? named found with ⟨mem, isName⟩
    refine ⟨member, mem, ?_, ?_⟩
    · have starts : Text.afterStart? inside.toList member.name.toList = some name.toList := by
        rw [Text.afterStart?_eq_some_iff, isName, String.toList_append]
      rw [starts, Option.map_some, Option.bind_some, String.ofList_toList]
      exact isChosen
    · rw [named member mem, isName]
      exact found

namespace InArchive

theorem exists_member_iff (form : resources.InArchive archive inside) {name : String}
    (isClass : RuntimeImage.isClass name = true) :
    (∃ member, archive.member? (inside ++ name) = some member) ↔ name ∈ resources.paths := by
  constructor
  · intro found
    rcases found with ⟨member, found⟩
    rcases name_of_member? form.named found with ⟨mem, named⟩
    rcases isClass_iff.mp isClass with ⟨stem, whole⟩
    rcases form.only member mem name named with empty | slash | isPath
    · simp [empty] at whole
    · have last : ".class".toList.getLast? = some 's' := by decide
      rw [whole, List.getLast?_append, last] at slash
      cases slash
    · exact isPath
  · intro mem
    rcases List.mem_map.mp mem with ⟨item, inItems, rfl⟩
    rcases form.held item inItems with ⟨member, found, _⟩
    exact ⟨member, found⟩

theorem serves (form : resources.InArchive archive inside) :
    Entry.Serves files resources (.archive path archive inside) := by
  constructor
  · intro name _ isClass
    unfold Entry.read
    cases found : resources.content? name with
    | none =>
        have absent : archive.member? (inside ++ name) = none := by
          apply Option.eq_none_iff_forall_ne_some.mpr
          intro member isMember
          have there := (form.exists_member_iff isClass).mp ⟨member, isMember⟩
          exact content?_eq_none_iff.mp found there
        simp only [absent]
    | some content =>
        rcases form.held _ (content?_eq_some_iff.mp found) with ⟨member, isMember, isContent⟩
        simp only [isMember, isContent]
  · intro directory child _ isClass
    rw [Entry.fileNames, mem_select_inside_iff form.named]
    constructor
    · intro found
      rcases found with ⟨name, isMember, isChild⟩
      rcases childName?_eq_some_iff.mp isChild with ⟨rfl, _, single⟩
      exact ⟨single, (form.exists_member_iff (isClass_append _ isClass)).mp isMember⟩
    · intro listed
      exact ⟨_, (form.exists_member_iff (isClass_append _ isClass)).mpr listed.right,
        childName?_eq_some_iff.mpr ⟨rfl, ne_empty_of_isClass isClass, listed.left⟩⟩

end InArchive

/-!
# Images
-/

theorem withoutModule_of_isRowName {name path : String} (isRow : IsRowName name path)
    (plain : Path.IsPlain path) : RuntimeImage.withoutModule name.toList = path.toList := by
  cases isRow with
  | plain path =>
      unfold RuntimeImage.withoutModule
      split
      · next rest absolute =>
          have relative := Path.isAbsolute_of_isPlain plain
          rw [Path.isAbsolute, absolute] at relative
          exact absurd relative (by simp)
      · rfl
  | inModule module path single =>
      have whole : ("/" ++ module ++ "/" ++ path).toList =
          '/' :: (module.toList ++ '/' :: path.toList) := by simp [String.toList_append]
      have behind : (module.toList ++ '/' :: path.toList).dropWhile (· ≠ '/') =
          '/' :: path.toList := by
        rw [List.dropWhile_append_of_pos]
        · simp
        · intro c mem
          exact decide_eq_true fun slash => single (slash ▸ mem)
      rw [whole, RuntimeImage.withoutModule, behind]

namespace InImage

variable {rows : List (String × ByteArray)}

theorem mem_resources_iff (form : resources.InImage rows) {item : String × ByteArray} :
    item ∈ (RuntimeImage.ofResources rows).resources ↔
      item ∈ resources.items ∧ RuntimeImage.isClass item.1 = true := by
  have named : ∀ {name path : String} {content : ByteArray}, IsRowName name path →
      (path, content) ∈ resources.items →
        String.ofList (RuntimeImage.withoutModule name.toList) = path := by
    intro name path content isRow mem
    rw [withoutModule_of_isRowName isRow (resources.plain _ mem), String.ofList_toList]
  show item ∈ List.filter _ _ ↔ _
  rw [List.mem_filter, List.mem_map]
  refine and_congr_left fun _ => ?_
  constructor
  · intro found
    rcases found with ⟨row, mem, rfl⟩
    rcases form.only row mem with ⟨path, isRow, inItems⟩
    rw [named isRow inItems]
    exact inItems
  · intro mem
    rcases form.held item mem with ⟨name, isRow, inRows⟩
    exact ⟨_, inRows, by rw [named isRow mem]⟩

theorem serves (form : resources.InImage rows) :
    Entry.Serves files resources (.image (.ofResources rows)) := by
  have same : ∀ {path : String} {content : ByteArray}, RuntimeImage.isClass path = true →
      ((path, content) ∈ (RuntimeImage.ofResources rows).resources ↔
        resources.content? path = some content) := by
    intro path content isClass
    rw [form.mem_resources_iff, content?_eq_some_iff]
    exact and_iff_left isClass
  constructor
  · intro path _ isClass
    show Except.ok ((RuntimeImage.ofResources rows).resources.lookup path) = _
    congr 1
    cases found : (RuntimeImage.ofResources rows).resources.lookup path with
    | some content => exact ((same isClass).mp (mem_of_lookup_eq_some found)).symm
    | none =>
        cases held : resources.content? path with
        | none => rfl
        | some content =>
            have there := lookup_isSome_iff_mem_map.mpr
              (List.mem_map_of_mem ((same isClass).mpr held))
            rw [found] at there
            cases there
  · intro directory child _ isClass
    show child ∈ (RuntimeImage.ofResources rows).resources.filterMap _ ↔ _
    rw [List.mem_filterMap]
    constructor
    · intro found
      rcases found with ⟨item, mem, isChild⟩
      rcases childName?_eq_some_iff.mp isChild with ⟨named, _, single⟩
      rw [← named]
      exact ⟨single, List.mem_map_of_mem (form.mem_resources_iff.mp mem).left⟩
    · intro listed
      rcases List.mem_map.mp listed.right with ⟨item, mem, named⟩
      have isClassItem : RuntimeImage.isClass item.1 = true := by
        rw [named]
        exact isClass_append _ isClass
      exact ⟨item, form.mem_resources_iff.mpr ⟨mem, isClassItem⟩,
        childName?_eq_some_iff.mpr ⟨named, ne_empty_of_isClass isClass, listed.left⟩⟩

end InImage

end Resources

theorem Entry.Presents.serves {files : FileSystem} {resources : Resources} {entry : Entry}
    (presents : entry.Presents files resources) : entry.Serves files resources := by
  cases presents with
  | directory form => exact form.serves
  | archive form => exact form.serves
  | image form => exact form.serves

end ClassPath
end ClassAtlas
