import ClassAtlas.Proofs.ClassPath.Resources
import ClassAtlas.Results

/-!
# Finding classes

Where nothing fails to be read, a class is found under the first of its spellings that any entry
has, in the first entry that has it so. Of two entries the earlier one wins only if they have the
class under one spelling: an entry behind all others takes over a class that it has under an
earlier spelling.
-/

namespace ClassAtlas
namespace ClassPath

variable {files : FileSystem} {classPath longer : ClassPath} {name : ClassName}

/-- The class file that the entry has for a stored path, if there is one that can be read. -/
def Entry.classFile? (files : FileSystem) (entry : Entry) (path : String) : Option ByteArray :=
  match entry.read files (classFilePath path) with
  | .ok found => found
  | .error _ => none

/-- The entry can be searched for a class, under whatever spelling. -/
def Entry.Answers (files : FileSystem) (name : ClassName) (entry : Entry) : Prop :=
  ∀ path ∈ name.binaryNames, ∃ found, entry.read files (classFilePath path) = .ok found

theorem Entry.Answers.read_eq {entry : Entry} (answers : entry.Answers files name) {path : String}
    (mem : path ∈ name.binaryNames) :
    entry.read files (classFilePath path) = .ok (entry.classFile? files path) := by
  rcases answers path mem with ⟨found, read⟩
  rw [Entry.classFile?, read]

/-- The spellings are tried one after the other, each in all entries. -/
theorem find_eq (answers : ∀ entry ∈ classPath.entries, entry.Answers files name) :
    classPath.find files name = .ok (name.binaryNames.findSome? fun path =>
      classPath.entries.findSome? fun entry => entry.classFile? files path) :=
  findSomeM?_eq_ok fun _ inSpellings =>
    findSomeM?_eq_ok fun entry mem => (answers entry mem).read_eq inSpellings

/-- The entry has something under a resource path, whether it can be read or not. -/
def Entry.Has (files : FileSystem) (resource : String) : Entry → Prop
  | .directory root => files.isFile (Path.join root resource) = true
  | .archive _ members inside => ∃ member, members.member? (inside ++ resource) = some member
  | .image content => resource ∈ content.resources.map Prod.fst

theorem Entry.has_iff_of_read {entry : Entry} {resource : String} {found? : Option ByteArray}
    (read : entry.read files resource = .ok found?) : entry.Has files resource ↔ found?.isSome := by
  cases entry with
  | directory root =>
      simp only [Entry.read] at read
      by_cases present : files.isFile (Path.join root resource) = true
      · rw [if_pos present] at read
        split at read
        · rw [← Except.ok.inj read]
          exact iff_of_true present rfl
        · cases read
      · rw [if_neg present] at read
        rw [← Except.ok.inj read]
        exact iff_of_false present Bool.false_ne_true
  | archive path members inside =>
      simp only [Entry.read] at read
      unfold Entry.Has
      split at read
      · next absent =>
          rw [← Except.ok.inj read]
          simp [absent]
      · next member present =>
          split at read
          · rw [← Except.ok.inj read]
            simp [present]
          · cases read
  | image content =>
      rw [← Except.ok.inj read]
      exact lookup_isSome_iff_mem_map.symm

def Finds (files : FileSystem) (classPath : ClassPath) (name : ClassName) : Prop :=
  ∃ content, classPath.find files name = .ok (some content)

theorem finds_iff (answers : ∀ entry ∈ classPath.entries, entry.Answers files name) :
    classPath.Finds files name ↔ ∃ path ∈ name.binaryNames, ∃ entry ∈ classPath.entries,
      entry.Has files (classFilePath path) := by
  rw [Finds, find_eq answers]
  simp only [Except.ok.injEq, ← Option.isSome_iff_exists, List.findSome?_isSome_iff]
  refine exists_congr fun path => and_congr_right fun inSpellings =>
    exists_congr fun entry => and_congr_right fun mem => ?_
  exact (Entry.has_iff_of_read ((answers entry mem).read_eq inSpellings)).symm

/-!
# Further entries
-/

theorem push_eq_ok_iff {path : String} :
    classPath.push files path = .ok longer ↔ ∃ entry,
      Entry.openPath files path = .ok entry ∧ longer = ⟨classPath.entries ++ [entry]⟩ := by
  unfold push
  cases opened : Entry.openPath files path with
  | error error => simp [bind, Except.bind]
  | ok entry => simp [bind, Except.bind, pure, Except.pure, eq_comm]

/-- With a further entry, spellings before the one a class was found under are looked up in that
entry alone, and the class is the one found before if they are not there. -/
theorem findSome?_append_singleton {earlier later : List String} {spelled : String} {entry : Entry}
    {entries : List Entry} {content : ByteArray}
    (absent : ∀ path ∈ earlier, (entries.findSome? fun one => one.classFile? files path) = none)
    (present : (entries.findSome? fun one => one.classFile? files spelled) = some content) :
    ((earlier ++ spelled :: later).findSome? fun path =>
        (entries ++ [entry]).findSome? fun one => one.classFile? files path) =
      some ((earlier.findSome? fun path => entry.classFile? files path).getD content) := by
  have onlyEntry : (earlier.findSome? fun path =>
      (entries ++ [entry]).findSome? fun one => one.classFile? files path) =
        earlier.findSome? fun path => entry.classFile? files path := by
    induction earlier with
    | nil => rfl
    | cons first rest ih =>
        rw [List.findSome?_cons, List.findSome?_cons, List.findSome?_append,
          absent first List.mem_cons_self,
          ih fun path mem => absent path (List.mem_cons_of_mem first mem)]
        simp
  rw [List.findSome?_append, onlyEntry, List.findSome?_cons, List.findSome?_append, present]
  cases earlier.findSome? fun path => entry.classFile? files path <;> rfl

/-- A class that was found is found with a further entry too. It was found under the first spelling
that any entry had, and the new entry takes it over exactly if it has it under an earlier one: then
it is what the new entry has under the first such spelling. So it stays what it was exactly if that
is the same, or nothing. -/
theorem find_push_eq_iff {path : String} {content : ByteArray}
    (pushed : classPath.push files path = .ok longer)
    (answers : ∀ entry ∈ longer.entries, entry.Answers files name)
    (found : classPath.find files name = .ok (some content)) :
    ∃ entry earlier spelled later,
      longer.entries = classPath.entries ++ [entry] ∧
      name.binaryNames = earlier ++ spelled :: later ∧
      (∀ other ∈ earlier, ∀ one ∈ classPath.entries, one.classFile? files other = none) ∧
      (classPath.entries.findSome? fun one => one.classFile? files spelled) = some content ∧
      longer.find files name = .ok (some
        ((earlier.findSome? fun other => entry.classFile? files other).getD content)) ∧
      (longer.find files name = .ok (some content) ↔ ∀ taken,
        (earlier.findSome? fun other => entry.classFile? files other) = some taken →
          taken = content) := by
  rcases push_eq_ok_iff.mp pushed with ⟨entry, _, rfl⟩
  have before := find_eq fun one mem => answers one (List.mem_append_left [entry] mem)
  have after := find_eq answers
  rw [before] at found
  rcases List.findSome?_eq_some_iff.mp (Except.ok.inj found) with
    ⟨earlier, spelled, later, spellings, present, absent⟩
  rw [spellings, findSome?_append_singleton absent present] at after
  refine ⟨entry, earlier, spelled, later, rfl, spellings, ?_, present, after, ?_⟩
  · intro other mem one inEntries
    exact List.findSome?_eq_none_iff.mp (absent other mem) one inEntries
  · rw [after, Except.ok.injEq, Option.some.injEq]
    cases earlier.findSome? fun other => entry.classFile? files other with
    | none => simp
    | some taken => simp [eq_comm]

/-- Two directories that have the class files of a nested class and of a top-level class, which one
name may stand for. -/
def twoReadings : FileSystem where
  nodes := [(["cp"], .directory), (["a", "cp"], .directory),
    (["B$C.class", "a", "cp"], .file ⟨#[1]⟩), (["more"], .directory), (["a", "more"], .directory),
    (["B", "a", "more"], .directory), (["C.class", "B", "a", "more"], .file ⟨#[2]⟩)]
  workingDirectory := []

theorem find_push_eq_iff_twoReadings :
    push twoReadings ⟨[.directory "cp"]⟩ "more" = .ok ⟨[.directory "cp", .directory "more"]⟩ ∧
    find twoReadings ⟨[.directory "cp"]⟩ ⟨"a.B.C"⟩ = .ok (some ⟨#[1]⟩) ∧
    find twoReadings ⟨[.directory "cp", .directory "more"]⟩ ⟨"a.B.C"⟩ = .ok (some ⟨#[2]⟩) ∧
    ∃ earlier spelled later, (⟨"a.B.C"⟩ : ClassName).binaryNames = earlier ++ spelled :: later ∧
      (earlier.findSome? fun other => (Entry.directory "more").classFile? twoReadings other) =
        some ⟨#[2]⟩ := by
  have spellings : (⟨"a.B.C"⟩ : ClassName).binaryNames = ["a/B/C", "a/B$C"] := by decide +kernel
  have pushed : push twoReadings ⟨[.directory "cp"]⟩ "more" =
      .ok ⟨[.directory "cp", .directory "more"]⟩ := rfl
  have found : find twoReadings ⟨[.directory "cp"]⟩ ⟨"a.B.C"⟩ = .ok (some ⟨#[1]⟩) := by
    rw [find, spellings]
    rfl
  have foundLater : find twoReadings ⟨[.directory "cp", .directory "more"]⟩ ⟨"a.B.C"⟩ =
      .ok (some ⟨#[2]⟩) := by
    rw [find, spellings]
    rfl
  have answers : ∀ entry ∈ [Entry.directory "cp", Entry.directory "more"],
      entry.Answers twoReadings ⟨"a.B.C"⟩ := by
    unfold Entry.Answers
    rw [spellings]
    refine List.forall_mem_cons.mpr ⟨?_, List.forall_mem_singleton.mpr ?_⟩ <;>
      exact List.forall_mem_cons.mpr ⟨⟨_, rfl⟩, List.forall_mem_singleton.mpr ⟨_, rfl⟩⟩
  rcases find_push_eq_iff pushed answers found with
    ⟨entry, earlier, spelled, later, entries, cut, _, _, taken, _⟩
  rcases List.cons.inj (List.cons.inj entries).right with ⟨rfl, _⟩
  refine ⟨pushed, found, foundLater, earlier, spelled, later, cut, ?_⟩
  rw [foundLater] at taken
  cases first : earlier.findSome? fun other =>
      (Entry.directory "more").classFile? twoReadings other with
  | none =>
      rw [first] at taken
      exact absurd (Option.some.inj (Except.ok.inj taken)) (by decide)
  | some other =>
      rw [first] at taken
      exact (Except.ok.inj taken).symm

end ClassPath
end ClassAtlas
