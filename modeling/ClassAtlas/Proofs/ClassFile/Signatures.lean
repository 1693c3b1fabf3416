import ClassAtlas.Proofs.ClassFile.Members
import ClassAtlas.Proofs.Entry.References

/-!
# Descriptors of a file in its entry

A descriptor is read into types, these are spelled as reflection spells them, the spellings
are read again, and signatures are written from what was read. The entry of a class that was
read from a class file nevertheless has the descriptors of the file. The one exception are
fields whose descriptors hold characters of several bytes.
-/

namespace ClassAtlas
namespace ClassFile

variable {file : ClassFile} {decl : ClassDecl} {registry : Registry}

/-!
# The entry of a file
-/

/-- Methods and constructors have the signatures that the file spells. -/
structure KeepsSignatures (registry : Registry) (file : ClassFile) (decl : ClassDecl)
    (entry : ClassEntry) : Prop where
  methods : ∀ kept ∈ entry.methods, ∃ method ∈ file.methods, ∃ declared,
    file.member method = .ok (.method declared) ∧
      declared.toEntry registry decl.name decl.isInterface = .ok kept ∧
      file.signature? method = some kept.signature
  constructors : ∀ method ∈ file.methods, ∀ declared,
    file.member method = .ok (.constructor declared) → declared.isVisible = true →
      ∃ kept ∈ entry.constructors, declared.toEntry registry decl.name = .ok kept ∧
        (file.ReturnsNothing method → file.signature? method = some kept.signature)

/-- Fields have the descriptors that the file spells, and no visible field is left out. -/
structure KeepsFields (registry : Registry) (file : ClassFile) (decl : ClassDecl)
    (entry : ClassEntry) : Prop where
  fields : ∀ kept ∈ entry.fields, ∃ field ∈ file.fields, ∃ declared,
    file.fieldDecl field = .ok declared ∧ declared.toEntry registry decl.name = .ok kept ∧
      file.SpellsField field kept
  visible : ∀ field ∈ file.fields, ∀ declared, file.fieldDecl field = .ok declared →
    declared.isVisible = true → ∃ kept ∈ entry.fields,
      declared.toEntry registry decl.name = .ok kept ∧ file.SpellsField field kept

/-- The descriptors of the visible fields have no character of several bytes. -/
def HasNarrowFields (file : ClassFile) : Prop :=
  ∀ field ∈ file.fields, ∀ declared, file.fieldDecl field = .ok declared →
    declared.isVisible = true → ∀ text, file.pool.text? field.descriptor = some text →
      Text.IsNarrow text.toList

/-- The visible fields were read with the types that their descriptors denote. -/
def HasDenotedFields (file : ClassFile) : Prop :=
  ∀ field ∈ file.fields, ∀ declared, file.fieldDecl field = .ok declared →
    declared.isVisible = true → ∀ text, file.pool.text? field.descriptor = some text →
      Descriptor.Denotes text.toList field.type

variable {members : List Member}

theorem IsProper.keepsSignatures (proper : file.IsProper) (describes : Describes file decl members)
    {entry : ClassEntry} (made : decl.toEntry registry = .ok entry) :
    KeepsSignatures registry file decl entry := by
  rcases ClassDecl.parts_of_toEntry made with ⟨_, constructors, methods, _, _⟩
  constructor
  · intro kept inEntry
    rcases ClassDecl.exists_of_mem_methodEntries methods inEntry with ⟨declared, visible, rendered⟩
    have inDecl := (ClassDecl.mem_visibleMethods_iff.mp visible).left
    rcases describes.exists_method inDecl with ⟨method, mem, found⟩
    rcases proper.exists_method_entry mem found registry decl.name decl.isInterface with
      ⟨entry, again, signature⟩
    rw [rendered] at again
    rcases Except.ok.inj again with rfl
    exact ⟨method, mem, declared, found, rendered, signature⟩
  · intro method mem declared found visible
    have inVisible := ClassDecl.mem_visibleConstructors_iff.mpr
      ⟨describes.mem_constructors mem found, ConstructorDecl.isVisible_iff.mp visible⟩
    rcases exists_result_of_mem constructors inVisible with ⟨kept, inEntry, rendered⟩
    rcases proper.exists_constructor_entry mem found registry decl.name with
      ⟨entry, again, signature⟩
    rw [rendered] at again
    rcases Except.ok.inj again with rfl
    exact ⟨kept, inEntry, rendered, signature⟩

theorem IsProper.exists_field_entry (proper : file.IsProper)
    (typed : ∀ field ∈ file.fields, field.IsTyped file.pool) (narrow : file.HasNarrowFields)
    {field : Field} (mem : field ∈ file.fields) {declared : FieldDecl}
    (found : file.fieldDecl field = .ok declared) (visible : declared.isVisible = true)
    (registry : Registry) (declaredIn : ClassName) :
    ∃ entry, declared.toEntry registry declaredIn = .ok entry ∧ file.SpellsField field entry := by
  rcases proper.fields field mem with ⟨text, type, described, isProper⟩
  have isNarrow := narrow field mem declared found visible text described
  exact exists_toEntry_fieldDecl found (typed field mem) described isProper isNarrow registry
    declaredIn

theorem IsProper.exists_entry (proper : file.IsProper) (describes : Describes file decl members)
    (typed : ∀ field ∈ file.fields, field.IsTyped file.pool) (narrow : file.HasNarrowFields)
    (registry : Registry) : ∃ entry, decl.toEntry registry = .ok entry := by
  apply ClassDecl.exists_toEntry
  · intro declared inVisible
    rcases ClassDecl.mem_visibleFields_iff.mp inVisible with ⟨inDecl, flags⟩
    rcases exists_of_mem_mapM describes.fields inDecl with ⟨field, mem, found⟩
    rcases proper.exists_field_entry typed narrow mem found (FieldDecl.isVisible_iff.mpr flags)
      registry decl.name with ⟨entry, made, _⟩
    exact ⟨entry, made⟩
  · intro declared inVisible
    have inDecl := (ClassDecl.mem_visibleConstructors_iff.mp inVisible).left
    rcases describes.exists_constructor inDecl with ⟨method, mem, found⟩
    rcases proper.exists_constructor_entry mem found registry decl.name with ⟨entry, made, _⟩
    exact ⟨entry, made⟩
  · intro declared inVisible
    have inDecl := (ClassDecl.mem_visibleMethods_iff.mp inVisible).left
    rcases describes.exists_method inDecl with ⟨method, mem, found⟩
    rcases proper.exists_method_entry mem found registry decl.name decl.isInterface with
      ⟨entry, made, _⟩
    exact ⟨entry, made⟩

theorem IsProper.keepsFields_iff (proper : file.IsProper) (describes : Describes file decl members)
    (typed : ∀ field ∈ file.fields, field.IsTyped file.pool) {entry : ClassEntry}
    (made : decl.toEntry registry = .ok entry) :
    KeepsFields registry file decl entry ↔ file.HasNarrowFields := by
  rcases ClassDecl.parts_of_toEntry made with ⟨fields, _, _, _, _⟩
  constructor
  · intro keeps field mem declared found visible text described
    rcases proper.fields field mem with ⟨other, type, otherwise, isProper⟩
    rw [described] at otherwise
    rcases Option.some.inj otherwise with rfl
    rcases keeps.visible field mem declared found visible with ⟨kept, _, rendered, spells⟩
    apply Classical.byContradiction
    intro wide
    exact not_spellsField_of_wide found (typed field mem) described isProper wide rendered spells
  · intro narrow
    constructor
    · intro kept inEntry
      rcases exists_of_mem_mapM fields inEntry with ⟨declared, inVisible, again⟩
      rcases ClassDecl.mem_visibleFields_iff.mp inVisible with ⟨inDecl, flags⟩
      rcases exists_of_mem_mapM describes.fields inDecl with ⟨field, mem, found⟩
      rcases proper.exists_field_entry typed narrow mem found (FieldDecl.isVisible_iff.mpr flags)
        registry decl.name with ⟨entry, rendered, spells⟩
      rw [rendered] at again
      rcases Except.ok.inj again with rfl
      exact ⟨field, mem, declared, found, rendered, spells⟩
    · intro field mem declared found visible
      rcases proper.exists_field_entry typed narrow mem found visible registry decl.name with
        ⟨entry, rendered, spells⟩
      have inVisible := ClassDecl.mem_visibleFields_iff.mpr
        ⟨describes.mem_fields mem found, FieldDecl.isVisible_iff.mp visible⟩
      rcases exists_result_of_mem fields inVisible with ⟨kept, inEntry, again⟩
      rw [rendered] at again
      rcases Except.ok.inj again with rfl
      exact ⟨_, inEntry, rendered, spells⟩

theorem IsProper.hasNarrowFields_iff (proper : file.IsProper)
    (typed : ∀ field ∈ file.fields, field.IsTyped file.pool) :
    file.HasNarrowFields ↔ file.HasDenotedFields := by
  have each : ∀ field ∈ file.fields, ∀ text, file.pool.text? field.descriptor = some text →
      (Text.IsNarrow text.toList ↔ Descriptor.Denotes text.toList field.type) := by
    intro field mem text described
    rcases proper.fields field mem with ⟨other, type, otherwise, isProper⟩
    rw [described] at otherwise
    rcases Option.some.inj otherwise with rfl
    exact Descriptor.isNarrow_iff_denotes isProper.denotes isProper.slashed
      ((typed field mem).read described)
  constructor
  · intro narrow field mem declared found visible text described
    apply (each field mem text described).mp
    exact narrow field mem declared found visible text described
  · intro denoted field mem declared found visible text described
    apply (each field mem text described).mpr
    exact denoted field mem declared found visible text described

/-- Of a class that was read from a file with proper descriptors: whenever its entry is built,
methods and constructors have the signatures of the file. The entry is built, and its fields
have the descriptors of the file, exactly if the visible fields were read with the types that
their descriptors denote. They were exactly if these descriptors hold no character of several
bytes. -/
theorem keeps_descriptors_of_read {bytes : ByteArray} {name : ClassName}
    (found : read? bytes = some file) (read : ClassDecl.ofClassFile name bytes = .ok decl)
    (proper : file.IsProper) (whitelist : Whitelist) (resolved : List ClassName) :
    (∀ entry references, decl.build whitelist resolved = .ok (entry, references) →
      KeepsSignatures whitelist.registry file decl entry) ∧
    ((∃ entry references, decl.build whitelist resolved = .ok (entry, references) ∧
      KeepsFields whitelist.registry file decl entry) ↔ file.HasDenotedFields) ∧
    (file.HasDenotedFields ↔ file.HasNarrowFields) := by
  rcases exists_describes (declare_of_ofClassFile found read) with ⟨_, members, describes⟩
  have typed : ∀ field ∈ file.fields, field.IsTyped file.pool :=
    fun field mem => isTyped_of_read? found mem
  have denoted := proper.hasNarrowFields_iff typed
  refine ⟨?_, ?_, denoted.symm⟩
  · intro entry references built
    exact proper.keepsSignatures describes (ClassDecl.build_eq_ok_iff.mp built).left
  · rw [← denoted]
    constructor
    · intro kept
      rcases kept with ⟨entry, references, built, keeps⟩
      have made := (ClassDecl.build_eq_ok_iff.mp built).left
      exact (proper.keepsFields_iff describes typed made).mp keeps
    · intro narrow
      have makes := proper.exists_entry describes typed narrow whitelist.registry
      rcases ClassDecl.exists_build_iff.mpr makes with ⟨⟨entry, references⟩, built⟩
      have made := (ClassDecl.build_eq_ok_iff.mp built).left
      exact ⟨entry, references, built, (proper.keepsFields_iff describes typed made).mpr narrow⟩

/-!
# A field that is misread
-/

/-- A class `a.B` with a field `x` of the class `La.é`, a constructor for a `long` and a
method `f` for an array of that class. -/
def misreadBytes : ByteArray where
  data := #[
    0xCA, 0xFE, 0xBA, 0xBE, 0, 0, 0, 52,
    0, 9,
    1, 0, 3, 0x61, 0x2F, 0x42,
    7, 0, 1,
    1, 0, 1, 0x78,
    1, 0, 7, 0x4C, 0x4C, 0x61, 0x2F, 0xC3, 0xA9, 0x3B,
    1, 0, 6, 0x3C, 0x69, 0x6E, 0x69, 0x74, 0x3E,
    1, 0, 4, 0x28, 0x4A, 0x29, 0x56,
    1, 0, 1, 0x66,
    1, 0, 11, 0x28, 0x5B, 0x4C, 0x4C, 0x61, 0x2F, 0xC3, 0xA9, 0x3B, 0x29, 0x56,
    0, 1, 0, 2, 0, 0, 0, 0,
    0, 1, 0, 1, 0, 3, 0, 4, 0, 0,
    0, 2, 0, 1, 0, 5, 0, 6, 0, 0, 0, 1, 0, 7, 0, 8, 0, 0,
    0, 0]

def misread : ClassFile where
  pool := #[.text "a/B", .classReference 1, .text "x", .text "LLa/é;", .text "<init>",
    .text "(J)V", .text "f", .text "([LLa/é;)V"]
  flags := ⟨1⟩
  thisClass := 2
  superclass := 0
  interfaces := []
  fields := [⟨⟨1⟩, 3, 4, .object ⟨"La.é;"⟩⟩]
  methods := [⟨⟨1⟩, 5, 6⟩, ⟨⟨1⟩, 7, 8⟩]

def misreadDecl : ClassDecl where
  name := ⟨"a.B"⟩
  modifiers := ["public"]
  isInterface := false
  isEnum := false
  superclass := none
  interfaces := []
  fields := [⟨"x", ["public"], "La.é;", false⟩]
  constructors := [⟨["public"], ["long"], none, false, false⟩]
  methods := [⟨"f", ["public"], ["[LLa.é;"], "void", none, false, false, false, none, none⟩]

theorem read?_misread : read? misreadBytes = some misread := by
  decide +kernel

theorem ofClassFile_misread :
    ClassDecl.ofClassFile ⟨"a.B"⟩ misreadBytes = .ok misreadDecl := by
  rw [ClassDecl.ofClassFile, read?_misread]
  decide +kernel

theorem build_misread :
    ∃ entry references, misreadDecl.build (Whitelist.ofRules [.package "a"]) [] =
        .ok (entry, references) ∧ entry.fields.map FieldEntry.type = ["a.é"] ∧
      entry.signatures = ["f([LLa/é;)V"] :=
  ⟨_, _, rfl, rfl, rfl⟩

theorem denotes_misread :
    Descriptor.Denotes "LLa/é;".toList (.object ⟨"La.é"⟩) := by
  have spelled : "LLa/é;".toList = 'L' :: (['L', 'a', '/', 'é'] ++ [';']) := by decide
  have named : Descriptor.classNamed ['L', 'a', '/', 'é'] = .object ⟨"La.é"⟩ := by decide
  rw [spelled, ← named]
  exact .object (by decide) (by decide)

theorem isProper_misread : misread.IsProper := by
  constructor
  · intro field mem
    rcases List.mem_singleton.mp mem with rfl
    have proper : (SourceType.object ⟨"La.é"⟩).IsProper :=
      SourceType.isProper_of_className (by decide) (by decide) rfl
    exact ⟨_, _, rfl, denotes_misread, by decide, proper⟩
  · intro method mem _
    have proper := SourceType.isProper_primitive .void
    rcases List.mem_cons.mp mem with rfl | later
    · have spelled : "(J)V".toList = '(' :: (['J'] ++ ')' :: ['V']) := by decide
      have denotes : Descriptor.DenotesMethod "(J)V".toList [.primitive .long]
          (.primitive .void) := by
        have parameter : Descriptor.Denotes [Primitive.long.code] (.primitive .long) :=
          .base (by decide)
        rw [spelled]
        exact .intro (.cons parameter .nil) .void
      refine ⟨_, _, _, rfl, denotes, by decide, ?_⟩
      rw [List.forall_mem_append, List.forall_mem_singleton, List.forall_mem_singleton]
      exact ⟨SourceType.isProper_primitive .long, proper⟩
    · rcases List.mem_singleton.mp later with rfl
      have spelled : "([LLa/é;)V".toList =
          '(' :: (('[' :: "LLa/é;".toList ++ []) ++ ')' :: [Primitive.void.code]) := by decide
      have denotes : Descriptor.DenotesMethod "([LLa/é;)V".toList
          [(SourceType.object ⟨"La.é"⟩).arrayOf 1] (.primitive .void) := by
        rw [spelled]
        exact .intro (.cons (.array denotes_misread) .nil) .void
      have parameter : ((SourceType.object ⟨"La.é"⟩).arrayOf 1).IsProper :=
        SourceType.isProper_of_className (by decide) (by decide) rfl
      refine ⟨_, _, _, rfl, denotes, by decide, ?_⟩
      rw [List.forall_mem_append, List.forall_mem_singleton, List.forall_mem_singleton]
      exact ⟨parameter, proper⟩

theorem keeps_descriptors_of_read_misread :
    read? misreadBytes = some misread ∧
    ClassDecl.ofClassFile ⟨"a.B"⟩ misreadBytes = .ok misreadDecl ∧ misread.IsProper ∧
    ∃ entry references,
      misreadDecl.build (Whitelist.ofRules [.package "a"]) [] = .ok (entry, references) ∧
      entry.fields.map FieldEntry.type = ["a.é"] ∧ entry.signatures = ["f([LLa/é;)V"] ∧
      KeepsSignatures (Whitelist.ofRules [.package "a"]).registry misread misreadDecl entry ∧
      ¬KeepsFields (Whitelist.ofRules [.package "a"]).registry misread misreadDecl entry := by
  have keeps := keeps_descriptors_of_read read?_misread ofClassFile_misread isProper_misread
    (Whitelist.ofRules [.package "a"]) []
  rcases build_misread with ⟨entry, references, built, stored, signatures⟩
  refine ⟨read?_misread, ofClassFile_misread, isProper_misread, entry, references, built,
    stored, signatures, keeps.left entry references built, ?_⟩
  intro keepsFields
  have denoted := keeps.right.left.mp ⟨entry, references, built, keepsFields⟩
  have narrow := keeps.right.right.mp denoted
  have single := narrow _ List.mem_cons_self ⟨"x", ["public"], "La.é;", false⟩ rfl rfl _ rfl 'é'
    (by decide)
  exact absurd single (by decide)

end ClassFile
end ClassAtlas
