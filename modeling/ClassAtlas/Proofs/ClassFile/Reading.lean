import ClassAtlas.ClassFile.Declaration
import ClassAtlas.Proofs.Entry.Rendering

/-!
# What reading a class file establishes

Whatever a decoder yields has the properties that its parts establish. Of a class file that
was read, the descriptor of each field is a text of the pool, and the type of the field is
what was read from it. The declaration of the class has the fields and the members of the
file, in their order.
-/

namespace ClassAtlas

/-!
# What decoders yield
-/

namespace Decoder

/-- All that the decoder ever yields is of this kind. -/
structure Yields (decoder : Decoder α) (kind : α → Prop) : Prop where
  holds : ∀ bytes position value after,
    decoder bytes position = some (value, after) → kind value

theorem yields_any (decoder : Decoder α) : decoder.Yields fun _ => True :=
  ⟨fun _ _ _ _ _ => trivial⟩

theorem yields_pure {kind : α → Prop} {value : α} (holds : kind value) :
    Yields (pure value) kind := by
  constructor
  intro bytes position result after yielded
  rcases Prod.mk.inj (Option.some.inj yielded) with ⟨rfl, _⟩
  exact holds

theorem yields_failure (kind : α → Prop) : Yields failure kind := by
  constructor
  intro bytes position result after yielded
  cases yielded

theorem yields_ofOption (value : Option α) :
    Yields (ofOption value) fun result => value = some result := by
  constructor
  intro bytes position result after yielded
  rcases Option.map_eq_some_iff.mp yielded with ⟨found, same, pair⟩
  rw [same, (Prod.mk.inj pair).left]

theorem Yields.bind {first : Decoder α} {next : α → Decoder β} {early : α → Prop}
    {kind : β → Prop} (here : first.Yields early)
    (later : ∀ value, early value → (next value).Yields kind) : (first >>= next).Yields kind := by
  constructor
  intro bytes position result after yielded
  rcases Option.bind_eq_some_iff.mp yielded with ⟨⟨value, middle⟩, found, last⟩
  exact (later value (here.holds _ _ _ _ found)).holds _ _ _ _ last

theorem Yields.behind {first : Decoder α} {next : α → Decoder β} {kind : β → Prop}
    (later : ∀ value, (next value).Yields kind) : (first >>= next).Yields kind :=
  (yields_any first).bind fun value _ => later value

theorem Yields.checked {condition : Prop} [Decidable condition] {rest : Unit → Decoder α}
    {kind : α → Prop} (later : (rest ()).Yields kind) :
    Yields (if condition then failure >>= rest else rest ()) kind := by
  split
  · exact (yields_failure fun _ => False).bind fun _ impossible => impossible.elim
  · exact later

theorem Yields.repeated {item : Decoder α} {kind : α → Prop} (each : item.Yields kind)
    (count : Nat) : (repeated item count).Yields fun items => ∀ value ∈ items, kind value := by
  induction count with
  | zero => exact yields_pure fun _ mem => nomatch mem
  | succ count ih =>
      apply each.bind
      intro first holds
      apply ih.bind
      intro rest others
      apply yields_pure
      intro value mem
      rcases List.mem_cons.mp mem with rfl | later
      · exact holds
      · exact others value later

theorem Yields.counted {item : Decoder α} {kind : α → Prop} (each : item.Yields kind) :
    (counted item).Yields fun items => ∀ value ∈ items, kind value := by
  apply Yields.behind
  intro count
  exact each.repeated count

end Decoder

namespace ClassFile

open Decoder

def Field.IsTyped (pool : ConstantPool) (field : Field) : Prop :=
  (pool.text? field.descriptor).bind Descriptor.field? = some field.type

theorem Field.IsTyped.read {pool : ConstantPool} {field : Field} (typed : field.IsTyped pool)
    {text : String} (described : pool.text? field.descriptor = some text) :
    Descriptor.field? text = some field.type := by
  rw [IsTyped, described] at typed
  exact typed

theorem yields_field (pool : ConstantPool) : (field pool).Yields (Field.IsTyped pool) := by
  apply Yields.behind
  intro flags
  apply Yields.behind
  intro name
  apply Yields.behind
  intro descriptor
  apply (yields_ofOption _).bind
  intro type read
  apply Yields.behind
  intro _
  exact yields_pure read

theorem yields_file :
    file.Yields fun file => ∀ field ∈ file.fields, field.IsTyped file.pool := by
  apply Yields.behind
  intro number
  apply Yields.checked
  apply Yields.behind
  intro minor
  apply Yields.behind
  intro major
  apply Yields.checked
  apply Yields.behind
  intro pool
  apply Yields.behind
  intro flags
  apply Yields.behind
  intro thisClass
  apply Yields.behind
  intro superclass
  apply Yields.behind
  intro interfaces
  apply (yields_field pool).counted.bind
  intro fields areTyped
  apply Yields.behind
  intro methods
  apply Yields.behind
  intro _
  exact yields_pure areTyped

theorem isTyped_of_read? {bytes : ByteArray} {file : ClassFile} (found : read? bytes = some file)
    {field : Field} (mem : field ∈ file.fields) : field.IsTyped file.pool := by
  rcases Option.map_eq_some_iff.mp found with ⟨⟨value, after⟩, yielded, rfl⟩
  exact yields_file.holds bytes 0 value after yielded field mem

/-!
# From the file to the declaration
-/

variable {file : ClassFile} {name : ClassName} {decl : ClassDecl}

theorem textAt_eq_ok_iff {index : Nat} {text : String} :
    file.textAt index = .ok text ↔ file.pool.text? index = some text := by
  unfold textAt
  cases file.pool.text? index with
  | none =>
      constructor
      · intro impossible
        cases impossible
      · intro impossible
        cases impossible
  | some found => simp

theorem type_of_fieldDecl {field : Field} {declared : FieldDecl}
    (found : file.fieldDecl field = .ok declared) :
    declared.type = field.type.reflectionName := by
  unfold fieldDecl at found
  rcases exists_of_bind_eq_ok found with ⟨name, _, made⟩
  rw [← Except.ok.inj made]

theorem declare_of_ofClassFile {bytes : ByteArray} (found : read? bytes = some file)
    (read : ClassDecl.ofClassFile name bytes = .ok decl) : file.declare name = .ok decl := by
  unfold ClassDecl.ofClassFile at read
  rw [found] at read
  simp only at read
  cases declared : file.declare name with
  | error defect =>
      rw [declared] at read
      cases read
  | ok answer =>
      rw [declared] at read
      rw [Except.ok.inj read]

/-- The fields and the members of the file, in its order. -/
structure Describes (file : ClassFile) (decl : ClassDecl) (members : List Member) : Prop where
  fields : file.fields.mapM file.fieldDecl = .ok decl.fields
  each : file.methods.mapM file.member = .ok members
  constructors : decl.constructors = members.filterMap Member.constructor?
  methods : decl.methods = members.filterMap Member.method?

theorem exists_describes (declared : file.declare name = .ok decl) :
    decl.name = name ∧ ∃ members, Describes file decl members := by
  unfold declare at declared
  rcases exists_of_bind_eq_ok declared with ⟨path, _, later⟩
  split at later
  · rcases exists_of_bind_eq_ok later with ⟨own, described, renamed⟩
    rcases Except.ok.inj renamed with rfl
    unfold describe at described
    rcases exists_of_bind_eq_ok described with ⟨superclass, _, afterSuperclass⟩
    rcases exists_of_bind_eq_ok afterSuperclass with ⟨interfaces, _, afterInterfaces⟩
    rcases exists_of_bind_eq_ok afterInterfaces with ⟨fields, readFields, afterFields⟩
    rcases exists_of_bind_eq_ok afterFields with ⟨members, readMembers, last⟩
    rcases Except.ok.inj last with rfl
    exact ⟨rfl, members, ⟨readFields, readMembers, rfl, rfl⟩⟩
  · cases later

namespace Member

theorem constructor?_eq_some_iff {member : Member} {declared : ConstructorDecl} :
    member.constructor? = some declared ↔ member = .constructor declared := by
  cases member <;> simp [constructor?]

theorem method?_eq_some_iff {member : Member} {declared : MethodDecl} :
    member.method? = some declared ↔ member = .method declared := by
  cases member <;> simp [method?]

end Member

namespace Describes

variable {members : List Member} (describes : Describes file decl members)
include describes

theorem exists_method {declared : MethodDecl} (mem : declared ∈ decl.methods) :
    ∃ method ∈ file.methods, file.member method = .ok (.method declared) := by
  rw [describes.methods] at mem
  rcases List.mem_filterMap.mp mem with ⟨member, inMembers, isMethod⟩
  rcases Member.method?_eq_some_iff.mp isMethod with rfl
  exact exists_of_mem_mapM describes.each inMembers

theorem exists_constructor {declared : ConstructorDecl} (mem : declared ∈ decl.constructors) :
    ∃ method ∈ file.methods, file.member method = .ok (.constructor declared) := by
  rw [describes.constructors] at mem
  rcases List.mem_filterMap.mp mem with ⟨member, inMembers, isConstructor⟩
  rcases Member.constructor?_eq_some_iff.mp isConstructor with rfl
  exact exists_of_mem_mapM describes.each inMembers

theorem mem_constructors {method : Method} (mem : method ∈ file.methods)
    {declared : ConstructorDecl} (found : file.member method = .ok (.constructor declared)) :
    declared ∈ decl.constructors := by
  rcases exists_result_of_mem describes.each mem with ⟨member, inMembers, same⟩
  rw [found] at same
  rcases Except.ok.inj same with rfl
  rw [describes.constructors]
  exact List.mem_filterMap.mpr ⟨_, inMembers, rfl⟩

theorem mem_fields {field : Field} (mem : field ∈ file.fields) {declared : FieldDecl}
    (found : file.fieldDecl field = .ok declared) : declared ∈ decl.fields := by
  rcases exists_result_of_mem describes.fields mem with ⟨result, inFields, same⟩
  rw [found] at same
  rw [Except.ok.inj same]
  exact inFields

end Describes

theorem exists_of_member {method : Method} {member : Member}
    (found : file.member method = .ok member) (declares : member ≠ .initializer) :
    ∃ spelled text params result, file.pool.text? method.name = some spelled ∧
      spelled ≠ "<clinit>" ∧ file.pool.text? method.descriptor = some text ∧
      Descriptor.method? text = some (params, result) ∧
      member = if spelled = "<init>" then .constructor (constructorDecl method.flags params)
        else .method (methodDecl spelled method.flags params result) := by
  unfold ClassFile.member at found
  rcases exists_of_bind_eq_ok found with ⟨spelled, named, afterName⟩
  split at afterName
  · exact absurd (Except.ok.inj afterName).symm declares
  · next notInitializer =>
      rcases exists_of_bind_eq_ok afterName with ⟨text, described, afterText⟩
      cases read : Descriptor.method? text with
      | none =>
          rw [read] at afterText
          cases afterText
      | some types =>
          rcases types with ⟨params, result⟩
          rw [read] at afterText
          refine ⟨spelled, text, params, result, textAt_eq_ok_iff.mp named, notInitializer,
            textAt_eq_ok_iff.mp described, read, ?_⟩
          simp only at afterText
          split at afterText
          · next isConstructor => rw [if_pos isConstructor, Except.ok.inj afterText]
          · next isMethod => rw [if_neg isMethod, Except.ok.inj afterText]

end ClassFile
end ClassAtlas
