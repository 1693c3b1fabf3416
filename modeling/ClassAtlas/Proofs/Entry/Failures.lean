import ClassAtlas.Closure.Turn
import ClassAtlas.Proofs.Entry.References
import ClassAtlas.Selection

/-!
# Why building fails

Building fails exactly if the type of a visible member cannot be read, and reports the first
such type: fields come before constructors, these before methods, and parameters before the
result. What an entry stores can always be read back, so collecting its references never
fails. A class that exists is never taken for a missing one.
-/

namespace ClassAtlas

/-!
# Types that cannot be read
-/

namespace SourceType

def rejection? (raw : String) : Option Cause :=
  fault? (parse raw)

theorem rejection?_eq_some_iff {raw : String} {cause : Cause} :
    rejection? raw = some cause ↔ parse? raw = none ∧ cause = .unsupportedType raw := by
  rw [rejection?, fault?_eq_some_iff, parse_eq_error_iff]

theorem rejection?_eq_none_iff {raw : String} :
    rejection? raw = none ↔ ∃ type, parse? raw = some type := by
  unfold rejection? parse
  cases parse? raw with
  | some type => simp [fault?]
  | none => simp [fault?]

end SourceType

/-!
# Members
-/

theorem FieldDecl.fault?_toEntry (registry : Registry) (declaredIn : ClassName)
    (field : FieldDecl) :
    fault? (field.toEntry registry declaredIn) = SourceType.rejection? field.type := by
  have inTurn : fault? (field.toEntry registry declaredIn) =
      (SourceType.rejection? field.type).or none := fault?_bind fun _ _ => rfl
  rw [inTurn, Option.or_none]

theorem ConstructorDecl.fault?_toEntry (registry : Registry) (declaredIn : ClassName)
    (constructor : ConstructorDecl) :
    fault? (constructor.toEntry registry declaredIn) =
      constructor.paramTypes.findSome? SourceType.rejection? := by
  have inTurn : fault? (constructor.toEntry registry declaredIn) =
      (fault? (constructor.paramTypes.mapM SourceType.parse)).or none := fault?_bind fun _ _ => rfl
  rw [inTurn, Option.or_none, fault?_mapM]
  rfl

theorem MethodDecl.fault?_toEntry (registry : Registry) (declaredIn : ClassName)
    (inInterface : Bool) (method : MethodDecl) :
    fault? (method.toEntry registry declaredIn inInterface) =
      (method.paramTypes ++ [method.returnType]).findSome? SourceType.rejection? := by
  have inTurn : fault? (method.toEntry registry declaredIn inInterface) =
      (fault? (method.paramTypes.mapM SourceType.parse)).or
        ((SourceType.rejection? method.returnType).or none) :=
    fault?_bind fun _ _ => fault?_bind fun _ _ => rfl
  rw [inTurn, Option.or_none, fault?_mapM, List.findSome?_append, List.findSome?_singleton]
  rfl

namespace ClassDecl

/-- Redeclarations are read like all other methods. -/
theorem fault?_methodEntries (registry : Registry) (decl : ClassDecl) :
    fault? (decl.methodEntries registry) =
      (decl.visibleMethods.flatMap fun method =>
        method.paramTypes ++ [method.returnType]).findSome? SourceType.rejection? := by
  rw [methodEntries, fault?_map, methodCandidates, fault?_mapM, findSome?_flatMap]
  simp only [fault?_map, MethodDecl.fault?_toEntry]

theorem fault?_toEntry (registry : Registry) (decl : ClassDecl) :
    fault? (decl.toEntry registry) = decl.memberTypes.findSome? SourceType.rejection? := by
  have inTurn : fault? (decl.toEntry registry) =
      (fault? (decl.visibleFields.mapM (FieldDecl.toEntry registry decl.name))).or
        ((fault? (decl.visibleConstructors.mapM (ConstructorDecl.toEntry registry decl.name))).or
          ((fault? (decl.methodEntries registry)).or none)) :=
    fault?_bind fun _ _ => fault?_bind fun _ _ => fault?_bind fun _ _ => rfl
  rw [inTurn, Option.or_none, fault?_mapM, fault?_mapM, fault?_methodEntries, memberTypes,
    List.findSome?_append, List.findSome?_append, List.findSome?_map, Option.or_assoc]
  simp only [FieldDecl.fault?_toEntry, ConstructorDecl.fault?_toEntry, findSome?_flatMap]
  rfl

theorem exists_references_of_toEntry {registry : Registry} {decl : ClassDecl} {entry : ClassEntry}
    (built : decl.toEntry registry = .ok entry) (whitelist : Whitelist)
    (resolved : List ClassName) :
    ∃ references, entry.references whitelist resolved = .ok references := by
  rcases exists_mentions_of_toEntry built with ⟨names, mentioned⟩
  rw [ClassEntry.references, mentioned]
  exact ⟨_, rfl⟩

theorem fault?_build (whitelist : Whitelist) (resolved : List ClassName) (decl : ClassDecl) :
    fault? (decl.build whitelist resolved) =
      decl.memberTypes.findSome? SourceType.rejection? := by
  have collects : ∀ entry, decl.toEntry whitelist.registry = .ok entry →
      fault? (entry.references whitelist resolved >>= fun references =>
        pure (entry, references)) = none := by
    intro entry made
    rcases exists_references_of_toEntry made whitelist resolved with ⟨references, collected⟩
    rw [collected]
    rfl
  rw [build, fault?_bind collects, fault?_toEntry]
  exact Option.or_none

end ClassDecl

namespace Cause

def IsUnsupported (cause : Cause) : Prop :=
  ∃ text, cause = unsupportedType text

theorem IsUnsupported.isClassNotFound {cause : Cause} (unsupported : cause.IsUnsupported) :
    cause.isClassNotFound = false := by
  rcases unsupported with ⟨text, rfl⟩
  rfl

end Cause

namespace ClassDecl

theorem build_eq_error_iff {whitelist : Whitelist} {resolved : List ClassName} {decl : ClassDecl}
    {cause : Cause} :
    decl.build whitelist resolved = .error cause ↔
      ∃ before raw after, decl.memberTypes = before ++ raw :: after ∧
        (∀ earlier ∈ before, ∃ type, SourceType.parse? earlier = some type) ∧
        SourceType.parse? raw = none ∧ cause = .unsupportedType raw := by
  rw [← fault?_eq_some_iff, fault?_build, List.findSome?_eq_some_iff]
  simp only [SourceType.rejection?_eq_some_iff, SourceType.rejection?_eq_none_iff]
  constructor
  · intro first
    rcases first with ⟨before, raw, after, split, ⟨notRead, same⟩, earlier⟩
    exact ⟨before, raw, after, split, earlier, notRead, same⟩
  · intro first
    rcases first with ⟨before, raw, after, split, earlier, notRead, same⟩
    exact ⟨before, raw, after, split, ⟨notRead, same⟩, earlier⟩

theorem isUnsupported_of_build {whitelist : Whitelist} {resolved : List ClassName}
    {decl : ClassDecl} {cause : Cause}
    (failed : decl.build whitelist resolved = .error cause) : cause.IsUnsupported := by
  rcases build_eq_error_iff.mp failed with ⟨_, raw, _, _, _, _, rfl⟩
  exact ⟨raw, rfl⟩

/-- Building fails exactly if the type of a visible member cannot be read. It reports the first
such type. The references of an entry that has been made are always collected. -/
theorem build_fails_iff (whitelist : Whitelist) (resolved : List ClassName) (decl : ClassDecl) :
    ((∃ cause, decl.build whitelist resolved = .error cause) ↔
      ∃ raw ∈ decl.memberTypes, SourceType.parse? raw = none) ∧
    (∀ cause, decl.build whitelist resolved = .error cause ↔
      ∃ before raw after, decl.memberTypes = before ++ raw :: after ∧
        (∀ earlier ∈ before, ∃ type, SourceType.parse? earlier = some type) ∧
        SourceType.parse? raw = none ∧ cause = .unsupportedType raw) ∧
    ∀ entry, decl.toEntry whitelist.registry = .ok entry →
      ∃ references, entry.references whitelist resolved = .ok references := by
  refine ⟨?_, fun cause => build_eq_error_iff,
    fun entry made => exists_references_of_toEntry made whitelist resolved⟩
  constructor
  · intro fails
    rcases fails with ⟨cause, failed⟩
    rcases build_eq_error_iff.mp failed with ⟨before, raw, after, split, _, notRead, _⟩
    rw [split]
    exact ⟨raw, by simp, notRead⟩
  · intro unread
    rcases unread with ⟨raw, mem, notRead⟩
    have rejected := SourceType.rejection?_eq_some_iff.mpr ⟨notRead, rfl⟩
    have found : (decl.memberTypes.findSome? SourceType.rejection?).isSome = true :=
      List.findSome?_isSome_iff.mpr ⟨raw, mem, by rw [rejected]; rfl⟩
    rcases Option.isSome_iff_exists.mp found with ⟨cause, first⟩
    rw [← fault?_build whitelist resolved, fault?_eq_some_iff] at first
    exact ⟨cause, first⟩

/-- A class that declares a method again with a result that cannot be read, and a method of
which a parameter cannot be read. -/
def misspelled : ClassDecl where
  name := ⟨"a.C"⟩
  modifiers := ["public"]
  isInterface := false
  isEnum := false
  superclass := none
  interfaces := []
  fields := []
  constructors := []
  methods := [([], "int"), ([], "a..One"), (["void[]"], "int")].map fun (types, result) =>
    ⟨"get", ["public"], types, result, none, false, false, false, none, none⟩

theorem build_fails_iff_misspelled :
    misspelled.build (Whitelist.ofRules [.package "a"]) [] =
      .error (.unsupportedType "a..One") := by
  have readable : SourceType.parse? "int" = some (SourceType.primitive .int) := by decide
  have unreadable : SourceType.parse? "a..One" = none := by decide
  apply ((build_fails_iff _ [] misspelled).right.left _).mpr
  refine ⟨["int"], "a..One", ["void[]", "int"], rfl, ?_, unreadable, rfl⟩
  intro earlier mem
  rw [List.mem_singleton.mp mem]
  exact ⟨_, readable⟩

end ClassDecl

end ClassAtlas
