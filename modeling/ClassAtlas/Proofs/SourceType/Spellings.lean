import ClassAtlas.Inspection
import ClassAtlas.SourceType.Lemmas

/-!
# Spellings read and written

A text without angle brackets is read exactly as what it spells between the blanks around it.
Each of the three spellings that a type is written in is read back as the type itself, with
exceptions of its own: the descriptor unless the type is primitive, the reflection spelling
unless the type is a class named by a keyword, and the source spelling unless it mentions one.
-/

namespace ClassAtlas
namespace SourceType

open Spelling

/-!
# Reading
-/

theorem not_mem_trim {text : List Char} {c : Char} (absent : c ∉ text) : c ∉ Text.trim text := by
  rcases Text.exists_trim text with ⟨front, back, whole, _, _⟩
  rw [whole] at absent
  simp only [List.mem_append, not_or] at absent
  exact absent.right.left

theorem parse?_eq_some_iff {raw : String} (noOpen : '<' ∉ raw.toList) (noClose : '>' ∉ raw.toList)
    {type : SourceType} : parse? raw = some type ↔ Spells (Text.trim raw.toList) type := by
  rw [parse?, eraseGenerics_of_not_mem (not_mem_trim noOpen) (not_mem_trim noClose),
    Option.bind_some, parseErased?_eq_some_iff]

/-- A text without angle brackets is read as a type exactly if it spells the type between the
blanks around it, and every other text is reported as it stands, with these blanks. -/
theorem parse_iff_spells {raw : String} (noOpen : '<' ∉ raw.toList) (noClose : '>' ∉ raw.toList) :
    (∀ type, parse raw = .ok type ↔ Spells (Text.trim raw.toList) type) ∧
      ∀ cause, parse raw = .error cause ↔
        (∀ type, ¬Spells (Text.trim raw.toList) type) ∧ cause = .unsupportedType raw := by
  constructor
  · intro type
    rw [parse_eq_ok_iff, parse?_eq_some_iff noOpen noClose]
  · intro cause
    rw [parse_eq_error_iff, Option.eq_none_iff_forall_ne_some]
    simp only [ne_eq, parse?_eq_some_iff noOpen noClose]

theorem parse_iff_spells_blanks :
    '<' ∉ " a/Lint [][]\n".toList ∧ '>' ∉ " a/Lint [][]\n".toList ∧
      Spells "a/Lint [][]".toList ⟨.object ⟨"a.Lint"⟩, 2⟩ ∧
      parse " a/Lint [][]\n" = .ok ⟨.object ⟨"a.Lint"⟩, 2⟩ := by
  have noOpen : '<' ∉ " a/Lint [][]\n".toList := by decide
  have noClose : '>' ∉ " a/Lint [][]\n".toList := by decide
  have names : Names "a/Lint".toList (.object ⟨"a.Lint"⟩) :=
    .path (by decide) fun type => by cases type <;> decide
  have blank : ∀ c ∈ [' '], Text.isBlank c = true := by simp [Text.isBlank]
  have spells : Spells ("a/Lint".toList ++ [' '] ++ arraySuffix 2) ⟨.object ⟨"a.Lint"⟩, 2⟩ :=
    .suffixed (by decide) names (by decide) blank
  exact ⟨noOpen, noClose, spells, ((parse_iff_spells noOpen noClose).left _).mpr spells⟩

/-!
# Reading back
-/

section

variable {type : SourceType}

theorem encodes_descriptorChars {element : ElementType} (readable : element.IsReadable)
    (notVoid : element ≠ .primitive .void) : Encodes element.descriptorChars element := by
  cases element with
  | primitive type => exact .letter fun same => notVoid (congrArg ElementType.primitive same)
  | object name =>
      rcases ClassName.isPath_slashedChars readable with ⟨path, same⟩
      have encodes := Encodes.wrapped path
      rwa [same] at encodes

/-- The letter of a primitive type alone is read as the name of a class. -/
theorem parse?_code (primitive : Primitive) :
    parse? (String.ofList [primitive.code]) =
      some (object (.ofPath (String.ofList [primitive.code]))) := by
  have path : Text.IsPath [primitive.code] := by
    cases primitive <;> decide
  have notKeyword : ∀ type : Primitive, [primitive.code] ≠ type.keyword.toList := by
    intro type same
    have longer : type.keyword.toList.length ≠ 1 := by
      cases type <;> decide
    rw [← same] at longer
    exact longer rfl
  exact Spells.parse? (.named (.path path notKeyword))

theorem parse?_descriptor_iff (readable : type.IsReadable) :
    parse? type.descriptor = some type ↔ ∀ primitive, type ≠ .primitive primitive := by
  rcases type with ⟨element, depth⟩
  cases depth with
  | zero =>
      cases element with
      | primitive type =>
          refine iff_of_false (fun same => ?_) fun notPrimitive => notPrimitive type rfl
          cases (parse?_code type).symm.trans same
      | object name =>
          rcases ClassName.isPath_slashedChars readable.element with ⟨path, same⟩
          have spells := Spells.wrapped path
          rw [same] at spells
          exact iff_of_true spells.parse? nofun
  | succ depth =>
      have encodes := encodes_descriptorChars readable.element (readable.notVoidArray (by simp))
      have spells := Spells.encoded depth.succ_ne_zero encodes
      exact iff_of_true spells.parse? nofun

theorem ne_keyword_iff {name : ClassName} :
    (∀ primitive : Primitive, name ≠ ⟨primitive.keyword⟩) ↔
      Primitive.ofKeyword? name.text = none := by
  rw [Primitive.ofKeyword?_eq_none_iff]
  apply forall_congr'
  intro primitive
  rw [ne_eq, ClassName.mk.injEq, eq_comm]

theorem element_ofName_iff {name : ClassName} :
    (ofName name).element = .object name ↔
      ∀ primitive : Primitive, name ≠ ⟨primitive.keyword⟩ := by
  rw [ne_keyword_iff, ofName]
  cases Primitive.ofKeyword? name.text <;> simp [primitive, object]

theorem parse?_sourceName_iff_names (readable : type.IsReadable)
    (path : Text.IsPath type.element.nameChars) :
    parse? type.sourceName = some type ↔ Names type.element.nameChars type.element := by
  rcases type with ⟨element, depth⟩
  rw [← plain?_eq_some_iff]
  show parse? (String.ofList (element.nameChars ++ arraySuffix depth)) = _ ↔ _
  cases depth with
  | zero =>
      rw [arraySuffix, List.append_nil, parse?_of_isTrimmed path.isTrimmed
        (not_mem_of_isPath path (Or.inl rfl)) (not_mem_of_isPath path (Or.inr rfl)),
        parseErased?_of_isPath path]
      simp [Option.map_eq_some_iff]
  | succ depth =>
      have notVoid : element ≠ .primitive .void := readable.notVoidArray (by simp)
      have noBlanks : ∀ c ∈ ([] : List Char), Text.isBlank c = true := List.forall_mem_nil _
      rw [← List.append_nil element.nameChars,
        parse?_of_isTrimmed (isTrimmed_suffixed path [] depth.succ_ne_zero)
          (not_mem_suffixed path noBlanks _ (Or.inl rfl))
          (not_mem_suffixed path noBlanks _ (Or.inr rfl)),
        parseErased?_arraySuffix depth.succ_ne_zero path noBlanks]
      simp [Option.map_eq_some_iff, Option.bind_eq_some_iff, notVoid?_eq_some_iff, notVoid]

theorem parse?_sourceName_iff (readable : type.IsReadable) :
    parse? type.sourceName = some type ↔
      ∀ primitive : Primitive, type.className? ≠ some ⟨primitive.keyword⟩ := by
  rcases type with ⟨element, depth⟩
  cases element with
  | primitive type =>
      have names := Names.keyword type
      rw [parse?_sourceName_iff_names readable names.isPath]
      exact iff_of_true names fun _ => (Option.some_ne_none _).symm
  | object name =>
      have valid : name.isWellFormed = true := readable.element
      rw [parse?_sourceName_iff_names readable (ClassName.isPath_chars valid).left,
        ← plain?_eq_some_iff]
      show plain? name.chars = _ ↔ _
      rw [plain?_eq_some_iff.mpr (names_className valid), Option.some.injEq, element_ofName_iff]
      simp [className?, ElementType.className?]

theorem parse?_reflectionName_iff (readable : type.IsReadable) :
    parse? type.reflectionName = some type ↔
      ∀ primitive : Primitive, type ≠ .object ⟨primitive.keyword⟩ := by
  rcases type with ⟨element, depth⟩
  cases depth with
  | zero =>
      have same : (⟨element, 0⟩ : SourceType).reflectionName =
          (⟨element, 0⟩ : SourceType).sourceName := by
        simp [reflectionName, reflectionChars, sourceName, sourceChars, arraySuffix]
      rw [same, parse?_sourceName_iff readable]
      apply forall_congr'
      intro primitive
      cases element <;> simp [className?, ElementType.className?, object]
  | succ depth =>
      rw [parse?_reflectionName readable]
      refine iff_of_true ?_ fun _ same => depth.succ_ne_zero (congrArg SourceType.depth same)
      cases element <;> rfl

end

/-- A type that was read is read back from its descriptor unless it is primitive, from its
reflection spelling unless it is a class named by a keyword, and from its source spelling
unless it mentions such a class. Its reflection spelling can always be read. -/
theorem parse_spellings_iff {raw : String} {type : SourceType} (read : parse raw = .ok type) :
    (parse type.descriptor = .ok type ↔ ∀ primitive, type ≠ .primitive primitive) ∧
    (parse type.reflectionName = .ok type ↔
      ∀ primitive : Primitive, type ≠ .object ⟨primitive.keyword⟩) ∧
    (parse type.sourceName = .ok type ↔
      ∀ primitive : Primitive, type.className? ≠ some ⟨primitive.keyword⟩) ∧
    ∃ again, parse type.reflectionName = .ok again := by
  have readable := isReadable_of_parse? (parse_eq_ok_iff.mp read)
  simp only [parse_eq_ok_iff]
  exact ⟨parse?_descriptor_iff readable, parse?_reflectionName_iff readable,
    parse?_sourceName_iff readable, type.reread, parse?_reflectionName readable⟩

theorem parse_spellings_iff_keyword :
    parse "[Lint;" = .ok ⟨.object ⟨"int"⟩, 1⟩ ∧
      parse (⟨.object ⟨"int"⟩, 1⟩ : SourceType).descriptor = .ok ⟨.object ⟨"int"⟩, 1⟩ ∧
      parse (⟨.object ⟨"int"⟩, 1⟩ : SourceType).reflectionName = .ok ⟨.object ⟨"int"⟩, 1⟩ ∧
      parse (⟨.object ⟨"int"⟩, 1⟩ : SourceType).sourceName ≠ .ok ⟨.object ⟨"int"⟩, 1⟩ := by
  have read : parse "[Lint;" = .ok ⟨.object ⟨"int"⟩, 1⟩ := parse_eq_ok_iff.mpr (by decide)
  rcases parse_spellings_iff read with ⟨descriptor, reflection, source, _⟩
  exact ⟨read, descriptor.mpr nofun, reflection.mpr nofun,
    fun same => source.mp same .int rfl⟩

end SourceType
end ClassAtlas
