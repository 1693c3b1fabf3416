import ClassAtlas.ClassFile.Descriptor
import ClassAtlas.Proofs.Entry.CallKeys
import ClassAtlas.Proofs.SourceType.Spellings

/-!
# What descriptors denote

The grammar of descriptors says which types a text denotes, apart from how it is read. A
method descriptor is read as what it denotes; so is a field descriptor, as long as each of
its characters takes one byte. A denoted type spells its descriptor again, and its
reflection spelling is read back as the type itself.
-/

namespace ClassAtlas
namespace Descriptor

/-- A text denotes a type: a letter, a class name between `L` and a semicolon, or a bracket
before what denotes the element of an array. -/
inductive Denotes : List Char → SourceType → Prop where
  | base {type : Primitive} (notVoid : type ≠ .void) : Denotes [type.code] (.primitive type)
  | object {path : List Char} (named : path ≠ []) (single : ';' ∉ path) :
      Denotes ('L' :: (path ++ [';'])) (classNamed path)
  | array {text : List Char} {type : SourceType} (inner : Denotes text type) :
      Denotes ('[' :: text) (type.arrayOf 1)

inductive DenotesAll : List Char → List SourceType → Prop where
  | nil : DenotesAll [] []
  | cons {text rest : List Char} {type : SourceType} {types : List SourceType}
      (first : Denotes text type) (others : DenotesAll rest types) :
      DenotesAll (text ++ rest) (type :: types)

inductive DenotesResult : List Char → SourceType → Prop where
  | void : DenotesResult [Primitive.void.code] (.primitive .void)
  | type {text : List Char} {type : SourceType} (denotes : Denotes text type) :
      DenotesResult text type

inductive DenotesMethod : List Char → List SourceType → SourceType → Prop where
  | intro {text rest : List Char} {params : List SourceType} {result : SourceType}
      (parameters : DenotesAll text params) (returned : DenotesResult rest result) :
      DenotesMethod ('(' :: (text ++ ')' :: rest)) params result

/-!
# Reading what a text denotes
-/

theorem base?_code {type : Primitive} (notVoid : type ≠ .void) :
    base? type.code = some (.primitive type) := by
  rw [base?, Primitive.ofCode?_code]
  cases type with
  | void => exact absurd rfl notVoid
  | _ => rfl

theorem code_ne_bracket (type : Primitive) : type.code ≠ '[' := by
  cases type <;> decide

theorem type?_append {text : List Char} {type : SourceType} (denotes : Denotes text type)
    (rest : List Char) : type? (text ++ rest) = some (type, rest) := by
  induction denotes with
  | @base type notVoid =>
      rw [List.singleton_append, type?, if_neg (code_ne_bracket type),
        if_neg (ElementType.code_ne_letter type), base?_code notVoid]
      rfl
  | @object path named single =>
      have goesOn : ∀ c ∈ path, decide (c ≠ ';') = true :=
        fun c mem => decide_eq_true fun isEnd => single (isEnd ▸ mem)
      rw [List.cons_append, List.append_assoc, List.singleton_append, type?, if_neg (by decide),
        if_pos rfl, List.takeWhile_append_of_pos goesOn, List.dropWhile_append_of_pos goesOn,
        List.takeWhile_cons_of_neg (by decide), List.dropWhile_cons_of_neg (by decide),
        List.append_nil]
      rfl
  | array inner ih =>
      rw [List.cons_append, type?, if_pos rfl, ih]
      rfl

theorem exists_head {text : List Char} {type : SourceType} (denotes : Denotes text type) :
    ∃ first rest, text = first :: rest ∧ first ≠ ')' ∧ first ≠ Primitive.void.code := by
  cases denotes with
  | @base type notVoid =>
      refine ⟨type.code, [], rfl, ?_, ?_⟩
      · cases type <;> decide
      · intro same
        exact notVoid (ElementType.code_inj same)
  | object named single => exact ⟨'L', _, rfl, by decide, by decide⟩
  | array inner => exact ⟨'[', _, rfl, by decide, by decide⟩

theorem parameters?_append {text : List Char} {types : List SourceType}
    (denotes : DenotesAll text types) (rest : List Char) :
    parameters? (text ++ ')' :: rest) = some (types, rest) := by
  induction denotes with
  | nil => rw [List.nil_append, parameters?, if_pos rfl]
  | @cons text others type types first inRest ih =>
      have read := type?_append first (others ++ ')' :: rest)
      rcases exists_head first with ⟨start, later, rfl, notClose, _⟩
      rw [List.append_assoc, List.cons_append] at *
      rw [parameters?, if_neg notClose]
      split
      · next failed => rw [read] at failed; cases failed
      · next found =>
          rw [read] at found
          cases found
          rw [ih]
          rfl

theorem result?_of_denotes {text : List Char} {type : SourceType}
    (denotes : DenotesResult text type) : result? text = some type := by
  cases denotes with
  | void => rfl
  | type denoted =>
      have read := type?_append denoted []
      rcases exists_head denoted with ⟨start, later, rfl, _, notVoid⟩
      rw [List.append_nil] at read
      have notMarked : (start :: later).head? ≠ some Primitive.void.code := by
        simpa using notVoid
      rw [result?, if_neg notMarked, read]
      rfl

theorem method?_of_denotes {text : String} {params : List SourceType} {result : SourceType}
    (denotes : DenotesMethod text.toList params result) : method? text = some (params, result) := by
  generalize spelled : text.toList = chars at denotes
  cases denotes with
  | intro parameters returned =>
      have readResult := result?_of_denotes returned
      rw [method?, spelled]
      simp only [parameters?_append parameters, Option.bind_eq_bind, Option.bind_some, readResult]
      rfl

end Descriptor

/-!
# Spelling what a text denotes
-/

theorem ClassName.slashedChars_ofPath {path : List Char} (slashed : '.' ∉ path) :
    (ofPath (String.ofList path)).slashedChars = path := by
  rw [slashedChars, chars_ofPath, List.map_map]
  conv => rhs; rw [← List.map_id path]
  apply List.map_congr_left
  intro c mem
  have notDot : c ≠ '.' := fun same => slashed (same ▸ mem)
  by_cases slash : c = '/'
  · simp [slash]
  · simp [slash, notDot]

theorem SourceType.descriptorChars_arrayOf (type : SourceType) :
    (type.arrayOf 1).descriptorChars = '[' :: type.descriptorChars := by
  rw [descriptorChars, arrayOf, List.replicate_succ]
  rfl

namespace Descriptor

theorem Denotes.descriptorChars {text : List Char} {type : SourceType}
    (denotes : Denotes text type) (slashed : '.' ∉ text) : type.descriptorChars = text := by
  induction denotes with
  | base notVoid => rfl
  | object named single =>
      simp only [List.mem_cons, List.mem_append, not_or] at slashed
      show 'L' :: (ClassName.slashedChars _ ++ [';']) = _
      rw [ClassName.slashedChars_ofPath slashed.right.left]
  | array inner ih =>
      rw [List.mem_cons, not_or] at slashed
      rw [SourceType.descriptorChars_arrayOf, ih slashed.right]

theorem DenotesAll.descriptorChars {text : List Char} {types : List SourceType}
    (denotes : DenotesAll text types) (slashed : '.' ∉ text) :
    types.flatMap SourceType.descriptorChars = text := by
  induction denotes with
  | nil => rfl
  | cons first others ih =>
      rw [List.mem_append, not_or] at slashed
      rw [List.flatMap_cons, first.descriptorChars slashed.left, ih slashed.right]

theorem DenotesResult.descriptorChars {text : List Char} {type : SourceType}
    (denotes : DenotesResult text type) (slashed : '.' ∉ text) : type.descriptorChars = text := by
  cases denotes with
  | void => rfl
  | type denoted => exact denoted.descriptorChars slashed

theorem DenotesMethod.spelled {text : String} {params : List SourceType} {result : SourceType}
    (denotes : DenotesMethod text.toList params result) (slashed : '.' ∉ text.toList) :
    parameterDescriptors params ++ result.descriptor = text := by
  apply String.toList_inj.mp
  rw [String.toList_append, toList_parameterDescriptors, SourceType.descriptor,
    String.toList_ofList]
  generalize text.toList = chars at denotes slashed
  cases denotes with
  | intro parameters returned =>
      simp only [List.mem_cons, List.mem_append, not_or] at slashed
      rw [parameters.descriptorChars slashed.right.left,
        returned.descriptorChars slashed.right.right.right]
      simp

end Descriptor

/-!
# Reading the reflection spelling
-/

/-- A class that the type names is well-formed, and no class stands alone under the name
of a primitive type. -/
structure SourceType.IsProper (type : SourceType) : Prop where
  wellFormed : ∀ name, type.className? = some name → name.isWellFormed = true
  notKeyword : ∀ primitive : Primitive, type ≠ .object ⟨primitive.keyword⟩

theorem SourceType.isProper_primitive (primitive : Primitive) :
    (SourceType.primitive primitive).IsProper :=
  ⟨fun _ named => (nomatch named), fun _ same => (nomatch same)⟩

theorem SourceType.isProper_of_className {type : SourceType} {name : ClassName}
    (valid : name.isWellFormed = true) (notKeyword : Primitive.ofKeyword? name.text = none)
    (named : type.className? = some name) : type.IsProper := by
  constructor
  · intro other found
    rw [named] at found
    rw [← Option.some.inj found]
    exact valid
  · intro primitive same
    rw [same] at named
    rw [← Option.some.inj named, Primitive.ofKeyword?_keyword] at notKeyword
    cases notKeyword

theorem SourceType.IsProper.parse {type : SourceType} (proper : type.IsProper)
    (notVoidArray : type.depth ≠ 0 → type.element ≠ .primitive .void) :
    SourceType.parse type.reflectionName = .ok type := by
  have readable : type.IsReadable := by
    refine ⟨?_, notVoidArray⟩
    cases named : type.element with
    | primitive primitive => trivial
    | object name => exact proper.wellFormed name (by rw [className?, named]; rfl)
  exact parse_eq_ok_iff.mpr ((parse?_reflectionName_iff readable).mpr proper.notKeyword)

namespace Descriptor

theorem Denotes.element_ne_void {text : List Char} {type : SourceType}
    (denotes : Denotes text type) : type.element ≠ .primitive .void := by
  induction denotes with
  | base notVoid =>
      intro same
      exact notVoid (ElementType.primitive.inj same)
  | object named single => exact ElementType.noConfusion
  | array inner ih => exact ih

theorem DenotesResult.notVoidArray {text : List Char} {type : SourceType}
    (denotes : DenotesResult text type) : type.depth ≠ 0 → type.element ≠ .primitive .void := by
  cases denotes with
  | void => exact fun deep => absurd rfl deep
  | type denoted => exact fun _ => denoted.element_ne_void

theorem DenotesAll.notVoid {text : List Char} {types : List SourceType}
    (denotes : DenotesAll text types) {type : SourceType} (mem : type ∈ types) :
    type.element ≠ .primitive .void := by
  induction denotes with
  | nil => cases mem
  | cons first others ih =>
      rcases List.mem_cons.mp mem with rfl | later
      · exact first.element_ne_void
      · exact ih later

end Descriptor
end ClassAtlas
