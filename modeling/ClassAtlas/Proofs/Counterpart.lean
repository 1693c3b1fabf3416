import ClassAtlas.Proofs.TargetType

/-!
# The law of translation

Result types keep their arrays, and of parameter types only one level is kept. A primitive
type and its wrapper class have one counterpart. The registry is asked for no other class
than the one that a type mentions, and not even for that if it is a wrapper or one of three
classes of the core library. No counterpart of a parameter is in the types of results alone,
nor the other way round.
-/

namespace ClassAtlas

/-!
# Parts of target types
-/

namespace TargetType

def parts : TargetType → List TargetType
  | .arrayArgument element => .arrayArgument element :: element.parts
  | .array element => .array element :: element.parts
  | type => [type]

def isResultOnly : TargetType → Bool
  | .boolean | .number | .string | .longValue | .array _ => true
  | _ => false

def isParameterOnly : TargetType → Bool
  | .booleanArgument | .byteArgument | .charArgument | .doubleArgument | .floatArgument
  | .integerArgument | .longArgument | .shortArgument | .numberArgument | .stringArgument
  | .arrayArgument _ => true
  | _ => false

theorem mapped_mem_parts_iff {type : TargetType} {name : ClassName} {spelled : String} :
    .mapped name spelled ∈ type.parts ↔ type.reference? = some (name, spelled) := by
  induction type with
  | mapped other given => simp [parts, reference?, eq_comm]
  | arrayArgument element ih => simpa [parts, reference?] using ih
  | array element ih => simpa [parts, reference?] using ih
  | _ => simp [parts, reference?]

theorem mem_parts_arrays {levels : Nat} {type part : TargetType}
    (mem : part ∈ (arrays levels type).parts) :
    (∃ element, part = .array element) ∨ part ∈ type.parts := by
  induction levels with
  | zero => exact Or.inr mem
  | succ levels ih =>
      rcases List.mem_cons.mp mem with rfl | inElement
      · exact Or.inl ⟨_, rfl⟩
      · exact ih inElement

theorem reference?_arrays (levels : Nat) (type : TargetType) :
    (arrays levels type).reference? = type.reference? := by
  induction levels with
  | zero => rfl
  | succ levels ih => exact ih

end TargetType

/-!
# Counterparts of elements
-/

namespace Counterpart

variable {registry : Registry} {position : Position} {name other : ClassName} {spelled : String}

/-- The classes whose counterparts do not depend on what is mapped. -/
def fixedClasses : List ClassName :=
  Primitive.all.map (fun type => ⟨type.wrapper⟩) ++
    [⟨"java.lang.Number"⟩, ⟨"java.lang.String"⟩, .object]

def unnamed : Position → List TargetType
  | .parameter =>
      [.void, .booleanArgument, .byteArgument, .charArgument, .doubleArgument, .floatArgument,
        .integerArgument, .longArgument, .shortArgument, .numberArgument, .stringArgument,
        .anyObject]
  | .result => [.void, .boolean, .number, .string, .longValue, .anyObject]

theorem ofPrimitive_mem_unnamed (position : Position) (type : Primitive) :
    ofPrimitive position type ∈ unnamed position := by
  cases position <;> cases type <;> decide

def fixed? (position : Position) (name : ClassName) : Option TargetType :=
  ((Primitive.ofWrapper? name.text).map (ofPrimitive position)).or (ofCoreClass? position name)

theorem ofClass_eq (registry : Registry) (position : Position) (name : ClassName) :
    ofClass registry position name = (fixed? position name).getD (ofRegistry registry name) := by
  unfold ofClass fixed?
  cases Primitive.ofWrapper? name.text <;> rfl

theorem isSome_ofCoreClass?_iff : (ofCoreClass? position name).isSome = true ↔
    name ∈ [⟨"java.lang.Number"⟩, ⟨"java.lang.String"⟩, ClassName.object] := by
  rcases name with ⟨text⟩
  unfold ofCoreClass?
  split
  · next isNumber => simp [show text = _ from isNumber]
  · next notNumber =>
      split
      · next isString => simp [show text = _ from isString]
      · next notString =>
          split
          · next isObject => simp [isObject]
          · next notObject => simpa [notObject] using ⟨notNumber, notString⟩

theorem isSome_ofWrapper?_iff : (Primitive.ofWrapper? name.text).isSome = true ↔
    name ∈ Primitive.all.map fun type => (⟨type.wrapper⟩ : ClassName) := by
  rcases name with ⟨text⟩
  simp [Primitive.ofWrapper?, ClassName.mk.injEq]

theorem isSome_fixed?_iff : (fixed? position name).isSome = true ↔ name ∈ fixedClasses := by
  rw [fixed?, Option.isSome_or, Option.isSome_map, Bool.or_eq_true, isSome_ofWrapper?_iff,
    isSome_ofCoreClass?_iff, fixedClasses, List.mem_append]

theorem mem_unnamed_of_fixed? {type : TargetType} (found : fixed? position name = some type) :
    type ∈ unnamed position := by
  rcases Option.or_eq_some_iff.mp found with wrapper | ⟨_, core⟩
  · rcases Option.map_eq_some_iff.mp wrapper with ⟨primitive, _, rfl⟩
    exact ofPrimitive_mem_unnamed position primitive
  · unfold ofCoreClass? at core
    split at core
    · rw [← Option.some.inj core]
      cases position <;> decide
    · split at core
      · rw [← Option.some.inj core]
        cases position <;> decide
      · split at core
        · rw [← Option.some.inj core]
          cases position <;> decide
        · cases core

theorem reference?_of_mem_unnamed {type : TargetType} (mem : type ∈ unnamed position) :
    type.reference? = none := by
  have all : ∀ type ∈ unnamed position, type.reference? = none := by
    cases position <;> decide
  exact all type mem

theorem reference?_ofClass_iff :
    (ofClass registry position name).reference? = some (other, spelled) ↔
      name = other ∧ name ∉ fixedClasses ∧ registry name = some spelled := by
  rw [ofClass_eq, ← @isSome_fixed?_iff position]
  cases found : fixed? position name with
  | some type => simp [reference?_of_mem_unnamed (mem_unnamed_of_fixed? found)]
  | none =>
      unfold ofRegistry
      cases registry name <;> simp [TargetType.reference?]

theorem reference?_ofElement_iff {element : ElementType} :
    (ofElement registry position element).reference? = some (name, spelled) ↔
      element.className? = some name ∧ name ∉ fixedClasses ∧ registry name = some spelled := by
  cases element with
  | primitive type =>
      rw [ofElement, reference?_of_mem_unnamed (ofPrimitive_mem_unnamed position type)]
      simp [ElementType.className?]
  | object own =>
      rw [ofElement, reference?_ofClass_iff, ElementType.className?, Option.some.injEq]
      constructor
      · rintro ⟨rfl, both⟩
        exact ⟨rfl, both⟩
      · rintro ⟨rfl, both⟩
        exact ⟨rfl, both⟩

theorem ofElement_cases {motive : TargetType → Prop} (position : Position)
    (unnamed : ∀ type ∈ unnamed position, motive type)
    (mapped : ∀ name spelled, motive (.mapped name spelled)) (registry : Registry)
    (element : ElementType) : motive (ofElement registry position element) := by
  cases element with
  | primitive type => exact unnamed _ (ofPrimitive_mem_unnamed position type)
  | object name =>
      rw [ofElement, ofClass_eq]
      cases found : fixed? position name with
      | some type => exact unnamed type (mem_unnamed_of_fixed? found)
      | none =>
          rw [Option.getD_none, ofRegistry]
          cases registry name with
          | some spelled => exact mapped name spelled
          | none => exact unnamed .anyObject (by cases position <;> decide)

theorem parts_ofElement (registry : Registry) (position : Position) (element : ElementType) :
    (ofElement registry position element).parts = [ofElement registry position element] := by
  refine ofElement_cases (motive := fun type => type.parts = [type]) position ?_
    (fun _ _ => rfl) registry element
  cases position <;> decide

theorem isResultOnly_ofElement (registry : Registry) (element : ElementType) :
    (ofElement registry .parameter element).isResultOnly = false :=
  ofElement_cases (motive := fun type => type.isResultOnly = false) .parameter (by decide)
    (fun _ _ => rfl) registry element

theorem isParameterOnly_ofElement (registry : Registry) (element : ElementType) :
    (ofElement registry .result element).isParameterOnly = false :=
  ofElement_cases (motive := fun type => type.isParameterOnly = false) .result (by decide)
    (fun _ _ => rfl) registry element

/-- The registry is asked for the class of the element only, unless that is a fixed one. -/
theorem ofElement_congr {element : ElementType} {registry agreeing : Registry}
    (agree : ∀ name, element.className? = some name → name ∉ fixedClasses →
      registry name = agreeing name) (position : Position) :
    ofElement registry position element = ofElement agreeing position element := by
  cases element with
  | primitive type => rfl
  | object name =>
      rw [ofElement, ofElement, ofClass_eq, ofClass_eq]
      cases found : fixed? position name with
      | some type => rfl
      | none =>
          have notFixed : name ∉ fixedClasses := by
            rw [← @isSome_fixed?_iff position, found]
            exact nofun
          rw [Option.getD_none, Option.getD_none, ofRegistry, ofRegistry, agree name rfl notFixed]

end Counterpart

/-!
# Counterparts of types
-/

namespace SourceType

open Counterpart

variable {registry : Registry} {position : Position} {type : SourceType}

theorem reference?_translate_iff {name : ClassName} {spelled : String} :
    (type.translate registry position).reference? = some (name, spelled) ↔
      type.className? = some name ∧ name ∉ fixedClasses ∧ registry name = some spelled ∧
        ¬(position = .parameter ∧ 2 ≤ type.depth) := by
  rcases type with ⟨element, depth⟩
  have ofElement := @reference?_ofElement_iff registry position name spelled element
  cases position with
  | result =>
      show (TargetType.arrays depth _).reference? = _ ↔ _
      rw [TargetType.reference?_arrays, ofElement]
      simp [className?]
  | parameter =>
      match depth with
      | 0 =>
          show (Counterpart.ofElement registry .parameter element).reference? = _ ↔ _
          simpa [className?] using ofElement
      | 1 =>
          show (Counterpart.ofElement registry .parameter element).reference? = _ ↔ _
          simpa [className?] using ofElement
      | depth + 2 => simp [translate, TargetType.reference?]

theorem reference?_translate {name : ClassName} {spelled : String}
    (mentions : (type.translate registry position).reference? = some (name, spelled)) :
    type.className? = some name ∧ registry name = some spelled := by
  rcases reference?_translate_iff.mp mentions with ⟨named, _, registered, _⟩
  exact ⟨named, registered⟩

theorem isResultOnly_of_mem_parts {part : TargetType}
    (mem : part ∈ (type.translate registry .parameter).parts) : part.isResultOnly = false := by
  rcases type with ⟨element, depth⟩
  have ofElement : ∀ part ∈ (ofElement registry .parameter element).parts,
      part.isResultOnly = false := by
    intro part mem
    rw [parts_ofElement] at mem
    rw [List.mem_singleton.mp mem, isResultOnly_ofElement]
  match depth with
  | 0 => exact ofElement part mem
  | 1 =>
      rcases List.mem_cons.mp mem with rfl | inElement
      · rfl
      · exact ofElement part inElement
  | depth + 2 =>
      rw [List.mem_singleton.mp mem]
      rfl

theorem isParameterOnly_of_mem_parts {part : TargetType}
    (mem : part ∈ (type.translate registry .result).parts) : part.isParameterOnly = false := by
  rcases TargetType.mem_parts_arrays mem with ⟨element, rfl⟩ | inElement
  · rfl
  · rw [parts_ofElement] at inElement
    rw [List.mem_singleton.mp inElement, isParameterOnly_ofElement]

theorem translate_congr {agreeing : Registry}
    (agree : ∀ name, type.className? = some name → name ∉ fixedClasses →
      registry name = agreeing name) :
    type.translate registry position = type.translate agreeing position := by
  unfold translate
  rw [ofElement_congr agree]

theorem translate_wrapper (registry : Registry) (position : Position) (wrapped : Primitive)
    (depth : Nat) :
    (⟨.object ⟨wrapped.wrapper⟩, depth⟩ : SourceType).translate registry position =
      (⟨.primitive wrapped, depth⟩ : SourceType).translate registry position := by
  have same : ofElement registry position (.object ⟨wrapped.wrapper⟩) =
      ofElement registry position (.primitive wrapped) := by
    rw [ofElement, ofElement, ofClass, Primitive.ofWrapper?_wrapper]
  unfold translate
  rw [same]

end SourceType

/-!
# The law
-/

/-- What holds of a translation of types under every registry. -/
structure TranslationLaw (translate : Registry → Position → SourceType → TargetType) : Prop where
  resultArray : ∀ registry element depth,
    translate registry .result ⟨element, depth⟩ =
      .arrays depth (translate registry .result ⟨element, 0⟩)
  parameterArray : ∀ registry element,
    translate registry .parameter ⟨element, 1⟩ =
      .arrayArgument (translate registry .parameter ⟨element, 0⟩)
  deepParameter : ∀ registry element depth, 2 ≤ depth →
    translate registry .parameter ⟨element, depth⟩ = .unsupported
  wrapper : ∀ registry position (wrapped : Primitive) depth,
    translate registry position ⟨.object ⟨wrapped.wrapper⟩, depth⟩ =
      translate registry position ⟨.primitive wrapped, depth⟩
  /-- Only the answer for a mentioned class that is not fixed matters. -/
  agreeing : ∀ registry other position type,
    (∀ name, type.className? = some name → name ∉ Counterpart.fixedClasses →
      registry name = other name) →
    translate registry position type = translate other position type
  parameterParts : ∀ registry type, ∀ part ∈ (translate registry .parameter type).parts,
    part.isResultOnly = false
  resultParts : ∀ registry type, ∀ part ∈ (translate registry .result type).parts,
    part.isParameterOnly = false
  /-- A class is mentioned, under its registered name, if the type mentions it, it is not
  fixed, the registry knows it, and the type is no array of arrays among the parameters. -/
  mentions : ∀ registry position type name spelled,
    .mapped name spelled ∈ (translate registry position type).parts ↔
      type.className? = some name ∧ name ∉ Counterpart.fixedClasses ∧
        registry name = some spelled ∧ ¬(position = .parameter ∧ 2 ≤ type.depth)

theorem translationLaw_translate : TranslationLaw SourceType.translate where
  resultArray _ _ _ := rfl
  parameterArray _ _ := rfl
  deepParameter registry element depth deep := by
    rcases Nat.exists_eq_add_of_le' deep with ⟨levels, rfl⟩
    rfl
  wrapper := SourceType.translate_wrapper
  agreeing _ _ _ _ := SourceType.translate_congr
  parameterParts _ _ _ := SourceType.isResultOnly_of_mem_parts
  resultParts _ _ _ := SourceType.isParameterOnly_of_mem_parts
  mentions _ _ _ _ _ := by
    rw [TargetType.mapped_mem_parts_iff, SourceType.reference?_translate_iff]

end ClassAtlas
