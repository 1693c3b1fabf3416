import ClassAtlas.Proofs.Entry.Rendering

/-!
# Call keys

The call key of a method is its name and the descriptors of its parameters. A
descriptor shows where it ends, so a run of descriptors can be read apart in one
way only: two methods share a call key exactly when they have one name and their
parameters are read as the same types.
-/

namespace ClassAtlas

/-!
# Descriptors end visibly
-/

namespace ClassName

theorem not_mem_slashedChars {name : ClassName} (valid : name.isWellFormed = true) {mark : Char}
    (stranger : Text.continuesIdentifier mark = false) (notSlash : mark ≠ '/') :
    mark ∉ name.slashedChars := by
  intro mem
  rcases List.mem_map.mp mem with ⟨c, inName, same⟩
  split at same
  · exact notSlash same.symm
  · next notDot =>
      rcases char_of_isWellFormed valid inName with dot | continues
      · exact notDot dot
      · rw [same, stranger] at continues
        cases continues

theorem slashedChars_inj {left right : ClassName} (validLeft : left.isWellFormed = true)
    (validRight : right.isWellFormed = true) (same : left.slashedChars = right.slashedChars) :
    left = right := by
  have chars : left.chars = right.chars := by
    rw [← chars_eq_of_slashedChars validLeft, same, chars_eq_of_slashedChars validRight]
  rw [← ofChars_chars left, chars, ofChars_chars]

end ClassName

namespace ElementType

theorem descriptorChars_ne_nil (element : ElementType) : element.descriptorChars ≠ [] := by
  cases element <;> simp [descriptorChars]

theorem head?_descriptorChars_ne_bracket (element : ElementType) (rest : List Char) :
    (element.descriptorChars ++ rest).head? ≠ some '[' := by
  cases element with
  | primitive type => cases type <;> simp [descriptorChars, Primitive.code]
  | object name => simp [descriptorChars]

theorem code_ne_letter (type : Primitive) : type.code ≠ 'L' := by
  cases type <;> decide

theorem code_inj {left right : Primitive} (same : left.code = right.code) : left = right := by
  have read : Primitive.ofCode? left.code = Primitive.ofCode? right.code := by rw [same]
  rw [Primitive.ofCode?_code, Primitive.ofCode?_code] at read
  exact Option.some.inj read

theorem descriptorChars_append_inj {left right : ElementType} {restLeft restRight : List Char}
    (readableLeft : left.IsReadable) (readableRight : right.IsReadable)
    (same : left.descriptorChars ++ restLeft = right.descriptorChars ++ restRight) :
    left = right ∧ restLeft = restRight := by
  cases left with
  | primitive typeLeft =>
      cases right with
      | primitive typeRight =>
          rcases List.cons.inj same with ⟨codes, rests⟩
          exact ⟨congrArg primitive (code_inj codes), rests⟩
      | object name => exact absurd (List.cons.inj same).left (code_ne_letter typeLeft)
  | object nameLeft =>
      cases right with
      | primitive typeRight =>
          exact absurd (List.cons.inj same).left.symm (code_ne_letter typeRight)
      | object nameRight =>
          have validLeft : nameLeft.isWellFormed = true := readableLeft
          have validRight : nameRight.isWellFormed = true := readableRight
          have later : nameLeft.slashedChars ++ ';' :: restLeft =
              nameRight.slashedChars ++ ';' :: restRight := by
            simpa [descriptorChars] using same
          rcases Text.append_cons_inj_of_not_mem
              (ClassName.not_mem_slashedChars validLeft (by decide) (by decide))
              (ClassName.not_mem_slashedChars validRight (by decide) (by decide)) later with
            ⟨names, rests⟩
          exact ⟨congrArg object (ClassName.slashedChars_inj validLeft validRight names), rests⟩

theorem not_mem_descriptorChars {element : ElementType} (readable : element.IsReadable)
    {mark : Char} (stranger : Text.continuesIdentifier mark = false)
    (foreign : mark ∉ ['/', ';']) : mark ∉ element.descriptorChars := by
  simp only [List.mem_cons, List.not_mem_nil, or_false, not_or] at foreign
  have notL : mark ≠ 'L' := fun same => by rw [same] at stranger; exact absurd stranger (by decide)
  cases element with
  | primitive type =>
      intro mem
      have isCode : mark = type.code := List.mem_singleton.mp mem
      rw [isCode] at stranger
      cases type <;> exact absurd stranger (by decide)
  | object name =>
      have clean := ClassName.not_mem_slashedChars (show name.isWellFormed = true from readable)
        stranger foreign.left
      simp [descriptorChars, notL, clean, foreign.right]

end ElementType

namespace SourceType

theorem descriptorChars_append_inj {left right : SourceType} {restLeft restRight : List Char}
    (readableLeft : left.IsReadable) (readableRight : right.IsReadable)
    (same : left.descriptorChars ++ restLeft = right.descriptorChars ++ restRight) :
    left = right ∧ restLeft = restRight := by
  rw [descriptorChars, descriptorChars, List.append_assoc, List.append_assoc] at same
  have endsLeft := left.element.head?_descriptorChars_ne_bracket restLeft
  have endsRight := right.element.head?_descriptorChars_ne_bracket restRight
  have brackets := congrArg (List.takeWhile (· = '[')) same
  rw [takeWhile_brackets _ endsLeft, takeWhile_brackets _ endsRight] at brackets
  have depths : left.depth = right.depth := by
    simpa using congrArg List.length brackets
  have elements := congrArg (List.dropWhile (· = '[')) same
  rw [dropWhile_brackets _ endsLeft, dropWhile_brackets _ endsRight] at elements
  rcases ElementType.descriptorChars_append_inj readableLeft.element readableRight.element
      elements with ⟨element, rests⟩
  cases left
  cases right
  cases element
  cases depths
  exact ⟨rfl, rests⟩

theorem descriptorChars_ne_nil (type : SourceType) : type.descriptorChars ≠ [] := by
  simp [descriptorChars, ElementType.descriptorChars_ne_nil]

/-- A run of descriptors is the run of one list of types only. -/
theorem flatMap_descriptorChars_inj {lefts rights : List SourceType}
    (readableLeft : ∀ type ∈ lefts, type.IsReadable)
    (readableRight : ∀ type ∈ rights, type.IsReadable)
    (same : lefts.flatMap descriptorChars = rights.flatMap descriptorChars) :
    lefts = rights := by
  induction lefts generalizing rights with
  | nil =>
      cases rights with
      | nil => rfl
      | cons right rights => simp [descriptorChars_ne_nil] at same
  | cons left lefts ih =>
      cases rights with
      | nil => simp [descriptorChars_ne_nil] at same
      | cons right rights =>
          rw [List.flatMap_cons, List.flatMap_cons] at same
          rcases descriptorChars_append_inj (readableLeft left (by simp))
              (readableRight right (by simp)) same with ⟨rfl, later⟩
          rw [ih (fun type mem => readableLeft type (by simp [mem]))
            (fun type mem => readableRight type (by simp [mem])) later]

theorem not_mem_descriptorChars {type : SourceType} (readable : type.IsReadable) {mark : Char}
    (stranger : Text.continuesIdentifier mark = false) (foreign : mark ∉ ['/', ';', '[']) :
    mark ∉ type.descriptorChars := by
  simp only [List.mem_cons, List.not_mem_nil, or_false, not_or] at foreign
  have inElement := ElementType.not_mem_descriptorChars readable.element stranger
    (by simp [foreign])
  simp [descriptorChars, inElement, foreign]

end SourceType

/-!
# The key of a method
-/

theorem toList_parameterDescriptors (params : List SourceType) :
    (parameterDescriptors params).toList =
      '(' :: (params.flatMap SourceType.descriptorChars ++ [')']) := by
  simp [parameterDescriptors, String.toList_join, List.flatMap_map, SourceType.descriptor]

def callKeyChars (name : String) (params : List SourceType) : List Char :=
  name.toList ++ '(' :: (params.flatMap SourceType.descriptorChars ++ [')'])

theorem callKeyChars_inj {nameLeft nameRight : String} {lefts rights : List SourceType}
    (readableLeft : ∀ type ∈ lefts, type.IsReadable)
    (readableRight : ∀ type ∈ rights, type.IsReadable)
    (same : callKeyChars nameLeft lefts = callKeyChars nameRight rights) :
    nameLeft = nameRight ∧ lefts = rights := by
  have noParenthesis : ∀ {types : List SourceType}, (∀ type ∈ types, type.IsReadable) →
      '(' ∉ types.flatMap SourceType.descriptorChars ++ [')'] := by
    intro types readable mem
    rcases List.mem_append.mp mem with inRun | isClose
    · rcases List.mem_flatMap.mp inRun with ⟨type, inTypes, inType⟩
      exact SourceType.not_mem_descriptorChars (readable type inTypes) (by decide) (by decide)
        inType
    · exact absurd (List.mem_singleton.mp isClose) (by decide)
  have cut := congrArg (Text.splitLast? '(') same
  rw [callKeyChars, callKeyChars, Text.splitLast?_append_cons (noParenthesis readableLeft),
    Text.splitLast?_append_cons (noParenthesis readableRight)] at cut
  rcases Prod.mk.inj (Option.some.inj cut) with ⟨names, runs⟩
  exact ⟨String.toList_inj.mp names,
    SourceType.flatMap_descriptorChars_inj readableLeft readableRight
      (List.append_cancel_right runs)⟩

namespace MethodEntry

theorem callKey_of_renders {registry : Registry} {entry : MethodEntry} {name : String}
    {params : List SourceType} {returns : SourceType}
    (renders : entry.Renders registry name params returns) (readable : returns.IsReadable) :
    entry.callKey = String.ofList (callKeyChars name params) := by
  have noClose : ')' ∉ returns.descriptorChars :=
    SourceType.not_mem_descriptorChars readable (by decide) (by decide)
  have signature : entry.signature.toList =
      (name.toList ++ '(' :: params.flatMap SourceType.descriptorChars) ++
        ')' :: returns.descriptorChars := by
    rw [renders.signature, String.toList_append, String.toList_append,
      toList_parameterDescriptors, SourceType.descriptor, String.toList_ofList]
    simp
  rw [callKey, signature, Text.splitLast?_append_cons noClose]
  simp [callKeyChars]

/-- Two methods share a call key exactly when they have one name and one list of
parameter types. -/
theorem callKey_eq_iff {registry : Registry} {left right : MethodEntry}
    {nameLeft nameRight : String} {lefts rights : List SourceType}
    {returnsLeft returnsRight : SourceType}
    (rendersLeft : left.Renders registry nameLeft lefts returnsLeft)
    (rendersRight : right.Renders registry nameRight rights returnsRight)
    (readableLeft : ∀ type ∈ returnsLeft :: lefts, type.IsReadable)
    (readableRight : ∀ type ∈ returnsRight :: rights, type.IsReadable) :
    left.callKey = right.callKey ↔ nameLeft = nameRight ∧ lefts = rights := by
  rw [callKey_of_renders rendersLeft (readableLeft _ (by simp)),
    callKey_of_renders rendersRight (readableRight _ (by simp)), String.ofList_inj]
  constructor
  · exact callKeyChars_inj (fun type mem => readableLeft type (by simp [mem]))
      (fun type mem => readableRight type (by simp [mem]))
  · intro both
    rcases both with ⟨rfl, rfl⟩
    rfl

end MethodEntry
end ClassAtlas
