import ClassAtlas.SourceType.Grammar

/-!
# Reading a spelling back

What the reader accepts is readable: its class names are well-formed and no array
holds `void`. The reflection spelling of a readable type is read back as the type
itself, except that a class named like a primitive type is taken for that type.
-/

namespace ClassAtlas

open Spelling

namespace ElementType

def IsReadable : ElementType → Prop
  | .primitive _ => True
  | .object name => name.isWellFormed = true

theorem isReadable_of_names {text : List Char} {element : ElementType}
    (names : Names text element) : element.IsReadable := by
  cases names with
  | keyword type => trivial
  | path path notKeyword => exact ClassName.isWellFormed_ofPath_iff.mpr path

theorem isReadable_of_encodes {text : List Char} {element : ElementType}
    (encodes : Encodes text element) :
    element.IsReadable ∧ element ≠ .primitive .void := by
  cases encodes with
  | letter notVoid => exact ⟨trivial, fun same => notVoid (primitive.inj same)⟩
  | wrapped path => exact ⟨ClassName.isWellFormed_ofPath_iff.mpr path, nofun⟩

end ElementType

namespace SourceType

structure IsReadable (type : SourceType) : Prop where
  element : type.element.IsReadable
  notVoidArray : type.depth ≠ 0 → type.element ≠ .primitive .void

theorem isReadable_of_spells {text : List Char} {type : SourceType}
    (spells : Spells text type) : type.IsReadable := by
  cases spells with
  | named names => exact ⟨ElementType.isReadable_of_names names, fun deep => absurd rfl deep⟩
  | wrapped path =>
      exact ⟨ClassName.isWellFormed_ofPath_iff.mpr path, fun deep => absurd rfl deep⟩
  | encoded isArray encodes =>
      rcases ElementType.isReadable_of_encodes encodes with ⟨readable, notVoid⟩
      exact ⟨readable, fun _ => notVoid⟩
  | suffixed isArray names notVoid blank =>
      exact ⟨ElementType.isReadable_of_names names, fun _ => notVoid⟩

theorem isReadable_of_parse? {raw : String} {type : SourceType}
    (read : parse? raw = some type) : type.IsReadable := by
  rcases Option.bind_eq_some_iff.mp read with ⟨text, _, parsed⟩
  exact isReadable_of_spells (parseErased?_eq_some_iff.mp parsed)

/-!
# Texts that erasure and trimming leave alone
-/

theorem eraseGenerics_of_not_mem {text : List Char} (noOpen : '<' ∉ text)
    (noClose : '>' ∉ text) : eraseGenerics 0 text = some text := by
  induction text with
  | nil => rfl
  | cons c rest ih =>
      rw [List.mem_cons, not_or] at noOpen noClose
      rw [eraseGenerics, if_neg (Ne.symm noOpen.left), if_neg (Ne.symm noClose.left),
        ih noOpen.right noClose.right]
      rfl

theorem parse?_of_isTrimmed {text : List Char} (trimmed : Text.IsTrimmed text)
    (noOpen : '<' ∉ text) (noClose : '>' ∉ text) :
    parse? (String.ofList text) = parseErased? text := by
  rw [parse?, String.toList_ofList, Text.trim_of_isTrimmed trimmed,
    eraseGenerics_of_not_mem noOpen noClose]
  rfl

theorem mem_arraySuffix {c : Char} {levels : Nat} (mem : c ∈ arraySuffix levels) :
    c = '[' ∨ c = ']' := by
  induction levels with
  | zero => cases mem
  | succ levels ih =>
      rcases List.mem_cons.mp mem with isOpen | later
      · exact Or.inl isOpen
      · rcases List.mem_cons.mp later with isClose | mem
        · exact Or.inr isClose
        · exact ih mem

end SourceType

/-!
# Texts that are read as they are
-/

namespace Spelling

open SourceType

variable {text : List Char}

theorem Encodes.exists_last {element : ElementType} (encodes : Encodes text element) :
    ∃ before last, text = before ++ [last] ∧ Text.isBlank last = false := by
  cases encodes with
  | @letter type notVoid => exact ⟨[], type.code, rfl, by cases type <;> decide⟩
  | @wrapped inner path => exact ⟨'L' :: inner, ';', rfl, by decide⟩

theorem isTrimmed_suffixed (path : Text.IsPath text) (blanks : List Char) {levels : Nat}
    (isArray : levels ≠ 0) : Text.IsTrimmed (text ++ blanks ++ arraySuffix levels) := by
  rcases Nat.exists_eq_succ_of_ne_zero isArray with ⟨others, rfl⟩
  rcases path.exists_first with ⟨first, rest, rfl, startsWell⟩
  have ends : first :: rest ++ blanks ++ arraySuffix (others + 1) =
      (first :: rest ++ blanks ++ arraySuffix others ++ ['[']) ++ [']'] := by
    rw [arraySuffix_succ]
    simp
  exact Text.isTrimmed_of_ends rfl ends (Text.isBlank_of_continuesIdentifier startsWell)
    (by decide)

theorem Spells.isTrimmed {type : SourceType} (spells : Spells text type) :
    Text.IsTrimmed text := by
  cases spells with
  | named names => exact names.isPath.isTrimmed
  | @wrapped inner path =>
      have ends : 'L' :: (inner ++ [';']) = ('L' :: inner) ++ [';'] := rfl
      exact Text.isTrimmed_of_ends rfl ends (by decide) (by decide)
  | @encoded code element levels isArray encodes =>
      rcases Nat.exists_eq_succ_of_ne_zero isArray with ⟨others, rfl⟩
      rcases encodes.exists_last with ⟨before, last, rfl, solid⟩
      have starts : List.replicate (others + 1) '[' ++ (before ++ [last]) =
          '[' :: (List.replicate others '[' ++ (before ++ [last])) := rfl
      exact Text.isTrimmed_of_ends starts (List.append_assoc ..).symm (by decide) solid
  | suffixed isArray names notVoid blank => exact isTrimmed_suffixed names.isPath _ isArray

theorem not_mem_of_isPath (path : Text.IsPath text) {mark : Char}
    (angle : mark = '<' ∨ mark = '>') : mark ∉ text := by
  rcases angle with rfl | rfl
  · exact path.not_mem (by decide) (by decide)
  · exact path.not_mem (by decide) (by decide)

theorem not_mem_suffixed (path : Text.IsPath text) {blanks : List Char}
    (blank : ∀ c ∈ blanks, Text.isBlank c = true) (levels : Nat) {mark : Char}
    (angle : mark = '<' ∨ mark = '>') : mark ∉ text ++ blanks ++ arraySuffix levels := by
  have notBlank : mark ∉ blanks := fun mem => by
    rcases angle with rfl | rfl
    · exact absurd (blank _ mem) (by decide)
    · exact absurd (blank _ mem) (by decide)
  have notSuffix : mark ∉ arraySuffix levels := fun mem => by
    rcases angle with rfl | rfl
    · exact absurd (mem_arraySuffix mem) (by decide)
    · exact absurd (mem_arraySuffix mem) (by decide)
  simp [not_mem_of_isPath path angle, notBlank, notSuffix]

theorem Spells.not_mem {type : SourceType} (spells : Spells text type) {mark : Char}
    (angle : mark = '<' ∨ mark = '>') : mark ∉ text := by
  have clean : mark ∉ ['L', ';', '['] := by
    rcases angle with rfl | rfl <;> decide
  simp only [List.mem_cons, List.not_mem_nil, or_false, not_or] at clean
  cases spells with
  | named names => exact not_mem_of_isPath names.isPath angle
  | wrapped path => simp [clean, not_mem_of_isPath path angle]
  | encoded isArray encodes =>
      cases encodes with
      | @letter type notVoid =>
          have notCode : mark ≠ type.code := by
            rcases angle with rfl | rfl <;> cases type <;> decide
          simp [clean, notCode]
      | wrapped path => simp [clean, not_mem_of_isPath path angle]
  | suffixed isArray names notVoid blank => exact not_mem_suffixed names.isPath blank _ angle

/-- Every spelling is read as the type it spells. -/
theorem Spells.parse? {type : SourceType} (spells : Spells text type) :
    SourceType.parse? (String.ofList text) = some type := by
  rw [parse?_of_isTrimmed spells.isTrimmed (spells.not_mem (Or.inl rfl))
    (spells.not_mem (Or.inr rfl))]
  exact parseErased?_eq_some_iff.mpr spells

end Spelling

/-!
# The reflection spelling
-/

namespace SourceType

theorem parse?_keyword (type : Primitive) :
    parse? (String.ofList type.keyword.toList) = some (primitive type) :=
  Spells.parse? (.named (.keyword type))

/-- What a class name is read as: the primitive type it names, or the class. -/
def ofName (name : ClassName) : SourceType :=
  match Primitive.ofKeyword? name.text with
  | some type => primitive type
  | none => object name

theorem names_className {name : ClassName} (valid : name.isWellFormed = true) :
    Names name.chars (ofName name).element := by
  unfold ofName
  cases found : Primitive.ofKeyword? name.text with
  | some type =>
      rw [ClassName.chars, ← Primitive.keyword_of_ofKeyword? found]
      exact .keyword type
  | none =>
      rcases ClassName.isPath_chars valid with ⟨path, same⟩
      have notKeyword : ∀ type : Primitive, name.chars ≠ type.keyword.toList :=
        fun type same =>
          Primitive.ofKeyword?_eq_none_iff.mp found type (String.toList_inj.mp same).symm
      have names := Names.path path notKeyword
      rwa [same] at names

theorem parse?_className {name : ClassName} (valid : name.isWellFormed = true) :
    parse? (String.ofList name.chars) = some (ofName name) := by
  rw [Spells.parse? (.named (names_className valid))]
  unfold ofName
  cases Primitive.ofKeyword? name.text <;> rfl

theorem encodes_dottedDescriptorChars {element : ElementType} (readable : element.IsReadable)
    (notVoid : element ≠ .primitive .void) :
    Encodes element.dottedDescriptorChars element := by
  cases element with
  | primitive type => exact .letter fun same => notVoid (congrArg ElementType.primitive same)
  | object name =>
      rcases ClassName.isPath_chars readable with ⟨path, same⟩
      have encodes := Encodes.wrapped path
      rwa [same] at encodes

def reread (type : SourceType) : SourceType :=
  match type with
  | ⟨.object name, 0⟩ => ofName name
  | other => other

theorem parse?_reflectionName {type : SourceType} (readable : type.IsReadable) :
    parse? type.reflectionName = some type.reread := by
  rcases type with ⟨element, depth⟩
  cases depth with
  | zero =>
      cases element with
      | primitive type => exact parse?_keyword type
      | object name => exact parse?_className readable.element
  | succ depth =>
      have encodes :=
        encodes_dottedDescriptorChars readable.element (readable.notVoidArray (by simp))
      have spells := Spells.encoded depth.succ_ne_zero encodes
      rw [reflectionName, reflectionChars, if_neg (by simp), spells.parse?]
      cases element <;> rfl

theorem className?_reread {type : SourceType} {name : ClassName}
    (mentions : type.reread.className? = some name) : type.className? = some name := by
  unfold reread at mentions
  split at mentions
  · next named =>
      unfold ofName at mentions
      split at mentions
      · exact absurd mentions (by simp [className?, primitive, ElementType.className?])
      · exact mentions
  · exact mentions

end SourceType
end ClassAtlas
