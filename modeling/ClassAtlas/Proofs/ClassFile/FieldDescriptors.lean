import ClassAtlas.Proofs.ClassFile.Descriptors
import ClassAtlas.Text.Utf8

/-!
# Reading the descriptors of fields

The reader of field descriptors counts the bytes of a class name where it should count
characters. A descriptor is read as what it denotes exactly if each character takes one
byte. Any other descriptor names a class, and that class is read with the semicolon behind
its name: what is then read from the reflection spelling, if anything, has a shorter
descriptor.
-/

namespace ClassAtlas

/-- Each character takes one byte. -/
def Text.IsNarrow (text : List Char) : Prop :=
  ∀ c ∈ text, c.utf8Size = 1

namespace Text

theorem IsNarrow.utf8ByteSize {text : List Char} (narrow : IsNarrow text) :
    (String.ofList text).utf8ByteSize = text.length := by
  induction text with
  | nil => rfl
  | cons first rest ih =>
      have inRest := ih fun c mem => narrow c (List.mem_cons_of_mem _ mem)
      rw [utf8ByteSize_cons, narrow first List.mem_cons_self, inRest, List.length_cons]
      omega

theorem length_lt_utf8ByteSize {text : List Char} (wide : ¬IsNarrow text) :
    text.length < (String.ofList text).utf8ByteSize := by
  induction text with
  | nil => exact absurd (fun c mem => nomatch mem) wide
  | cons first rest ih =>
      have positive := first.utf8Size_pos
      rw [utf8ByteSize_cons, List.length_cons]
      by_cases single : first.utf8Size = 1
      · have inRest := ih fun narrow => wide fun c mem => by
          rcases List.mem_cons.mp mem with rfl | later
          · exact single
          · exact narrow c later
        omega
      · have inRest := length_le_utf8ByteSize rest
        omega

end Text

namespace Descriptor

open Text (IsNarrow)

theorem class?_of_narrow {path : List Char} (named : path ≠ []) (narrow : IsNarrow path) :
    class? (path ++ [';']) = some (classNamed path) := by
  have whole : IsNarrow (path ++ [';']) := by
    intro c mem
    rcases List.mem_append.mp mem with inPath | isEnd
    · exact narrow c inPath
    · rw [List.mem_singleton.mp isEnd]
      rfl
  have positive := List.length_pos_iff.mpr named
  have long : 1 < path.length + 1 := by omega
  rw [class?, whole.utf8ByteSize]
  simp only [List.getLast?_concat, List.length_append, List.length_singleton, decide_true,
    Bool.true_and, long, if_true, Nat.add_sub_cancel, List.take_left]

theorem class?_of_wide {path : List Char} (wide : ¬IsNarrow path) :
    class? (path ++ [';']) = some (classNamed (path ++ [';'])) := by
  have whole : ¬IsNarrow (path ++ [';']) :=
    fun narrow => wide fun c mem => narrow c (List.mem_append_left _ mem)
  have size := Text.length_lt_utf8ByteSize whole
  rw [List.length_append, List.length_singleton] at size
  have long : 1 < (String.ofList (path ++ [';'])).utf8ByteSize := by omega
  rw [class?]
  simp only [List.getLast?_concat, decide_true, Bool.true_and, long, if_true]
  rw [List.take_of_length_le]
  rw [List.length_append, List.length_singleton]
  omega

theorem fieldType?_of_narrow {text : List Char} {type : SourceType} (denotes : Denotes text type)
    (narrow : IsNarrow text) : fieldType? text = some type := by
  induction denotes with
  | @base type notVoid =>
      rw [fieldType?, if_neg (code_ne_bracket type), if_neg (ElementType.code_ne_letter type),
        base?_code notVoid]
  | @object path named single =>
      have inPath : IsNarrow path := fun c mem => narrow c (by simp [mem])
      rw [fieldType?, if_neg (by decide), if_pos rfl, class?_of_narrow named inPath]
  | array inner ih =>
      rw [fieldType?, if_pos rfl, ih fun c mem => narrow c (List.mem_cons_of_mem _ mem)]
      rfl

/-- The parts of a descriptor with a character of several bytes, and how it is read. -/
structure ReadsWide (text : List Char) (type : SourceType) (path : List Char) (depth : Nat) :
    Prop where
  length : text.length = depth + path.length + 2
  denoted : type = ⟨.object (.ofPath (String.ofList path)), depth⟩
  read : fieldType? text = some ⟨.object (.ofPath (String.ofList (path ++ [';']))), depth⟩

theorem exists_readsWide {text : List Char} {type : SourceType} (denotes : Denotes text type)
    (wide : ¬IsNarrow text) : ∃ path depth, ReadsWide text type path depth := by
  induction denotes with
  | @base type notVoid =>
      refine absurd ?_ wide
      intro c mem
      rw [List.mem_singleton.mp mem]
      cases type <;> rfl
  | @object path named single =>
      have inPath : ¬IsNarrow path := by
        intro narrow
        apply wide
        intro c mem
        rcases List.mem_cons.mp mem with rfl | later
        · rfl
        · rcases List.mem_append.mp later with here | isEnd
          · exact narrow c here
          · rw [List.mem_singleton.mp isEnd]
            rfl
      refine ⟨path, 0, ⟨by simp, rfl, ?_⟩⟩
      rw [fieldType?, if_neg (by decide), if_pos rfl, class?_of_wide inPath]
      rfl
  | @array text type inner ih =>
      have inText : ¬IsNarrow text := by
        intro narrow
        apply wide
        intro c mem
        rcases List.mem_cons.mp mem with rfl | later
        · rfl
        · exact narrow c later
      rcases ih inText with ⟨path, depth, wideInner⟩
      refine ⟨path, depth + 1, ⟨?_, ?_, ?_⟩⟩
      · rw [List.length_cons, wideInner.length]
        omega
      · rw [wideInner.denoted]
        rfl
      · rw [fieldType?, if_pos rfl, wideInner.read]
        rfl

/-- A descriptor is read as what it denotes exactly if each character takes one byte. -/
theorem isNarrow_iff_denotes {text : List Char} {type seen : SourceType}
    (denotes : Denotes text type) (slashed : '.' ∉ text) (read : fieldType? text = some seen) :
    IsNarrow text ↔ Denotes text seen := by
  constructor
  · intro narrow
    rw [fieldType?_of_narrow denotes narrow] at read
    rw [← Option.some.inj read]
    exact denotes
  · intro denotesSeen
    apply Classical.byContradiction
    intro wide
    rcases exists_readsWide denotes wide with ⟨path, depth, parts⟩
    rw [parts.read] at read
    have lengths := congrArg List.length (denotesSeen.descriptorChars slashed)
    rw [parts.length, ← Option.some.inj read, SourceType.descriptorChars,
      ElementType.descriptorChars, ClassName.slashedChars, ClassName.chars_ofPath] at lengths
    simp only [List.length_append, List.length_replicate, List.length_cons, List.length_map,
      List.length_nil] at lengths
    omega

end Descriptor

/-!
# Reading back a name with a semicolon behind it
-/

theorem ClassName.ofWellFormed?_eq_none {path : List Char} (mem : ';' ∈ path) :
    ofWellFormed? path = none := by
  cases found : ofWellFormed? path with
  | none => rfl
  | some name =>
      have isPath := (ofWellFormed?_eq_some_iff.mp found).left
      exact absurd mem (isPath.not_mem (by decide) (by decide))

theorem ClassName.length_of_ofWellFormed? {path : List Char} {name : ClassName}
    (read : ofWellFormed? path = some name) : name.slashedChars.length = path.length := by
  rcases ofWellFormed?_eq_some_iff.mp read with ⟨_, rfl⟩
  rw [slashedChars, chars_ofPath, List.length_map, List.length_map]

namespace SourceType

theorem length_reread_le (type : SourceType) :
    type.reread.descriptorChars.length ≤ type.descriptorChars.length := by
  unfold reread
  split
  · next name =>
      unfold ofName
      split
      · next primitive found =>
          show 1 ≤ ('L' :: (name.slashedChars ++ [';'])).length
          rw [List.length_cons]
          omega
      · exact Nat.le_refl _
  · exact Nat.le_refl _

theorem plain?_eq_none {text : List Char} (mem : ';' ∈ text) : plain? text = none := by
  cases found : plain? text with
  | none => rfl
  | some element =>
      have isPath := (plain?_eq_some_iff.mp found).isPath
      exact absurd mem (isPath.not_mem (by decide) (by decide))

/-- A well-formed name with a semicolon behind it is no spelling of an array, and as the
spelling of a class it lacks a letter at the start. -/
theorem length_lt_of_parse? {name longer : ClassName} (valid : name.isWellFormed = true)
    (spelled : longer.chars = name.chars ++ [';']) (depth : Nat) {found : SourceType}
    (read : parse? (⟨.object longer, depth⟩ : SourceType).reflectionName = some found) :
    found.descriptorChars.length < depth + name.chars.length + 2 := by
  have noOpen : '<' ∉ name.chars :=
    ClassName.not_mem_of_isWellFormed valid (by decide) (by decide)
  have noClose : '>' ∉ name.chars :=
    ClassName.not_mem_of_isWellFormed valid (by decide) (by decide)
  cases depth with
  | succ levels =>
      have starts : List.replicate (levels + 1) '[' ++ 'L' :: (longer.chars ++ [';']) =
          '[' :: (List.replicate levels '[' ++ 'L' :: (longer.chars ++ [';'])) := rfl
      have ends : List.replicate (levels + 1) '[' ++ 'L' :: (longer.chars ++ [';']) =
          (List.replicate (levels + 1) '[' ++ 'L' :: longer.chars) ++ [';'] := by
        simp
      have semicolon : ';' ∈ longer.chars := by
        rw [spelled]
        exact List.mem_append_right _ List.mem_cons_self
      rw [reflectionName, reflectionChars, if_neg (by simp), ElementType.dottedDescriptorChars,
        parse?_of_isTrimmed (Text.isTrimmed_of_ends starts ends (by decide) (by decide))
          (by simp [spelled, noOpen]) (by simp [spelled, noClose]),
        parseErased?_brackets (by simp) (by simp), arrayElement?_wrapped,
        ClassName.ofWellFormed?_eq_none semicolon] at read
      cases read
  | zero =>
      -- Alone it can only be taken for a class between `L` and the semicolon, so one letter
      -- of the name is lost.
      rcases ClassName.startsIdentifier_of_isWellFormed valid with
        ⟨first, rest, starts, startsWell⟩
      have continues := Text.continuesIdentifier_of_starts startsWell
      have whole : longer.chars = first :: (rest ++ [';']) := by
        rw [spelled, starts]
        rfl
      have notArray : longer.chars.head? ≠ some '[' := by
        rw [whole, List.head?_cons]
        intro same
        exact Text.ne_of_continuesIdentifier continues (by decide) (Option.some.inj same)
      rw [reflectionName, reflectionChars, if_pos rfl, ElementType.nameChars,
        parse?_of_isTrimmed (Text.isTrimmed_of_ends whole spelled
          (Text.isBlank_of_continuesIdentifier continues) (by decide))
          (by simp [spelled, noOpen]) (by simp [spelled, noClose]),
        parseErased?, if_neg notArray, spelled, countBrackets_reverse (by simp)] at read
      simp only [if_true] at read
      split at read
      · next inner wrapped =>
          rcases Option.map_eq_some_iff.mp read with ⟨kept, wellFormed, rfl⟩
          have lengths := congrArg List.length (wrapped?_eq_some_iff.mp wrapped)
          have names := ClassName.length_of_ofWellFormed? wellFormed
          show ('L' :: (kept.slashedChars ++ [';'])).length < _
          simp only [List.length_append, List.length_cons, List.length_nil] at lengths ⊢
          omega
      · rw [plain?_eq_none (List.mem_append_right _ List.mem_cons_self)] at read
        cases read

end SourceType

theorem Descriptor.descriptorChars_ne_of_wide {text : List Char} {type seen found : SourceType}
    (denotes : Denotes text type) (wide : ¬Text.IsNarrow text) (proper : type.IsProper)
    (read : fieldType? text = some seen)
    (parsed : SourceType.parse? seen.reflectionName = some found) :
    found.reread.descriptorChars ≠ text := by
  rcases exists_readsWide denotes wide with ⟨path, depth, parts⟩
  rw [parts.read] at read
  rcases Option.some.inj read with rfl
  have valid : (ClassName.ofPath (String.ofList path)).isWellFormed = true :=
    proper.wellFormed _ (by rw [parts.denoted]; rfl)
  have spelled : (ClassName.ofPath (String.ofList (path ++ [';']))).chars =
      (ClassName.ofPath (String.ofList path)).chars ++ [';'] := by
    rw [ClassName.chars_ofPath, ClassName.chars_ofPath, List.map_append]
    rfl
  have shorter := SourceType.length_lt_of_parse? valid spelled depth parsed
  rw [ClassName.chars_ofPath, List.length_map] at shorter
  have bound := found.length_reread_le
  intro same
  have lengths := congrArg List.length same
  rw [parts.length] at lengths
  omega

end ClassAtlas
