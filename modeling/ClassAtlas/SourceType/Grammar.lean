import ClassAtlas.ClassName.Path
import ClassAtlas.SourceType.Parser

/-!
# The grammar of spellings

The grammar says which texts spell which types, apart from how they are read. A text
with neither blanks around it nor generic arguments is read as the type it spells, and
fails if it spells none.
-/

namespace ClassAtlas

namespace Spelling

/-- A text names an element: a keyword names a primitive type, any other path a class. -/
inductive Names : List Char → ElementType → Prop where
  | keyword (type : Primitive) : Names type.keyword.toList (.primitive type)
  | path {text : List Char} (path : Text.IsPath text)
      (notKeyword : ∀ type : Primitive, text ≠ type.keyword.toList) :
      Names text (.object (.ofPath (String.ofList text)))

/-- A text encodes the element of an array: a letter, or a path between `L` and a
semicolon. -/
inductive Encodes : List Char → ElementType → Prop where
  | letter {type : Primitive} (notVoid : type ≠ .void) : Encodes [type.code] (.primitive type)
  | wrapped {text : List Char} (path : Text.IsPath text) :
      Encodes ('L' :: (text ++ [';'])) (.object (.ofPath (String.ofList text)))

inductive Spells : List Char → SourceType → Prop where
  | named {text : List Char} {element : ElementType} (names : Names text element) :
      Spells text ⟨element, 0⟩
  /-- Between `L` and a semicolon even the name of a primitive type names a class. -/
  | wrapped {text : List Char} (path : Text.IsPath text) :
      Spells ('L' :: (text ++ [';'])) (.object (.ofPath (String.ofList text)))
  | encoded {text : List Char} {element : ElementType} {levels : Nat} (isArray : levels ≠ 0)
      (encodes : Encodes text element) :
      Spells (List.replicate levels '[' ++ text) ⟨element, levels⟩
  | suffixed {text blanks : List Char} {element : ElementType} {levels : Nat}
      (isArray : levels ≠ 0) (names : Names text element) (notVoid : element ≠ .primitive .void)
      (blank : ∀ c ∈ blanks, Text.isBlank c = true) :
      Spells (text ++ blanks ++ SourceType.arraySuffix levels) ⟨element, levels⟩

theorem Names.isPath {text : List Char} {element : ElementType} (names : Names text element) :
    Text.IsPath text := by
  cases names with
  | keyword type => cases type <;> decide
  | path path notKeyword => exact path

end Spelling

namespace SourceType

open Spelling

/-!
# Elements
-/

theorem plain?_eq_some_iff {text : List Char} {element : ElementType} :
    plain? text = some element ↔ Names text element := by
  constructor
  · intro read
    unfold plain? at read
    cases found : Primitive.ofKeyword? (String.ofList text) with
    | some type =>
        rw [found] at read
        have spelled := Primitive.keyword_of_ofKeyword? found
        rw [← Option.some.inj read, ← String.toList_ofList (l := text), ← spelled]
        exact .keyword type
    | none =>
        rw [found] at read
        rcases Option.map_eq_some_iff.mp read with ⟨name, named, rfl⟩
        rcases ClassName.ofWellFormed?_eq_some_iff.mp named with ⟨path, rfl⟩
        refine .path path fun type same => ?_
        rw [same, String.ofList_toList] at found
        exact Primitive.ofKeyword?_eq_none_iff.mp found type rfl
  · intro names
    cases names with
    | keyword type => rw [plain?, String.ofList_toList, Primitive.ofKeyword?_keyword]
    | path path notKeyword =>
        have none : Primitive.ofKeyword? (String.ofList text) = none := by
          refine Primitive.ofKeyword?_eq_none_iff.mpr fun type same => notKeyword type ?_
          rw [same, String.toList_ofList]
        rw [plain?, none, ClassName.ofWellFormed?_eq_some_iff.mpr ⟨path, rfl⟩]
        rfl

theorem wrapped?_eq_some_iff {text inner : List Char} :
    wrapped? text = some inner ↔ text = 'L' :: (inner ++ [';']) := by
  unfold wrapped?
  simp only [Option.bind_eq_some_iff, Text.afterStart?_eq_some_iff, Text.beforeEnd?_eq_some_iff]
  constructor
  · rintro ⟨_, rfl, rfl⟩
    rfl
  · rintro rfl
    exact ⟨_, rfl, rfl⟩

theorem notVoid?_eq_some_iff {element kept : ElementType} :
    notVoid? element = some kept ↔ element = kept ∧ kept ≠ .primitive .void := by
  unfold notVoid?
  split
  · next isVoid =>
      constructor
      · intro impossible
        exact absurd impossible (by simp)
      · intro both
        rcases both with ⟨rfl, notVoid⟩
        exact absurd isVoid notVoid
  · next notVoid =>
      constructor
      · intro same
        rcases Option.some.inj same with rfl
        exact ⟨rfl, notVoid⟩
      · intro both
        rcases both with ⟨rfl, _⟩
        rfl

theorem arrayElement?_wrapped {inner : List Char} :
    arrayElement? ('L' :: (inner ++ [';'])) = (ClassName.ofWellFormed? inner).map .object := by
  rw [arrayElement?]
  · rw [wrapped?_eq_some_iff.mpr rfl, Option.bind_some]
  · intro letter
    cases inner <;> simp

theorem arrayElement?_eq_some_iff {text : List Char} {element : ElementType} :
    arrayElement? text = some element ↔ Encodes text element := by
  constructor
  · intro read
    unfold arrayElement? at read
    split at read
    · rcases Option.bind_eq_some_iff.mp read with ⟨found, ofCode, kept⟩
      rcases notVoid?_eq_some_iff.mp kept with ⟨rfl, notVoid⟩
      rcases Option.map_eq_some_iff.mp ofCode with ⟨type, isCode, rfl⟩
      rw [← Primitive.code_of_ofCode? isCode]
      exact .letter fun same => notVoid (congrArg ElementType.primitive same)
    · rcases Option.map_eq_some_iff.mp read with ⟨name, found, rfl⟩
      rcases Option.bind_eq_some_iff.mp found with ⟨inner, cut, named⟩
      rcases ClassName.ofWellFormed?_eq_some_iff.mp named with ⟨path, rfl⟩
      rw [wrapped?_eq_some_iff.mp cut]
      exact .wrapped path
  · intro encodes
    cases encodes with
    | letter notVoid =>
        rw [arrayElement?, Primitive.ofCode?_code]
        exact notVoid?_eq_some_iff.mpr ⟨rfl, by simpa using notVoid⟩
    | wrapped path =>
        rw [arrayElement?_wrapped, ClassName.ofWellFormed?_eq_some_iff.mpr ⟨path, rfl⟩]
        rfl

/-!
# Brackets before an element
-/

theorem takeWhile_brackets (depth : Nat) {text : List Char} (ends : text.head? ≠ some '[') :
    (List.replicate depth '[' ++ text).takeWhile (· = '[') = List.replicate depth '[' := by
  induction depth with
  | zero =>
      cases text with
      | nil => rfl
      | cons first rest =>
          have notBracket : first ≠ '[' := fun same => ends (by simp [same])
          simp [notBracket]
  | succ depth ih => simpa [List.replicate_succ] using ih

theorem dropWhile_brackets (depth : Nat) {text : List Char} (ends : text.head? ≠ some '[') :
    (List.replicate depth '[' ++ text).dropWhile (· = '[') = text := by
  induction depth with
  | zero =>
      cases text with
      | nil => rfl
      | cons first rest =>
          have notBracket : first ≠ '[' := fun same => ends (by simp [same])
          simp [notBracket]
  | succ depth ih => simpa [List.replicate_succ] using ih

theorem parseErased?_brackets {depth : Nat} (deep : depth ≠ 0) {text : List Char}
    (ends : text.head? ≠ some '[') :
    parseErased? (List.replicate depth '[' ++ text) =
      (arrayElement? text).map fun element => ⟨element, depth⟩ := by
  have isArray : (List.replicate depth '[' ++ text).head? = some '[' := by
    cases depth with
    | zero => exact absurd rfl deep
    | succ depth => simp [List.replicate_succ]
  rw [parseErased?, if_pos isArray, takeWhile_brackets depth ends, dropWhile_brackets depth ends]
  simp

theorem takeWhile_eq_replicate (text : List Char) :
    text.takeWhile (· = '[') = List.replicate (text.takeWhile (· = '[')).length '[' := by
  rw [List.eq_replicate_iff]
  exact ⟨rfl, fun c mem => by simpa using List.all_eq_true.mp List.all_takeWhile c mem⟩

/-!
# Pairs of brackets behind an element
-/

theorem arraySuffix_succ (levels : Nat) :
    arraySuffix (levels + 1) = arraySuffix levels ++ ['[', ']'] := by
  induction levels with
  | zero => rfl
  | succ levels ih =>
      show '[' :: ']' :: arraySuffix (levels + 1) = '[' :: ']' :: (arraySuffix levels ++ _)
      rw [ih]

theorem eq_of_countBrackets {reversed base : List Char} {levels : Nat}
    (counted : countBrackets reversed = (levels, base)) :
    reversed.reverse = base.reverse ++ arraySuffix levels := by
  induction reversed using countBrackets.induct generalizing levels base with
  | case1 rest inner others found ih =>
      rw [countBrackets, found] at counted
      rcases Prod.mk.inj counted with ⟨rfl, rfl⟩
      rw [arraySuffix_succ, ← List.append_assoc, ← ih found]
      simp
  | case2 text notPair =>
      rw [countBrackets.eq_2 text notPair] at counted
      rcases Prod.mk.inj counted with ⟨rfl, rfl⟩
      simp [arraySuffix]

theorem countBrackets_append {text : List Char} (ends : text.getLast? ≠ some ']')
    (levels : Nat) :
    countBrackets (text ++ arraySuffix levels).reverse = (levels, text.reverse) := by
  induction levels with
  | zero =>
      rw [arraySuffix, List.append_nil]
      apply countBrackets.eq_2
      intro rest same
      rw [← List.reverse_reverse text, same] at ends
      simp at ends
  | succ levels ih =>
      rw [arraySuffix_succ, ← List.append_assoc, List.reverse_append]
      show countBrackets (']' :: '[' :: (text ++ arraySuffix levels).reverse) = _
      rw [countBrackets, ih]

theorem countBrackets_reverse {text : List Char} (ends : text.getLast? ≠ some ']') :
    countBrackets text.reverse = (0, text.reverse) := by
  simpa [arraySuffix] using countBrackets_append ends 0

/-!
# Texts without generic arguments
-/

theorem spells_of_parseErased? {text : List Char} {type : SourceType}
    (read : parseErased? text = some type) : Spells text type := by
  unfold parseErased? at read
  split at read
  · next startsArray =>
      rcases Option.map_eq_some_iff.mp read with ⟨element, found, rfl⟩
      have isArray : (text.takeWhile (· = '[')).length ≠ 0 := by
        cases text with
        | nil => cases startsArray
        | cons first rest =>
            rw [Option.some.inj startsArray]
            simp
      have spelled := Spells.encoded isArray (arrayElement?_eq_some_iff.mp found)
      rwa [← takeWhile_eq_replicate, List.takeWhile_append_dropWhile] at spelled
  · simp only at read
    split at read
    · split at read
      · next inner cut =>
          rcases Option.map_eq_some_iff.mp read with ⟨name, named, rfl⟩
          rcases ClassName.ofWellFormed?_eq_some_iff.mp named with ⟨path, rfl⟩
          rw [wrapped?_eq_some_iff.mp cut]
          exact .wrapped path
      · rcases Option.map_eq_some_iff.mp read with ⟨element, found, rfl⟩
        exact .named (plain?_eq_some_iff.mp found)
    · next isArray =>
        rcases Option.map_eq_some_iff.mp read with ⟨element, found, rfl⟩
        rcases Option.bind_eq_some_iff.mp found with ⟨kept, plain, notVoid⟩
        rcases notVoid?_eq_some_iff.mp notVoid with ⟨rfl, notVoid⟩
        have whole : text.reverse.reverse = _ := eq_of_countBrackets rfl
        have base := List.takeWhile_append_dropWhile (p := Text.isBlank)
          (l := (countBrackets text.reverse).2)
        have blank : ∀ c ∈ ((countBrackets text.reverse).2.takeWhile Text.isBlank).reverse,
            Text.isBlank c = true :=
          fun c mem => List.all_eq_true.mp List.all_takeWhile c (List.mem_reverse.mp mem)
        have spelled := Spells.suffixed isArray (plain?_eq_some_iff.mp plain) notVoid blank
        rwa [← List.reverse_append, base, ← whole, List.reverse_reverse] at spelled

theorem getLast?_wrapped (inner : List Char) : ('L' :: (inner ++ [';'])).getLast? = some ';' :=
  List.getLast?_concat (l := 'L' :: inner)

theorem parseErased?_of_isPath {text : List Char} (path : Text.IsPath text) :
    parseErased? text = (plain? text).map fun element => ⟨element, 0⟩ := by
  have notArray : text.head? ≠ some '[' := by
    rw [← List.append_nil text]
    exact path.head?_append_ne [] (by decide)
  have notWrapped : wrapped? text = none := by
    cases found : wrapped? text with
    | none => rfl
    | some inner =>
        rw [wrapped?_eq_some_iff] at found
        exact absurd (found ▸ getLast?_wrapped inner) (path.getLast?_ne (by decide))
  rw [parseErased?, if_neg notArray, countBrackets_reverse (path.getLast?_ne (by decide))]
  simp only [if_true, notWrapped]

theorem parseErased?_wrapped (inner : List Char) :
    parseErased? ('L' :: (inner ++ [';'])) = (ClassName.ofWellFormed? inner).map object := by
  have ends : ('L' :: (inner ++ [';'])).getLast? ≠ some ']' := by
    rw [getLast?_wrapped]
    decide
  rw [parseErased?, if_neg (by simp), countBrackets_reverse ends]
  simp only [if_true, wrapped?_eq_some_iff.mpr rfl]

theorem parseErased?_arraySuffix {text blanks : List Char} {levels : Nat} (isArray : levels ≠ 0)
    (path : Text.IsPath text) (blank : ∀ c ∈ blanks, Text.isBlank c = true) :
    parseErased? (text ++ blanks ++ arraySuffix levels) =
      ((plain? text).bind notVoid?).map fun element => ⟨element, levels⟩ := by
  have notArray : (text ++ blanks ++ arraySuffix levels).head? ≠ some '[' := by
    rw [List.append_assoc]
    exact path.head?_append_ne _ (by decide)
  have ends : (text ++ blanks).getLast? ≠ some ']' := by
    rw [List.getLast?_append]
    cases last : blanks.getLast? with
    | none => exact path.getLast?_ne (by decide)
    | some c =>
        intro same
        have isBracket : c = ']' := Option.some.inj same
        exact absurd (blank c (List.mem_of_getLast? last)) (by rw [isBracket]; decide)
  have trimmed : ((text ++ blanks).reverse.dropWhile Text.isBlank).reverse = text := by
    show Text.trimEnd (text ++ blanks) = text
    rw [Text.trimEnd_append_blanks text blank, Text.trimEnd_of_isTrimmed path.isTrimmed]
  rw [parseErased?, if_neg notArray, countBrackets_append ends]
  simp only [if_neg isArray, trimmed]

theorem head?_ne_bracket_of_encodes {text : List Char} {element : ElementType}
    (encodes : Encodes text element) : text.head? ≠ some '[' := by
  cases encodes with
  | @letter type notVoid => cases type <;> simp [Primitive.code]
  | wrapped path => simp

/-- A text is read as a type exactly if it spells the type. -/
theorem parseErased?_eq_some_iff {text : List Char} {type : SourceType} :
    parseErased? text = some type ↔ Spells text type := by
  constructor
  · exact spells_of_parseErased?
  · intro spells
    cases spells with
    | named names =>
        rw [parseErased?_of_isPath names.isPath, plain?_eq_some_iff.mpr names]
        rfl
    | wrapped path =>
        rw [parseErased?_wrapped, ClassName.ofWellFormed?_eq_some_iff.mpr ⟨path, rfl⟩]
        rfl
    | encoded isArray encodes =>
        rw [parseErased?_brackets isArray (head?_ne_bracket_of_encodes encodes),
          arrayElement?_eq_some_iff.mpr encodes]
        rfl
    | suffixed isArray names notVoid blank =>
        rw [parseErased?_arraySuffix isArray names.isPath blank, plain?_eq_some_iff.mpr names,
          Option.bind_some, notVoid?_eq_some_iff.mpr ⟨rfl, notVoid⟩]
        rfl

end SourceType
end ClassAtlas
