import ClassAtlas.ClassName.Lemmas

/-!
# Paths

A path is a text of identifiers with a dot or a slash between each two. The name
written so is well-formed, and no other text gives a well-formed name.
-/

namespace ClassAtlas

namespace Text

def isPathSeparator (c : Char) : Bool :=
  c = '.' || c = '/'

/-- Dots and slashes cut the text into identifiers, so it is not empty. -/
def IsPath (text : List Char) : Prop :=
  ∀ segment ∈ text.splitOnP isPathSeparator, isIdentifier segment = true

instance (text : List Char) : Decidable (IsPath text) :=
  inferInstanceAs (Decidable (∀ segment ∈ text.splitOnP isPathSeparator, _))

theorem splitOn_map_slash (text : List Char) :
    (text.map fun c => if c = '/' then '.' else c).splitOn '.' =
      text.splitOnP isPathSeparator := by
  induction text with
  | nil => rfl
  | cons c rest ih =>
      rw [List.map_cons, List.splitOn_cons_eq_if_modifyHead, ih,
        List.splitOnP_cons_eq_if_modifyHead]
      by_cases slash : c = '/'
      · simp [slash, isPathSeparator]
      · simp [slash, isPathSeparator]

theorem splitOn_map_dot {text : List Char} (clean : '/' ∉ text) :
    (text.map fun c => if c = '.' then '/' else c).splitOn '/' = text.splitOn '.' := by
  induction text with
  | nil => rfl
  | cons c rest ih =>
      rw [List.mem_cons, not_or] at clean
      rw [List.map_cons, List.splitOn_cons_eq_if_modifyHead, ih clean.right,
        List.splitOn_cons_eq_if_modifyHead]
      by_cases dot : c = '.'
      · simp [dot]
      · simp [dot, Ne.symm clean.left]

end Text

namespace ClassName

theorem isWellFormed_ofPath_iff {text : List Char} :
    (ofPath (String.ofList text)).isWellFormed = true ↔ Text.IsPath text := by
  rw [isWellFormed, segments, chars_ofPath, Text.splitOn_map_slash, List.all_eq_true]
  rfl

theorem ofWellFormed?_eq_some_iff {text : List Char} {name : ClassName} :
    ofWellFormed? text = some name ↔
      Text.IsPath text ∧ name = ofPath (String.ofList text) := by
  rw [← isWellFormed_ofPath_iff]
  unfold ofWellFormed?
  simp only
  split
  · next valid => simp [valid, eq_comm]
  · next malformed => simp [malformed]

theorem isPath_chars {name : ClassName} (valid : name.isWellFormed = true) :
    Text.IsPath name.chars ∧ ofPath (String.ofList name.chars) = name := by
  have both := ofWellFormed?_eq_some_iff.mp (ofWellFormed?_chars valid)
  exact ⟨both.left, both.right.symm⟩

theorem isPath_slashedChars {name : ClassName} (valid : name.isWellFormed = true) :
    Text.IsPath name.slashedChars ∧ ofPath (String.ofList name.slashedChars) = name := by
  have same : ofPath (String.ofList name.slashedChars) = name := by
    rw [← ofChars_chars (ofPath _), chars_ofPath, chars_eq_of_slashedChars valid, ofChars_chars]
  rw [← isWellFormed_ofPath_iff, same]
  exact ⟨valid, rfl⟩

end ClassName

/-!
# Characters of paths
-/

namespace Text.IsPath

variable {text : List Char}

theorem continues_of_dotted {c : Char}
    (continues : continuesIdentifier (if c = '/' then '.' else c) = true) :
    continuesIdentifier c = true := by
  split at continues
  · exact absurd continues (by decide)
  · exact continues

theorem exists_first (path : IsPath text) :
    ∃ first rest, text = first :: rest ∧ continuesIdentifier first = true := by
  have valid := ClassName.isWellFormed_ofPath_iff.mpr path
  rcases ClassName.startsIdentifier_of_isWellFormed valid with ⟨first, rest, starts, startsWell⟩
  rw [ClassName.chars_ofPath] at starts
  rcases List.map_eq_cons_iff.mp starts with ⟨c, others, rfl, rfl, _⟩
  exact ⟨c, others, rfl, continues_of_dotted (continuesIdentifier_of_starts startsWell)⟩

theorem exists_last (path : IsPath text) :
    ∃ before last, text = before ++ [last] ∧ continuesIdentifier last = true := by
  have valid := ClassName.isWellFormed_ofPath_iff.mpr path
  rcases ClassName.endsIdentifier_of_isWellFormed valid with ⟨before, last, ends, endsWell⟩
  rw [ClassName.chars_ofPath] at ends
  rcases List.map_eq_append_iff.mp ends with ⟨others, lasts, rfl, _, isLast⟩
  rcases List.map_eq_singleton_iff.mp isLast with ⟨c, rfl, rfl⟩
  exact ⟨others, c, rfl, continues_of_dotted endsWell⟩

theorem head?_append_ne (path : IsPath text) (rest : List Char) {mark : Char}
    (isMark : mark ∈ markCharacters) : (text ++ rest).head? ≠ some mark := by
  rcases path.exists_first with ⟨first, others, rfl, continues⟩
  intro same
  exact ne_of_continuesIdentifier continues isMark (Option.some.inj same)

theorem getLast?_ne (path : IsPath text) {mark : Char} (isMark : mark ∈ markCharacters) :
    text.getLast? ≠ some mark := by
  rcases path.exists_last with ⟨before, last, rfl, continues⟩
  rw [List.getLast?_concat]
  intro same
  exact ne_of_continuesIdentifier continues isMark (Option.some.inj same)

theorem isTrimmed (path : IsPath text) : IsTrimmed text := by
  rcases path.exists_first with ⟨first, rest, starts, startsWell⟩
  rcases path.exists_last with ⟨before, last, ends, endsWell⟩
  exact isTrimmed_of_ends starts ends (isBlank_of_continuesIdentifier startsWell)
    (isBlank_of_continuesIdentifier endsWell)

theorem not_mem (path : IsPath text) {mark : Char} (isMark : mark ∈ markCharacters)
    (notSeparator : isPathSeparator mark = false) : mark ∉ text := by
  have valid := ClassName.isWellFormed_ofPath_iff.mpr path
  have notDot : mark ≠ '.' := fun same => by simp [same, isPathSeparator] at notSeparator
  have notSlash : mark ≠ '/' := fun same => by simp [same, isPathSeparator] at notSeparator
  intro mem
  have dotted := ClassName.not_mem_of_isWellFormed valid isMark notDot
  rw [ClassName.chars_ofPath] at dotted
  exact dotted (List.mem_map.mpr ⟨mark, mem, if_neg notSlash⟩)

end Text.IsPath
end ClassAtlas
