import ClassAtlas.ClassName.Basic
import ClassAtlas.Text.IdentifierLemmas

/-!
# Characters of well-formed names

A well-formed name consists of identifier characters and dots, and starts and
ends with an identifier character. It is its own dotted form.
-/

namespace ClassAtlas
namespace ClassName

theorem chars_ofChars (chars : List Char) : (ofChars chars).chars = chars := by
  simp [ofChars, ClassName.chars]

theorem ofChars_chars (name : ClassName) : ofChars name.chars = name := by
  simp [ofChars, ClassName.chars]

theorem chars_ofPath (path : List Char) :
    (ofPath (String.ofList path)).chars = path.map fun c => if c = '/' then '.' else c := by
  rw [ofPath, chars_ofChars, String.toList_ofList]

theorem segments_of_isWellFormed {name : ClassName} (valid : name.isWellFormed = true)
    {segment : List Char} (mem : segment ∈ name.segments) :
    Text.isIdentifier segment = true :=
  List.all_eq_true.mp valid segment mem

theorem intercalate_segments (name : ClassName) : ['.'].intercalate name.segments = name.chars :=
  List.intercalate_splitOn '.'

theorem char_of_isWellFormed {name : ClassName} (valid : name.isWellFormed = true) {c : Char}
    (mem : c ∈ name.chars) : c = '.' ∨ Text.continuesIdentifier c = true := by
  rw [← intercalate_segments] at mem
  rcases Text.mem_intercalate mem with dot | ⟨segment, inName, inSegment⟩
  · exact Or.inl dot
  · exact Or.inr
      (Text.continuesIdentifier_of_mem (segments_of_isWellFormed valid inName) inSegment)

theorem not_mem_of_isWellFormed {name : ClassName} (valid : name.isWellFormed = true)
    {mark : Char} (isMark : mark ∈ Text.markCharacters) (notDot : mark ≠ '.') :
    mark ∉ name.chars := by
  intro mem
  rcases char_of_isWellFormed valid mem with dot | continues
  · exact notDot dot
  · exact Text.ne_of_continuesIdentifier continues isMark rfl

theorem startsIdentifier_of_isWellFormed {name : ClassName} (valid : name.isWellFormed = true) :
    ∃ first rest, name.chars = first :: rest ∧ Text.startsIdentifier first = true := by
  have shape := intercalate_segments name
  have all := @segments_of_isWellFormed name valid
  cases parts : name.segments with
  | nil => exact absurd parts (List.splitOn_ne_nil '.' name.chars)
  | cons segment others =>
      rw [parts] at all shape
      have identifier : Text.isIdentifier segment = true := all (by simp)
      cases segment with
      | nil => simp [Text.isIdentifier] at identifier
      | cons first part =>
          rcases Text.exists_intercalate_cons_cons first part others with ⟨rest, whole⟩
          refine ⟨first, rest, by rw [← shape, whole], ?_⟩
          simp only [Text.isIdentifier, Bool.and_eq_true] at identifier
          exact identifier.left

theorem endsIdentifier_of_isWellFormed {name : ClassName} (valid : name.isWellFormed = true) :
    ∃ before last, name.chars = before ++ [last] ∧ Text.continuesIdentifier last = true := by
  have all := @segments_of_isWellFormed name valid
  obtain ⟨before, segment, last, shape, inName, mem⟩ :=
    Text.exists_last_intercalate (List.splitOn_ne_nil '.' name.chars)
      fun segment inName => Text.isIdentifier_ne_nil (all inName)
  refine ⟨before, last, ?_, Text.continuesIdentifier_of_mem (all inName) mem⟩
  rw [← shape]
  exact (intercalate_segments name).symm

theorem ofPath_of_not_mem {path : List Char} (clean : '/' ∉ path) :
    ofPath (String.ofList path) = ofChars path := by
  have same : path.map (fun c => if c = '/' then '.' else c) = path := by
    conv => rhs; rw [← List.map_id path]
    apply List.map_congr_left
    intro c mem
    have notSlash : c ≠ '/' := fun slash => clean (slash ▸ mem)
    simp [notSlash]
  simp [ofPath, same]

theorem ofPath_eq_mk {path : String} (clean : '/' ∉ path.toList) : ofPath path = ⟨path⟩ := by
  have same := ofPath_of_not_mem clean
  rw [String.ofList_toList] at same
  rw [same, ofChars, String.ofList_toList]

theorem ofWellFormed?_chars {name : ClassName} (valid : name.isWellFormed = true) :
    ofWellFormed? name.chars = some name := by
  have clean : '/' ∉ name.chars := not_mem_of_isWellFormed valid (by decide) (by decide)
  simp [ofWellFormed?, ofPath_of_not_mem clean, ofChars_chars, valid]

theorem chars_eq_of_slashedChars {name : ClassName} (valid : name.isWellFormed = true) :
    name.slashedChars.map (fun c => if c = '/' then '.' else c) = name.chars := by
  have noSlash : '/' ∉ name.chars := not_mem_of_isWellFormed valid (by decide) (by decide)
  rw [slashedChars, List.map_map]
  conv => rhs; rw [← List.map_id name.chars]
  apply List.map_congr_left
  intro c mem
  have notSlash : c ≠ '/' := fun slash => noSlash (slash ▸ mem)
  by_cases dot : c = '.'
  · simp [dot]
  · simp [dot, notSlash]

end ClassName
end ClassAtlas
