import Mathlib.Data.List.Forall2
import ClassAtlas.ClassName.Lemmas

/-!
# Escaped paths

The escaped path of a name has the segments of the name, each reserved word with an underscore
behind it. Two names have one escaped path if their segments agree up to such underscores.
-/

namespace ClassAtlas
namespace ClassName

theorem isReserved_append_underscore (segment : List Char) :
    isReserved (segment ++ ['_']) = false := by
  have plain : ∀ word ∈ reservedWords, '_' ∉ word.toList := by decide
  rw [Bool.eq_false_iff]
  intro reserved
  exact plain _ (List.contains_iff_mem.mp reserved) (by simp)

theorem escapeSegment_of_isReserved {segment : List Char} (reserved : isReserved segment = true) :
    escapeSegment segment = segment ++ ['_'] :=
  if_pos reserved

theorem escapeSegment_of_not_isReserved {segment : List Char}
    (free : isReserved segment = false) : escapeSegment segment = segment :=
  if_neg (Bool.eq_false_iff.mp free)

/-- An escape is never reserved; it is the segment, with an underscore if the segment is
reserved. -/
structure IsEscapeOf (segment escaped : List Char) : Prop where
  free : isReserved escaped = false
  kept : isReserved segment = false → escaped = segment
  marked : isReserved segment = true → escaped = segment ++ ['_']

theorem isEscapeOf_escapeSegment (segment : List Char) :
    IsEscapeOf segment (escapeSegment segment) where
  free := by
    unfold escapeSegment
    split
    · exact isReserved_append_underscore segment
    · next free => exact Bool.eq_false_iff.mpr free
  kept := escapeSegment_of_not_isReserved
  marked := escapeSegment_of_isReserved

theorem escapeSegment_escapeSegment (segment : List Char) :
    escapeSegment (escapeSegment segment) = escapeSegment segment :=
  escapeSegment_of_not_isReserved (isEscapeOf_escapeSegment segment).free

theorem mem_escapeSegment_iff {segment : List Char} {mark : Char} (other : mark ≠ '_') :
    mark ∈ escapeSegment segment ↔ mark ∈ segment := by
  unfold escapeSegment
  split <;> simp [other]

/-- The segment is the reserved word with an underscore behind it. -/
structure IsMarked (word segment : List Char) : Prop where
  reserved : isReserved word = true
  marked : segment = word ++ ['_']

theorem IsMarked.escapeSegment_eq {word segment : List Char} (marked : IsMarked word segment) :
    escapeSegment word = escapeSegment segment := by
  rw [marked.marked, escapeSegment_of_isReserved marked.reserved,
    escapeSegment_of_not_isReserved (isReserved_append_underscore word)]

theorem escapeSegment_eq_iff {segment other : List Char} :
    escapeSegment segment = escapeSegment other ↔
      segment = other ∨ IsMarked segment other ∨ IsMarked other segment := by
  constructor
  · intro same
    cases reserved : isReserved segment <;> cases reservedOther : isReserved other
    · rw [escapeSegment_of_not_isReserved reserved,
        escapeSegment_of_not_isReserved reservedOther] at same
      exact Or.inl same
    · rw [escapeSegment_of_not_isReserved reserved,
        escapeSegment_of_isReserved reservedOther] at same
      exact Or.inr (Or.inr ⟨reservedOther, same⟩)
    · rw [escapeSegment_of_isReserved reserved,
        escapeSegment_of_not_isReserved reservedOther] at same
      exact Or.inr (Or.inl ⟨reserved, same.symm⟩)
    · rw [escapeSegment_of_isReserved reserved,
        escapeSegment_of_isReserved reservedOther] at same
      exact Or.inl (List.append_cancel_right same)
  · intro either
    rcases either with rfl | marked | marked
    · rfl
    · exact marked.escapeSegment_eq
    · exact marked.escapeSegment_eq.symm

/-!
# Segments of an escaped path
-/

theorem segments_ne_nil (name : ClassName) : name.segments ≠ [] :=
  List.splitOn_ne_nil '.' name.chars

theorem segments_escapedPath {segments : List (List Char)} (present : segments ≠ [])
    (dotless : ∀ segment ∈ segments, '.' ∉ segment) :
    (⟨escapedPath segments⟩ : ClassName).segments = segments.map escapeSegment := by
  have clean : ∀ part ∈ segments.map escapeSegment, '.' ∉ part := by
    intro part mem
    rcases List.mem_map.mp mem with ⟨segment, inName, rfl⟩
    exact (mem_escapeSegment_iff (by decide)).not.mpr (dotless segment inName)
  unfold ClassName.segments chars escapedPath
  rw [String.toList_ofList]
  exact List.splitOn_intercalate '.' clean (List.map_eq_nil_iff.not.mpr present)

theorem segments_fixedPath (name : ClassName) :
    (⟨name.fixedPath⟩ : ClassName).segments = name.segments.map escapeSegment :=
  segments_escapedPath name.segments_ne_nil fun _ => Text.not_mem_of_mem_splitOn

/-- An escaped path tells no more than the escapes of the segments, and no less. -/
theorem fixedPath_eq_iff_map_escapeSegment {name other : ClassName} :
    name.fixedPath = other.fixedPath ↔
      name.segments.map escapeSegment = other.segments.map escapeSegment := by
  constructor
  · intro same
    rw [← segments_fixedPath, same, segments_fixedPath]
  · intro same
    rw [fixedPath, escapedPath, same]
    rfl

theorem fixedPath_fixedPath (name : ClassName) :
    (⟨name.fixedPath⟩ : ClassName).fixedPath = name.fixedPath := by
  rw [fixedPath_eq_iff_map_escapeSegment, segments_fixedPath, List.map_map]
  exact List.map_congr_left fun segment _ => escapeSegment_escapeSegment segment

theorem mem_chars_iff {name : ClassName} {mark : Char} (other : mark ≠ '.') :
    mark ∈ name.chars ↔ ∃ segment ∈ name.segments, mark ∈ segment := by
  rw [← intercalate_segments]
  constructor
  · intro mem
    rcases Text.mem_intercalate mem with isDot | inSegment
    · exact absurd isDot other
    · exact inSegment
  · intro inSegment
    rcases inSegment with ⟨segment, inName, mem⟩
    exact Text.mem_intercalate_of_mem inName mem

theorem slash_mem_fixedPath_iff {name : ClassName} :
    '/' ∈ (⟨name.fixedPath⟩ : ClassName).chars ↔ '/' ∈ name.chars := by
  rw [mem_chars_iff (by decide), mem_chars_iff (by decide), segments_fixedPath]
  constructor
  · intro inEscape
    rcases inEscape with ⟨escaped, isEscape, mem⟩
    rcases List.mem_map.mp isEscape with ⟨segment, inName, rfl⟩
    exact ⟨segment, inName, (mem_escapeSegment_iff (by decide)).mp mem⟩
  · intro inSegment
    rcases inSegment with ⟨segment, inName, mem⟩
    exact ⟨_, List.mem_map_of_mem inName, (mem_escapeSegment_iff (by decide)).mpr mem⟩

theorem slash_not_mem_ofPath (path : String) : '/' ∉ (ofPath path).chars := by
  intro mem
  rw [← String.ofList_toList (s := path), chars_ofPath] at mem
  rcases List.mem_map.mp mem with ⟨c, _, same⟩
  split at same
  · cases same
  · next notSlash => exact notSlash same

theorem fixedPath_ofPath_fixedPath_iff {name : ClassName} :
    (ofPath name.fixedPath).fixedPath = name.fixedPath ↔ '/' ∉ name.chars := by
  constructor
  · intro same slash
    have inPath := slash_mem_fixedPath_iff.mpr slash
    rw [← same] at inPath
    exact slash_not_mem_ofPath _ (slash_mem_fixedPath_iff.mp inPath)
  · intro clean
    have cleanPath := slash_mem_fixedPath_iff.not.mpr clean
    rw [ofPath_eq_mk cleanPath, fixedPath_fixedPath]

/-!
# Packages
-/

theorem escapedPath_append_singleton {segments : List (List Char)} (present : segments ≠ [])
    (last : List Char) : escapedPath (segments ++ [last]) =
      escapedPath segments ++ "." ++ String.ofList (escapeSegment last) := by
  have more : segments.map escapeSegment ≠ [] := List.map_eq_nil_iff.not.mpr present
  rw [← String.toList_inj, escapedPath, List.map_append, List.map_singleton,
    Text.intercalate_append_singleton more]
  simp [escapedPath, String.toList_append]

theorem fixedPath_of_package? {name : ClassName} {package : String}
    (qualified : name.package? = some package) : name.fixedPath =
      name.quotedPackage ++ "." ++ String.ofList (escapeSegment name.shortName.toList) := by
  rcases Option.map_eq_some_iff.mp qualified with ⟨⟨before, after⟩, found, _⟩
  have short : name.shortName = String.ofList after := by rw [shortName, found]
  have quoted : name.quotedPackage = escapedPath (before.splitOn '.') := by
    rw [quotedPackage, found]
  rw [fixedPath, segments, Text.splitOn_of_splitLast? found,
    escapedPath_append_singleton (List.splitOn_ne_nil '.' before), short, quoted,
    String.toList_ofList]

/-!
# Escaping
-/

/-- Segment by segment, the fixed path of a name escapes it: it has as many segments, none of them
reserved, and those that were not reserved are as they were. Fixing it again changes nothing, also
when the path is read as a name first, unless the name has slashes, which reading takes for dots.
With a package, it is the quoted package, a dot and the escape of the short name. Another name has
the same fixed path exactly if it has as many segments and each of them is the same, or one of the
two is a reserved word and the other is it with an underscore. -/
theorem fixedPath_escapes (name : ClassName) :
    List.Forall₂ IsEscapeOf name.segments (⟨name.fixedPath⟩ : ClassName).segments ∧
    (⟨name.fixedPath⟩ : ClassName).fixedPath = name.fixedPath ∧
    ((ofPath name.fixedPath).fixedPath = name.fixedPath ↔ '/' ∉ name.chars) ∧
    (∀ package, name.package? = some package → name.fixedPath =
      name.quotedPackage ++ "." ++ String.ofList (escapeSegment name.shortName.toList)) ∧
    ∀ other : ClassName, name.fixedPath = other.fixedPath ↔
      List.Forall₂ (fun segment second =>
          segment = second ∨ IsMarked segment second ∨ IsMarked second segment)
        name.segments other.segments := by
  refine ⟨?_, fixedPath_fixedPath name, fixedPath_ofPath_fixedPath_iff,
    fun package => fixedPath_of_package?, fun other => ?_⟩
  · rw [segments_fixedPath, List.forall₂_map_right_iff, List.forall₂_same]
    exact fun segment _ => isEscapeOf_escapeSegment segment
  · have pointwise : (fun segment second => escapeSegment segment = escapeSegment second) =
        fun segment second =>
          segment = second ∨ IsMarked segment second ∨ IsMarked second segment :=
      funext fun _ => funext fun _ => propext escapeSegment_eq_iff
    rw [fixedPath_eq_iff_map_escapeSegment, ← List.forall₂_eq_eq_eq, List.forall₂_map_left_iff,
      List.forall₂_map_right_iff, pointwise]

theorem fixedPath_escapes_function :
    (⟨"java.util.function.Function"⟩ : ClassName).package? = some "java.util.function" ∧
    (⟨"java.util.function.Function"⟩ : ClassName).fixedPath = "java.util.function_.Function" ∧
    (⟨"java.util.function_.Function"⟩ : ClassName).fixedPath = "java.util.function_.Function" := by
  rcases fixedPath_escapes ⟨"java.util.function.Function"⟩ with ⟨_, _, _, packaged, same_iff⟩
  have qualified : (⟨"java.util.function.Function"⟩ : ClassName).package? =
      some "java.util.function" := by decide
  have fixed := packaged _ qualified
  have same := (same_iff ⟨"java.util.function_.Function"⟩).mpr
    (.cons (Or.inl rfl) (.cons (Or.inl rfl)
      (.cons (Or.inr (Or.inl ⟨by decide, by decide⟩)) (.cons (Or.inl rfl) .nil))))
  exact ⟨qualified, fixed, same.symm.trans fixed⟩

end ClassName
end ClassAtlas
