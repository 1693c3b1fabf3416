import Mathlib.Data.List.Forall2
import ClassAtlas.ClassName.Lemmas

/-!
# Whole paths as identifiers

The alias of a class is its path with an underscore for every dot and dollar sign.
It tells two paths apart unless they differ in nothing but these three marks.
-/

namespace ClassAtlas

namespace ClassName

def IsMark (c : Char) : Prop :=
  c = '.' ∨ c = '$' ∨ c = '_'

def flatten (c : Char) : Char :=
  if c = '.' then '_' else if c = '$' then '_' else c

theorem flatten_of_not_isMark {c : Char} (notMark : ¬IsMark c) : flatten c = c := by
  rw [IsMark, not_or, not_or] at notMark
  rw [flatten, if_neg notMark.left, if_neg notMark.right.left]

theorem flatten_eq_mark_iff {c : Char} : flatten c = '_' ↔ IsMark c := by
  constructor
  · intro isUnderscore
    by_contra notMark
    rw [flatten_of_not_isMark notMark] at isUnderscore
    exact notMark (Or.inr (Or.inr isUnderscore))
  · intro isMark
    rcases isMark with rfl | rfl | rfl <;> rfl

theorem flatten_eq_flatten_iff {c d : Char} :
    flatten c = flatten d ↔ c = d ∨ (IsMark c ∧ IsMark d) := by
  constructor
  · intro same
    by_cases isMark : IsMark c
    · have otherFlat : flatten d = '_' := same.symm.trans (flatten_eq_mark_iff.mpr isMark)
      exact Or.inr ⟨isMark, flatten_eq_mark_iff.mp otherFlat⟩
    · have notOther : ¬IsMark d := fun isOther =>
        isMark (flatten_eq_mark_iff.mp (same.trans (flatten_eq_mark_iff.mpr isOther)))
      rw [flatten_of_not_isMark isMark, flatten_of_not_isMark notOther] at same
      exact Or.inl same
  · intro either
    rcases either with rfl | both
    · rfl
    · rw [flatten_eq_mark_iff.mpr both.left, flatten_eq_mark_iff.mpr both.right]

theorem toList_aliasName (name : ClassName) : name.aliasName.toList = name.chars.map flatten := by
  unfold aliasName
  rw [String.toList_ofList]
  exact Text.intercalate_map_splitOn '.' '_' _ name.chars

/-!
# Aliases that coincide
-/

/-- Two paths of one length that differ in marks only. -/
def AgreeUpToMarks (name other : ClassName) : Prop :=
  List.Forall₂ (fun c d => c = d ∨ (IsMark c ∧ IsMark d)) name.chars other.chars

theorem aliasName_eq_aliasName_iff {name other : ClassName} :
    name.aliasName = other.aliasName ↔ AgreeUpToMarks name other := by
  have pointwise : (fun c d => flatten c = flatten d) =
      fun c d => c = d ∨ (IsMark c ∧ IsMark d) :=
    funext fun _ => funext fun _ => propext flatten_eq_flatten_iff
  rw [← String.toList_inj, toList_aliasName, toList_aliasName, ← List.forall₂_eq_eq_eq,
    List.forall₂_map_left_iff, List.forall₂_map_right_iff, AgreeUpToMarks, ← pointwise]

/-- A name whose only marks are dots. -/
structure IsPlain (name : ClassName) : Prop where
  dollarless : '$' ∉ name.chars
  underscoreless : '_' ∉ name.chars

theorem IsPlain.eq_dot {name : ClassName} (plain : name.IsPlain) {c : Char}
    (mem : c ∈ name.chars) (isMark : IsMark c) : c = '.' := by
  rcases isMark with isDot | rfl | rfl
  · exact isDot
  · exact absurd mem plain.dollarless
  · exact absurd mem plain.underscoreless

theorem AgreeUpToMarks.eq_of_isPlain {name other : ClassName} (agree : AgreeUpToMarks name other)
    (plain : name.IsPlain) (plainOther : other.IsPlain) : name = other := by
  have equal : List.Forall₂ Eq name.chars other.chars := by
    refine List.forall₂_iff_zip.mpr ⟨agree.length_eq, fun {c d} paired => ?_⟩
    rcases (List.forall₂_iff_zip.mp agree).right paired with same | ⟨isMark, isMarkOther⟩
    · exact same
    · rw [plain.eq_dot (List.of_mem_zip paired).left isMark,
        plainOther.eq_dot (List.of_mem_zip paired).right isMarkOther]
  rw [List.forall₂_eq_eq_eq] at equal
  rw [← ofChars_chars name, equal, ofChars_chars]

/-!
# Aliases and short names
-/

theorem mem_chars_of_mem_shortName {name : ClassName} {c : Char}
    (mem : c ∈ name.shortName.toList) : c ∈ name.chars := by
  unfold shortName at mem
  split at mem
  · next before last found =>
      rw [String.toList_ofList] at mem
      rw [(Text.eq_append_of_splitLast? found).left]
      exact List.mem_append_right _ (List.mem_cons_of_mem _ mem)
  · exact mem

theorem aliasName_eq_shortName {name : ClassName} (clean : '_' ∉ name.aliasName.toList) :
    name.aliasName = name.shortName := by
  rw [toList_aliasName] at clean
  have markless : ∀ c ∈ name.chars, ¬IsMark c := by
    intro c mem isMark
    exact clean (flatten_eq_mark_iff.mpr isMark ▸ List.mem_map_of_mem mem)
  have dotless : '.' ∉ name.chars := fun mem => markless '.' mem (Or.inl rfl)
  have short : name.shortName = name.text := by
    unfold shortName
    rw [Text.splitLast?_eq_none_iff.mpr dotless]
  have flat : name.chars.map flatten = name.chars := by
    refine (List.map_congr_left fun c mem => ?_).trans (List.map_id name.chars)
    exact flatten_of_not_isMark (markless c mem)
  rw [short, ← String.toList_inj, toList_aliasName, flat]
  rfl

theorem shortName_eq_of_aliasName_eq {name other : ClassName} (plain : other.IsPlain)
    (same : name.aliasName = other.shortName) : name.shortName = other.shortName := by
  have clean : '_' ∉ name.aliasName.toList := by
    rw [same]
    exact fun mem => plain.underscoreless (mem_chars_of_mem_shortName mem)
  exact (aliasName_eq_shortName clean).symm.trans same

end ClassName
end ClassAtlas
