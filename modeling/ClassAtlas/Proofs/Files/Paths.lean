import ClassAtlas.ClassName.Lemmas
import ClassAtlas.Files.FileSystem
import Mathlib.Data.List.Basic

/-!
# Plain paths

Each step of a plain path leads further down, so the path stands for one place below the
directory that it is joined to.
-/

namespace ClassAtlas

namespace Path

/-- Every step of the path leads further down. -/
def IsPlain (path : String) : Prop :=
  ∀ step ∈ path.toList.splitOn '/', step ≠ [] ∧ step ≠ ['.'] ∧ step ≠ ['.', '.']

instance (path : String) : Decidable (IsPlain path) :=
  inferInstanceAs (Decidable (∀ step ∈ path.toList.splitOn '/', _))

/-- The place below another one that has the steps of a path as its names. -/
def below (here : Location) (path : String) : Location :=
  ((path.toList.splitOn '/').map String.ofList).reverse ++ here

theorem below_inj {here : Location} {path other : String}
    (same : below here path = below here other) : path = other := by
  have steps := List.reverse_inj.mp (List.append_cancel_right same)
  have cut := List.map_injective_iff.mpr (fun _ _ => String.ofList_inj.mp) steps
  have joined := congrArg ['/'].intercalate cut
  rw [List.intercalate_splitOn, List.intercalate_splitOn] at joined
  exact String.toList_inj.mp joined

theorem isAbsolute_of_isPlain {path : String} (plain : IsPlain path) :
    isAbsolute path = false := by
  refine decide_eq_false fun absolute => ?_
  rcases List.head?_eq_some_iff.mp absolute with ⟨rest, whole⟩
  refine (plain [] ?_).left rfl
  rw [whole, List.splitOn_cons_eq_if_modifyHead, if_pos (beq_self_eq_true '/')]
  exact List.mem_cons_self

theorem exists_last_of_isPlain {path : String} (plain : IsPlain path) :
    ∃ before last, path.toList = before ++ [last] ∧ last ≠ '/' := by
  rcases List.eq_nil_or_concat path.toList with empty | ⟨before, last, whole⟩
  · rw [IsPlain, empty] at plain
    exact absurd rfl (plain [] List.mem_cons_self).left
  · rw [List.concat_eq_append] at whole
    refine ⟨before, last, whole, fun slash => (plain [] ?_).left rfl⟩
    rw [whole, slash, List.splitOn_append_cons_self]
    exact List.mem_append_right _ List.mem_cons_self

theorem isPlain_append {directory path : String} (plain : IsPlain directory)
    (plainPath : IsPlain path) : IsPlain (directory ++ "/" ++ path) := by
  have whole : (directory ++ "/" ++ path).toList = directory.toList ++ '/' :: path.toList := by
    simp [String.toList_append]
  intro step mem
  rw [whole, List.splitOn_append_cons_self] at mem
  rcases List.mem_append.mp mem with early | late
  · exact plain step early
  · exact plainPath step late

theorem below_append (here : Location) (directory path : String) :
    below here (directory ++ "/" ++ path) = below (below here directory) path := by
  have whole : (directory ++ "/" ++ path).toList = directory.toList ++ '/' :: path.toList := by
    simp [String.toList_append]
  rw [below, whole, List.splitOn_append_cons_self, List.map_append, List.reverse_append,
    List.append_assoc]
  rfl

theorem below_of_single (here : Location) {name : String} (single : '/' ∉ name.toList) :
    below here name = name :: here := by
  rw [below, List.splitOn_eq_singleton single]
  simp

/-!
# Joined paths
-/

def joint (directory : String) : String :=
  match directory.toList.getLast? with
  | none | some '/' => ""
  | some _ => "/"

theorem join_eq {path : String} (relative : isAbsolute path = false) (directory : String) :
    join directory path = directory ++ joint directory ++ path := by
  unfold join joint
  rw [if_neg (by simp [relative])]
  cases directory.toList.getLast? with
  | none => simp
  | some last =>
      by_cases slash : last = '/'
      · simp [slash]
      · simp

theorem joint_cases {directory : String} (named : directory ≠ "") :
    (∃ outer, directory.toList = outer ++ ['/'] ∧ joint directory = "") ∨
      joint directory = "/" := by
  unfold joint
  rcases List.eq_nil_or_concat directory.toList with empty | ⟨outer, last, whole⟩
  · exact absurd (String.toList_eq_nil_iff.mp empty) named
  · rw [whole, List.concat_eq_append, List.getLast?_concat]
    by_cases slash : last = '/'
    · exact Or.inl ⟨outer, by rw [slash], by simp [slash]⟩
    · exact Or.inr (by simp)

theorem joint_append {path : String} (plain : IsPlain path) (front : String) :
    joint (front ++ path) = "/" := by
  rcases exists_last_of_isPlain plain with ⟨before, last, whole, notSlash⟩
  unfold joint
  rw [String.toList_append, whole, ← List.append_assoc, List.getLast?_concat]
  split
  · next none => cases none
  · next slash => exact absurd (Option.some.inj slash) notSlash
  · rfl

theorem join_join {inner path : String} (plain : IsPlain inner)
    (relative : isAbsolute path = false) (directory : String) :
    join (join directory inner) path = join directory (inner ++ "/" ++ path) := by
  have relativeInner := isAbsolute_of_isPlain plain
  have relativeBoth : isAbsolute (inner ++ "/" ++ path) = false := by
    rcases exists_last_of_isPlain plain with ⟨before, last, whole, _⟩
    unfold isAbsolute at relativeInner ⊢
    cases before <;> simpa [String.toList_append, whole] using relativeInner
  rw [join_eq relative, join_eq relativeInner, joint_append plain, join_eq relativeBoth]
  simp only [String.append_assoc]

theorem isTooLong_of_append {front back : String} (short : isTooLong (front ++ back) = false) :
    isTooLong front = false := by
  simp only [isTooLong, decide_eq_false_iff_not, String.utf8ByteSize_append] at short ⊢
  omega

end Path

end ClassAtlas
