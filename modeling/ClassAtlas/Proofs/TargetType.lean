import ClassAtlas.Counterpart

/-!
# References in target types

A target type mentions at most one class, under a number of arrays. Dropping and
respelling classes change only that reference.
-/

namespace ClassAtlas

namespace TargetType

/-- The class a type mentions and how it is spelled there, looking through arrays. -/
def reference? : TargetType → Option (ClassName × String)
  | .mapped name spelled => some (name, spelled)
  | .arrayArgument element => element.reference?
  | .array element => element.reference?
  | _ => none

theorem reference?_retain (keep : ClassName → Bool) (type : TargetType) :
    (type.retain keep).reference? = type.reference?.filter fun reference => keep reference.1 := by
  induction type with
  | mapped name spelled =>
      cases kept : keep name with
      | true => simp [retain, reference?, kept, Option.filter_some]
      | false => simp [retain, reference?, kept, Option.filter_some]
  | arrayArgument element ih => exact ih
  | array element ih => exact ih
  | _ => rfl

theorem reference?_respell (newSpelling? : ClassName → Option String) (type : TargetType) :
    (type.respell newSpelling?).reference? =
      type.reference?.map fun reference =>
        (reference.1, (newSpelling? reference.1).getD reference.2) := by
  induction type with
  | arrayArgument element ih => exact ih
  | array element ih => exact ih
  | _ => rfl

/-- Retaining less and respelling more overrides what was done before. -/
theorem respell_retain_respell_retain {keep keepMore : ClassName → Bool}
    {spelling? newSpelling? : ClassName → Option String}
    (fewer : ∀ name, keep name = true → keepMore name = true)
    (kept : ∀ name spelled, spelling? name = some spelled → newSpelling? name = some spelled)
    (type : TargetType) :
    (((type.retain keepMore).respell spelling?).retain keep).respell newSpelling? =
      (type.retain keep).respell newSpelling? := by
  induction type with
  | mapped name spelled =>
      cases here : keep name with
      | true =>
          have before := fewer name here
          simp only [retain, respell, before, here, if_true]
          cases given : spelling? name with
          | none => rfl
          | some spelled => rw [kept name spelled given]; rfl
      | false =>
          cases before : keepMore name with
          | true => simp [retain, respell, before, here]
          | false => simp [retain, respell, before, here]
  | arrayArgument element ih => exact congrArg arrayArgument ih
  | array element ih => exact congrArg array ih
  | _ => rfl

end TargetType

/-!
# Telling types apart
-/

namespace TargetType

theorem family_eq_any_iff {type : TargetType} : type.family = .any ↔ type = .anyObject := by
  cases type <;> simp [family]

theorem separates_iff {left right : TargetType} :
    left.separates right = true ↔
      left ≠ .anyObject ∧ right ≠ .anyObject ∧ left.family ≠ right.family := by
  unfold separates
  simp only [Bool.and_eq_true, decide_eq_true_eq, ne_eq, family_eq_any_iff, and_assoc]

theorem separates_comm (left right : TargetType) : left.separates right = right.separates left := by
  rw [Bool.eq_iff_iff, separates_iff, separates_iff]
  exact ⟨fun ⟨specificLeft, specificRight, apart⟩ => ⟨specificRight, specificLeft, apart.symm⟩,
    fun ⟨specificRight, specificLeft, apart⟩ => ⟨specificLeft, specificRight, apart.symm⟩⟩

theorem separates_self (type : TargetType) : type.separates type = false := by
  rw [Bool.eq_false_iff]
  intro apart
  exact (separates_iff.mp apart).right.right rfl

end TargetType

end ClassAtlas
