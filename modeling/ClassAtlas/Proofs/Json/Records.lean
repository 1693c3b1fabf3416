import Mathlib.Data.List.Nodup
import ClassAtlas.Json.Record
import ClassAtlas.Proofs.Json.Values
import ClassAtlas.Results

/-!
# Records are read back

A pair of a writer and a reader carries the values of a type when each is read back from
what is written for it. Lists, optional values and records are carried when their parts
are.
-/

namespace ClassAtlas
namespace Json

/-- What is written is textual, and the value is read back from it. -/
structure Carries (encode : α → Json) (decode : Json → Option α) : Prop where
  textual : ∀ value, Textual (encode value)
  reads : ∀ value, decode (encode value) = some value

theorem carries_string : Carries .string string? :=
  ⟨.string, fun _ => rfl⟩

variable {encode : α → Json} {decode : Json → Option α}

theorem Carries.list (carries : Carries encode decode) :
    Carries (fun values => .array (values.map encode)) (list? decode) where
  textual := by
    intro values
    refine .array fun item mem => ?_
    rcases List.mem_map.mp mem with ⟨value, _, rfl⟩
    exact carries.textual value
  reads := by
    intro values
    show (values.map encode).mapM decode = some values
    have each : ∀ value ∈ values, (decode ∘ encode) value = some (id value) :=
      fun value _ => carries.reads value
    rw [List.mapM_map, mapM_eq_some_map each, List.map_id]

/-- An absent value is told apart from one that is given, as nothing is given as null. -/
theorem Carries.nullable (carries : Carries encode decode) (notNull : decode .null = none) :
    Carries (ofOption encode) (nullable? decode) where
  textual := by
    intro value
    cases value with
    | none => exact .null
    | some given => exact carries.textual given
  reads := by
    intro value
    cases value with
    | none => rfl
    | some given =>
        have read := carries.reads given
        show nullable? decode (encode given) = _
        unfold nullable?
        split
        · next isNull =>
            rw [isNull, notNull] at read
            cases read
        · rw [read]
          rfl

/-!
# Fields
-/

theorem valuesOf_of_mem {members : List (String × Json)}
    (distinct : (members.map Prod.fst).Nodup) {member : String × Json} (mem : member ∈ members) :
    valuesOf member.1 members = [member.2] := by
  unfold valuesOf
  induction members with
  | nil => cases mem
  | cons first rest ih =>
      rw [List.map_cons, List.nodup_cons] at distinct
      rcases List.mem_cons.mp mem with rfl | later
      · have none : rest.filter (fun entry => entry.1 = member.1) = [] := by
          rw [List.filter_eq_nil_iff]
          intro entry inRest same
          exact distinct.left (of_decide_eq_true same ▸ List.mem_map_of_mem inRest)
        rw [List.filter_cons, if_pos (decide_eq_true rfl), none]
        rfl
      · have different : first.1 ≠ member.1 :=
          fun same => distinct.left (same ▸ List.mem_map_of_mem later)
        rw [List.filter_cons_of_neg (by simpa using different)]
        exact ih distinct.right later

theorem fields?_object {names : List String} {members : List (String × Json)}
    (named : members.map Prod.fst = names) (distinct : names.Nodup) :
    fields? .refused names (.object members) = some (members.map fun member => some member.2) := by
  subst named
  have each : ∀ member ∈ members, fieldOf? .refused members member.1 = some (some member.2) := by
    intro member mem
    unfold fieldOf?
    rw [valuesOf_of_mem distinct mem]
    rfl
  show (members.map Prod.fst).mapM (fieldOf? .refused members) = _
  rw [List.mapM_map]
  exact mapM_eq_some_map each

end Json
end ClassAtlas
