import ClassAtlas.Proofs.Entry.CallKeys
import ClassAtlas.Proofs.Grouping
import ClassAtlas.Proofs.Whitelist.Configured
import Mathlib.Data.List.Induction

/-!
# Membership in a whitelist

A configured whitelist admits the classes of its own rules and those directly inside its
packages, whatever dots a name has elsewhere. The order of the rules and how often each was
given do not matter; the rules are kept once each, as they first came.
-/

namespace ClassAtlas

theorem distinct_concat [DecidableEq α] (items : List α) (last : α) :
    distinct (items ++ [last]) =
      if last ∈ items then distinct items else distinct items ++ [last] := by
  induction items with
  | nil => simp [distinct]
  | cons first rest ih =>
      rw [List.cons_append, distinct, distinct, ih]
      by_cases again : last ∈ rest
      · rw [if_pos again, if_pos (List.mem_cons_of_mem first again)]
      · rw [if_neg again, List.filter_append]
        by_cases same : last = first
        · rw [if_pos (by simp [same])]
          simp [same]
        · rw [if_neg (by simp [same, again])]
          simp [same]

namespace Whitelist

theorem dot_mem_of_isRead {name : ClassName} (read : Rule.IsRead (.exact name)) :
    '.' ∈ name.chars :=
  dot_mem_of_isSome_package? (Rule.isSome_package?_of_isRead read)

theorem rules_ofRules (rules : List Rule) : (ofRules rules).rules = distinct rules := by
  induction rules using List.reverseRecOn with
  | nil => rfl
  | append_singleton rules last ih =>
      have inserted : ofRules (rules ++ [last]) = (ofRules rules).insert last := by
        rw [ofRules, List.foldl_append]
        rfl
      rw [inserted, insert, distinct_concat]
      by_cases again : last ∈ rules
      · rw [if_pos (mem_rules_ofRules.mpr again), if_pos again, ih]
      · rw [if_neg (fun known => again (mem_rules_ofRules.mp known)), if_neg again, ih]

/-!
# Admitted names
-/

/-- The name is the package's own, a dot, and a simple name, which is not empty and has no
dot. -/
def IsInside (package name : String) : Prop :=
  ∃ simple : String, simple ≠ "" ∧ '.' ∉ simple.toList ∧ name = package ++ "." ++ simple

theorem isInside_iff {package name : String} :
    IsInside package name ↔
      ∃ c rest, Text.splitLast? '.' name.toList = some (package.toList, c :: rest) := by
  constructor
  · intro inside
    rcases inside with ⟨simple, filled, clean, rfl⟩
    cases chars : simple.toList with
    | nil => exact absurd (String.toList_eq_nil_iff.mp chars) filled
    | cons c rest =>
        refine ⟨c, rest, Text.splitLast?_eq_some_iff.mpr ⟨?_, chars ▸ clean⟩⟩
        simp [String.toList_append, chars]
  · intro split
    rcases split with ⟨c, rest, split⟩
    rcases Text.splitLast?_eq_some_iff.mp split with ⟨whole, clean⟩
    refine ⟨String.ofList (c :: rest), ?_, by simpa using clean, ?_⟩
    · intro empty
      simp at empty
    · rw [← String.toList_inj, whole]
      simp [String.toList_append]

theorem IsInside.dot_mem {package name : String} (inside : IsInside package name) :
    '.' ∈ name.toList := by
  rcases inside with ⟨simple, _, _, rfl⟩
  simp [String.toList_append]

theorem IsInside.unique {package other name : String} (inside : IsInside package name)
    (insideOther : IsInside other name) : package = other := by
  rcases isInside_iff.mp inside with ⟨c, rest, split⟩
  rcases isInside_iff.mp insideOther with ⟨d, others, splitOther⟩
  rw [split] at splitOther
  exact String.toList_inj.mp (Prod.mk.inj (Option.some.inj splitOther)).left

theorem admits_iff {whitelist : Whitelist} {text : String} :
    whitelist.admits ⟨text⟩ = true ↔ text ≠ "" ∧
      (.exact ⟨text⟩ ∈ whitelist.rules ∨
        ∃ package, .package package ∈ whitelist.rules ∧ IsInside package text) := by
  unfold admits
  rw [Bool.and_eq_true, Bool.or_eq_true, decide_eq_true_iff, decide_eq_true_iff]
  refine and_congr_right fun _ => or_congr_right ?_
  constructor
  · intro admitted
    split at admitted
    · next package c rest split =>
        refine ⟨String.ofList package, of_decide_eq_true admitted, isInside_iff.mpr ⟨c, rest, ?_⟩⟩
        rw [String.toList_ofList]
        exact split
    · cases admitted
  · intro found
    rcases found with ⟨package, configured, inside⟩
    rcases isInside_iff.mp inside with ⟨c, rest, split⟩
    rw [ClassName.chars, split]
    simpa using configured

theorem ne_empty_of_dot_mem {text : String} (dot : '.' ∈ text.toList) : text ≠ "" := by
  intro empty
  rw [empty] at dot
  cases dot

theorem admits_of_isRead {whitelist : Whitelist} {name : ClassName}
    (read : Rule.IsRead (.exact name)) (listed : .exact name ∈ whitelist.rules) :
    whitelist.admits name = true :=
  admits_iff.mpr ⟨ne_empty_of_dot_mem (dot_mem_of_isRead read), Or.inl listed⟩

/-- What a configured whitelist admits, said of any text that may be a name. It is one of the
class rules, or lies inside one of the packages. So of the names inside a package, whether it is
one of the rules or lies further in or further out, either all are admitted or only those that
are class rules; and no name without a dot is. Lists of the same rules admit the same names.
Each rule is kept once, in the order of the first occurrences. -/
theorem membership_of_isRead {rules : List Rule} (read : ∀ rule ∈ rules, rule.IsRead) :
    (∀ text, (ofRules rules).admits ⟨text⟩ = true ↔
      .exact ⟨text⟩ ∈ rules ∨ ∃ package, .package package ∈ rules ∧ IsInside package text) ∧
    (∀ package text, IsInside package text →
      ((ofRules rules).admits ⟨text⟩ = true ↔
        .exact ⟨text⟩ ∈ rules ∨ .package package ∈ rules)) ∧
    (∀ text : String, '.' ∉ text.toList → (ofRules rules).admits ⟨text⟩ = false) ∧
    (∀ others : List Rule, (∀ rule, rule ∈ others ↔ rule ∈ rules) →
      ∀ name, (ofRules others).admits name = (ofRules rules).admits name) ∧
    (ofRules rules).rules.Nodup ∧ (∀ rule, rule ∈ (ofRules rules).rules ↔ rule ∈ rules) ∧
    (ofRules rules).rules.Pairwise fun earlier later =>
      rules.idxOf earlier < rules.idxOf later := by
  have dotted : ∀ text, (ofRules rules).admits ⟨text⟩ = true → '.' ∈ text.toList := fun text
    admitted => dot_mem_of_isSome_package? (isSome_package?_of_admits ⟨rules, read, rfl⟩ admitted)
  have admitted_iff : ∀ text, (ofRules rules).admits ⟨text⟩ = true ↔
      .exact ⟨text⟩ ∈ rules ∨ ∃ package, .package package ∈ rules ∧ IsInside package text := by
    intro text
    rw [admits_iff]
    simp only [mem_rules_ofRules]
    refine and_iff_right_of_imp fun either => ne_empty_of_dot_mem ?_
    rcases either with listed | ⟨package, _, inside⟩
    · exact dot_mem_of_isRead (read _ listed)
    · exact inside.dot_mem
  refine ⟨admitted_iff, ?_, ?_, ?_, ?_, fun _ => mem_rules_ofRules, ?_⟩
  · intro package text inside
    rw [admitted_iff]
    refine or_congr_right ⟨?_, fun configured => ⟨package, configured, inside⟩⟩
    intro found
    rcases found with ⟨other, configured, insideOther⟩
    exact inside.unique insideOther ▸ configured
  · intro text clean
    exact Bool.eq_false_iff.mpr fun admitted => clean (dotted text admitted)
  · intro others same name
    rw [Bool.eq_iff_iff, admits_iff, admits_iff]
    simp only [mem_rules_ofRules, same]
  · rw [rules_ofRules]
    exact nodup_distinct rules
  · rw [rules_ofRules]
    exact pairwise_idxOf_distinct rules

theorem membership_of_isRead_nested :
    ∃ rules : List Rule, (∀ rule ∈ rules, rule.IsRead) ∧ rules.length = 4 ∧
      IsInside "a" "a.X$Y" ∧ (ofRules rules).admits ⟨"a.X$Y"⟩ = true ∧
      (ofRules rules).admits ⟨"a.b.C"⟩ = true ∧ IsInside "a.b" "a.b.D" ∧
      (ofRules rules).admits ⟨"a.b.D"⟩ = false := by
  have parsed : ["a.*", " a/b/C", " a.*", "a.b.C"].mapM Rule.parse =
      .ok [.package "a", .exact ⟨"a.b.C"⟩, .package "a", .exact ⟨"a.b.C"⟩] := by decide
  have read : ∀ rule ∈ [Rule.package "a", .exact ⟨"a.b.C"⟩, .package "a", .exact ⟨"a.b.C"⟩],
      rule.IsRead := by
    intro rule mem
    rcases exists_of_mem_mapM parsed mem with ⟨line, _, found⟩
    exact ⟨line, Or.inr (Or.inr found)⟩
  rcases membership_of_isRead read with ⟨admitted_iff, admitted_iff_of_isInside, _⟩
  have shallow : IsInside "a" "a.X$Y" := ⟨"X$Y", by decide, by decide, by decide⟩
  have deep : IsInside "a.b" "a.b.D" := ⟨"D", by decide, by decide, by decide⟩
  refine ⟨_, read, rfl, shallow, ?_, ?_, deep, ?_⟩
  · exact (admitted_iff_of_isInside _ _ shallow).mpr (Or.inr (by decide))
  · exact (admitted_iff _).mpr (Or.inl (by decide))
  · rw [Bool.eq_false_iff, ne_eq, admitted_iff_of_isInside _ _ deep]
    decide

end Whitelist
end ClassAtlas
