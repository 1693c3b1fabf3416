import ClassAtlas.Entry.Mentions

/-!
# Configured whitelists

A configured whitelist has been made of rules that were read from lines. Every
name it admits lies in a package, so no keyword is ever admitted as a class.
-/

namespace ClassAtlas

namespace Whitelist

namespace Rule

/-- The rule is read from some line, by any of the three readers. -/
def IsRead (rule : Rule) : Prop :=
  ∃ line, ofClass line = .ok rule ∨ ofPackage line = .ok rule ∨ parse line = .ok rule

theorem isSome_package?_of_ofClass {line : String} {name : ClassName}
    (read : ofClass line = .ok (.exact name)) : name.package?.isSome = true := by
  unfold ofClass at read
  simp only at read
  split at read
  · next valid =>
      have same := Rule.exact.inj (Except.ok.inj read)
      rw [Bool.and_eq_true, same] at valid
      exact valid.right
  · exact nomatch read

theorem ofPackage_ne_exact (line : String) (name : ClassName) :
    ofPackage line ≠ .ok (.exact name) := by
  unfold ofPackage
  simp only
  split
  · exact fun same => nomatch Except.ok.inj same
  · exact fun same => nomatch same

theorem isSome_package?_of_isRead {name : ClassName} (read : IsRead (.exact name)) :
    name.package?.isSome = true := by
  rcases read with ⟨line, ofClass | ofPackage | parsed⟩
  · exact isSome_package?_of_ofClass ofClass
  · exact absurd ofPackage (ofPackage_ne_exact line name)
  · unfold parse at parsed
    split at parsed
    · exact absurd parsed (ofPackage_ne_exact line name)
    · exact isSome_package?_of_ofClass parsed

end Rule

/-- Made of rules that were read from lines. -/
def IsConfigured (whitelist : Whitelist) : Prop :=
  ∃ rules : List Rule, (∀ rule ∈ rules, rule.IsRead) ∧ whitelist = ofRules rules

theorem isConfigured_of_parse {lines : List String} {whitelist : Whitelist}
    (parsed : parse lines = .ok whitelist) : whitelist.IsConfigured := by
  unfold parse at parsed
  cases read : lines.mapM Rule.parse with
  | error fault =>
      rw [read] at parsed
      cases parsed
  | ok rules =>
      rw [read] at parsed
      refine ⟨rules, ?_, (Except.ok.inj parsed).symm⟩
      intro rule mem
      rcases exists_of_mem_mapM read mem with ⟨line, _, found⟩
      exact ⟨line, Or.inr (Or.inr found)⟩

theorem mem_rules_insert {whitelist : Whitelist} {rule other : Rule} :
    other ∈ (whitelist.insert rule).rules ↔ other ∈ whitelist.rules ∨ other = rule := by
  unfold insert
  split
  · next present =>
      constructor
      · exact Or.inl
      · intro either
        rcases either with old | rfl
        · exact old
        · exact present
  · simp

theorem mem_rules_foldl_insert {rules : List Rule} {whitelist : Whitelist} {rule : Rule} :
    rule ∈ (rules.foldl insert whitelist).rules ↔ rule ∈ whitelist.rules ∨ rule ∈ rules := by
  induction rules generalizing whitelist with
  | nil => simp
  | cons first rest ih =>
      rw [List.foldl_cons, ih, mem_rules_insert, List.mem_cons, or_assoc]

theorem mem_rules_ofRules {rules : List Rule} {rule : Rule} :
    rule ∈ (ofRules rules).rules ↔ rule ∈ rules := by
  rw [ofRules, mem_rules_foldl_insert]
  simp [empty]

/-!
# Admitted names

A name is admitted by a rule of its own, whose reader asked for a package, or by
its part before the last dot, which is a package.
-/

theorem isSome_package?_of_admits {whitelist : Whitelist} (configured : whitelist.IsConfigured)
    {name : ClassName} (admitted : whitelist.admits name = true) :
    name.package?.isSome = true := by
  rcases configured with ⟨rules, read, rfl⟩
  unfold admits at admitted
  rw [Bool.and_eq_true, Bool.or_eq_true] at admitted
  rcases admitted.right with exact | inPackage
  · have listed : Rule.exact name ∈ rules := mem_rules_ofRules.mp (of_decide_eq_true exact)
    exact Rule.isSome_package?_of_isRead (read _ listed)
  · unfold ClassName.package?
    cases split : Text.splitLast? '.' name.chars with
    | none =>
        rw [split] at inPackage
        cases inPackage
    | some parts => rfl

theorem dot_mem_of_isSome_package? {name : ClassName}
    (qualified : name.package?.isSome = true) : '.' ∈ name.chars := by
  unfold ClassName.package? at qualified
  rw [Option.isSome_map] at qualified
  apply Classical.byContradiction
  intro absent
  rw [Text.splitLast?_eq_none_iff.mpr absent] at qualified
  cases qualified

theorem dot_not_mem_keyword (type : Primitive) : '.' ∉ type.keyword.toList := by
  cases type <;> decide

theorem ofKeyword?_of_admits {whitelist : Whitelist} (configured : whitelist.IsConfigured)
    {name : ClassName} (admitted : whitelist.admits name = true) :
    Primitive.ofKeyword? name.text = none := by
  cases found : Primitive.ofKeyword? name.text with
  | none => rfl
  | some type =>
      have spelled : type.keyword = name.text := by
        simpa using List.find?_some found
      have dot := dot_mem_of_isSome_package? (isSome_package?_of_admits configured admitted)
      rw [ClassName.chars, ← spelled] at dot
      exact absurd dot (dot_not_mem_keyword type)

end Whitelist
end ClassAtlas
