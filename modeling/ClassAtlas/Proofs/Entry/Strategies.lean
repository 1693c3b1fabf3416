import Mathlib.Data.List.Forall2
import Mathlib.Data.List.Pairwise
import Mathlib.Data.Nat.Find
import Mathlib.Order.Bounds.Basic
import ClassAtlas.Proofs.Entry.Overloads

/-!
# The strategy of a group

A group is told apart by type exactly when each two of its methods are, at the least
position where two of them part. No call then fits two methods of the group. Neither the
strategy nor the position depends on the order in which the methods are declared.
-/

namespace ClassAtlas

namespace TargetType

/-- An arbitrary object takes every argument, any other type those of its family. -/
def Takes (type : TargetType) (argument : Family) : Prop :=
  type = .anyObject ∨ type.family = argument

theorem not_takes_both {left right : TargetType} (apart : left.separates right = true)
    (argument : Family) : ¬(left.Takes argument ∧ right.Takes argument) := by
  rcases separates_iff.mp apart with ⟨specificLeft, specificRight, different⟩
  intro both
  rcases both with ⟨isAny | ofLeft, takesRight⟩
  · exact specificLeft isAny
  · rcases takesRight with isAny | ofRight
    · exact specificRight isAny
    · exact different (ofLeft.trans ofRight.symm)

end TargetType

/-- A call with arguments of these families fits the parameters. -/
def MethodEntry.Accepts (method : MethodEntry) (arguments : List TargetType.Family) : Prop :=
  List.Forall₂ TargetType.Takes method.targetParams arguments

namespace Overload

/-!
# Calls that fit two methods
-/

theorem PartAt.symm {position : Nat} {left right : List TargetType}
    (part : PartAt position left right) : PartAt position right left := by
  rcases part with ⟨agree, x, y, atLeft, atRight, apart⟩
  exact ⟨agree.symm, y, x, atRight, atLeft, by rw [TargetType.separates_comm, apart]⟩

theorem not_partAt_self (position : Nat) (types : List TargetType) :
    ¬PartAt position types types := by
  intro part
  rcases part with ⟨_, x, y, atLeft, atRight, apart⟩
  rw [Option.some.inj (atLeft.symm.trans atRight), TargetType.separates_self] at apart
  cases apart

theorem ToldApart.symm {left right : List TargetType} (toldApart : ToldApart left right) :
    ToldApart right left := by
  rcases exists_partAt_iff.mpr toldApart with ⟨position, part⟩
  exact exists_partAt_iff.mp ⟨position, part.symm⟩

theorem not_accepts_both {left right : MethodEntry}
    (toldApart : ToldApart left.targetParams right.targetParams)
    (arguments : List TargetType.Family) :
    ¬(left.Accepts arguments ∧ right.Accepts arguments) := by
  intro both
  rcases both with ⟨acceptsLeft, acceptsRight⟩
  rcases exists_partAt_iff.mpr toldApart with ⟨position, _, x, y, atLeft, atRight, apart⟩
  rcases List.getElem?_eq_some_iff.mp atLeft with ⟨inLeft, rfl⟩
  rcases List.getElem?_eq_some_iff.mp atRight with ⟨inRight, rfl⟩
  have inArguments : position < arguments.length := acceptsLeft.length_eq ▸ inLeft
  exact TargetType.not_takes_both apart arguments[position]
    ⟨acceptsLeft.get inLeft inArguments, acceptsRight.get inRight inArguments⟩

/-!
# The position that tells methods apart
-/

theorem mem_of_mem_pairs {items : List α} {pair : α × α} (mem : pair ∈ pairs items) :
    pair.1 ∈ items ∧ pair.2 ∈ items :=
  have members : items.Pairwise fun a b => a ∈ items ∧ b ∈ items :=
    List.pairwise_of_forall_mem_list fun _ memA _ memB => ⟨memA, memB⟩
  pairwise_iff_pairs.mp members pair mem

theorem mem_pairs_of_ne {items : List α} {a b : α} (memA : a ∈ items) (memB : b ∈ items)
    (different : a ≠ b) : (a, b) ∈ pairs items ∨ (b, a) ∈ pairs items := by
  have either : items.Pairwise fun a b => (a, b) ∈ pairs items ∨ (b, a) ∈ pairs items :=
    pairwise_iff_pairs.mpr fun _ mem => Or.inl mem
  have : Std.Symm fun a b => (a, b) ∈ pairs items ∨ (b, a) ∈ pairs items := ⟨fun _ _ => Or.symm⟩
  exact either.forall memA memB different

def partings (methods : List MethodEntry) : Set Nat :=
  {position | ∃ left ∈ methods, ∃ right ∈ methods,
    PartAt position left.targetParams right.targetParams}

theorem partings_perm {left right : List MethodEntry} (perm : left.Perm right) :
    partings left = partings right := by
  unfold partings
  simp only [perm.mem_iff]

theorem mem_partings_iff {methods : List MethodEntry} {position : Nat} :
    position ∈ partings methods ↔
      ∃ pair ∈ pairs methods,
        divergence? pair.1.targetParams pair.2.targetParams = some position := by
  constructor
  · intro parting
    rcases parting with ⟨left, memLeft, right, memRight, part⟩
    have different : left ≠ right := by
      rintro rfl
      exact not_partAt_self _ _ part
    rcases mem_pairs_of_ne memLeft memRight different with paired | paired
    · exact ⟨_, paired, divergence?_eq_some_iff.mpr part⟩
    · exact ⟨_, paired, divergence?_eq_some_iff.mpr part.symm⟩
  · intro found
    rcases found with ⟨pair, paired, divergent⟩
    rcases mem_of_mem_pairs paired with ⟨memLeft, memRight⟩
    exact ⟨pair.1, memLeft, pair.2, memRight, divergence?_eq_some_iff.mp divergent⟩

theorem separation?_eq_some_iff {methods : List MethodEntry} {position : Nat} :
    separation? methods = some position ↔
      methods.Pairwise (fun left right => ToldApart left.targetParams right.targetParams) ∧
        IsLeast (partings methods) position := by
  have collected : ∀ {positions : List Nat}, (pairs methods).mapM (fun pair =>
        divergence? pair.1.targetParams pair.2.targetParams) = some positions →
      ∀ p, p ∈ positions ↔ p ∈ partings methods := by
    intro positions found p
    rcases mem_of_mapM_eq_some found with ⟨ofPairs, ofPositions⟩
    rw [mem_partings_iff]
    constructor
    · exact ofPositions p
    · intro parting
      rcases parting with ⟨pair, paired, divergent⟩
      rcases ofPairs pair paired with ⟨q, mem, same⟩
      rw [Option.some.inj (divergent.symm.trans same)]
      exact mem
  unfold separation?
  rw [Option.bind_eq_some_iff]
  constructor
  · intro separated
    rcases separated with ⟨positions, found, least⟩
    rcases List.min?_eq_some_iff.mp least with ⟨mem, below⟩
    refine ⟨exists_mapM_pairs_iff.mp ⟨positions, found⟩, (collected found position).mp mem, ?_⟩
    intro other parting
    exact below other ((collected found other).mpr parting)
  · intro both
    rcases both with ⟨pairwise, parting, below⟩
    rcases exists_mapM_pairs_iff.mpr pairwise with ⟨positions, found⟩
    have mem := (collected found position).mpr parting
    refine ⟨positions, found, List.min?_eq_some_iff.mpr ⟨mem, ?_⟩⟩
    intro other mem
    exact below ((collected found other).mp mem)

end Overload

/-!
# Strategies
-/

inductive Strategy where
  | single
  | byType (divergentAt : Nat)
  | union
deriving DecidableEq

def OverloadGroup.strategy : OverloadGroup → Strategy
  | .single _ _ => .single
  | .byType _ divergentAt _ => .byType divergentAt
  | .union _ _ => .union

/-- The strategy that some methods call for. -/
def Strategy.Fits (methods : List MethodEntry) : Strategy → Prop
  | .single => methods.length = 1
  | .byType position =>
      2 ≤ methods.length ∧
        methods.Pairwise (fun left right =>
          Overload.ToldApart left.targetParams right.targetParams) ∧
        IsLeast (Overload.partings methods) position
  | .union =>
      2 ≤ methods.length ∧
        ¬methods.Pairwise fun left right =>
          Overload.ToldApart left.targetParams right.targetParams

namespace Overload

theorem exists_isLeast_partings {methods : List MethodEntry} (several : 2 ≤ methods.length)
    (pairwise : methods.Pairwise fun left right =>
      ToldApart left.targetParams right.targetParams) :
    ∃ position, IsLeast (partings methods) position := by
  match methods with
  | first :: second :: rest =>
      have apart := (List.pairwise_cons.mp pairwise).left second List.mem_cons_self
      rcases exists_partAt_iff.mpr apart with ⟨position, part⟩
      have parting : ∃ p, p ∈ partings (first :: second :: rest) :=
        ⟨position, first, by simp, second, by simp, part⟩
      classical
      exact ⟨Nat.find parting, Nat.find_spec parting, fun _ mem => Nat.find_min' parting mem⟩

/-- Methods told apart agree before the least position where two of them part. -/
theorem take_eq_of_isLeast {methods : List MethodEntry} {position : Nat}
    (pairwise : methods.Pairwise fun left right =>
      ToldApart left.targetParams right.targetParams)
    (least : IsLeast (partings methods) position) {left right : MethodEntry}
    (memLeft : left ∈ methods) (memRight : right ∈ methods) :
    left.targetParams.take position = right.targetParams.take position := by
  by_cases same : left = right
  · rw [same]
  · have : Std.Symm fun left right : MethodEntry =>
        ToldApart left.targetParams right.targetParams := ⟨fun _ _ => ToldApart.symm⟩
    rcases exists_partAt_iff.mpr (pairwise.forall memLeft memRight same) with ⟨later, part⟩
    have before : position ≤ later := least.right ⟨left, memLeft, right, memRight, part⟩
    have agree := congrArg (List.take position) part.agree
    rwa [List.take_take, List.take_take, Nat.min_eq_left before] at agree

theorem fits_group (arity : Nat) {methods : List MethodEntry} (occupied : methods ≠ []) :
    (group arity methods).strategy.Fits methods := by
  unfold group
  split
  · exact List.length_singleton
  · next others =>
      have several : 2 ≤ methods.length := by
        match methods with
        | [] => exact absurd rfl occupied
        | [only] => exact absurd rfl (others only)
        | first :: second :: rest => exact Nat.le_add_left 2 rest.length
      split
      · next position separated => exact ⟨several, separation?_eq_some_iff.mp separated⟩
      · next notSeparated =>
          refine ⟨several, fun pairwise => ?_⟩
          rcases exists_isLeast_partings several pairwise with ⟨position, least⟩
          rw [separation?_eq_some_iff.mpr ⟨pairwise, least⟩] at notSeparated
          cases notSeparated

theorem eq_of_fits {methods : List MethodEntry} {left right : Strategy}
    (fitsLeft : left.Fits methods) (fitsRight : right.Fits methods) : left = right := by
  have notSingle : methods.length = 1 → ¬2 ≤ methods.length := by omega
  cases left with
  | single =>
      cases right with
      | single => rfl
      | byType position => exact absurd fitsRight.left (notSingle fitsLeft)
      | union => exact absurd fitsRight.left (notSingle fitsLeft)
  | byType position =>
      cases right with
      | single => exact absurd fitsLeft.left (notSingle fitsRight)
      | byType other => exact congrArg _ (fitsLeft.right.right.unique fitsRight.right.right)
      | union => exact absurd fitsLeft.right.left fitsRight.right
  | union =>
      cases right with
      | single => exact absurd fitsLeft.left (notSingle fitsRight)
      | byType position => exact absurd fitsRight.right.left fitsLeft.right
      | union => rfl

theorem fits_perm {left right : List MethodEntry} (perm : left.Perm right) {strategy : Strategy}
    (fits : strategy.Fits left) : strategy.Fits right := by
  have pairwise_iff := perm.pairwise_iff (R := fun left right : MethodEntry =>
    ToldApart left.targetParams right.targetParams) ToldApart.symm
  cases strategy with
  | single => exact perm.length_eq.symm.trans fits
  | byType position =>
      rcases fits with ⟨several, pairwise, least⟩
      exact ⟨perm.length_eq ▸ several, pairwise_iff.mp pairwise, partings_perm perm ▸ least⟩
  | union =>
      rcases fits with ⟨several, together⟩
      exact ⟨perm.length_eq ▸ several, fun pairwise => together (pairwise_iff.mpr pairwise)⟩

theorem fits_of_mem_groupMethods {methods : List MethodEntry} {member : OverloadGroup}
    (mem : member ∈ groupMethods methods) : member.strategy.Fits member.methods := by
  have occupied := methods_ne_nil_of_mem_groupMethods mem
  rcases mem_groupMethods_iff.mp mem with ⟨arity, _, rfl⟩
  rw [methods_group] at occupied ⊢
  exact fits_group arity occupied

theorem strategy_eq_of_perm {methods others : List MethodEntry} (perm : others.Perm methods)
    {member other : OverloadGroup} (mem : member ∈ groupMethods methods)
    (memOther : other ∈ groupMethods others) (sameArity : other.arity = member.arity) :
    other.strategy = member.strategy := by
  have members : other.methods.Perm member.methods := by
    rw [methods_of_mem_groupMethods mem, methods_of_mem_groupMethods memOther, sameArity]
    exact perm.filter _
  exact eq_of_fits (fits_perm members (fits_of_mem_groupMethods memOther))
    (fits_of_mem_groupMethods mem)

/-- A group is told apart by type exactly when it has several methods and each two of them are
told apart, and then at the least position where two of them part: they agree before it, and no
call fits two of them. Declared in another order the methods have a group for the same number
of parameters too, and it has the same strategy. -/
theorem strategy_of_mem_groupMethods {methods : List MethodEntry} {member : OverloadGroup}
    (mem : member ∈ groupMethods methods) :
    (member.strategy = .single ↔ member.methods.length = 1) ∧
    ((∃ position, member.strategy = .byType position) ↔
      2 ≤ member.methods.length ∧
        member.methods.Pairwise fun left right =>
          ToldApart left.targetParams right.targetParams) ∧
    (member.strategy = .union ↔
      2 ≤ member.methods.length ∧
        ¬member.methods.Pairwise fun left right =>
          ToldApart left.targetParams right.targetParams) ∧
    (∀ position, member.strategy = .byType position →
      IsLeast (partings member.methods) position ∧
      (∀ left ∈ member.methods, ∀ right ∈ member.methods,
        left.targetParams.take position = right.targetParams.take position) ∧
      ∀ arguments, member.methods.Pairwise fun left right =>
        ¬(left.Accepts arguments ∧ right.Accepts arguments)) ∧
    ∀ others : List MethodEntry, others.Perm methods →
      (∃ other ∈ groupMethods others, other.arity = member.arity) ∧
      ∀ other ∈ groupMethods others, other.arity = member.arity →
        other.strategy = member.strategy := by
  have fits := fits_of_mem_groupMethods mem
  refine ⟨?_, ?_, ?_, ?_, ?_⟩
  · constructor
    · intro isSingle
      rw [isSingle] at fits
      exact fits
    · intro one
      have fitsToo : Strategy.single.Fits member.methods := one
      exact eq_of_fits fits fitsToo
  · constructor
    · intro isByType
      rcases isByType with ⟨position, same⟩
      rw [same] at fits
      exact ⟨fits.left, fits.right.left⟩
    · intro both
      rcases both with ⟨several, pairwise⟩
      rcases exists_isLeast_partings several pairwise with ⟨position, least⟩
      exact ⟨position, eq_of_fits fits ⟨several, pairwise, least⟩⟩
  · constructor
    · intro isUnion
      rw [isUnion] at fits
      exact fits
    · intro together
      have fitsToo : Strategy.union.Fits member.methods := together
      exact eq_of_fits fits fitsToo
  · intro position isByType
    rw [isByType] at fits
    rcases fits with ⟨_, pairwise, least⟩
    exact ⟨least, fun left memLeft right memRight =>
        take_eq_of_isLeast pairwise least memLeft memRight,
      fun arguments => pairwise.imp fun apart => not_accepts_both apart arguments⟩
  · intro others perm
    have occurs := mem_map_arity_groupMethods_iff.mp (List.mem_map_of_mem mem)
    have occursToo := (perm.map MethodEntry.arity).mem_iff.mpr occurs
    exact ⟨List.mem_map.mp (mem_map_arity_groupMethods_iff.mpr occursToo),
      fun other memOther => strategy_eq_of_perm perm mem memOther⟩

def put (params : List TargetType) : MethodEntry where
  name := "put"
  declaredIn := ⟨"a.C"⟩
  returns := "void"
  paramTypes := params.map TargetType.spelling
  paramNames := params.map TargetType.spelling
  isVarArgs := false
  isStatic := false
  genericPrototype := ""
  plainPrototype := ""
  signature := ""
  targetParams := params
  targetReturn := .void

/-- Two of the three methods part at the second parameter, the others at the first. -/
def threePuts : List MethodEntry :=
  [put [.stringArgument, .integerArgument], put [.stringArgument, .booleanArgument],
    put [.booleanArgument, .anyObject]]

theorem strategy_of_mem_groupMethods_threePuts :
    ∃ member ∈ groupMethods threePuts, member.methods = threePuts ∧
      member.strategy = .byType 0 ∧ IsLeast (partings threePuts) 0 ∧
      (∀ arguments, threePuts.Pairwise fun left right =>
        ¬(left.Accepts arguments ∧ right.Accepts arguments)) ∧
      ∀ other ∈ groupMethods threePuts.reverse, other.arity = 2 → other.strategy = .byType 0 := by
  have made : groupMethods threePuts = [.byType 2 0 threePuts] := by decide
  have mem : .byType 2 0 threePuts ∈ groupMethods threePuts := by
    rw [made]
    exact List.mem_singleton.mpr rfl
  rcases strategy_of_mem_groupMethods mem with ⟨_, _, _, byType, reordered⟩
  rcases byType 0 rfl with ⟨least, _, unambiguous⟩
  exact ⟨_, mem, rfl, rfl, least, unambiguous, (reordered _ (List.reverse_perm _)).right⟩

end Overload
end ClassAtlas
