import Mathlib.Data.List.Basic
import ClassAtlas.Proofs.Entry.Survivors
import ClassAtlas.Selection

/-!
# Which declaration stands for its redeclarations

Among the visible methods that have one name and the same parameter types, however
these are spelled, one has an entry: the first that is no bridge, or the first of all if
there are only bridges. The entries are ordered by the first of the methods that each
stands for, and no two of them have one signature.
-/

namespace ClassAtlas

/-!
# The methods kept
-/

namespace MethodDecl

/-- Of the methods with its call shape this is the first that is no bridge, or the first of
all if all are bridges. -/
inductive Preferred (methods : List MethodDecl) (method : MethodDecl) : Prop where
  | real (before after : List MethodDecl) (split : methods = before ++ method :: after)
      (real : method.isBridge = false)
      (bridges : ∀ other ∈ before, other.callShape = method.callShape → other.isBridge = true)
  | bridge (before after : List MethodDecl) (split : methods = before ++ method :: after)
      (bridges : ∀ other ∈ methods, other.callShape = method.callShape → other.isBridge = true)
      (first : ∀ other ∈ before, other.callShape ≠ method.callShape)

/-- Some methods stand for all: one for each call shape, in the order in which the shapes
first occur. -/
structure StandFor (kept methods : List MethodDecl) : Prop where
  covers : ∀ method ∈ methods, ∃ one ∈ kept, one.callShape = method.callShape
  ordered : kept.Pairwise fun earlier later =>
    (methods.map callShape).idxOf earlier.callShape < (methods.map callShape).idxOf later.callShape
  preferred : ∀ method ∈ kept, Preferred methods method

theorem preferred_of_preferred? {methods : List MethodDecl}
    {shape : String × List (Option SourceType)} {method : MethodDecl}
    (found : preferred? (methods.filter fun other => other.callShape = shape) = some method) :
    method.callShape = shape ∧ Preferred methods method := by
  unfold preferred? at found
  rw [List.find?_filter, List.head?_filter, Option.or_eq_some_iff] at found
  rcases found with isReal | ⟨noReal, isFirst⟩
  · rcases List.find?_eq_some_iff_append.mp isReal with ⟨both, before, after, split, earlier⟩
    simp only [decide_eq_true_eq, Bool.not_eq_true'] at both
    refine ⟨both.left, .real before after split both.right ?_⟩
    intro other mem sameShape
    simpa [sameShape, both.left] using earlier other mem
  · rcases List.find?_eq_some_iff_append.mp isFirst with ⟨hasShape, before, after, split, earlier⟩
    rw [decide_eq_true_eq] at hasShape
    refine ⟨hasShape, .bridge before after split ?_ ?_⟩
    · intro other mem sameShape
      simpa [sameShape, hasShape] using List.find?_eq_none.mp noReal other mem
    · intro other mem
      simpa [hasShape] using earlier other mem

theorem exists_preferred?_of_mem {methods : List MethodDecl} {method : MethodDecl}
    (mem : method ∈ methods) : ∃ one, preferred? methods = some one := by
  cases methods with
  | nil => cases mem
  | cons first rest =>
      unfold preferred?
      cases (first :: rest).find? fun method => !method.isBridge with
      | some real => exact ⟨real, rfl⟩
      | none => exact ⟨first, rfl⟩

end MethodDecl

namespace ClassDecl

theorem survivingMethods_eq (decl : ClassDecl) :
    decl.survivingMethods = (distinct (decl.visibleMethods.map MethodDecl.callShape)).filterMap
      fun shape => MethodDecl.preferred?
        (decl.visibleMethods.filter fun method => method.callShape = shape) := by
  rw [survivingMethods, grouped, List.map_map, List.filterMap_map]
  rfl

theorem survivingMethods_standFor (decl : ClassDecl) :
    MethodDecl.StandFor decl.survivingMethods decl.visibleMethods := by
  have shapes : decl.survivingMethods.map MethodDecl.callShape =
      distinct (decl.visibleMethods.map MethodDecl.callShape) := by
    rw [survivingMethods_eq]
    apply map_filterMap_of_section
    intro shape mem
    rcases List.mem_map.mp (mem_distinct.mp mem) with ⟨method, visible, rfl⟩
    have inGroup : method ∈ decl.visibleMethods.filter fun other =>
        other.callShape = method.callShape :=
      List.mem_filter.mpr ⟨visible, decide_eq_true rfl⟩
    rcases MethodDecl.exists_preferred?_of_mem inGroup with ⟨one, chosen⟩
    exact ⟨one, chosen, (MethodDecl.preferred_of_preferred? chosen).left⟩
  constructor
  · intro method visible
    have inShapes : method.callShape ∈ decl.survivingMethods.map MethodDecl.callShape := by
      rw [shapes, mem_distinct]
      exact List.mem_map_of_mem visible
    exact List.mem_map.mp inShapes
  · have ordered := pairwise_idxOf_distinct (decl.visibleMethods.map MethodDecl.callShape)
    rw [← shapes, List.pairwise_map] at ordered
    exact ordered
  · intro method survives
    rw [survivingMethods_eq] at survives
    rcases List.mem_filterMap.mp survives with ⟨shape, _, chosen⟩
    exact (MethodDecl.preferred_of_preferred? chosen).right

/-- The entries of the methods of a class are those of the declarations that stand for all
visible methods. Their signatures differ. -/
theorem methodEntries_standFor {registry : Registry} {decl : ClassDecl}
    {entries : List MethodEntry} (built : decl.methodEntries registry = .ok entries) :
    (∀ method ∈ decl.visibleMethods, ∃ types, method.paramTypes.mapM SourceType.parse = .ok types ∧
      method.callShape = (method.name, types.map some)) ∧
    (∃ kept : List MethodDecl, MethodDecl.StandFor kept decl.visibleMethods ∧
      kept.mapM (fun method => method.toEntry registry decl.name decl.isInterface) =
        .ok entries) ∧
    (entries.map MethodEntry.signature).Nodup := by
  have survivors := mapM_survivingMethods built
  have stands := survivingMethods_standFor decl
  refine ⟨?_, ⟨decl.survivingMethods, stands, survivors⟩, ?_⟩
  · intro method visible
    cases collected : decl.methodCandidates registry with
    | error cause =>
        rw [methodEntries, collected] at built
        exact of_error_eq_ok built
    | ok candidates =>
        rcases exists_result_of_mem collected visible with ⟨candidate, _, mapped⟩
        cases made : method.toEntry registry decl.name decl.isInterface with
        | error cause => rw [made] at mapped; exact of_error_eq_ok mapped
        | ok entry =>
            rcases MethodDecl.renders_of_toEntry made with ⟨params, _, parsed, _⟩
            exact ⟨params, parsed, congrArg _ (map_parse?_of_mapM_parse parsed)⟩
  · rw [List.Nodup, List.pairwise_map]
    refine pairwise_of_mapM ?_ survivors stands.ordered
    intro left right entryLeft entryRight madeLeft madeRight before sameSignature
    have sameKey : entryLeft.callKey = entryRight.callKey := by
      rw [MethodEntry.callKey, MethodEntry.callKey, sameSignature]
    rw [(MethodDecl.callKey_eq_iff_callShape madeLeft madeRight).mp sameKey] at before
    exact Nat.lt_irrefl _ before

def bridged : ClassDecl where
  name := ⟨"a.C"⟩
  modifiers := ["public"]
  isInterface := false
  isEnum := false
  superclass := none
  interfaces := []
  fields := []
  constructors := []
  methods := [([], "a.Any", true), (["int"], "a.Any", false), ([], "a.One", false)].map
    fun (types, result, isBridge) =>
      ⟨"get", ["public"], types, result, none, false, isBridge, isBridge, none, none⟩

theorem methodEntries_standFor_bridged :
    ∃ entries, bridged.methodEntries (Whitelist.ofRules [.package "a"]).registry = .ok entries ∧
      entries.map MethodEntry.returns = ["a.One", "a.Any"] ∧
      (entries.map MethodEntry.signature).Nodup := by
  have results : (bridged.methodEntries (Whitelist.ofRules [.package "a"]).registry).map
      (fun entries => entries.map MethodEntry.returns) = .ok ["a.One", "a.Any"] := by
    decide +kernel
  cases made : bridged.methodEntries (Whitelist.ofRules [.package "a"]).registry with
  | error cause => rw [made] at results; exact of_error_eq_ok results
  | ok entries =>
      rw [made] at results
      exact ⟨entries, rfl, Except.ok.inj results, (methodEntries_standFor made).right.right⟩

end ClassDecl
end ClassAtlas
