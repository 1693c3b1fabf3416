import ClassAtlas.Proofs.Entry.CallKeys
import ClassAtlas.Proofs.Grouping

/-!
# Methods that survive

Of the visible methods with one name and one list of parameter types, one
survives: the first that is no bridge, or the first of all. The entry of a class
holds the entries of the survivors, in the order in which such methods are first
declared.
-/

namespace ClassAtlas

/-!
# Grouping by equivalent keys
-/

def leaders [DecidableEq κ] (key : α → κ) : List α → List α
  | [] => []
  | first :: rest => first :: (leaders key rest).filter fun other => key other ≠ key first

theorem distinct_map_eq [DecidableEq κ] (key : α → κ) (items : List α) :
    distinct (items.map key) = (leaders key items).map key := by
  induction items with
  | nil => rfl
  | cons first rest ih =>
      rw [List.map_cons, distinct, ih, leaders, List.map_cons, List.filter_map]
      rfl

theorem mem_of_mem_leaders [DecidableEq κ] {key : α → κ} {items : List α} {item : α}
    (mem : item ∈ leaders key items) : item ∈ items := by
  induction items with
  | nil => exact mem
  | cons first rest ih =>
      rcases List.mem_cons.mp mem with rfl | later
      · exact List.mem_cons_self
      · exact List.mem_cons_of_mem _ (ih (List.mem_filter.mp later).left)

theorem leaders_congr [DecidableEq κ] [DecidableEq μ] {left : α → κ} {right : α → μ}
    {items : List α}
    (same : ∀ a ∈ items, ∀ b ∈ items, left a = left b ↔ right a = right b) :
    leaders left items = leaders right items := by
  induction items with
  | nil => rfl
  | cons first rest ih =>
      have inRest := ih fun a memA b memB =>
        same a (List.mem_cons_of_mem _ memA) b (List.mem_cons_of_mem _ memB)
      rw [leaders, leaders, inRest]
      congr 1
      apply List.filter_congr
      intro other mem
      have inItems := List.mem_cons_of_mem first (mem_of_mem_leaders mem)
      rw [decide_eq_decide]
      exact not_congr (same other inItems first List.mem_cons_self)

theorem groups_congr [DecidableEq κ] [DecidableEq μ] {left : α → κ} {right : α → μ}
    {items : List α}
    (same : ∀ a ∈ items, ∀ b ∈ items, left a = left b ↔ right a = right b) :
    (grouped left items).map Prod.snd = (grouped right items).map Prod.snd := by
  unfold grouped
  rw [distinct_map_eq, distinct_map_eq, leaders_congr same]
  simp only [List.map_map]
  apply List.map_congr_left
  intro leader mem
  apply List.filter_congr
  intro item inItems
  rw [decide_eq_decide]
  exact same item inItems leader (mem_of_mem_leaders mem)

theorem groups_map [DecidableEq κ] (key : β → κ) (f : α → β) (items : List α) :
    (grouped key (items.map f)).map Prod.snd =
      ((grouped (key ∘ f) items).map Prod.snd).map (List.map f) := by
  unfold grouped
  simp only [List.map_map]
  apply List.map_congr_left
  intro k _
  simp only [Function.comp_apply, List.filter_map]
  rfl

theorem mem_of_mem_grouped [DecidableEq κ] {key : α → κ} {items : List α}
    {group : κ × List α} (inGroups : group ∈ grouped key items) {item : α}
    (mem : item ∈ group.2) : item ∈ items := by
  rcases List.mem_map.mp inGroups with ⟨k, _, rfl⟩
  exact (List.mem_filter.mp mem).left

/-!
# One method for each call key

Taking up the methods one by one leaves one for each group of methods with one call key.
-/

/-- The first method that is no bridge, or the first of all. -/
def chosenCandidate? (candidates : List MethodCandidate) : Option MethodCandidate :=
  match candidates.find? fun candidate => !candidate.isBridge with
  | some real => some real
  | none => candidates.head?

namespace MethodCandidate

theorem callKey_orReal {earlier later : MethodCandidate}
    (same : earlier.entry.callKey = later.entry.callKey) :
    (earlier.orReal later).entry.callKey = earlier.entry.callKey := by
  unfold orReal
  split
  · exact same.symm
  · rfl

/-- The first of the methods taken up meets those with its call key. The others are taken
up without it. -/
theorem foldl_takeUp_cons (first : MethodCandidate) (rest candidates : List MethodCandidate) :
    candidates.foldl (fun kept next => next.takeUp kept) (first :: rest) =
      (candidates.filter fun next => next.entry.callKey = first.entry.callKey).foldl orReal first ::
        (candidates.filter fun next => next.entry.callKey ≠ first.entry.callKey).foldl
          (fun kept next => next.takeUp kept) rest := by
  induction candidates generalizing first rest with
  | nil => rfl
  | cons next candidates ih =>
      rw [List.foldl_cons, takeUp]
      by_cases same : first.entry.callKey = next.entry.callKey
      · rw [if_pos same, ih, callKey_orReal same, List.filter_cons_of_pos (by simp [same]),
          List.filter_cons_of_neg (by simp [same]), List.foldl_cons]
      · rw [if_neg same, ih, List.filter_cons_of_neg (by simp [Ne.symm same]),
          List.filter_cons_of_pos (by simp [Ne.symm same]), List.foldl_cons]

theorem chosenCandidate?_cons (first : MethodCandidate) (rest : List MethodCandidate) :
    chosenCandidate? (first :: rest) = some (rest.foldl orReal first) := by
  induction rest generalizing first with
  | nil =>
      unfold chosenCandidate?
      cases bridge : first.isBridge <;> simp [bridge]
  | cons next rest ih =>
      rw [List.foldl_cons, ← ih]
      unfold chosenCandidate? orReal
      cases bridge : first.isBridge with
      | false => simp [bridge]
      | true => cases real : next.isBridge <;> simp [bridge, real]

theorem withoutRedeclarations_eq (candidates : List MethodCandidate) :
    withoutRedeclarations candidates =
      (grouped (fun candidate => candidate.entry.callKey) candidates).filterMap
        fun group => chosenCandidate? group.2 :=
  match candidates with
  | [] => rfl
  | first :: rest => by
      have others := withoutRedeclarations_eq
        (rest.filter fun next => next.entry.callKey ≠ first.entry.callKey)
      rw [grouped_cons, List.filterMap_cons_some (by exact chosenCandidate?_cons first _), ← others]
      exact foldl_takeUp_cons first [] rest
termination_by candidates.length
decreasing_by exact Nat.lt_succ_of_le (List.length_filter_le _ _)

end MethodCandidate

/-!
# Surviving methods
-/

namespace MethodDecl

/-- What two methods have in common that can be called in the same way. -/
def callShape (method : MethodDecl) : String × List (Option SourceType) :=
  (method.name, method.paramTypes.map SourceType.parse?)

def preferred? (methods : List MethodDecl) : Option MethodDecl :=
  (methods.find? fun method => !method.isBridge).or methods.head?

end MethodDecl

/-- The visible methods of a class without its redeclarations. -/
def ClassDecl.survivingMethods (decl : ClassDecl) : List MethodDecl :=
  ((grouped MethodDecl.callShape decl.visibleMethods).map Prod.snd).filterMap
    MethodDecl.preferred?

theorem map_parse?_of_mapM_parse {raws : List String} {types : List SourceType}
    (parsed : raws.mapM SourceType.parse = .ok types) :
    raws.map SourceType.parse? = types.map some := by
  have each := mapM_eq_ok_iff.mp parsed
  have read : ∀ raw, SourceType.parse? raw = (SourceType.parse raw).toOption := by
    intro raw
    unfold SourceType.parse
    cases SourceType.parse? raw <;> rfl
  have spelled : raws.map SourceType.parse? = (raws.map SourceType.parse).map Except.toOption := by
    rw [List.map_map]
    exact List.map_congr_left fun raw _ => read raw
  rw [spelled, each, List.map_map]
  exact List.map_congr_left fun type _ => rfl

/-- The entries of two methods share a call key exactly when the methods share a
call shape. -/
theorem MethodDecl.callKey_eq_iff_callShape {registry : Registry} {declaredIn : ClassName}
    {inInterface : Bool} {left right : MethodDecl} {entryLeft entryRight : MethodEntry}
    (builtLeft : left.toEntry registry declaredIn inInterface = .ok entryLeft)
    (builtRight : right.toEntry registry declaredIn inInterface = .ok entryRight) :
    entryLeft.callKey = entryRight.callKey ↔ left.callShape = right.callShape := by
  rcases renders_of_toEntry builtLeft with ⟨lefts, resultLeft, parsedLeft, readLeft, rendersLeft⟩
  rcases renders_of_toEntry builtRight with
    ⟨rights, resultRight, parsedRight, readRight, rendersRight⟩
  have readableLeft : ∀ type ∈ resultLeft :: lefts, type.IsReadable := by
    intro type mem
    rcases List.mem_cons.mp mem with rfl | inParams
    · exact isReadable_of_parse readLeft
    · exact isReadable_of_mem_mapM_parse parsedLeft inParams
  have readableRight : ∀ type ∈ resultRight :: rights, type.IsReadable := by
    intro type mem
    rcases List.mem_cons.mp mem with rfl | inParams
    · exact isReadable_of_parse readRight
    · exact isReadable_of_mem_mapM_parse parsedRight inParams
  rw [MethodEntry.callKey_eq_iff rendersLeft rendersRight readableLeft readableRight,
    callShape, callShape, map_parse?_of_mapM_parse parsedLeft,
    map_parse?_of_mapM_parse parsedRight, Prod.mk.injEq,
    List.map_inj_right fun a b same => Option.some.inj same]

/-!
# The methods of an entry
-/

abbrev MappedMethod :=
  MethodDecl × MethodCandidate

theorem chosenCandidate?_map_snd {pairs : List MappedMethod}
    (faithful : ∀ pair ∈ pairs, pair.2.isBridge = pair.1.isBridge) :
    ∃ chosen : Option MappedMethod,
      chosenCandidate? (pairs.map Prod.snd) = chosen.map Prod.snd ∧
      MethodDecl.preferred? (pairs.map Prod.fst) = chosen.map Prod.fst ∧
      ∀ pair ∈ chosen, pair ∈ pairs := by
  have bridges : pairs.find? ((fun candidate : MethodCandidate => !candidate.isBridge) ∘ Prod.snd) =
      pairs.find? ((fun method : MethodDecl => !method.isBridge) ∘ Prod.fst) := by
    induction pairs with
    | nil => rfl
    | cons first rest ih =>
        have inRest := ih fun pair mem => faithful pair (List.mem_cons_of_mem _ mem)
        rw [List.find?_cons, List.find?_cons, inRest, Function.comp_apply, Function.comp_apply,
          faithful first List.mem_cons_self]
  unfold chosenCandidate? MethodDecl.preferred?
  rw [List.find?_map, List.find?_map, bridges, List.head?_map, List.head?_map]
  cases found : pairs.find? ((fun method : MethodDecl => !method.isBridge) ∘ Prod.fst) with
  | some pair =>
      refine ⟨some pair, rfl, rfl, ?_⟩
      intro chosen isPair
      rw [← Option.some.inj isPair]
      exact List.mem_of_find?_eq_some found
  | none => exact ⟨pairs.head?, rfl, rfl, fun pair isHead => List.mem_of_head? isHead⟩

namespace ClassDecl

theorem map_filterMap_chosen (toEntry : MethodDecl → Except Cause MethodEntry)
    {groups : List (List MappedMethod)}
    (faithful : ∀ group ∈ groups, ∀ pair ∈ group,
      pair.2.isBridge = pair.1.isBridge ∧ toEntry pair.1 = .ok pair.2.entry) :
    ((groups.map (List.map Prod.fst)).filterMap MethodDecl.preferred?).map toEntry =
      ((groups.map (List.map Prod.snd)).filterMap fun members =>
        (chosenCandidate? members).map MethodCandidate.entry).map .ok := by
  induction groups with
  | nil => rfl
  | cons group groups ih =>
      have inRest := ih fun other mem => faithful other (List.mem_cons_of_mem _ mem)
      have here := faithful group List.mem_cons_self
      rcases chosenCandidate?_map_snd fun pair mem => (here pair mem).left with
        ⟨chosen, ofCandidates, ofMethods, inGroup⟩
      rw [List.map_cons, List.map_cons, List.filterMap_cons, List.filterMap_cons, ofMethods,
        ofCandidates]
      cases chosen with
      | none => exact inRest
      | some pair =>
          have mapped := (here pair (inGroup pair rfl)).right
          simp only [Option.map_some, List.map_cons, inRest, mapped]

theorem methodEntries_eq (registry : Registry) (decl : ClassDecl) :
    decl.methodEntries registry = (decl.methodCandidates registry).map fun candidates =>
      (grouped (fun candidate => candidate.entry.callKey) candidates).filterMap
        fun group => (chosenCandidate? group.2).map MethodCandidate.entry := by
  unfold methodEntries
  congr
  funext candidates
  rw [MethodCandidate.withoutRedeclarations_eq, List.map_filterMap]

/-- The methods of an entry are the entries of the surviving methods. -/
theorem mapM_survivingMethods {registry : Registry} {decl : ClassDecl}
    {entries : List MethodEntry} (built : decl.methodEntries registry = .ok entries) :
    decl.survivingMethods.mapM
      (fun method => method.toEntry registry decl.name decl.isInterface) = .ok entries := by
  rw [methodEntries_eq] at built
  cases collected : decl.methodCandidates registry with
  | error cause => rw [collected] at built; exact of_error_eq_ok built
  | ok candidates =>
      rw [collected] at built
      rcases Except.ok.inj built with rfl
      have lengths : decl.visibleMethods.length = candidates.length := by
        simpa using congrArg List.length (mapM_eq_ok_iff.mp collected)
      have fsts : (decl.visibleMethods.zip candidates).map Prod.fst = decl.visibleMethods :=
        List.map_fst_zip (Nat.le_of_eq lengths)
      have snds : (decl.visibleMethods.zip candidates).map Prod.snd = candidates :=
        List.map_snd_zip (Nat.le_of_eq lengths.symm)
      have faithful : ∀ pair ∈ decl.visibleMethods.zip candidates,
          pair.2.isBridge = pair.1.isBridge ∧
            pair.1.toEntry registry decl.name decl.isInterface = .ok pair.2.entry := by
        intro pair mem
        have mapped := eq_ok_of_mem_zip collected mem
        cases made : pair.1.toEntry registry decl.name decl.isInterface with
        | error cause => rw [made] at mapped; exact of_error_eq_ok mapped
        | ok entry =>
            rw [made] at mapped
            rw [← Except.ok.inj mapped]
            exact ⟨rfl, rfl⟩
      -- The call keys of the entries and the call shapes of the methods group the pairs alike.
      have sameGroups : (grouped ((fun candidate => candidate.entry.callKey) ∘ Prod.snd)
            (decl.visibleMethods.zip candidates)).map Prod.snd =
          (grouped (MethodDecl.callShape ∘ Prod.fst)
            (decl.visibleMethods.zip candidates)).map Prod.snd := by
        apply groups_congr
        intro left memLeft right memRight
        exact MethodDecl.callKey_eq_iff_callShape (faithful left memLeft).right
          (faithful right memRight).right
      have byShape := groups_map MethodDecl.callShape Prod.fst (decl.visibleMethods.zip candidates)
      have byKey := groups_map (fun candidate : MethodCandidate => candidate.entry.callKey)
        Prod.snd (decl.visibleMethods.zip candidates)
      rw [fsts] at byShape
      rw [snds, sameGroups] at byKey
      rw [mapM_eq_ok_iff, survivingMethods, byShape]
      rw [map_filterMap_chosen fun method =>
        method.toEntry registry decl.name decl.isInterface, ← byKey, List.filterMap_map]
      · rfl
      · intro group inGroups pair mem
        rcases List.mem_map.mp inGroups with ⟨keyed, inGrouped, rfl⟩
        exact faithful pair (mem_of_mem_grouped inGrouped mem)

end ClassDecl
end ClassAtlas
