import ClassAtlas.Proofs.Closure.Spellings
import ClassAtlas.Source.Snapshot

/-!
# Overloads after finishing

Groups are formed when an entry is built, and finishing changes the types in them.
A type that names a missing class becomes an arbitrary object and tells nothing
apart any more; every other type keeps its family.
-/

namespace ClassAtlas

namespace Resolver

open Overload

/-!
# Families of finished types
-/

variable {missing : List ClassName} {aliased : List (ClassName × String)}

theorem finishType_of_isMissingType {type : TargetType}
    (absent : isMissingType missing type = true) :
    finishType missing aliased type = .anyObject := by
  cases type with
  | mapped name spelled =>
      have isMissing : name ∈ missing := of_decide_eq_true absent
      simp [finishType, TargetType.retain, TargetType.respell, isMissing]
  | _ => cases absent

theorem family_finishType {type : TargetType} (present : isMissingType missing type = false) :
    (finishType missing aliased type).family = type.family := by
  cases type with
  | mapped name spelled =>
      have notMissing : name ∉ missing := of_decide_eq_false present
      simp [finishType, TargetType.retain, TargetType.respell, TargetType.family, notMissing]
  | _ => rfl

theorem finishType_ne_anyObject (aliased : List (ClassName × String)) {type : TargetType}
    (present : isMissingType missing type = false) (specific : type ≠ .anyObject) :
    finishType missing aliased type ≠ .anyObject := by
  intro isAny
  apply specific
  rw [← TargetType.family_eq_any_iff, ← family_finishType present, isAny]
  rfl

/-- Two lists that differ first in types of different families, after finishing. -/
theorem toldApart_finished_iff (missing : List ClassName) (aliased : List (ClassName × String))
    (before lefts rights : List TargetType) {x y : TargetType}
    (specificLeft : x ≠ .anyObject) (specificRight : y ≠ .anyObject)
    (apart : x.family ≠ y.family) :
    ToldApart ((before ++ x :: lefts).map (finishType missing aliased))
        ((before ++ y :: rights).map (finishType missing aliased)) ↔
      (isMissingType missing x = false ∧ isMissingType missing y = false) ∨
      (isMissingType missing x = true ∧ isMissingType missing y = true ∧
        ToldApart (lefts.map (finishType missing aliased))
          (rights.map (finishType missing aliased))) := by
  rw [List.map_append, List.map_append, toldApart_append_iff, List.map_cons, List.map_cons]
  cases absentLeft : isMissingType missing x with
  | true =>
      rw [finishType_of_isMissingType absentLeft]
      cases absentRight : isMissingType missing y with
      | true =>
          rw [finishType_of_isMissingType absentRight, toldApart_cons_iff]
          simp
      | false =>
          have specific := finishType_ne_anyObject aliased absentRight specificRight
          rw [toldApart_cons_of_ne specific.symm]
          simp
  | false =>
      have specific := finishType_ne_anyObject aliased absentLeft specificLeft
      cases absentRight : isMissingType missing y with
      | true =>
          rw [finishType_of_isMissingType absentRight, toldApart_cons_of_ne specific]
          simp
      | false =>
          have specificToo := finishType_ne_anyObject aliased absentRight
            specificRight
          have stillApart : (finishType missing aliased x).family ≠
              (finishType missing aliased y).family := by
            rw [family_finishType absentLeft, family_finishType absentRight]
            exact apart
          have different : finishType missing aliased x ≠ finishType missing aliased y :=
            fun same => stillApart (congrArg TargetType.family same)
          rw [toldApart_cons_of_ne different]
          simp [specific, specificToo, stillApart]

/-!
# Finished groups
-/

theorem variants_finishEntry (missing : List ClassName) (aliased : List (ClassName × String))
    (entry : ClassEntry) :
    (finishEntry missing aliased entry).variants = entry.variants.map fun item =>
      (item.1, item.2.map
        (OverloadGroup.mapMethods (MethodEntry.mapTypes (finishType missing aliased)))) := by
  rw [finishEntry_eq]
  rfl

theorem byType_of_mapMethods {change : MethodEntry → MethodEntry} {group : OverloadGroup}
    {arity position : Nat} {methods : List MethodEntry}
    (changed : group.mapMethods change = .byType arity position methods) :
    ∃ declared, group = .byType arity position declared ∧ methods = declared.map change := by
  cases group with
  | single count method => cases changed
  | union count declared => cases changed
  | byType count divergentAt declared =>
      rcases OverloadGroup.byType.inj changed with ⟨rfl, rfl, rfl⟩
      exact ⟨declared, rfl, rfl⟩

/-- The finished group is the image of a group of the entry first built. -/
structure StemsFrom (missing : List ClassName) (aliased : List (ClassName × String))
    (built : ClassEntry) (spelled : String) (arity position : Nat)
    (methods declared : List MethodEntry) : Prop where
  listed : ∃ groups, (spelled, groups) ∈ built.variants ∧
    .byType arity position declared ∈ groups
  methods : methods = declared.map (MethodEntry.mapTypes (finishType missing aliased))
  separated : separation? declared = some position

theorem exists_stemsFrom {registry : Registry} {built : ClassEntry}
    (derived : built.Derived registry) {spelled : String} {groups : List OverloadGroup}
    (named : (spelled, groups) ∈ (finishEntry missing aliased built).variants)
    {arity position : Nat} {methods : List MethodEntry}
    (grouped : .byType arity position methods ∈ groups) :
    ∃ declared, StemsFrom missing aliased built spelled arity position methods declared := by
  rw [variants_finishEntry] at named
  rcases List.mem_map.mp named with ⟨⟨name, before⟩, inBuilt, same⟩
  rcases Prod.mk.inj same with ⟨rfl, rfl⟩
  rcases List.mem_map.mp grouped with ⟨group, inGroups, changed⟩
  rcases byType_of_mapMethods changed with ⟨declared, rfl, changedMethods⟩
  have inVariants := inBuilt
  rw [derived.variants] at inBuilt
  rcases List.mem_map.mp inBuilt with ⟨members, _, sameGroups⟩
  rw [← (Prod.mk.inj sameGroups).right] at inGroups
  have separated := separation?_of_mem_groupMethods inGroups
  rw [(Prod.mk.inj sameGroups).right] at inGroups
  exact ⟨declared, ⟨before, inVariants, inGroups⟩, changedMethods, separated⟩

/-- Two methods that are told apart as declared, and what is left of it when they are
finished: the types at the first position where the declared lists differ must both
stay, or both be erased and the rest of the lists be told apart. -/
structure ApartAsDeclared (missing : List ClassName) (aliased : List (ClassName × String))
    (left right : MethodEntry) (before lefts rights : List TargetType) (x y : TargetType) :
    Prop where
  splitLeft : left.targetParams = before ++ x :: lefts
  splitRight : right.targetParams = before ++ y :: rights
  specificLeft : x ≠ .anyObject
  specificRight : y ≠ .anyObject
  apart : x.family ≠ y.family
  finished :
    ToldApart (left.mapTypes (finishType missing aliased)).targetParams
        (right.mapTypes (finishType missing aliased)).targetParams ↔
      (isMissingType missing x = false ∧ isMissingType missing y = false) ∨
      (isMissingType missing x = true ∧ isMissingType missing y = true ∧
        ToldApart (lefts.map (finishType missing aliased))
          (rights.map (finishType missing aliased)))

theorem ApartAsDeclared.toldApart {left right : MethodEntry}
    {before lefts rights : List TargetType} {x y : TargetType}
    (isApart : ApartAsDeclared missing aliased left right before lefts rights x y) :
    ToldApart left.targetParams right.targetParams :=
  ⟨before, lefts, rights, x, y, isApart.splitLeft, isApart.splitRight, isApart.specificLeft,
    isApart.specificRight, isApart.apart⟩

theorem exists_apartAsDeclared {left right : MethodEntry}
    (toldApart : ToldApart left.targetParams right.targetParams) :
    ∃ before lefts rights x y,
      ApartAsDeclared missing aliased left right before lefts rights x y := by
  rcases toldApart with
    ⟨before, lefts, rights, x, y, splitLeft, splitRight, specificLeft, specificRight, apart⟩
  refine ⟨before, lefts, rights, x, y, splitLeft, splitRight, specificLeft, specificRight, apart,
    ?_⟩
  have finished := toldApart_finished_iff missing aliased before lefts
    rights specificLeft specificRight apart
  rw [← splitLeft, ← splitRight] at finished
  exact finished

variable {whitelist : Whitelist}

theorem sound_of_resolve {source : ClassSource σ} {seeds : List ClassName} {state later : σ}
    {ends : Ends whitelist source (start.addSeeds seeds).begin state} {atlas : Atlas}
    (resolved : (start.addSeeds seeds).resolve whitelist source state ends =
      (.ok atlas, later)) :
    ∃ last, Sound whitelist (Answers source) last ∧ last.phase = .drained ∧
      atlas = ⟨last.seeds, last.classes, last.missing⟩ := by
  rcases resolve_eq_ok_iff.mp resolved with ⟨next, drained, rfl⟩
  rcases exists_finish_of_drain drained with ⟨last, rfl, _⟩
  have sound := ((sound_start whitelist (Answers source)).addSeeds seeds).drain
    (serves_answers source) state ends
  rw [drained] at sound
  exact ⟨last.finish, sound, rfl, rfl⟩

/-- Every entry of a resolved atlas is one built from an answer of the source, finished.
Each of its groups told apart by type stems from such a group of the entry first built.
Two methods of the group are still told apart exactly if the classes at the first
position where their declared types differ are not missing, or if both are and the
parameters after them are told apart. -/
theorem byType_of_resolve {source : ClassSource σ} {seeds : List ClassName} {state later : σ}
    {ends : Ends whitelist source (start.addSeeds seeds).begin state} {atlas : Atlas}
    (resolved : (start.addSeeds seeds).resolve whitelist source state ends = (.ok atlas, later))
    {item : ClassName × ClassEntry} (mem : item ∈ atlas.classes) :
    ∃ (decl : ClassDecl) (built : ClassEntry), Answers source item.1 decl ∧
      decl.name = item.1 ∧ decl.toEntry whitelist.registry = .ok built ∧
      item.2 = finishEntry atlas.missing (aliases atlas.entries) built ∧
      ∀ spelled groups, (spelled, groups) ∈ item.2.variants →
        ∀ arity position methods, .byType arity position methods ∈ groups →
          ∃ declared, StemsFrom atlas.missing (aliases atlas.entries) built spelled arity position
            methods declared ∧
          declared.Pairwise fun left right => ∃ before lefts rights x y,
            ApartAsDeclared atlas.missing (aliases atlas.entries) left right before lefts rights
              x y := by
  rcases sound_of_resolve resolved with ⟨last, sound, drained, rfl⟩
  rcases sound.exists_finished drained mem with ⟨decl, built, rooted, derived, _, finished⟩
  refine ⟨decl, built, rooted.served, rooted.named, rooted.made, finished, ?_⟩
  intro spelled groups named arity position methods grouped
  rw [finished] at named
  rcases exists_stemsFrom derived named grouped with ⟨declared, stems⟩
  refine ⟨declared, stems, ?_⟩
  have pairwise := pairwise_of_separation? stems.separated
  exact pairwise.imp fun toldApart => exists_apartAsDeclared toldApart

open ClassDecl (overloaded)

theorem resolve_overloaded :
    ∃ (ends : Ends (Whitelist.ofRules [.package "a"]) (Snapshot.ofDecls [overloaded]).source
        (start.addSeeds [overloaded.name]).begin []) (atlas : Atlas) (later : Snapshot.Journal)
      (entry : ClassEntry) (first second : MethodEntry),
      (start.addSeeds [overloaded.name]).resolve (Whitelist.ofRules [.package "a"])
        (Snapshot.ofDecls [overloaded]).source [] ends = (.ok atlas, later) ∧
      (overloaded.name, entry) ∈ atlas.classes ∧
      entry.variants = [("f", [.byType 1 0 [first, second]])] ∧
      first.targetParams = [.anyObject] ∧ second.targetParams = [.integerArgument] := by
  have made : ∃ entry, overloaded.build (Whitelist.ofRules [.package "a"]) [] =
      .ok (entry, [⟨"a.Gone"⟩]) ∧ ∃ first second,
        entry.variants = [("f", [.byType 1 0 [first, second]])] ∧
        first.targetParams = [.mapped ⟨"a.Gone"⟩ "Gone"] ∧
        second.targetParams = [.integerArgument] := ⟨_, rfl, _, _, rfl, rfl, rfl⟩
  rcases made with ⟨entry, built, first, second, variants, firstParams, secondParams⟩
  rcases drain_overloaded built with ⟨ends, last, later, drained, classes, missing⟩
  have resolved : (start.addSeeds [overloaded.name]).resolve (Whitelist.ofRules [.package "a"])
      (Snapshot.ofDecls [overloaded]).source [] ends =
        (.ok ⟨last.finish.seeds, last.finish.classes, last.finish.missing⟩, later) := by
    rw [resolve, drained]
  have mem : (overloaded.name, finishEntry last.missing (aliases last.entries) entry) ∈
      last.finish.classes := by
    rw [classes_finish, classes]
    exact List.mem_cons_self
  refine ⟨ends, _, later, _, first.mapTypes (finishType last.missing (aliases last.entries)),
    second.mapTypes (finishType last.missing (aliases last.entries)), resolved, mem, ?_, ?_, ?_⟩
  · rw [variants_finishEntry, variants]
    rfl
  · show first.targetParams.map _ = _
    rw [firstParams, missing]
    rfl
  · show second.targetParams.map _ = _
    rw [secondParams]
    rfl

/-- The overloads are told apart when they are built and no longer when the missing class
is erased. -/
theorem byType_of_resolve_overloaded :
    ∃ (ends : Ends (Whitelist.ofRules [.package "a"]) (Snapshot.ofDecls [overloaded]).source
        (start.addSeeds [overloaded.name]).begin []) (atlas : Atlas) (later : Snapshot.Journal),
      (start.addSeeds [overloaded.name]).resolve (Whitelist.ofRules [.package "a"])
        (Snapshot.ofDecls [overloaded]).source [] ends = (.ok atlas, later) ∧
      ∃ item ∈ atlas.classes, ∃ groups methods, ("f", groups) ∈ item.2.variants ∧
        .byType 1 0 methods ∈ groups ∧
        ∃ built declared, overloaded.toEntry (Whitelist.ofRules [.package "a"]).registry =
            .ok built ∧
          StemsFrom atlas.missing (aliases atlas.entries) built "f" 1 0 methods declared ∧
          declared.Pairwise (fun left right => ToldApart left.targetParams right.targetParams) ∧
          ¬methods.Pairwise fun left right => ToldApart left.targetParams right.targetParams := by
  rcases resolve_overloaded with
    ⟨ends, atlas, later, entry, first, second, resolved, mem, variants, firstParams, secondParams⟩
  have named : ("f", [.byType 1 0 [first, second]]) ∈ entry.variants := by
    rw [variants]
    exact List.mem_singleton.mpr rfl
  have grouped : .byType 1 0 [first, second] ∈ [OverloadGroup.byType 1 0 [first, second]] :=
    List.mem_singleton.mpr rfl
  rcases byType_of_resolve resolved mem with ⟨decl, built, ⟨_, _, loaded⟩, _, made, _, each⟩
  have isOverloaded : overloaded = decl := Except.ok.inj (Prod.mk.inj loaded).left
  rw [← isOverloaded] at made
  rcases each "f" _ named 1 0 _ grouped with ⟨declared, stems, apart⟩
  refine ⟨ends, atlas, later, resolved, _, mem, _, _, named, grouped, built, declared,
    made, stems, ?_, ?_⟩
  · apply apart.imp
    intro left right both
    rcases both with ⟨before, lefts, rights, x, y, isApart⟩
    exact isApart.toldApart
  · intro pairwise
    have together := (List.pairwise_cons.mp pairwise).left second (List.mem_singleton.mpr rfl)
    rw [firstParams, secondParams, toldApart_cons_of_ne (by decide)] at together
    exact together.left rfl

end Resolver
end ClassAtlas
