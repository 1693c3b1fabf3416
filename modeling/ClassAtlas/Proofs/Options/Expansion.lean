import ClassAtlas.Options.Basic
import ClassAtlas.Proofs.Closure.Reachability

/-!
# Expanding packages

With package expansion on, a run against a snapshot asks for the configured seeds and for
every class that the snapshot holds directly inside a whitelisted package. When it succeeds,
all that was asked for and is admitted is mapped.
-/

namespace ClassAtlas

/-!
# What a snapshot lists
-/

namespace Snapshot

variable {snapshot : Snapshot}

theorem holds_iff (available : snapshot.unavailable = none) {name : ClassName} :
    snapshot.Holds name ↔ name ∈ snapshot.classes.map ClassDecl.name := by
  constructor
  · intro holds
    rcases holds with ⟨decl, loaded⟩
    rw [← name_of_load loaded]
    exact List.mem_map_of_mem (mem_classes_of_load loaded)
  · intro mem
    rcases List.mem_map.mp mem with ⟨decl, inClasses, rfl⟩
    unfold Holds load
    rw [available]
    cases found : snapshot.classes.find? fun other => other.name = decl.name with
    | some other => exact ⟨other, rfl⟩
    | none => exact absurd (decide_eq_true rfl) (List.find?_eq_none.mp found decl inClasses)

def inside (snapshot : Snapshot) (packages : List String) : List ClassName :=
  packages.flatMap fun package =>
    (snapshot.classes.map ClassDecl.name).filter fun name => name.package? = some package

theorem mem_inside_iff (available : snapshot.unavailable = none) {packages : List String}
    {name : ClassName} :
    name ∈ snapshot.inside packages ↔
      snapshot.Holds name ∧ ∃ package ∈ packages, name.package? = some package := by
  unfold inside
  rw [List.mem_flatMap, holds_iff available]
  constructor
  · intro listed
    rcases listed with ⟨package, mem, isInside⟩
    rcases List.mem_filter.mp isInside with ⟨held, hasPackage⟩
    exact ⟨held, package, mem, of_decide_eq_true hasPackage⟩
  · intro both
    rcases both with ⟨held, package, mem, hasPackage⟩
    exact ⟨package, mem, List.mem_filter.mpr ⟨held, decide_eq_true hasPackage⟩⟩

theorem listAll_source (available : snapshot.unavailable = none) (packages : List String)
    (journal : Journal) :
    snapshot.source.listAll packages journal = (.ok (snapshot.inside packages), journal) := by
  induction packages with
  | nil => rfl
  | cons package rest ih =>
      have listed : snapshot.source.list package journal =
          (.ok ((snapshot.classes.map ClassDecl.name).filter fun name =>
            name.package? = some package), journal) := by
        show (snapshot.list package, journal) = _
        rw [list, available]
      rw [ClassSource.listAll, listed]
      simp only [ih]
      rfl

end Snapshot

/-!
# Packages of admitted names
-/

namespace Whitelist

theorem mem_packages_iff {whitelist : Whitelist} {package : String} :
    package ∈ whitelist.packages ↔ .package package ∈ whitelist.rules := by
  unfold packages
  rw [List.mem_filterMap]
  constructor
  · intro found
    rcases found with ⟨rule, mem, same⟩
    cases rule with
    | exact name => cases same
    | package other => exact Option.some.inj same ▸ mem
  · intro mem
    exact ⟨.package package, mem, rfl⟩

theorem exact_or_package?_of_admits {whitelist : Whitelist} {name : ClassName}
    (admitted : whitelist.admits name = true) :
    .exact name ∈ whitelist.rules ∨
      ∃ package ∈ whitelist.packages, name.package? = some package := by
  unfold admits at admitted
  rw [Bool.and_eq_true, Bool.or_eq_true] at admitted
  rcases admitted.right with exact | inPackage
  · exact Or.inl (of_decide_eq_true exact)
  · refine Or.inr ?_
    unfold ClassName.package?
    split at inPackage
    · next package c rest split =>
        rw [split]
        exact ⟨_, mem_packages_iff.mpr (of_decide_eq_true inPackage), rfl⟩
    · cases inPackage

end Whitelist

/-!
# What was asked for
-/

namespace Resolver

theorem Honours.mem_names {whitelist : Whitelist} {resolver : Resolver} {name : ClassName}
    (honours : Honours resolver name) (coherent : Coherent whitelist resolver)
    (drained : resolver.phase = .drained) : name ∈ resolver.names := by
  rcases honours.taken with waits | isDone
  · rw [coherent.quiet drained] at waits
    cases waits
  · rcases (coherent.done_iff name).mp isDone with isBuilt | isMissing
    · exact isBuilt
    · exact absurd isMissing (honours.present drained)

end Resolver

namespace Options

theorem seeded_of_expandPackages {options : Options} (expands : options.expandPackages = true)
    {snapshot : Snapshot} (available : snapshot.unavailable = none) (whitelist : Whitelist)
    (seeds : List ClassName) (journal : Snapshot.Journal) :
    options.seeded whitelist seeds snapshot.source journal =
      (.ok ((Resolver.start.addSeeds seeds).addSeeds (snapshot.inside whitelist.packages)),
        journal) := by
  unfold seeded Resolver.seedPackages
  rw [Snapshot.listAll_source available, if_pos expands]

theorem exists_resolve_of_expandPackages {options : Options}
    (expands : options.expandPackages = true) {snapshot : Snapshot}
    (available : snapshot.unavailable = none) {journal later : Snapshot.Journal} {atlas : Atlas}
    (resolved : options.resolve snapshot.source snapshot.finite_source journal =
      (.ok atlas, later)) :
    ∃ whitelist seeds, options.whitelist = .ok whitelist ∧ options.seedNames = .ok seeds ∧
      ∃ ends, ((Resolver.start.addSeeds seeds).addSeeds
        (snapshot.inside whitelist.packages)).resolve whitelist snapshot.source journal ends =
          (.ok atlas, later) := by
  unfold resolve at resolved
  cases checked : options.whitelist with
  | error fault => rw [checked] at resolved; cases resolved
  | ok whitelist =>
      cases read : options.seedNames with
      | error fault => rw [checked, read] at resolved; cases resolved
      | ok seeds =>
          rw [checked, read] at resolved
          simp only [seeded_of_expandPackages expands available] at resolved
          exact ⟨whitelist, seeds, rfl, rfl, _, resolved⟩

/-- A run with package expansion that succeeds against an available snapshot has mapped every
admitted seed and every admitted class that the snapshot holds directly inside a whitelisted
package, and lists both as seeds. It lists no other seeds. So a class that is held and
admitted is mapped unless it has a rule of its own. -/
theorem resolve_expanded {options : Options} (expands : options.expandPackages = true)
    {snapshot : Snapshot} (available : snapshot.unavailable = none)
    {journal later : Snapshot.Journal} {atlas : Atlas}
    (resolved : options.resolve snapshot.source snapshot.finite_source journal =
      (.ok atlas, later)) :
    ∃ whitelist seeds, options.whitelist = .ok whitelist ∧ options.seedNames = .ok seeds ∧
      (∀ name package, snapshot.Holds name → name.package? = some package →
        package ∈ whitelist.packages → whitelist.admits name = true →
        name ∈ atlas.seeds ∧ name ∈ atlas.names) ∧
      (∀ name ∈ seeds, whitelist.admits name = true →
        name ∈ atlas.seeds ∧ name ∈ atlas.names) ∧
      (∀ name ∈ atlas.seeds, name ∈ seeds ∨
        snapshot.Holds name ∧ ∃ package ∈ whitelist.packages, name.package? = some package) ∧
      (∀ name, snapshot.Holds name → whitelist.admits name = true →
        .exact name ∈ whitelist.rules ∨ name ∈ atlas.names) := by
  rcases exists_resolve_of_expandPackages expands available resolved with
    ⟨whitelist, seeds, checked, read, ends, resolvedFrom⟩
  rcases Resolver.resolve_eq_ok_iff.mp resolvedFrom with ⟨last, drained, rfl⟩
  have sound := ((Resolver.sound_start whitelist snapshot.Serves).addSeeds seeds).addSeeds
    (snapshot.inside whitelist.packages)
  have soundLast := sound.drain snapshot.serves_source journal ends
  have sameSeeds := Resolver.seeds_drain _ journal ends
  rw [drained] at soundLast sameSeeds
  have through : last.phase = .drained := by
    rcases Resolver.exists_finish_of_drain drained with ⟨before, rfl, _⟩
    rfl
  have mapped : ∀ name, Resolver.Honours ((Resolver.start.addSeeds seeds).addSeeds
      (snapshot.inside whitelist.packages)) name → whitelist.admits name = true →
        name ∈ last.seeds ∧ name ∈ last.names := by
    intro name honours admitted
    have kept := honours.drain snapshot.serves_source sound admitted journal ends
      (congrArg Prod.fst drained)
    rw [drained] at kept
    exact ⟨kept.listed, kept.mem_names soundLast.coherent through⟩
  have expanded : ∀ name, snapshot.Holds name →
      (∃ package ∈ whitelist.packages, name.package? = some package) →
        whitelist.admits name = true → name ∈ last.seeds ∧ name ∈ last.names := by
    intro name holds isInside admitted
    have listed := (Snapshot.mem_inside_iff available).mpr ⟨holds, isInside⟩
    exact mapped name (Resolver.honours_addSeeds listed _) admitted
  refine ⟨whitelist, seeds, checked, read, ?_, ?_, ?_, ?_⟩
  · intro name package holds hasPackage mem admitted
    exact expanded name holds ⟨package, mem, hasPackage⟩ admitted
  · intro name listed admitted
    have honours := Resolver.honours_addSeeds listed Resolver.start
    exact mapped name (honours.addSeeds (snapshot.inside whitelist.packages)) admitted
  · intro name isSeed
    have asked : name ∈ last.seeds := isSeed
    rw [sameSeeds, Resolver.mem_seeds_addSeeds, Resolver.mem_seeds_addSeeds] at asked
    rcases asked with listed | configured | impossible
    · exact Or.inr ((Snapshot.mem_inside_iff available).mp listed)
    · exact Or.inl configured
    · cases impossible
  · intro name holds admitted
    rcases Whitelist.exact_or_package?_of_admits admitted with exact | isInside
    · exact Or.inl exact
    · exact Or.inr (expanded name holds isInside admitted).right

def onePackage : Options :=
  { default with packages := ["a"], expandPackages := true }

open ClassDecl (overloaded) in
theorem resolve_expanded_onePackage :
    ∃ atlas later, onePackage.resolve (Snapshot.ofDecls [overloaded]).source
        (Snapshot.ofDecls [overloaded]).finite_source [] = (.ok atlas, later) ∧
      overloaded.name ∈ atlas.seeds ∧ overloaded.name ∈ atlas.names := by
  rcases Resolver.build_overloaded with ⟨entry, built⟩
  rcases Resolver.drain_overloaded built with ⟨ends, last, later, drained, _⟩
  have resolved : onePackage.resolve (Snapshot.ofDecls [overloaded]).source
      (Snapshot.ofDecls [overloaded]).finite_source [] = (.ok _, later) :=
    Resolver.resolve_eq_ok_iff.mpr ⟨_, drained, rfl⟩
  rcases resolve_expanded rfl rfl resolved with ⟨whitelist, seeds, checked, _, expanded, _⟩
  have isPackage : whitelist = Whitelist.ofRules [.package "a"] := (Except.ok.inj checked).symm
  have held : (Snapshot.ofDecls [overloaded]).Holds overloaded.name := ⟨overloaded, rfl⟩
  subst isPackage
  exact ⟨_, later, resolved, expanded overloaded.name "a" held (by decide) (by decide) (by decide)⟩

end Options
end ClassAtlas
