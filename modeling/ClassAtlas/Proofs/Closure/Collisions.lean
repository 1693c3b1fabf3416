import ClassAtlas.Proofs.ClassName.Alias
import ClassAtlas.Proofs.Closure.Separation

/-!
# Classes of one spelling

A class goes by its short name or, if another class has that too, by its alias. Short
names are compared with short names only, so two classes still go by one spelling if
their aliases coincide or if the alias of one is the short name of the other. Among
names whose only marks are dots neither happens.
-/

namespace ClassAtlas

open Resolver

namespace Atlas

def SharesShortName (atlas : Atlas) (name : ClassName) : Prop :=
  ∃ other ∈ atlas.classes, other.1 ≠ name ∧ other.2.isPrimitive = false ∧
    other.1.shortName = name.shortName

/-- The ways in which two classes come to one spelling. -/
@[mk_iff]
inductive Clashes (atlas : Atlas) (name other : ClassName) : Prop where
  | aliases (shares : atlas.SharesShortName name) (sharesToo : atlas.SharesShortName other)
      (agree : name.AgreeUpToMarks other) : Clashes atlas name other
  | aliasOfFirst (shares : atlas.SharesShortName name) (alone : ¬atlas.SharesShortName other)
      (same : name.aliasName = other.shortName) : Clashes atlas name other
  | aliasOfSecond (alone : ¬atlas.SharesShortName name) (shares : atlas.SharesShortName other)
      (same : other.aliasName = name.shortName) : Clashes atlas name other

structure Spelled (atlas : Atlas) (item : ClassName × ClassEntry) : Prop where
  aliasName : atlas.SharesShortName item.1 → item.2.targetType = item.1.aliasName
  shortName : ¬atlas.SharesShortName item.1 → item.2.targetType = item.1.shortName

variable {atlas : Atlas} {item other : ClassName × ClassEntry}

theorem Spelled.targetType_eq_iff (spelled : atlas.Spelled item)
    (spelledOther : atlas.Spelled other) (mem : item ∈ atlas.classes)
    (different : item.1 ≠ other.1) (notPrimitive : item.2.isPrimitive = false) :
    item.2.targetType = other.2.targetType ↔ atlas.Clashes item.1 other.1 := by
  rw [clashes_iff]
  by_cases shares : atlas.SharesShortName item.1
  · rw [spelled.aliasName shares]
    by_cases sharesToo : atlas.SharesShortName other.1
    · rw [spelledOther.aliasName sharesToo, ClassName.aliasName_eq_aliasName_iff]
      simp [shares, sharesToo]
    · rw [spelledOther.shortName sharesToo]
      simp [shares, sharesToo]
  · rw [spelled.shortName shares]
    by_cases sharesToo : atlas.SharesShortName other.1
    · rw [spelledOther.aliasName sharesToo]
      simp [shares, sharesToo, eq_comm]
    · rw [spelledOther.shortName sharesToo]
      have apart : item.1.shortName ≠ other.1.shortName := fun same =>
        sharesToo ⟨item, mem, different, notPrimitive, same⟩
      simp [shares, sharesToo, apart]

theorem not_clashes_of_isPlain (mem : item ∈ atlas.classes) (memOther : other ∈ atlas.classes)
    (different : item.1 ≠ other.1) (notPrimitive : item.2.isPrimitive = false)
    (otherNotPrimitive : other.2.isPrimitive = false) (plain : item.1.IsPlain)
    (plainOther : other.1.IsPlain) : ¬atlas.Clashes item.1 other.1 := by
  intro clashes
  cases clashes with
  | aliases _ _ agree => exact different (agree.eq_of_isPlain plain plainOther)
  | aliasOfFirst _ alone same =>
      have short := ClassName.shortName_eq_of_aliasName_eq plainOther same
      exact alone ⟨item, mem, different, notPrimitive, short⟩
  | aliasOfSecond alone _ same =>
      have short := ClassName.shortName_eq_of_aliasName_eq plain same
      exact alone ⟨other, memOther, different.symm, otherNotPrimitive, short⟩

end Atlas

namespace Resolver

variable {whitelist : Whitelist} {source : ClassSource σ} {seeds : List ClassName}
  {state later : σ} {ends : Ends whitelist source (start.addSeeds seeds).begin state}
  {atlas : Atlas} {item other : ClassName × ClassEntry}

theorem spelled_of_resolve
    (resolved : (start.addSeeds seeds).resolve whitelist source state ends = (.ok atlas, later))
    (mem : item ∈ atlas.classes) (notPrimitive : item.2.isPrimitive = false) :
    atlas.Spelled item := by
  rcases sound_of_resolve resolved with ⟨last, sound, drained, rfl⟩
  have short : ∀ other ∈ last.classes, other.2.shortName = other.1.shortName := by
    intro other memOther
    exact (sound.names_of_drained drained memOther).left
  have flag : item.2.useAlias = true ↔
      Atlas.SharesShortName ⟨last.seeds, last.classes, last.missing⟩ item.1 := by
    rw [sound.useAlias_iff drained mem]
    constructor
    · intro both
      rcases both.right with ⟨other, memOther, different, otherNotPrimitive, same⟩
      rw [short other memOther, short item mem] at same
      exact ⟨other, memOther, different, otherNotPrimitive, same⟩
    · intro shares
      rcases shares with ⟨other, memOther, different, otherNotPrimitive, same⟩
      rw [← short other memOther, ← short item mem] at same
      exact ⟨notPrimitive, other, memOther, different, otherNotPrimitive, same⟩
  have spelled : item.2.targetType =
      if item.2.useAlias then item.1.aliasName else item.2.shortName := by
    rw [(sound.names_of_drained drained mem).right.right.right notPrimitive]
    exact sound.aliasName drained mem
  constructor
  · intro shares
    rw [spelled, if_pos (flag.mpr shares)]
  · intro alone
    rw [spelled, if_neg (flag.not.mpr alone), short item mem]

/-- Two classes of a resolved atlas go by one spelling exactly if their aliases agree
up to marks or the alias of one is the short name of the other, and never if dots are
the only marks in their names. -/
theorem targetType_eq_iff_of_resolve
    (resolved : (start.addSeeds seeds).resolve whitelist source state ends = (.ok atlas, later))
    (mem : item ∈ atlas.classes) (memOther : other ∈ atlas.classes)
    (different : item.1 ≠ other.1) (notPrimitive : item.2.isPrimitive = false)
    (otherNotPrimitive : other.2.isPrimitive = false) :
    (item.2.targetType = other.2.targetType ↔ atlas.Clashes item.1 other.1) ∧
    (item.1.IsPlain → other.1.IsPlain → item.2.targetType ≠ other.2.targetType) := by
  have spelled := spelled_of_resolve resolved mem notPrimitive
  have spelledOther := spelled_of_resolve resolved memOther otherNotPrimitive
  have clash := spelled.targetType_eq_iff spelledOther mem different notPrimitive
  refine ⟨clash, fun plain plainOther same => ?_⟩
  exact Atlas.not_clashes_of_isPlain mem memOther different notPrimitive otherNotPrimitive plain
    plainOther (clash.mp same)

def bare (text : String) : ClassDecl :=
  ⟨⟨text⟩, ["public"], false, false, none, [], [], [], []⟩

theorem exists_build_bare (whitelist : Whitelist) (resolved : List ClassName) {text : String}
    (notPrimitive : ClassDecl.isPrimitive whitelist.registry ⟨text⟩ = false) :
    ∃ entry, (bare text).build whitelist resolved = .ok (entry, []) ∧
      entry.isPrimitive = false :=
  ⟨_, rfl, notPrimitive⟩

/-- Two classes of one short name, and one whose short name is the alias of the first. -/
def crossing : Snapshot :=
  Snapshot.ofDecls [bare "a.B", bare "c.B", bare "d.a_B"]

def crossingRules : Whitelist :=
  Whitelist.ofRules [.package "a", .package "c", .package "d"]

def crossingSeeds : List ClassName :=
  [⟨"a.B"⟩, ⟨"c.B"⟩, ⟨"d.a_B"⟩]

theorem resolve_crossing :
    ∃ atlas later, crossingRules.resolve crossing.source crossing.finite_source crossingSeeds [] =
        (.ok atlas, later) ∧
      atlas.names = crossingSeeds ∧ ∀ item ∈ atlas.classes, item.2.isPrimitive = false := by
  rcases @exists_build_bare crossingRules [] "a.B" rfl with ⟨first, builtFirst, notFirst⟩
  rcases @exists_build_bare crossingRules [⟨"a.B"⟩] "c.B" rfl with
    ⟨second, builtSecond, notSecond⟩
  rcases @exists_build_bare crossingRules [⟨"a.B"⟩, ⟨"c.B"⟩] "d.a_B" rfl with
    ⟨third, builtThird, notThird⟩
  have loadedFirst : crossing.source.load ⟨"a.B"⟩ [] = (.ok (bare "a.B"), [⟨"a.B"⟩]) := rfl
  have loadedSecond : crossing.source.load ⟨"c.B"⟩ [⟨"a.B"⟩] =
      (.ok (bare "c.B"), [⟨"a.B"⟩, ⟨"c.B"⟩]) := rfl
  have loadedThird : crossing.source.load ⟨"d.a_B"⟩ [⟨"a.B"⟩, ⟨"c.B"⟩] =
      (.ok (bare "d.a_B"), [⟨"a.B"⟩, ⟨"c.B"⟩, ⟨"d.a_B"⟩]) := rfl
  have popped : (start.addSeeds crossingSeeds).begin.agenda.pop? =
      some ((⟨"a.B"⟩, .seed), ⟨[(⟨"c.B"⟩, .seed), (⟨"d.a_B"⟩, .seed)], []⟩) := rfl
  have ends := ends_of_finite crossing.finite_source crossingRules
    (start.addSeeds crossingSeeds).begin []
  have ran := run_of_step (.build popped (by decide) (by decide) loadedFirst rfl builtFirst) ends
  have ranOn := ran.trans (run_of_step (.build
    (show _ = some ((⟨"c.B"⟩, .seed), ⟨[(⟨"d.a_B"⟩, .seed)], [⟨"a.B"⟩]⟩) from rfl)
    (by decide) (by decide) loadedSecond rfl builtSecond) _)
  have ranThrough := (ranOn.trans (run_of_step (.build
    (show _ = some ((⟨"d.a_B"⟩, .seed), ⟨[], [⟨"a.B"⟩, ⟨"c.B"⟩]⟩) from rfl)
    (by decide) (by decide) loadedThird rfl builtThird) _)).trans (run_of_through rfl _)
  have toEnd : ∃ last later, run crossingRules crossing.source
      (start.addSeeds crossingSeeds).begin [] ends = (.ok last, later) ∧
      last.classes = [(⟨"a.B"⟩, first), (⟨"c.B"⟩, second), (⟨"d.a_B"⟩, third)] :=
    ⟨_, _, ranThrough, rfl⟩
  rcases toEnd with ⟨last, later, ranToEnd, classes⟩
  have resolved := resolve_eq_ok_iff.mpr ⟨last.finish, drain_of_run_ok rfl ranToEnd, rfl⟩
  refine ⟨_, later, resolved, ?_, ?_⟩
  · show last.finish.names = _
    rw [names_finish, Resolver.names, classes]
    rfl
  · intro item mem
    change item ∈ last.finish.classes at mem
    rw [classes_finish, classes] at mem
    simp only [List.map_cons, List.map_nil, List.mem_cons, List.not_mem_nil, or_false] at mem
    rcases mem with rfl | rfl | rfl
    · exact (isPrimitive_finishEntry _ _ first).trans notFirst
    · exact (isPrimitive_finishEntry _ _ second).trans notSecond
    · exact (isPrimitive_finishEntry _ _ third).trans notThird

/-- The third class goes by its short name, which is the alias of the first. -/
theorem targetType_eq_iff_of_resolve_crossing :
    ∃ atlas later first third,
      crossingRules.resolve crossing.source crossing.finite_source crossingSeeds [] =
        (.ok atlas, later) ∧
      (⟨"a.B"⟩, first) ∈ atlas.classes ∧ (⟨"d.a_B"⟩, third) ∈ atlas.classes ∧
      first.isPrimitive = false ∧ third.isPrimitive = false ∧
      first.targetType = third.targetType := by
  rcases resolve_crossing with ⟨atlas, later, resolved, names, notPrimitive⟩
  have listed : ∀ name ∈ atlas.names, ∃ entry, (name, entry) ∈ atlas.classes := by
    intro name isMapped
    rcases List.mem_map.mp isMapped with ⟨⟨_, entry⟩, mem, rfl⟩
    exact ⟨entry, mem⟩
  rw [names] at listed
  rcases listed ⟨"a.B"⟩ (by decide) with ⟨first, memFirst⟩
  rcases listed ⟨"c.B"⟩ (by decide) with ⟨second, memSecond⟩
  rcases listed ⟨"d.a_B"⟩ (by decide) with ⟨third, memThird⟩
  have others : (⟨"c.B"⟩ : ClassName) ≠ ⟨"a.B"⟩ ∧ (⟨"a.B"⟩ : ClassName) ≠ ⟨"d.a_B"⟩ := by decide
  have sameShort : (⟨"c.B"⟩ : ClassName).shortName = (⟨"a.B"⟩ : ClassName).shortName := by decide
  have crosses : (⟨"a.B"⟩ : ClassName).aliasName = (⟨"d.a_B"⟩ : ClassName).shortName := by decide
  have shares : atlas.SharesShortName ⟨"a.B"⟩ :=
    ⟨_, memSecond, others.left, notPrimitive _ memSecond, sameShort⟩
  have alone : ¬atlas.SharesShortName ⟨"d.a_B"⟩ := by
    intro sharesToo
    rcases sharesToo with ⟨item, mem, different, _, same⟩
    have isMapped : item.1 ∈ atlas.names := List.mem_map_of_mem mem
    rw [names] at isMapped
    simp only [crossingSeeds, List.mem_cons, List.not_mem_nil, or_false] at isMapped
    rcases isMapped with isFirst | isSecond | isThird
    · rw [isFirst] at same
      exact absurd same (by decide)
    · rw [isSecond] at same
      exact absurd same (by decide)
    · exact different isThird
  have clash := targetType_eq_iff_of_resolve resolved memFirst memThird others.right
    (notPrimitive _ memFirst) (notPrimitive _ memThird)
  exact ⟨atlas, later, first, third, resolved, memFirst, memThird, notPrimitive _ memFirst,
    notPrimitive _ memThird, clash.left.mpr (.aliasOfFirst shares alone crosses)⟩

end Resolver
end ClassAtlas
