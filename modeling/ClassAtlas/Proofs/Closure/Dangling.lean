import ClassAtlas.Proofs.Closure.Line
import ClassAtlas.Proofs.Closure.Spellings

/-!
# Dangling references

A finished atlas is closed: whatever its entries mention and the whitelist admits is
mapped or missing. When classes are taken out of it, what dangles is what was taken out
and is still mentioned by an entry that was kept.
-/

namespace ClassAtlas

/-!
# What an entry mentions
-/

namespace ClassEntry

theorem sourceTypes_mapTypes (change : TargetType → TargetType) (entry : ClassEntry) :
    (entry.mapTypes change).sourceTypes = entry.sourceTypes := by
  simp only [sourceTypes, mapTypes, List.map_map, List.flatMap_append, List.flatMap_map]
  rfl

end ClassEntry

namespace Resolver

theorem mentions_finishEntry (missing : List ClassName) (aliased : List (ClassName × String))
    (entry : ClassEntry) : (finishEntry missing aliased entry).mentions = entry.mentions := by
  rw [finishEntry_eq, ClassEntry.mentions, ClassEntry.memberClasses,
    ClassEntry.sourceTypes_mapTypes]
  rfl

theorem finishEntry_mentions {entry : ClassEntry} {names : List ClassName}
    (mentioned : entry.mentions = .ok names) {missing : List ClassName}
    {aliased : List (ClassName × String)} {name : ClassName} (mentions : entry.Mentions name) :
    (finishEntry missing aliased entry).Mentions name :=
  (ClassEntry.mem_mentions_iff ((mentions_finishEntry _ _ entry).trans mentioned)).mp
    ((ClassEntry.mem_mentions_iff mentioned).mpr mentions)

/-!
# Closed atlases
-/

variable {whitelist : Whitelist} {served : ClassName → ClassDecl → Prop} {resolver : Resolver}

theorem Sound.exists_mentions (sound : Sound whitelist served resolver)
    (drained : resolver.phase = .drained) {item : ClassName × ClassEntry}
    (mem : item ∈ resolver.classes) :
    ∃ names, item.2.mentions = .ok names ∧
      ∀ name ∈ names, whitelist.admits name = true →
        name ∈ resolver.names ∨ name ∈ resolver.missing := by
  rcases sound.exists_finished drained mem with ⟨decl, built, rooted, _, _, finished⟩
  rcases ClassDecl.exists_mentions_of_toEntry rooted.made with ⟨names, mentioned⟩
  refine ⟨names, ?_, ?_⟩
  · rw [finished, mentions_finishEntry, mentioned]
  · intro name inNames admitted
    rcases rooted.covered names mentioned name inNames admitted with isDone | waits
    · exact (sound.coherent.done_iff name).mp isDone
    · rw [Agenda.waiting, sound.coherent.quiet drained] at waits
      cases waits

end Resolver

namespace Atlas

/-- What the entries mention can be collected, and as much of it as the whitelist admits is
mapped or missing. Only admitted classes are mapped or missing. -/
structure Closed (whitelist : Whitelist) (atlas : Atlas) : Prop where
  mentions : ∀ item ∈ atlas.classes, ∃ names, item.2.mentions = .ok names
  known : ∀ item ∈ atlas.classes, ∀ name, item.2.Mentions name →
    whitelist.admits name = true → name ∈ atlas.names ∨ name ∈ atlas.missing
  admitted : ∀ name, name ∈ atlas.names ∨ name ∈ atlas.missing → whitelist.admits name = true

theorem without_nil (atlas : Atlas) : atlas.without [] = atlas := by
  simp [without]

theorem mem_names_without {atlas : Atlas} {dropped : List ClassName} {name : ClassName} :
    name ∈ (atlas.without dropped).names ↔ name ∈ atlas.names ∧ name ∉ dropped := by
  unfold names without
  constructor
  · intro mem
    rcases List.mem_map.mp mem with ⟨item, kept, rfl⟩
    rcases List.mem_filter.mp kept with ⟨listed, notDropped⟩
    exact ⟨List.mem_map_of_mem listed, of_decide_eq_true notDropped⟩
  · intro both
    rcases List.mem_map.mp both.left with ⟨item, listed, rfl⟩
    exact List.mem_map_of_mem (List.mem_filter.mpr ⟨listed, decide_eq_true both.right⟩)

theorem mem_missing_without {atlas : Atlas} {dropped : List ClassName} {name : ClassName} :
    name ∈ (atlas.without dropped).missing ↔ name ∈ atlas.missing ∧ name ∉ dropped := by
  unfold without
  rw [List.mem_filter, decide_eq_true_iff]

theorem mem_classes_without {atlas : Atlas} {dropped : List ClassName}
    {item : ClassName × ClassEntry} :
    item ∈ (atlas.without dropped).classes ↔ item ∈ atlas.classes ∧ item.1 ∉ dropped := by
  unfold without
  rw [List.mem_filter, decide_eq_true_iff]

theorem exists_dangling {whitelist : Whitelist} {atlas : Atlas}
    (mentions : ∀ item ∈ atlas.classes, ∃ names, item.2.mentions = .ok names) :
    ∃ names, atlas.dangling whitelist = .ok names ∧ names.Nodup ∧
      ∀ name, name ∈ names ↔ (∃ item ∈ atlas.classes, item.2.Mentions name) ∧
        whitelist.admits name = true ∧ name ∉ atlas.names ∧ name ∉ atlas.missing := by
  have each : ∀ entry ∈ atlas.entries, ∃ names, entry.mentions = .ok names := by
    intro entry listed
    rcases List.mem_map.mp listed with ⟨item, mem, rfl⟩
    exact mentions item mem
  rcases exists_mapM_of_forall each with ⟨collected, succeeded⟩
  refine ⟨_, by rw [dangling, succeeded]; rfl, nodup_distinct _, ?_⟩
  intro name
  rw [mem_distinct, List.mem_filter, List.mem_flatten]
  apply and_congr
  · constructor
    · intro found
      rcases found with ⟨names, inCollected, inNames⟩
      rcases exists_of_mem_mapM succeeded inCollected with ⟨entry, listed, mentioned⟩
      rcases List.mem_map.mp listed with ⟨item, mem, rfl⟩
      exact ⟨item, mem, (ClassEntry.mem_mentions_iff mentioned).mp inNames⟩
    · intro found
      rcases found with ⟨item, mem, isMentioned⟩
      rcases exists_result_of_mem succeeded (List.mem_map_of_mem mem) with
        ⟨names, inCollected, mentioned⟩
      exact ⟨names, inCollected,
        (ClassEntry.mem_mentions_iff mentioned).mpr isMentioned⟩
  · simp [contains, and_assoc]

/-- When some classes are taken out of a closed atlas, those of them dangle that an entry
which is kept mentions, and nothing else does. -/
theorem Closed.exists_dangling_without {whitelist : Whitelist} {atlas : Atlas}
    (closed : atlas.Closed whitelist) (dropped : List ClassName) :
    ∃ names, (atlas.without dropped).dangling whitelist = .ok names ∧ names.Nodup ∧
      ∀ name, name ∈ names ↔ name ∈ dropped ∧ (name ∈ atlas.names ∨ name ∈ atlas.missing) ∧
        ∃ item ∈ atlas.classes, item.1 ∉ dropped ∧ item.2.Mentions name := by
  have mentions : ∀ item ∈ (atlas.without dropped).classes,
      ∃ names, item.2.mentions = .ok names :=
    fun item mem => closed.mentions item (mem_classes_without.mp mem).left
  rcases @exists_dangling whitelist _ mentions with ⟨names, dangles, nodup, mem_iff⟩
  refine ⟨names, dangles, nodup, ?_⟩
  intro name
  rw [mem_iff name, mem_names_without, mem_missing_without]
  constructor
  · intro isDangling
    rcases isDangling with ⟨⟨item, mem, mentioned⟩, admitted, unmapped, notMissing⟩
    rcases mem_classes_without.mp mem with ⟨listed, kept⟩
    have known := closed.known item listed name mentioned admitted
    have isDropped : name ∈ dropped := by
      apply Classical.byContradiction
      intro stays
      rcases known with isMapped | isMissing
      · exact unmapped ⟨isMapped, stays⟩
      · exact notMissing ⟨isMissing, stays⟩
    exact ⟨isDropped, known, item, listed, kept, mentioned⟩
  · intro isDropped
    rcases isDropped with ⟨gone, known, item, listed, kept, mentioned⟩
    refine ⟨⟨item, mem_classes_without.mpr ⟨listed, kept⟩, mentioned⟩,
      closed.admitted name known, ?_, ?_⟩
    · exact fun still => still.right gone
    · exact fun still => still.right gone

end Atlas

namespace Resolver

variable {whitelist : Whitelist} {events : List Event} {resolver : Resolver} {atlas : Atlas}

theorem toAtlas?_eq_some_iff :
    resolver.toAtlas? = some atlas ↔ resolver.phase = .drained ∧
      atlas = ⟨resolver.seeds, resolver.classes, resolver.missing⟩ := by
  unfold toAtlas?
  split
  · next drained => simp [drained, eq_comm]
  · next busy => simp [busy]

theorem closed_of_history (history : History whitelist events resolver)
    (handed : resolver.toAtlas? = some atlas) : atlas.Closed whitelist := by
  rcases toAtlas?_eq_some_iff.mp handed with ⟨drained, rfl⟩
  have sound := history.sound
  constructor
  · intro item mem
    rcases sound.exists_mentions drained mem with ⟨names, mentioned, _⟩
    exact ⟨names, mentioned⟩
  · intro item mem name isMentioned admitted
    rcases sound.exists_mentions drained mem with ⟨names, mentioned, known⟩
    exact known name ((ClassEntry.mem_mentions_iff mentioned).mpr isMentioned) admitted
  · intro name known
    exact sound.coherent.admitted name ((sound.coherent.done_iff name).mpr known)

theorem History.of_resolve {source : ClassSource σ} {state later : σ}
    {ends : Ends whitelist source resolver.begin state}
    (history : History whitelist events resolver)
    (resolved : resolver.resolve whitelist source state ends = (.ok atlas, later)) :
    ∃ last, History whitelist (.drained (.ok ()) :: events) last ∧
      last.toAtlas? = some atlas := by
  rcases resolve_eq_ok_iff.mp resolved with ⟨next, drained, rfl⟩
  rcases exists_finish_of_drain drained with ⟨last, rfl, _⟩
  have after := history.drained source state ends
  rw [drained] at after
  exact ⟨last.finish, after, rfl⟩

/-- Whatever was asked of a resolver and however its sources behaved: nothing dangles in the
atlas that it hands out once it is drained. When some classes are taken out of the atlas,
mapped or missing, what dangles can be told, and it is those of them that an entry mentions
which was kept. -/
theorem dangling_of_history (history : History whitelist events resolver)
    (handed : resolver.toAtlas? = some atlas) :
    (∀ dropped : List ClassName,
      ∃ names, (atlas.without dropped).dangling whitelist = .ok names ∧ names.Nodup ∧
        ∀ name, name ∈ names ↔ name ∈ dropped ∧ (name ∈ atlas.names ∨ name ∈ atlas.missing) ∧
          ∃ item ∈ atlas.classes, item.1 ∉ dropped ∧ item.2.Mentions name) ∧
    atlas.dangling whitelist = .ok [] := by
  have closed := closed_of_history history handed
  refine ⟨closed.exists_dangling_without, ?_⟩
  rcases closed.exists_dangling_without [] with ⟨names, dangles, _, mem_iff⟩
  rw [Atlas.without_nil] at dangles
  have none : names = [] :=
    List.eq_nil_iff_forall_not_mem.mpr fun name mem => nomatch ((mem_iff name).mp mem).left
  rw [dangles, none]

open ClassDecl (overloaded) in
theorem dangling_of_history_overloaded :
    ∃ events resolver atlas names, History (Whitelist.ofRules [.package "a"]) events resolver ∧
      resolver.toAtlas? = some atlas ∧ ⟨"a.Gone"⟩ ∈ atlas.missing ∧
      (atlas.without [⟨"a.Gone"⟩]).dangling (Whitelist.ofRules [.package "a"]) = .ok names ∧
      ⟨"a.Gone"⟩ ∈ names := by
  have made : ∃ entry mentioned, overloaded.build (Whitelist.ofRules [.package "a"]) [] =
      .ok (entry, [⟨"a.Gone"⟩]) ∧ entry.mentions = .ok mentioned ∧ entry.Mentions ⟨"a.Gone"⟩ :=
    ⟨_, _, rfl, rfl, Or.inr ⟨"a.Gone", by decide, by decide⟩⟩
  rcases made with ⟨entry, mentioned, built, collected, mentions⟩
  rcases drain_overloaded built with ⟨ends, last, later, drained, classes, missing⟩
  rcases History.of_resolve (History.start.addSeeds [overloaded.name])
    (resolve_eq_ok_iff.mpr ⟨_, drained, rfl⟩) with ⟨resolver, history, handed⟩
  rcases (dangling_of_history history handed).left [⟨"a.Gone"⟩] with
    ⟨names, dangles, _, mem_iff⟩
  have isMissing : (⟨"a.Gone"⟩ : ClassName) ∈ last.finish.missing := by
    show _ ∈ last.missing
    rw [missing]
    exact List.mem_cons_self
  have isMapped : (overloaded.name, finishEntry last.missing (aliases last.entries) entry) ∈
      last.finish.classes := by
    rw [classes_finish, classes]
    exact List.mem_cons_self
  have kept : overloaded.name ∉ [(⟨"a.Gone"⟩ : ClassName)] := by decide
  refine ⟨_, resolver, _, names, history, handed, isMissing, dangles, ?_⟩
  exact (mem_iff _).mpr ⟨List.mem_cons_self, Or.inr isMissing, _, isMapped, kept,
    finishEntry_mentions collected mentions⟩

end Resolver
end ClassAtlas
