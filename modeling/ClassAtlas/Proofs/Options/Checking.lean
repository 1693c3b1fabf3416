import ClassAtlas.Proofs.Options.Expansion
import ClassAtlas.Proofs.Whitelist.Membership

/-!
# Checking options

What options configure is judged before a source is asked for anything. The first bad class
line decides the failure, else the first bad package line, else the first bad seed. Without a
bad line the configured classes are admitted, and a run that takes them as its seeds maps them.
-/

namespace ClassAtlas

def ClassSource.counted (source : ClassSource σ) : ClassSource (Nat × σ) where
  load := fun name asked =>
    let (answer, later) := source.load name asked.2
    (answer, asked.1 + 1, later)
  list := fun package asked =>
    let (answer, later) := source.list package asked.2
    (answer, asked.1 + 1, later)

/-!
# Judging lines
-/

inductive FirstBad (good : String → Prop) : List String → String → Prop where
  | here {line : String} {rest : List String} (bad : ¬ good line) :
      FirstBad good (line :: rest) line
  | later {first line : String} {rest : List String} (fine : good first)
      (found : FirstBad good rest line) : FirstBad good (first :: rest) line

/-- The reader takes the good lines and reports any other. -/
def Judges (read : String → Except Misconfiguration α) (good : String → Prop)
    (report : String → Misconfiguration) : Prop :=
  ∀ line, (good line ∧ ∃ result, read line = .ok result) ∨
    (¬ good line ∧ read line = .error (report line))

section

variable {read : String → Except Misconfiguration α} {good : String → Prop}
  {report : String → Misconfiguration}

theorem Judges.of_if (valid : String → Bool) (result : String → α)
    (valid_iff : ∀ line, valid line = true ↔ good line)
    (reads : ∀ line, read line = if valid line then .ok (result line) else .error (report line)) :
    Judges read good report := by
  intro line
  rw [reads]
  split
  · next accepted => exact Or.inl ⟨(valid_iff line).mp accepted, _, rfl⟩
  · next rejected => exact Or.inr ⟨fun isGood => rejected ((valid_iff line).mpr isGood), rfl⟩

theorem Judges.mapM (judges : Judges read good report) (lines : List String) :
    ((∀ line ∈ lines, good line) ∧ ∃ results, lines.mapM read = .ok results) ∨
      ∃ line, FirstBad good lines line ∧ lines.mapM read = .error (report line) := by
  induction lines with
  | nil => exact Or.inl ⟨List.forall_mem_nil _, [], rfl⟩
  | cons first rest ih =>
      rw [List.mapM_cons]
      rcases judges first with ⟨fine, result, accepted⟩ | ⟨bad, rejected⟩
      · rw [accepted]
        rcases ih with ⟨allFine, results, succeeded⟩ | ⟨line, found, failed⟩
        · exact Or.inl ⟨List.forall_mem_cons.mpr ⟨fine, allFine⟩, result :: results,
            by rw [succeeded]; rfl⟩
        · exact Or.inr ⟨line, .later fine found, by rw [failed]; rfl⟩
      · exact Or.inr ⟨first, .here bad, by rw [rejected]; rfl⟩

theorem FirstBad.exists_not_good {lines : List String} {line : String}
    (first : FirstBad good lines line) : line ∈ lines ∧ ¬ good line := by
  induction first with
  | here bad => exact ⟨List.mem_cons_self, bad⟩
  | later fine found ih => exact ⟨List.mem_cons_of_mem _ ih.left, ih.right⟩

end

/-!
# Good lines
-/

def trimmed (line : String) : List Char :=
  Text.trim line.toList

def ClassName.ofLine (line : String) : ClassName :=
  ofPath (String.ofList (trimmed line))

/-- Identifiers, two at least, with a dot or a slash between each two. -/
def IsClassLine (line : String) : Prop :=
  Text.IsPath (trimmed line) ∧ 2 ≤ ((trimmed line).splitOnP Text.isPathSeparator).length

/-- Identifiers with a dot or a slash between each two, and one mark at most behind them. -/
def IsPackageLine (line : String) : Prop :=
  ∃ stem, Text.IsPath stem ∧
    (trimmed line = stem ∨ trimmed line = stem ++ ['.'] ∨ trimmed line = stem ++ ['.', '*'])

def IsSeedLine (line : String) : Prop :=
  Text.IsPath (trimmed line)

theorem ClassName.isSome_package?_iff {name : ClassName} :
    name.package?.isSome = true ↔ 2 ≤ name.segments.length := by
  rw [package?, Option.isSome_map, segments, Text.two_le_length_splitOn_iff, ← not_iff_not,
    ← Text.splitLast?_eq_none_iff]
  simp

namespace Whitelist.Rule

theorem judges_ofClass : Judges ofClass IsClassLine .className := by
  refine Judges.of_if
    (fun line => (ClassName.ofLine line).isWellFormed && (ClassName.ofLine line).package?.isSome)
    (fun line => .exact (.ofLine line)) ?_ fun _ => rfl
  intro line
  rw [Bool.and_eq_true, ClassName.isSome_package?_iff, ClassName.ofLine,
    ClassName.isWellFormed_ofPath_iff, ClassName.segments, ClassName.chars_ofPath,
    Text.splitOn_map_slash]
  rfl

theorem eq_of_ofClass {line : String} {rule : Rule} (read : ofClass line = .ok rule) :
    rule = .exact (.ofLine line) := by
  unfold ofClass at read
  simp only at read
  split at read
  · exact (Except.ok.inj read).symm
  · cases read

theorem withoutMark_append {stem : List Char} (path : Text.IsPath stem) :
    withoutMark stem = stem ∧ withoutMark (stem ++ ['.']) = stem ∧
      withoutMark (stem ++ ['.', '*']) = stem := by
  have noStar : stem.getLast? ≠ some '*' := by
    rcases path.exists_last with ⟨before, last, rfl, continues⟩
    rw [List.getLast?_concat]
    intro same
    rw [Option.some.inj same] at continues
    exact absurd continues (by decide)
  have noDot : stem.getLast? ≠ some '.' := path.getLast?_ne (by decide)
  refine ⟨?_, ?_, ?_⟩
  · rw [withoutMark, Text.beforeEnd?_eq_none rfl noStar, Text.beforeEnd?_eq_none rfl noDot]
    rfl
  · rw [withoutMark, Text.beforeEnd?_eq_none rfl (by simp), Text.beforeEnd?_eq_some_iff.mpr rfl]
    rfl
  · rw [withoutMark, Text.beforeEnd?_eq_some_iff.mpr rfl]

theorem isPackageLine_iff {line : String} :
    IsPackageLine line ↔ Text.IsPath (withoutMark (trimmed line)) := by
  constructor
  · intro isLine
    rcases isLine with ⟨stem, path, plain | dotted | starred⟩
    · rw [plain, (withoutMark_append path).left]
      exact path
    · rw [dotted, (withoutMark_append path).right.left]
      exact path
    · rw [starred, (withoutMark_append path).right.right]
      exact path
  · intro path
    refine ⟨_, path, ?_⟩
    unfold withoutMark
    split
    · next stem starred => exact Or.inr (Or.inr (Text.beforeEnd?_eq_some_iff.mp starred))
    · cases dotted : Text.beforeEnd? ['.'] (trimmed line) with
      | none => exact Or.inl rfl
      | some stem => exact Or.inr (Or.inl (Text.beforeEnd?_eq_some_iff.mp dotted))

theorem judges_ofPackage : Judges ofPackage IsPackageLine .packageName := by
  refine Judges.of_if
    (fun line => (ClassName.ofPath (String.ofList (withoutMark (trimmed line)))).isWellFormed)
    (fun line => .package (ClassName.ofPath (String.ofList (withoutMark (trimmed line)))).text)
    ?_ fun _ => rfl
  intro line
  rw [ClassName.isWellFormed_ofPath_iff, isPackageLine_iff]

end Whitelist.Rule

namespace Options

theorem judges_seedName : Judges seedName IsSeedLine .seedName :=
  Judges.of_if (fun line => (ClassName.ofLine line).isWellFormed) ClassName.ofLine
    (fun _ => ClassName.isWellFormed_ofPath_iff) fun _ => rfl

theorem eq_of_seedName {line : String} {name : ClassName} (read : seedName line = .ok name) :
    name = .ofLine line := by
  unfold seedName at read
  simp only at read
  split at read
  · exact (Except.ok.inj read).symm
  · cases read

/-!
# The first fault
-/

variable {options : Options}

def seedLines (options : Options) : List String :=
  options.seeds.getD options.classes

structure IsClean (options : Options) : Prop where
  classes : ∀ line ∈ options.classes, IsClassLine line
  packages : ∀ line ∈ options.packages, IsPackageLine line
  seeds : ∀ line ∈ options.seedLines, IsSeedLine line

/-- The fault of the first bad class line, else of the first bad package line, else of the
first bad seed. -/
inductive FirstFault (options : Options) : Misconfiguration → Prop where
  | className {line : String} (first : FirstBad IsClassLine options.classes line) :
      FirstFault options (.className line)
  | packageName {line : String} (classes : ∀ line ∈ options.classes, IsClassLine line)
      (first : FirstBad IsPackageLine options.packages line) :
      FirstFault options (.packageName line)
  | seedName {line : String} (classes : ∀ line ∈ options.classes, IsClassLine line)
      (packages : ∀ line ∈ options.packages, IsPackageLine line)
      (first : FirstBad IsSeedLine options.seedLines line) : FirstFault options (.seedName line)

theorem FirstFault.not_isClean {fault : Misconfiguration} (first : options.FirstFault fault) :
    ¬ options.IsClean := by
  intro clean
  cases first with
  | className first =>
      exact first.exists_not_good.right (clean.classes _ first.exists_not_good.left)
  | packageName _ first =>
      exact first.exists_not_good.right (clean.packages _ first.exists_not_good.left)
  | seedName _ _ first =>
      exact first.exists_not_good.right (clean.seeds _ first.exists_not_good.left)

/-- Checking finds the first fault, or reads every line. -/
theorem checked_cases (options : Options) :
    (options.IsClean ∧ ∃ classes packages seeds,
      options.classes.mapM Whitelist.Rule.ofClass = .ok classes ∧
      options.whitelist = .ok (Whitelist.ofRules (classes ++ packages)) ∧
      options.seedNames = .ok seeds) ∨
    ∃ fault, options.FirstFault fault ∧ (options.whitelist = .error fault ∨
      ∃ whitelist, options.whitelist = .ok whitelist ∧ options.seedNames = .error fault) := by
  unfold whitelist
  rcases Whitelist.Rule.judges_ofClass.mapM options.classes with
    ⟨goodClasses, classes, readClasses⟩ | ⟨line, first, failed⟩
  · rw [readClasses]
    rcases Whitelist.Rule.judges_ofPackage.mapM options.packages with
      ⟨goodPackages, packages, readPackages⟩ | ⟨line, first, failed⟩
    · rw [readPackages]
      rcases judges_seedName.mapM options.seedLines with
        ⟨goodSeeds, seeds, readSeeds⟩ | ⟨line, first, failed⟩
      · exact Or.inl ⟨⟨goodClasses, goodPackages, goodSeeds⟩, classes, packages, seeds, rfl, rfl,
          readSeeds⟩
      · exact Or.inr ⟨_, .seedName goodClasses goodPackages first, Or.inr ⟨_, rfl, failed⟩⟩
    · exact Or.inr ⟨_, .packageName goodClasses first, Or.inl (by rw [failed]; rfl)⟩
  · exact Or.inr ⟨_, .className first, Or.inl (by rw [failed]; rfl)⟩

/-!
# Runs against any source

A run that options describe may be made against any source as long as it comes to an end.
-/

variable {σ : Type} {source : ClassSource σ} {state later : σ} {atlas : Atlas}

/-- The run comes to an end if the options let it begin. -/
def Ends (options : Options) (source : ClassSource σ) (state : σ) : Prop :=
  ∀ whitelist seeds resolver later, options.whitelist = .ok whitelist →
    options.seedNames = .ok seeds →
      options.seeded whitelist seeds source state = (.ok resolver, later) →
        Resolver.Ends whitelist source resolver.begin later

def run (options : Options) (source : ClassSource σ) (state : σ)
    (ends : options.Ends source state) : Except Failure Atlas × σ :=
  match checked : options.whitelist with
  | .error fault => (.error (.plain (.misconfigured fault)), state)
  | .ok whitelist =>
      match read : options.seedNames with
      | .error fault => (.error (.plain (.misconfigured fault)), state)
      | .ok seeds =>
          match asked : options.seeded whitelist seeds source state with
          | (.error cause, later) => (.error (.plain cause), later)
          | (.ok resolver, later) =>
              resolver.resolve whitelist source later (ends _ _ _ _ checked read asked)

theorem ends_of_finite (options : Options) (finite : source.Finite) (state : σ) :
    options.Ends source state :=
  fun whitelist _ resolver later _ _ _ =>
    Resolver.ends_of_finite finite whitelist resolver.begin later

/-- Against a finite source the run is the resolution. -/
theorem run_eq_resolve (options : Options) (finite : source.Finite) (state : σ) :
    options.run source state (options.ends_of_finite finite state) =
      options.resolve source finite state := by
  unfold run resolve
  split
  · next fault checked => simp only [checked]
  · next whitelist checked =>
      simp only [checked]
      split
      · next fault read => simp only [read]
      · next seeds read =>
          simp only [read]
          split
          · next cause later asked => simp only [asked]
          · next resolver later asked => simp only [asked]

theorem run_eq_ok {ends : options.Ends source state}
    (succeeded : options.run source state ends = (.ok atlas, later)) :
    ∃ whitelist seeds resolver between ends,
      options.whitelist = .ok whitelist ∧ options.seedNames = .ok seeds ∧
      options.seeded whitelist seeds source state = (.ok resolver, between) ∧
      resolver.resolve whitelist source between ends = (.ok atlas, later) := by
  unfold run at succeeded
  split at succeeded
  · cases succeeded
  · next whitelist checked =>
      split at succeeded
      · cases succeeded
      · next seeds read =>
          split at succeeded
          · cases succeeded
          · next resolver between asked =>
              exact ⟨whitelist, seeds, resolver, between, _, checked, read, asked, succeeded⟩

theorem exists_run_of_fault {fault : Misconfiguration}
    (failed : options.whitelist = .error fault ∨
      ∃ whitelist, options.whitelist = .ok whitelist ∧ options.seedNames = .error fault)
    (source : ClassSource σ) (state : σ) :
    ∃ ends, options.run source state ends =
      (.error (.plain (.misconfigured fault)), state) := by
  have ends : options.Ends source state := by
    intro whitelist seeds resolver later checked read
    rcases failed with unchecked | ⟨_, _, unread⟩
    · cases unchecked.symm.trans checked
    · cases unread.symm.trans read
  refine ⟨ends, ?_⟩
  unfold run
  split
  · next other checked =>
      rcases failed with unchecked | ⟨_, isChecked, _⟩
      · rw [Except.error.inj (checked.symm.trans unchecked)]
      · cases checked.symm.trans isChecked
  · next whitelist checked =>
      rcases failed with unchecked | ⟨_, _, unread⟩
      · cases unchecked.symm.trans checked
      · split
        · next other read => rw [Except.error.inj (read.symm.trans unread)]
        · next seeds read => cases unread.symm.trans read

/-!
# Configured classes
-/

theorem exists_listed_of_seeded {whitelist : Whitelist} {seeds : List ClassName}
    {resolver : Resolver}
    (asked : options.seeded whitelist seeds source state = (.ok resolver, later)) :
    ∃ listed, resolver = (Resolver.start.addSeeds seeds).addSeeds listed := by
  unfold seeded at asked
  split at asked
  · simp only at asked
    split at asked
    · next count expanded after found =>
        have same := Resolver.seedPackages_eq whitelist source (Resolver.start.addSeeds seeds) state
        rw [found] at same
        exact ⟨_, (Except.ok.inj (Prod.mk.inj asked).left).symm.trans same⟩
    · cases asked
  · exact ⟨[], (Except.ok.inj (Prod.mk.inj asked).left).symm⟩

theorem mem_names_of_run {ends : options.Ends source state}
    (succeeded : options.run source state ends = (.ok atlas, later)) {whitelist : Whitelist}
    (checked : options.whitelist = .ok whitelist) {seeds : List ClassName}
    (read : options.seedNames = .ok seeds) {name : ClassName} (isSeed : name ∈ seeds)
    (admitted : whitelist.admits name = true) : name ∈ atlas.names := by
  rcases run_eq_ok succeeded with
    ⟨_, _, resolver, between, endsFrom, isChecked, isRead, asked, resolved⟩
  rcases Except.ok.inj (checked.symm.trans isChecked) with rfl
  rcases Except.ok.inj (read.symm.trans isRead) with rfl
  rcases exists_listed_of_seeded asked with ⟨listed, rfl⟩
  rcases Resolver.resolve_eq_ok_iff.mp resolved with ⟨last, drained, rfl⟩
  have sound := ((Resolver.sound_start whitelist Resolver.AnyServed).addSeeds seeds).addSeeds listed
  have serves := Resolver.serves_any source
  have honours := ((Resolver.honours_addSeeds isSeed Resolver.start).addSeeds listed).drain serves
    sound admitted between endsFrom (congrArg Prod.fst drained)
  have coherent := (sound.drain serves between endsFrom).coherent
  rw [drained] at honours coherent
  rcases Resolver.exists_finish_of_drain drained with ⟨before, rfl, _⟩
  exact honours.mem_names coherent rfl

theorem admits_ofLine {classes packages : List Whitelist.Rule}
    (read : options.classes.mapM Whitelist.Rule.ofClass = .ok classes) {line : String}
    (configured : line ∈ options.classes) :
    (Whitelist.ofRules (classes ++ packages)).admits (.ofLine line) = true := by
  rcases exists_result_of_mem read configured with ⟨rule, mem, found⟩
  rcases Whitelist.Rule.eq_of_ofClass found with rfl
  exact Whitelist.admits_of_isRead ⟨line, Or.inl found⟩
    (Whitelist.mem_rules_ofRules.mpr (List.mem_append_left _ mem))

theorem ofLine_mem_of_seedNames (noSeeds : options.seeds = none) {seeds : List ClassName}
    (read : options.seedNames = .ok seeds) {line : String} (configured : line ∈ options.classes) :
    ClassName.ofLine line ∈ seeds := by
  rw [seedNames, noSeeds] at read
  rcases exists_result_of_mem read configured with ⟨name, mem, found⟩
  exact eq_of_seedName found ▸ mem

/-- Options are judged before a source is asked. If a line is bad, the run fails with the fault
of the first one, whatever the source, and makes no request. If none is, there are a whitelist
and seeds, the whitelist admits every configured class, and a run without seeds of its own that
succeeds has mapped them all. -/
theorem run_checked (options : Options) :
    (¬ options.IsClean → ∃ fault, options.FirstFault fault ∧
      (Failure.plain (.misconfigured fault)).kind = .configuration ∧
      ∀ (σ : Type) (source : ClassSource σ) (state : σ),
        (∃ ends, options.run source state ends =
          (.error (.plain (.misconfigured fault)), state)) ∧
        ∃ ends, options.run source.counted (0, state) ends =
          (.error (.plain (.misconfigured fault)), (0, state))) ∧
    (options.IsClean → ∃ whitelist seeds, options.whitelist = .ok whitelist ∧
      options.seedNames = .ok seeds ∧
      (∀ line ∈ options.classes, whitelist.admits (.ofLine line) = true) ∧
      (options.seeds = none → ∀ (σ : Type) (source : ClassSource σ) (state later : σ)
        (ends : options.Ends source state) (atlas : Atlas),
        options.run source state ends = (.ok atlas, later) →
          ∀ line ∈ options.classes, .ofLine line ∈ atlas.names)) := by
  rcases checked_cases options with ⟨clean, classes, packages, seeds, readClasses, checked, read⟩ |
    ⟨fault, first, failed⟩
  · refine ⟨fun unclean => absurd clean unclean, fun _ => ?_⟩
    have admitted : ∀ line ∈ options.classes,
        (Whitelist.ofRules (classes ++ packages)).admits (.ofLine line) = true :=
      fun line configured => admits_ofLine readClasses configured
    refine ⟨_, seeds, checked, read, admitted, ?_⟩
    intro noSeeds σ source state later ends atlas succeeded line configured
    exact mem_names_of_run succeeded checked read
      (ofLine_mem_of_seedNames noSeeds read configured) (admitted line configured)
  · refine ⟨fun _ => ⟨fault, first, rfl, fun σ source state => ?_⟩,
      fun clean => absurd clean first.not_isClean⟩
    exact ⟨exists_run_of_fault failed source state,
      exists_run_of_fault failed source.counted (0, state)⟩

def twoDots : Options :=
  { default with classes := ["a/C"], packages := ["b.*", "com..example"] }

def oneClass : Options :=
  { default with classes := [" a/C "] }

open Resolver in
open ClassDecl (overloaded) in
theorem exists_run_oneClass :
    ∃ ends atlas later, oneClass.run (Snapshot.ofDecls [overloaded]).source [] ends =
      (.ok atlas, later) := by
  have built : ∃ entry, overloaded.build (Whitelist.ofRules [.exact ⟨"a.C"⟩]) [] =
      .ok (entry, []) := ⟨_, rfl⟩
  rcases built with ⟨entry, built⟩
  have finite := (Snapshot.ofDecls [overloaded]).finite_source
  have loaded : (Snapshot.ofDecls [overloaded]).source.load overloaded.name [] =
      (.ok overloaded, [overloaded.name]) := rfl
  have popped : (start.addSeeds [overloaded.name]).begin.agenda.pop? =
      some ((overloaded.name, .seed), ⟨[], []⟩) := rfl
  have ends := Resolver.ends_of_finite finite (Whitelist.ofRules [.exact ⟨"a.C"⟩])
    (start.addSeeds [overloaded.name]).begin []
  have ran := (run_of_step (.build popped (by decide) (by decide) loaded rfl built) ends).trans
    (run_of_through rfl _)
  have resolved : oneClass.resolve (Snapshot.ofDecls [overloaded]).source finite [] =
      (.ok _, [overloaded.name]) :=
    resolve_eq_ok_iff.mpr ⟨_, drain_of_run_ok rfl ran, rfl⟩
  exact ⟨_, _, _, (run_eq_resolve oneClass finite []).trans resolved⟩

open ClassDecl (overloaded) in
theorem run_checked_lines :
    (∃ fault, twoDots.FirstFault fault ∧ ∃ ends,
      twoDots.run (Snapshot.ofDecls [overloaded]).source.counted (0, []) ends =
        (.error (.plain (.misconfigured fault)), (0, []))) ∧
    ∃ ends atlas later, oneClass.run (Snapshot.ofDecls [overloaded]).source [] ends =
      (.ok atlas, later) ∧ overloaded.name ∈ atlas.names := by
  constructor
  · have unclean : ¬ twoDots.IsClean := by
      intro clean
      have isLine := clean.packages "com..example" (by decide)
      rw [Whitelist.Rule.isPackageLine_iff] at isLine
      exact absurd isLine (by decide)
    rcases (run_checked twoDots).left unclean with ⟨fault, first, _, fails⟩
    exact ⟨fault, first, (fails _ (Snapshot.ofDecls [overloaded]).source []).right⟩
  · have isClass : IsClassLine " a/C " := ⟨by decide, by decide⟩
    have clean : oneClass.IsClean :=
      ⟨List.forall_mem_singleton.mpr isClass, List.forall_mem_nil _,
        List.forall_mem_singleton.mpr isClass.left⟩
    rcases (run_checked oneClass).right clean with ⟨whitelist, seeds, checked, _, _, mapped⟩
    rcases exists_run_oneClass with ⟨ends, atlas, later, succeeded⟩
    exact ⟨ends, atlas, later, succeeded,
      mapped rfl _ _ [] later ends atlas succeeded " a/C " List.mem_cons_self⟩

end Options
end ClassAtlas
