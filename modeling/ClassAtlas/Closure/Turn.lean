import ClassAtlas.Closure.Resolver
import ClassAtlas.Selection

/-!
# One turn of a run

A turn takes the oldest waiting name. It is passed over when it is done or not
admitted; else its entry is built and what it refers to is put on the agenda. A
class that does not exist is skipped if it was only referred to. Any other
failure ends the run.

A run ends when no turn leads to another for ever. Against a finite source every
run ends: the waiting names together with the admitted names that a source may
still bring up become fewer in every turn.
-/

namespace ClassAtlas

namespace Cause

def isClassNotFound : Cause → Bool
  | classNotFound _ => true
  | _ => false

end Cause

namespace Resolver

inductive Turn (σ : Type) where
  | through
  | next (resolver : Resolver) (state : σ)
  | failed (name : ClassName) (cause : Cause) (state : σ)

def turn (whitelist : Whitelist) (source : ClassSource σ) (resolver : Resolver) (state : σ) :
    Turn σ :=
  match resolver.agenda.pop? with
  | none => .through
  | some ((name, origin), agenda) =>
      let popped := { resolver with agenda }
      if agenda.isDone name || !whitelist.admits name then .next popped state
      else
        match source.build whitelist agenda.done name state with
        | (.ok (entry, references), later) => .next (popped.settle name entry references) later
        | (.error cause, later) =>
            if origin = .reference && cause.isClassNotFound then .next (popped.skip name) later
            else .failed name cause later

/-- The earlier pair of resolver and source state leads to the later one. -/
def Leads (whitelist : Whitelist) (source : ClassSource σ) (later earlier : Resolver × σ) : Prop :=
  turn whitelist source earlier.1 earlier.2 = .next later.1 later.2

def Ends (whitelist : Whitelist) (source : ClassSource σ) (resolver : Resolver) (state : σ) :
    Prop :=
  Acc (Leads whitelist source) (resolver, state)

end Resolver

/-!
# The measure

The names that wait, and the known admitted names that neither wait nor are done.
-/

namespace Agenda

def unseen (agenda : Agenda) (known : List ClassName) : List ClassName :=
  (distinct known).filter fun name => !agenda.isPending name && !agenda.isDone name

def remaining (agenda : Agenda) (known : List ClassName) : Nat :=
  agenda.pending.length + (agenda.unseen known).length

theorem isPending_map_upgrade (agenda : Agenda) (name other : ClassName) (origin : Origin) :
    (agenda.pending.map (upgrade name origin)).any (fun item => item.1 = other) =
      agenda.isPending other := by
  have same : (fun item : ClassName × Origin => decide ((upgrade name origin item).1 = other)) =
      fun item => decide (item.1 = other) := by
    funext item
    rw [fst_upgrade]
  rw [List.any_map, isPending]
  exact congrArg (fun test => agenda.pending.any test) same

/-- A known name that is referred to costs nothing: it comes to wait instead of
being unseen. -/
theorem remaining_add_le (agenda : Agenda) (known : List ClassName) {name : ClassName}
    (isKnown : name ∈ known) (origin : Origin) :
    ((agenda.add name origin).2).remaining known ≤ agenda.remaining known := by
  unfold add
  split
  · exact Nat.le_refl _
  · next notDone =>
      split
      · have same : ({ agenda with pending := agenda.pending.map (upgrade name origin) } :
            Agenda).unseen known = agenda.unseen known := by
          unfold unseen
          apply List.filter_congr
          intro other _
          have pendingSame := isPending_map_upgrade agenda name other origin
          simp only [isPending, isDone] at pendingSame ⊢
          rw [pendingSame]
        simp only [remaining, same, List.length_map]
        exact Nat.le_refl _
      · next notPending =>
          have fewer : (({ agenda with pending := agenda.pending ++ [(name, origin)] } :
              Agenda).unseen known).length < (agenda.unseen known).length := by
            refine length_filter_lt_of_mem ?_ (mem_distinct.mpr isKnown) ?_ ?_
            · intro other _ keeps
              simp only [isPending, isDone, List.any_append, Bool.and_eq_true,
                Bool.not_eq_true', Bool.or_eq_false_iff] at keeps ⊢
              exact ⟨keeps.left.left, keeps.right⟩
            · simp only [Bool.and_eq_true, Bool.not_eq_true']
              exact ⟨by simpa using notPending, by simpa using notDone⟩
            · simp [isPending]
          simp only [remaining, List.length_append, List.length_singleton]
          omega

theorem remaining_addReferences_le (agenda : Agenda) (known : List ClassName)
    {names : List ClassName} (areKnown : ∀ name ∈ names, name ∈ known) :
    (agenda.addReferences names).remaining known ≤ agenda.remaining known := by
  induction names generalizing agenda with
  | nil => exact Nat.le_refl _
  | cons first rest ih =>
      have step := agenda.remaining_add_le known (areKnown first (by simp)) .reference
      exact Nat.le_trans (ih _ fun name mem => areKnown name (by simp [mem])) step

theorem isDone_markDone (agenda : Agenda) (name other : ClassName) :
    (agenda.markDone name).isDone other = (agenda.isDone other || decide (other = name)) := by
  unfold markDone isDone
  by_cases already : name ∈ agenda.done
  · by_cases same : other = name
    · simp [already, same]
    · simp [already, same]
  · simp [already]

theorem isPending_markDone (agenda : Agenda) {name other : ClassName} (different : other ≠ name) :
    (agenda.markDone name).isPending other = agenda.isPending other := by
  unfold markDone isPending
  induction agenda.pending with
  | nil => rfl
  | cons first rest ih =>
      by_cases isName : first.1 = name
      · have notOther : first.1 ≠ other := fun same => different (same.symm.trans isName)
        simp only [List.filter_cons, isName, ne_eq, not_true, decide_false, List.any_cons]
        rw [if_neg (by simp), ih]
        simp [Ne.symm different]
      · simp only [List.filter_cons, isName, ne_eq, not_false_eq_true, decide_true, if_true,
          List.any_cons, ih]

theorem remaining_pop?_lt {agenda rest : Agenda} {known : List ClassName}
    {item : ClassName × Origin} (popped : agenda.pop? = some (item, rest))
    (final : rest.isDone item.1 = true ∨ item.1 ∉ known) :
    rest.remaining known < agenda.remaining known := by
  unfold pop? at popped
  split at popped
  · exact absurd popped (by simp)
  · next oldest others pending =>
      rcases Prod.mk.inj (Option.some.inj popped) with ⟨rfl, rfl⟩
      have unseenSame :
          (({ agenda with pending := others } : Agenda).unseen known).length ≤
            (agenda.unseen known).length := by
        rw [unseen, unseen, ← List.countP_eq_length_filter, ← List.countP_eq_length_filter]
        apply List.countP_mono_left
        intro other mem keeps
        simp only [Bool.and_eq_true, Bool.not_eq_true', isPending, isDone, pending,
          List.any_cons, Bool.or_eq_false_iff] at keeps ⊢
        refine ⟨⟨?_, keeps.left⟩, keeps.right⟩
        rcases final with isDone | notKnown
        · apply decide_eq_false
          intro same
          have done : decide (other ∈ agenda.done) = true := same ▸ isDone
          rw [keeps.right] at done
          exact absurd done (by simp)
        · apply decide_eq_false
          intro same
          exact notKnown (same ▸ mem_distinct.mp mem)
      simp only [remaining, pending, List.length_cons]
      omega

theorem remaining_markDone_pop?_lt {agenda rest : Agenda} {known : List ClassName}
    {item : ClassName × Origin} (popped : agenda.pop? = some (item, rest)) :
    (rest.markDone item.1).remaining known < agenda.remaining known := by
  unfold pop? at popped
  split at popped
  · exact absurd popped (by simp)
  · next oldest others pending =>
      rcases Prod.mk.inj (Option.some.inj popped) with ⟨rfl, rfl⟩
      have pendingFewer :
          (({ agenda with pending := others } : Agenda).markDone oldest.1).pending.length ≤
            others.length := List.length_filter_le _ _
      have unseenFewer :
          ((({ agenda with pending := others } : Agenda).markDone oldest.1).unseen known).length ≤
            (agenda.unseen known).length := by
        rw [unseen, unseen, ← List.countP_eq_length_filter, ← List.countP_eq_length_filter]
        apply List.countP_mono_left
        intro other _ keeps
        simp only [Bool.and_eq_true, Bool.not_eq_true'] at keeps ⊢
        rw [isDone_markDone, Bool.or_eq_false_iff] at keeps
        have different : other ≠ oldest.1 := by simpa using keeps.right.right
        rw [isPending_markDone _ different] at keeps
        refine ⟨?_, keeps.right.left⟩
        have notOldest : decide (oldest.1 = other) = false := by simp [Ne.symm different]
        simp only [isPending, pending, List.any_cons, notOldest, Bool.false_or]
        exact keeps.left
      simp only [remaining, pending, List.length_cons]
      omega

end Agenda

/-!
# Every turn leaves less to do
-/

namespace ClassSource

theorem mem_of_build {source : ClassSource σ} {whitelist : Whitelist}
    {resolved : List ClassName} {name : ClassName} {state later : σ} {entry : ClassEntry}
    {references : List ClassName}
    (built : source.build whitelist resolved name state = (.ok (entry, references), later))
    {other : ClassName} (mem : other ∈ references) :
    (∃ decl after, source.load name state = (.ok decl, after) ∧ other ∈ decl.mentioned) ∧
      whitelist.admits other = true := by
  unfold build at built
  split at built
  · exact of_error_eq_ok (Prod.mk.inj built).left
  · next decl after loaded =>
      split at built
      · rcases Prod.mk.inj built with ⟨made, rfl⟩
        rcases ClassDecl.mem_of_build made mem with ⟨mentioned, _, _, admitted⟩
        exact ⟨⟨decl, after, loaded, mentioned⟩, admitted⟩
      · exact of_error_eq_ok (Prod.mk.inj built).left

end ClassSource

namespace Resolver

theorem remaining_lt_of_turn {whitelist : Whitelist} {source : ClassSource σ}
    {known : List ClassName}
    (bounded : ∀ name state decl later, source.load name state = (.ok decl, later) →
      ∀ other ∈ decl.mentioned, other ∈ known)
    {resolver later : Resolver} {state after : σ}
    (turned : turn whitelist source resolver state = .next later after) :
    later.agenda.remaining (known.filter whitelist.admits) <
      resolver.agenda.remaining (known.filter whitelist.admits) := by
  unfold turn at turned
  split at turned
  · exact absurd turned (by simp)
  · next name origin agenda popped =>
      simp only at turned
      split at turned
      · next passed =>
          rcases Turn.next.inj turned with ⟨rfl, rfl⟩
          apply Agenda.remaining_pop?_lt popped
          rw [Bool.or_eq_true] at passed
          rcases passed with isDone | notAdmitted
          · exact Or.inl isDone
          · refine Or.inr fun mem => ?_
            have admitted := (List.mem_filter.mp mem).right
            simp [admitted] at notAdmitted
      · split at turned
        · next entry references built =>
            rcases Turn.next.inj turned with ⟨rfl, rfl⟩
            refine Nat.lt_of_le_of_lt ?_ (Agenda.remaining_markDone_pop?_lt popped)
            apply Agenda.remaining_addReferences_le
            intro other mem
            obtain ⟨⟨decl, after, loaded, mentioned⟩, admitted⟩ :=
              ClassSource.mem_of_build built mem
            exact List.mem_filter.mpr
              ⟨bounded name state decl after loaded other mentioned, admitted⟩
        · split at turned
          · rcases Turn.next.inj turned with ⟨rfl, rfl⟩
            exact Agenda.remaining_markDone_pop?_lt popped
          · exact absurd turned (by simp)

theorem ends_of_finite {source : ClassSource σ} (finite : source.Finite) (whitelist : Whitelist)
    (resolver : Resolver) (state : σ) : Ends whitelist source resolver state := by
  rcases finite.bounded with ⟨known, bounded⟩
  have all : ∀ count resolver state,
      Agenda.remaining resolver.agenda (known.filter whitelist.admits) ≤ count →
        Acc (Leads whitelist source) (resolver, state) := by
    intro count
    induction count with
    | zero =>
        intro resolver state few
        refine ⟨_, fun later leads => ?_⟩
        have fewer : Agenda.remaining later.1.agenda (known.filter whitelist.admits) <
            Agenda.remaining resolver.agenda (known.filter whitelist.admits) :=
          remaining_lt_of_turn bounded leads
        omega
    | succ count ih =>
        intro resolver state few
        refine ⟨_, fun later leads => ih later.1 later.2 ?_⟩
        have fewer : Agenda.remaining later.1.agenda (known.filter whitelist.admits) <
            Agenda.remaining resolver.agenda (known.filter whitelist.admits) :=
          remaining_lt_of_turn bounded leads
        omega
  exact all _ resolver state (Nat.le_refl _)

end Resolver
end ClassAtlas
