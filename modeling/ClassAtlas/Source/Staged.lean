import ClassAtlas.Source.Snapshot

/-!
# Staged faults

A snapshot behind staged faults shows how a run behaves when its source fails:
after a number of requests, for certain classes, or by answering with another
class than the one asked for.
-/

namespace ClassAtlas

structure Staged where
  snapshot : Snapshot
  failures : List (ClassName × LoadError)
  /-- Classes in whose place another one is served. -/
  substitutes : List (ClassName × ClassName)
  listings : List (String × List ClassName)

namespace Staged

/-- What a staged source was asked for, and how many requests it still answers. -/
structure State where
  journal : List ClassName
  budget : Option Nat

namespace State

def after (state : State) (name : ClassName) : State where
  journal := state.journal ++ [name]
  budget := state.budget.map (· - 1)

end State

def answer (staged : Staged) (name : ClassName) : Except LoadError ClassDecl :=
  match staged.failures.find? fun entry => entry.1 = name with
  | some (_, error) => .error error
  | none =>
      match staged.substitutes.find? fun entry => entry.1 = name with
      | some (_, other) => staged.snapshot.load other
      | none => staged.snapshot.load name

def load (staged : Staged) (name : ClassName) (state : State) :
    Except LoadError ClassDecl × State :=
  (if state.budget = some 0 then .error (.unavailable "runtime exited")
    else staged.answer name, state.after name)

def list (staged : Staged) (package : String) : Except LoadError (List ClassName) :=
  match staged.listings.find? fun entry => entry.1 = package with
  | some (_, names) => .ok names
  | none => staged.snapshot.list package

def source (staged : Staged) : ClassSource State where
  load := staged.load
  list := fun package state => (staged.list package, state)

theorem exists_of_answer {staged : Staged} {name : ClassName} {decl : ClassDecl}
    (answered : staged.answer name = .ok decl) :
    ∃ served, staged.snapshot.load served = .ok decl := by
  unfold answer at answered
  split at answered
  · exact of_error_eq_ok answered
  · split at answered
    · exact ⟨_, answered⟩
    · exact ⟨name, answered⟩

theorem finite_source (staged : Staged) : staged.source.Finite where
  bounded := by
    refine ⟨staged.snapshot.mentioned, ?_⟩
    intro name state decl later loaded other mem
    have answered : (if state.budget = some 0 then .error (.unavailable "runtime exited")
        else staged.answer name) = Except.ok decl := (Prod.mk.inj loaded).left
    split at answered
    · exact of_error_eq_ok answered
    · rcases exists_of_answer answered with ⟨served, found⟩
      exact Snapshot.mem_mentioned_of_load found mem

end Staged
end ClassAtlas
