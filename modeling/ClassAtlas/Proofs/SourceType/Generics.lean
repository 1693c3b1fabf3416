import ClassAtlas.Inspection
import ClassAtlas.SourceType.Lemmas

/-!
# Generic arguments

Angle brackets balance if no prefix closes more of them than it opens and the whole closes
all it opens. A group in brackets that balance leaves no trace in what is read, wherever it
stands, and a text whose brackets do not balance is not read at all.
-/

namespace ClassAtlas
namespace SourceType

/-- A text in which all the groups are closed that are open before it or opened in it, and
never one more. -/
structure Settles (opened : Nat) (text : List Char) : Prop where
  prefixes : ∀ start, start <+: text → start.count '>' ≤ opened + start.count '<'
  settled : text.count '>' = opened + text.count '<'

def Balanced (text : List Char) : Prop :=
  Settles 0 text

theorem settles_nil_iff {opened : Nat} : Settles opened [] ↔ opened = 0 := by
  constructor
  · intro settles
    exact settles.settled.symm
  · rintro rfl
    refine ⟨fun start isPrefix => ?_, rfl⟩
    rw [List.prefix_nil.mp isPrefix]
    exact Nat.zero_le _

theorem settles_cons_iff {opened next : Nat} {c : Char} {rest : List Char}
    (change : opened + [c].count '<' = next + [c].count '>') :
    Settles opened (c :: rest) ↔ Settles next rest := by
  have counted : ∀ (mark : Char) (text : List Char),
      (c :: text).count mark = [c].count mark + text.count mark := by
    intro mark text
    rw [← List.count_append, List.singleton_append]
  constructor
  · intro settles
    constructor
    · intro start isPrefix
      have longer := settles.prefixes (c :: start) ((List.prefix_cons_inj c).mpr isPrefix)
      rw [counted '>' start, counted '<' start] at longer
      omega
    · have settled := settles.settled
      rw [counted '>' rest, counted '<' rest] at settled
      omega
  · intro settles
    constructor
    · intro start isPrefix
      rcases List.prefix_cons_iff.mp isPrefix with rfl | ⟨others, rfl, inRest⟩
      · exact Nat.zero_le _
      · have shorter := settles.prefixes others inRest
        rw [counted '>' others, counted '<' others]
        omega
    · have settled := settles.settled
      rw [counted '>' rest, counted '<' rest]
      omega

theorem settles_open_iff {opened : Nat} {rest : List Char} :
    Settles opened ('<' :: rest) ↔ Settles (opened + 1) rest :=
  settles_cons_iff rfl

theorem settles_close_iff {opened : Nat} {rest : List Char} :
    Settles (opened + 1) ('>' :: rest) ↔ Settles opened rest :=
  settles_cons_iff rfl

theorem not_settles_close {rest : List Char} : ¬Settles 0 ('>' :: rest) := by
  intro settles
  exact absurd (settles.prefixes ['>'] ⟨rest, rfl⟩) (by decide)

theorem settles_other_iff {opened : Nat} {c : Char} {rest : List Char} (notOpen : c ≠ '<')
    (notClose : c ≠ '>') : Settles opened (c :: rest) ↔ Settles opened rest := by
  apply settles_cons_iff
  rw [List.count_singleton, List.count_singleton]
  simp [notOpen, notClose]

/-!
# Erasing
-/

theorem eraseGenerics_open (opened : Nat) (rest : List Char) :
    eraseGenerics opened ('<' :: rest) = eraseGenerics (opened + 1) rest := by
  cases opened <;> rfl

theorem eraseGenerics_close (opened : Nat) (rest : List Char) :
    eraseGenerics (opened + 1) ('>' :: rest) = eraseGenerics opened rest :=
  rfl

theorem eraseGenerics_inside {c : Char} (notOpen : c ≠ '<') (notClose : c ≠ '>') (opened : Nat)
    (rest : List Char) :
    eraseGenerics (opened + 1) (c :: rest) = eraseGenerics (opened + 1) rest := by
  rw [eraseGenerics, if_neg notOpen, if_neg notClose]

theorem eraseGenerics_outside {c : Char} (notOpen : c ≠ '<') (notClose : c ≠ '>')
    (rest : List Char) : eraseGenerics 0 (c :: rest) = (eraseGenerics 0 rest).map (c :: ·) := by
  rw [eraseGenerics, if_neg notOpen, if_neg notClose]

theorem isSome_eraseGenerics_iff {opened : Nat} {text : List Char} :
    (eraseGenerics opened text).isSome = true ↔ Settles opened text := by
  induction text generalizing opened with
  | nil =>
      rw [settles_nil_iff]
      cases opened <;> simp [eraseGenerics]
  | cons c rest ih =>
      by_cases isOpen : c = '<'
      · rw [isOpen, eraseGenerics_open, ih, settles_open_iff]
      · by_cases isClose : c = '>'
        · rw [isClose]
          cases opened with
          | zero => exact iff_of_false Bool.false_ne_true not_settles_close
          | succ opened => rw [eraseGenerics_close, ih, settles_close_iff]
        · rw [settles_other_iff isOpen isClose, ← ih]
          cases opened with
          | zero => rw [eraseGenerics_outside isOpen isClose, Option.isSome_map]
          | succ opened => rw [eraseGenerics_inside isOpen isClose]

/-- Within an open group nothing is kept of a text that settles what was opened later. -/
theorem eraseGenerics_append {levels : Nat} {inside : List Char} (settles : Settles levels inside)
    (opened : Nat) (rest : List Char) :
    eraseGenerics (opened + levels + 1) (inside ++ rest) = eraseGenerics (opened + 1) rest := by
  induction inside generalizing levels with
  | nil => rw [settles_nil_iff.mp settles, List.nil_append, Nat.add_zero]
  | cons c inside ih =>
      rw [List.cons_append]
      by_cases isOpen : c = '<'
      · rw [isOpen, settles_open_iff] at settles
        rw [isOpen, eraseGenerics_open]
        exact ih settles
      · by_cases isClose : c = '>'
        · rw [isClose] at settles
          cases levels with
          | zero => exact absurd settles not_settles_close
          | succ levels =>
              rw [isClose, eraseGenerics_close]
              exact ih (settles_close_iff.mp settles)
        · rw [settles_other_iff isOpen isClose] at settles
          rw [eraseGenerics_inside isOpen isClose, ih settles]

theorem eraseGenerics_insert (before : List Char) {inside : List Char}
    (balanced : Balanced inside) (after : List Char) (opened : Nat) :
    eraseGenerics opened (before ++ '<' :: (inside ++ '>' :: after)) =
      eraseGenerics opened (before ++ after) := by
  induction before generalizing opened with
  | nil =>
      rw [List.nil_append, List.nil_append, eraseGenerics_open,
        eraseGenerics_append balanced opened, eraseGenerics_close]
  | cons c before ih =>
      cases opened with
      | zero => simp only [List.cons_append, eraseGenerics, ih]
      | succ opened => simp only [List.cons_append, eraseGenerics, ih]

/-!
# Reading
-/

theorem Settles.append {opened : Nat} {left right : List Char} (settles : Settles opened left)
    (balanced : Balanced right) : Settles opened (left ++ right) := by
  constructor
  · intro start isPrefix
    rcases isPrefix with ⟨rest, whole⟩
    -- A prefix ends in the left text, or it closes all of that and ends in the right one.
    rcases List.append_eq_append_iff.mp whole with ⟨middle, rfl, _⟩ | ⟨middle, rfl, rfl⟩
    · exact settles.prefixes start (List.prefix_append start middle)
    · have inRight := balanced.prefixes middle (List.prefix_append middle rest)
      have settled := settles.settled
      rw [List.count_append, List.count_append]
      omega
  · have settled := settles.settled
    have settledRight := balanced.settled
    rw [List.count_append, List.count_append]
    omega

theorem balanced_of_blank {text : List Char} (blank : ∀ c ∈ text, Text.isBlank c = true) :
    Balanced text := by
  induction text with
  | nil => exact settles_nil_iff.mpr rfl
  | cons c rest ih =>
      have solid : Text.isBlank c = true := blank c List.mem_cons_self
      have notOpen : c ≠ '<' := fun same => by rw [same] at solid; exact absurd solid (by decide)
      have notClose : c ≠ '>' := fun same => by rw [same] at solid; exact absurd solid (by decide)
      exact (settles_other_iff notOpen notClose).mpr
        (ih fun c mem => blank c (List.mem_cons_of_mem _ mem))

theorem balanced_of_trim {text : List Char} (balanced : Balanced (Text.trim text)) :
    Balanced text := by
  rcases Text.exists_trim text with ⟨front, back, whole, blankFront, blankBack⟩
  rw [whole]
  exact (balanced_of_blank blankFront).append (balanced.append (balanced_of_blank blankBack))

theorem balanced_of_parse? {raw : String} {type : SourceType} (read : parse? raw = some type) :
    Balanced raw.toList := by
  rcases Option.bind_eq_some_iff.mp read with ⟨erased, found, _⟩
  exact balanced_of_trim (isSome_eraseGenerics_iff.mp (by rw [found]; rfl))

theorem isTrimmed_insert {before after : List Char} (inside : List Char)
    (trimmed : Text.IsTrimmed (before ++ after)) :
    Text.IsTrimmed (before ++ '<' :: (inside ++ '>' :: after)) := by
  constructor
  · cases before with
    | nil =>
        intro c isFirst
        rw [← Option.some.inj isFirst]
        decide
    | cons first before => exact trimmed.starts
  · have ends := trimmed.ends
    have whole : before ++ '<' :: (inside ++ '>' :: after) =
        before ++ '<' :: inside ++ ['>'] ++ after := by
      simp
    rw [whole, List.getLast?_append, List.getLast?_concat]
    rw [List.getLast?_append] at ends
    cases last : after.getLast? with
    | some c => rwa [last] at ends
    | none =>
        intro c isLast
        rw [← Option.some.inj isLast]
        decide

theorem parse?_insert {before inside after : String}
    (trimmed : Text.IsTrimmed (before ++ after).toList) (balanced : Balanced inside.toList) :
    parse? (before ++ "<" ++ inside ++ ">" ++ after) = parse? (before ++ after) := by
  have whole : (before ++ "<" ++ inside ++ ">" ++ after).toList =
      before.toList ++ '<' :: (inside.toList ++ '>' :: after.toList) := by
    simp
  rw [String.toList_append] at trimmed
  rw [parse?, parse?, whole, String.toList_append, Text.trim_of_isTrimmed trimmed,
    Text.trim_of_isTrimmed (isTrimmed_insert inside.toList trimmed),
    eraseGenerics_insert before.toList balanced]

/-- A balanced group in angle brackets, wherever it stands in a text without blanks at its
ends, changes nothing in what the text is read as. A text whose brackets do not balance is
reported. -/
theorem parse_blind_to_generics :
    (∀ before inside after : String, Text.IsTrimmed (before ++ after).toList →
      Balanced inside.toList → ∀ type,
        parse (before ++ "<" ++ inside ++ ">" ++ after) = .ok type ↔
          parse (before ++ after) = .ok type) ∧
    ∀ raw : String, ¬Balanced raw.toList → parse raw = .error (.unsupportedType raw) := by
  constructor
  · intro before inside after trimmed balanced type
    rw [parse_eq_ok_iff, parse_eq_ok_iff, parse?_insert trimmed balanced]
  · intro raw unbalanced
    rw [parse_eq_error_iff]
    refine ⟨?_, rfl⟩
    cases read : parse? raw with
    | none => rfl
    | some type => exact absurd (balanced_of_parse? read) unbalanced

theorem parse_blind_to_generics_nested :
    Text.IsTrimmed ("Map" ++ "[]").toList ∧ Balanced "K, List<E>".toList ∧
      parse ("Map" ++ "<" ++ "K, List<E>" ++ ">" ++ "[]") = .ok ⟨.object ⟨"Map"⟩, 1⟩ ∧
      ¬Balanced "List<E".toList ∧ parse "List<E" = .error (.unsupportedType "List<E") := by
  have ends : ("Map" ++ "[]").toList = "Map[".toList ++ [']'] := rfl
  have trimmed : Text.IsTrimmed ("Map" ++ "[]").toList :=
    Text.isTrimmed_of_ends rfl ends (by decide) (by decide)
  have balanced : Balanced "K, List<E>".toList := isSome_eraseGenerics_iff.mp (by decide)
  have unbalanced : ¬Balanced "List<E".toList := by
    intro balanced
    exact absurd (isSome_eraseGenerics_iff.mpr balanced) (by decide)
  have read : parse ("Map" ++ "[]") = .ok ⟨.object ⟨"Map"⟩, 1⟩ :=
    parse_eq_ok_iff.mpr (by decide)
  exact ⟨trimmed, balanced,
    (parse_blind_to_generics.left "Map" "K, List<E>" "[]" trimmed balanced _).mpr read,
    unbalanced, parse_blind_to_generics.right _ unbalanced⟩

end SourceType
end ClassAtlas
