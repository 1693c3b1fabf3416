/-!
# Cutting a text at a separator

A text is the join of the pieces between its separators, and it has one piece
more than it has separators. The last separator alone parts a qualified name
from what qualifies it.
-/

namespace ClassAtlas
namespace Text

theorem not_mem_of_mem_splitOn {separator : Char} {text piece : List Char}
    (mem : piece ∈ text.splitOn separator) : separator ∉ piece := by
  induction text generalizing piece with
  | nil =>
      rw [List.splitOn_nil] at mem
      rw [List.mem_singleton.mp mem]
      exact List.not_mem_nil
  | cons c rest ih =>
      rw [List.splitOn_cons_eq_if_modifyHead] at mem
      split at mem
      · rcases List.mem_cons.mp mem with rfl | later
        · exact List.not_mem_nil
        · exact ih later
      · next other =>
          cases cut : rest.splitOn separator with
          | nil => exact absurd cut (List.splitOn_ne_nil separator rest)
          | cons first others =>
              rw [cut] at mem ih
              rw [List.modifyHead_cons] at mem
              rcases List.mem_cons.mp mem with rfl | later
              · simp only [beq_iff_eq] at other
                rw [List.mem_cons, not_or]
                exact ⟨Ne.symm other, ih List.mem_cons_self⟩
              · exact ih (List.mem_cons_of_mem first later)

theorem length_splitOn (separator : Char) (text : List Char) :
    (text.splitOn separator).length = text.count separator + 1 := by
  induction text with
  | nil => rfl
  | cons c rest ih =>
      rw [List.splitOn_cons_eq_if_modifyHead, List.count_cons]
      split
      · rw [List.length_cons, ih]
      · rw [List.length_modifyHead, ih]

theorem two_le_length_splitOn_iff {separator : Char} {text : List Char} :
    2 ≤ (text.splitOn separator).length ↔ separator ∈ text := by
  rw [length_splitOn, Nat.succ_le_succ_iff]
  exact List.count_pos_iff

/-- A text is cut in one way only at the first place where a mark stands. -/
theorem append_cons_inj_of_not_mem {mark : Char} {left right restLeft restRight : List Char}
    (cleanLeft : mark ∉ left) (cleanRight : mark ∉ right)
    (same : left ++ mark :: restLeft = right ++ mark :: restRight) :
    left = right ∧ restLeft = restRight := by
  induction left generalizing right with
  | nil =>
      cases right with
      | nil => exact ⟨rfl, (List.cons.inj same).right⟩
      | cons c right =>
          have isMark : mark = c := (List.cons.inj same).left
          exact absurd (isMark ▸ List.mem_cons_self) cleanRight
  | cons c left ih =>
      cases right with
      | nil =>
          have isMark : c = mark := (List.cons.inj same).left
          exact absurd (isMark ▸ List.mem_cons_self) cleanLeft
      | cons d right =>
          rcases List.cons.inj same with ⟨rfl, later⟩
          rw [List.mem_cons, not_or] at cleanLeft cleanRight
          rcases ih cleanLeft.right cleanRight.right later with ⟨rfl, restSame⟩
          exact ⟨rfl, restSame⟩

/-!
# Joined pieces
-/

variable {separator : Char} {parts : List (List Char)}

theorem intercalate_cons (part : List Char) (more : parts ≠ []) :
    [separator].intercalate (part :: parts) =
      part ++ separator :: [separator].intercalate parts := by
  rw [List.intercalate_cons_of_ne_nil more, List.append_assoc, List.singleton_append]

theorem intercalate_append_singleton (present : parts ≠ []) (last : List Char) :
    [separator].intercalate (parts ++ [last]) =
      [separator].intercalate parts ++ separator :: last := by
  induction parts with
  | nil => exact absurd rfl present
  | cons part others ih =>
      cases others with
      | nil => rw [List.singleton_append, intercalate_cons part (List.cons_ne_nil last []),
          List.intercalate_singleton, List.intercalate_singleton]
      | cons next rest =>
          have more := List.cons_ne_nil next rest
          have moreAndLast := List.append_ne_nil_of_left_ne_nil more [last]
          rw [List.cons_append, intercalate_cons part moreAndLast, ih more,
            intercalate_cons part more, List.append_assoc]
          rfl

theorem mem_intercalate {c : Char} (mem : c ∈ [separator].intercalate parts) :
    c = separator ∨ ∃ part ∈ parts, c ∈ part := by
  induction parts with
  | nil => cases mem
  | cons part others ih =>
      cases others with
      | nil =>
          rw [List.intercalate_singleton] at mem
          exact Or.inr ⟨part, List.mem_cons_self, mem⟩
      | cons next rest =>
          rw [intercalate_cons part (List.cons_ne_nil next rest)] at mem
          rcases List.mem_append.mp mem with here | later
          · exact Or.inr ⟨part, List.mem_cons_self, here⟩
          · rcases List.mem_cons.mp later with isSeparator | later
            · exact Or.inl isSeparator
            · rcases ih later with isSeparator | ⟨found, inOthers, mem⟩
              · exact Or.inl isSeparator
              · exact Or.inr ⟨found, List.mem_cons_of_mem part inOthers, mem⟩

theorem mem_intercalate_of_mem {c : Char} {part : List Char} (mem : part ∈ parts)
    (inPart : c ∈ part) : c ∈ [separator].intercalate parts := by
  induction parts with
  | nil => cases mem
  | cons first others ih =>
      cases others with
      | nil =>
          rw [List.mem_singleton.mp mem] at inPart
          rw [List.intercalate_singleton]
          exact inPart
      | cons next rest =>
          rw [intercalate_cons first (List.cons_ne_nil next rest)]
          rcases List.mem_cons.mp mem with rfl | later
          · exact List.mem_append_left _ inPart
          · exact List.mem_append_right _ (List.mem_cons_of_mem _ (ih later))

theorem exists_intercalate_cons_cons (first : Char) (part : List Char)
    (others : List (List Char)) :
    ∃ rest, [separator].intercalate ((first :: part) :: others) = first :: rest := by
  cases others with
  | nil => exact ⟨part, List.intercalate_singleton⟩
  | cons next rest => exact ⟨_, intercalate_cons (first :: part) (List.cons_ne_nil next rest)⟩

theorem exists_last_intercalate (present : parts ≠ []) (solid : ∀ part ∈ parts, part ≠ []) :
    ∃ before part last, [separator].intercalate parts = before ++ [last] ∧ part ∈ parts ∧
      last ∈ part := by
  induction parts with
  | nil => exact absurd rfl present
  | cons part others ih =>
      cases others with
      | nil =>
          have filled := solid part List.mem_cons_self
          refine ⟨part.dropLast, part, part.getLast filled, ?_, List.mem_cons_self,
            List.getLast_mem filled⟩
          rw [List.intercalate_singleton, List.dropLast_concat_getLast filled]
      | cons next rest =>
          have more := List.cons_ne_nil next rest
          obtain ⟨before, found, last, shape, inOthers, mem⟩ :=
            ih more fun other inOthers => solid other (List.mem_cons_of_mem part inOthers)
          refine ⟨part ++ separator :: before, found, last, ?_,
            List.mem_cons_of_mem part inOthers, mem⟩
          rw [intercalate_cons part more, shape, List.append_assoc]
          rfl

theorem intercalate_map_splitOn (separator mark : Char) (change : Char → Char)
    (text : List Char) :
    [mark].intercalate ((text.splitOn separator).map fun piece => piece.map change) =
      text.map fun c => if c = separator then mark else change c := by
  induction text with
  | nil => rfl
  | cons c rest ih =>
      have more : ((rest.splitOn separator).map fun piece => piece.map change) ≠ [] :=
        mt List.map_eq_nil_iff.mp (List.splitOn_ne_nil separator rest)
      rw [List.splitOn_cons_eq_if_modifyHead, List.map_cons, ← ih]
      by_cases isSeparator : c = separator
      · rw [if_pos (beq_iff_eq.mpr isSeparator), if_pos isSeparator, List.map_cons,
          intercalate_cons _ more]
        rfl
      · rw [if_neg (mt beq_iff_eq.mp isSeparator), if_neg isSeparator]
        cases cut : rest.splitOn separator with
        | nil => exact absurd cut (List.splitOn_ne_nil separator rest)
        | cons piece others =>
            cases others with
            | nil => simp
            | cons next more => simp

/-!
# The last separator
-/

/-- What stands before and after the last separator, if there is one. -/
def splitLast? (separator : Char) : List Char → Option (List Char × List Char)
  | [] => none
  | c :: rest =>
      match splitLast? separator rest with
      | some (before, after) => some (c :: before, after)
      | none => if c = separator then some ([], rest) else none

theorem splitLast?_eq_none_iff {text : List Char} :
    splitLast? separator text = none ↔ separator ∉ text := by
  induction text with
  | nil => simp [splitLast?]
  | cons c rest ih =>
      rw [splitLast?]
      split
      · next before after found =>
          have present : separator ∈ rest := by
            apply Classical.byContradiction
            intro absent
            simp [ih.mpr absent] at found
          simp [present]
      · next absent =>
          have clean := ih.mp absent
          by_cases isSeparator : c = separator
          · simp [isSeparator]
          · simp [isSeparator, clean, Ne.symm isSeparator]

theorem eq_append_of_splitLast? {text before after : List Char}
    (found : splitLast? separator text = some (before, after)) :
    text = before ++ separator :: after ∧ separator ∉ after := by
  induction text generalizing before with
  | nil => simp [splitLast?] at found
  | cons c rest ih =>
      rw [splitLast?] at found
      split at found
      · next start stop later =>
          rcases Prod.mk.inj (Option.some.inj found) with ⟨rfl, rfl⟩
          rcases ih later with ⟨whole, clean⟩
          exact ⟨by simp [← whole], clean⟩
      · next absent =>
          split at found
          · next isSeparator =>
              rcases Prod.mk.inj (Option.some.inj found) with ⟨rfl, rfl⟩
              exact ⟨by simp [isSeparator], splitLast?_eq_none_iff.mp absent⟩
          · exact absurd found (by simp)

theorem splitLast?_append_cons {before after : List Char}
    (clean : separator ∉ after) :
    splitLast? separator (before ++ separator :: after) = some (before, after) := by
  induction before with
  | nil => simp [splitLast?, splitLast?_eq_none_iff.mpr clean]
  | cons c before ih => simp [splitLast?, ih]

theorem splitLast?_eq_some_iff {text before after : List Char} :
    splitLast? separator text = some (before, after) ↔
      text = before ++ separator :: after ∧ separator ∉ after := by
  constructor
  · exact eq_append_of_splitLast?
  · intro parts
    rcases parts with ⟨rfl, clean⟩
    exact splitLast?_append_cons clean

theorem splitOn_of_splitLast? {text before after : List Char}
    (found : splitLast? separator text = some (before, after)) :
    text.splitOn separator = before.splitOn separator ++ [after] := by
  rcases eq_append_of_splitLast? found with ⟨rfl, clean⟩
  rw [List.splitOn_append_cons_self, List.splitOn_eq_singleton clean]

theorem exists_splitOn_append {ending : List Char} (clean : separator ∉ ending)
    (text : List Char) : ∃ others last, text.splitOn separator = others ++ [last] ∧
      (text ++ ending).splitOn separator = others ++ [last ++ ending] := by
  cases split : splitLast? separator text with
  | none =>
      have cleanText := splitLast?_eq_none_iff.mp split
      exact ⟨[], text, List.splitOn_eq_singleton cleanText,
        List.splitOn_eq_singleton (by simp [cleanText, clean])⟩
  | some parts =>
      rcases parts with ⟨before, after⟩
      rcases eq_append_of_splitLast? split with ⟨rfl, cleanAfter⟩
      have single : (after ++ ending).splitOn separator = [after ++ ending] :=
        List.splitOn_eq_singleton (by simp [cleanAfter, clean])
      refine ⟨before.splitOn separator, after, splitOn_of_splitLast? split, ?_⟩
      rw [List.append_assoc, List.cons_append, List.splitOn_append_cons_self, single]

theorem mem_splitOn_append {text ending piece : List Char}
    (clean : separator ∉ ending) (mem : piece ∈ (text ++ ending).splitOn separator) :
    piece ∈ text.splitOn separator ∨
      ∃ last ∈ text.splitOn separator, piece = last ++ ending := by
  rcases exists_splitOn_append clean text with ⟨others, last, whole, extended⟩
  rw [extended] at mem
  rw [whole]
  rcases List.mem_append.mp mem with early | isLast
  · exact Or.inl (List.mem_append_left _ early)
  · exact Or.inr ⟨last, List.mem_append_right _ (List.mem_singleton_self last),
      List.mem_singleton.mp isLast⟩

/-!
# Cutting known ends off
-/

def afterStart? : List Char → List Char → Option (List Char)
  | [], text => some text
  | _ :: _, [] => none
  | s :: start, c :: text => if s = c then afterStart? start text else none

def beforeEnd? (ending text : List Char) : Option (List Char) :=
  (afterStart? ending.reverse text.reverse).map List.reverse

theorem afterStart?_eq_some_iff {start text rest : List Char} :
    afterStart? start text = some rest ↔ text = start ++ rest := by
  induction start generalizing text with
  | nil => simp [afterStart?]
  | cons s start ih =>
      cases text with
      | nil => simp [afterStart?]
      | cons c text =>
          by_cases same : s = c
          · simp [afterStart?, same, ih]
          · simp [afterStart?, same, Ne.symm same]

theorem beforeEnd?_eq_some_iff {ending text rest : List Char} :
    beforeEnd? ending text = some rest ↔ text = rest ++ ending := by
  rw [beforeEnd?, Option.map_eq_some_iff]
  constructor
  · intro found
    rcases found with ⟨reversed, cut, rfl⟩
    have whole := congrArg List.reverse (afterStart?_eq_some_iff.mp cut)
    simpa using whole
  · intro whole
    exact ⟨rest.reverse, by simp [afterStart?_eq_some_iff, whole], by simp⟩

theorem beforeEnd?_eq_none {ending text : List Char} {mark : Char}
    (ends : ending.getLast? = some mark) (other : text.getLast? ≠ some mark) :
    beforeEnd? ending text = none := by
  refine Option.eq_none_iff_forall_ne_some.mpr fun stem found => other ?_
  rw [beforeEnd?_eq_some_iff.mp found, List.getLast?_append, ends]
  rfl

end Text
end ClassAtlas
