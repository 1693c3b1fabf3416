import ClassAtlas.Text.Blank
import ClassAtlas.Text.Identifier

/-!
# Identifiers and other characters

Blanks, brackets and the separators of paths and descriptors are no characters
of identifiers, so a text of identifiers can be found between them.
-/

namespace ClassAtlas
namespace Text

def blankCodes : List Nat :=
  [9, 10, 11, 12, 13, 0x20, 0x85, 0xA0, 0x1680, 0x2000, 0x2001, 0x2002, 0x2003, 0x2004, 0x2005,
    0x2006, 0x2007, 0x2008, 0x2009, 0x200A, 0x2028, 0x2029, 0x202F, 0x205F, 0x3000]

theorem toNat_mem_blankCodes {c : Char} (blank : isBlank c = true) :
    c.toNat ∈ blankCodes := by
  simp only [isBlank, Bool.or_eq_true, Bool.and_eq_true, decide_eq_true_eq] at blank
  simp only [blankCodes, List.mem_cons, List.not_mem_nil, or_false]
  omega

theorem continuesIdentifier_blankCodes :
    ∀ code ∈ blankCodes, continuesIdentifier (Char.ofNat code) = false := by
  decide +kernel

theorem continuesIdentifier_of_isBlank {c : Char} (blank : isBlank c = true) :
    continuesIdentifier c = false := by
  have listed := continuesIdentifier_blankCodes c.toNat (toNat_mem_blankCodes blank)
  rwa [Char.ofNat_toNat] at listed

theorem isBlank_of_continuesIdentifier {c : Char} (continues : continuesIdentifier c = true) :
    isBlank c = false := by
  cases blank : isBlank c with
  | false => rfl
  | true => simp [continuesIdentifier_of_isBlank blank] at continues

/-!
# Characters with a meaning of their own
-/

def markCharacters : List Char :=
  ['.', '/', ';', '[', ']', '<', '>']

theorem continuesIdentifier_markCharacters :
    ∀ c ∈ markCharacters, continuesIdentifier c = false := by
  intro c isMark
  have none : markCharacters.any continuesIdentifier = false := by decide
  simpa using List.any_eq_false.mp none c isMark

theorem ne_of_continuesIdentifier {c mark : Char} (continues : continuesIdentifier c = true)
    (isMark : mark ∈ markCharacters) : c ≠ mark := by
  intro same
  rw [same, continuesIdentifier_markCharacters mark isMark] at continues
  exact Bool.noConfusion continues

end Text
end ClassAtlas
