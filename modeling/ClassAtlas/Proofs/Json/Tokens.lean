import ClassAtlas.Json.Parser
import ClassAtlas.Json.Printer

/-!
# Texts are cut into the tokens they were written with

A written character is read back from its escape, so a written string is read back whole,
whatever it holds. How a text falls into tokens is stated as a relation, with the white
space in front of each; the scanner finds these tokens.
-/

namespace ClassAtlas
namespace Json
namespace Token

/-!
# Characters
-/

theorem hexDigits_low : ∀ n < 16, Text.hexDigits n = [Nat.digitChar n] ∧
    codeUnit? '0' '0' '0' (Nat.digitChar n) = some n := by
  decide

theorem hexDigits_high : ∀ n < 32, 16 ≤ n → Text.hexDigits n = ['1', Nat.digitChar (n - 16)] ∧
    codeUnit? '0' '0' '1' (Nat.digitChar (n - 16)) = some n := by
  decide

theorem readChar?_unit {c a b d e : Char} (unit : codeUnit? a b d e = some c.toNat)
    (control : c.toNat < 32) (rest : List Char) :
    readChar? ('\\' :: 'u' :: a :: b :: d :: e :: rest) = some (some c, rest) := by
  have plain : (c.toNat < 0xD800 || 0xE000 ≤ c.toNat) = true := by
    rw [Bool.or_eq_true]
    exact Or.inl (decide_eq_true (by omega))
  rw [readChar?, unit, Option.map_some, ofCodeUnit, if_pos plain, Char.ofNat_toNat]

theorem readChar?_plain {c : Char} (notBackslash : c ≠ '\\') (notControl : ¬c.toNat < 32)
    (rest : List Char) : readChar? (c :: rest) = some (some c, rest) := by
  unfold readChar?
  split
  · next impossible => cases impossible
  · next isUnit => exact absurd (List.cons.inj isUnit).left notBackslash
  · next isLast => exact absurd (List.cons.inj isLast).left notBackslash
  · next isEscape => exact absurd (List.cons.inj isEscape).left notBackslash
  · next same =>
      rcases List.cons.inj same with ⟨rfl, rfl⟩
      exact if_neg notControl

theorem readChar?_escape (c : Char) (rest : List Char) :
    readChar? (escape c ++ rest) = some (some c, rest) := by
  unfold escape
  split
  · next same => rw [same]; rfl
  split
  · next same => rw [same]; rfl
  next notBackslash =>
  split
  · next same => rw [same]; rfl
  split
  · next same => rw [same]; rfl
  split
  · next same => rw [same]; rfl
  split
  · next same => rw [same]; rfl
  split
  · next same => rw [same]; rfl
  split
  · next low =>
      rcases hexDigits_low c.toNat low with ⟨digits, unit⟩
      rw [digits]
      exact readChar?_unit unit (by omega) rest
  · next notLow =>
      split
      · next control =>
          rcases hexDigits_high c.toNat control (by omega) with ⟨digits, unit⟩
          rw [digits]
          exact readChar?_unit unit control rest
      · next notControl => exact readChar?_plain notBackslash notControl rest

theorem head?_escape_ne (c : Char) (rest : List Char) :
    (escape c ++ rest).head? ≠ some '"' := by
  intro starts
  rcases List.head?_eq_some_iff.mp starts with ⟨tail, same⟩
  have read := readChar?_escape c rest
  rw [same, readChar?_plain (by decide) (by decide)] at read
  have isQuote : '"' = c := Option.some.inj (Prod.mk.inj (Option.some.inj read)).left
  rw [← isQuote] at starts
  cases starts

/-!
# Strings
-/

theorem spelled?_map_some (text : List Char) :
    spelled? (text.map some) = some (String.ofList text) := by
  have each : (text.map some).mapM id = some text := by
    induction text with
    | nil => rfl
    | cons c rest ih => rw [List.map_cons, List.mapM_cons, ih]; rfl
  rw [spelled?, each]
  rfl

theorem readString?_escaped (text rest : List Char) (read : List (Option Char)) :
    readString? read (text.flatMap escape ++ '"' :: rest) =
      some (spelled? (read.reverse ++ text.map some), rest) := by
  induction text generalizing read with
  | nil =>
      rw [readString?]
      simp
  | cons c text ih =>
      rw [List.flatMap_cons, List.append_assoc, readString?, if_neg (head?_escape_ne c _)]
      have isRead := readChar?_escape c (text.flatMap escape ++ '"' :: rest)
      split
      · next failed =>
          rw [isRead] at failed
          cases failed
      · next found =>
          rw [isRead] at found
          rcases Prod.mk.inj (Option.some.inj found) with ⟨rfl, rfl⟩
          rw [ih, List.reverse_cons, List.append_assoc]
          rfl

theorem first?_stringChars (text : String) (rest : List Char) :
    first? (stringChars text ++ rest) = some (.string (some text), rest) := by
  have read := readString?_escaped text.toList rest []
  rw [List.reverse_nil, List.nil_append, spelled?_map_some, String.ofList_toList] at read
  rw [stringChars, List.cons_append, List.append_assoc]
  show (readString? [] _).map _ = _
  rw [List.singleton_append, read]
  rfl

/-!
# Cuts
-/

/-- A text falls into tokens, each with any white space in front of it. -/
inductive Cuts : List Char → List Token → Prop where
  | nil : Cuts [] []
  | space {c : Char} {text : List Char} {tokens : List Token} (isSpace : isSpace c = true)
      (later : Cuts text tokens) : Cuts (c :: text) tokens
  | token {c : Char} {text rest : List Char} {token : Token} {tokens : List Token}
      (solid : isSpace c = false) (first : first? (c :: text) = some (token, rest))
      (shorter : rest.length ≤ text.length) (later : Cuts rest tokens) :
      Cuts (c :: text) (token :: tokens)

/-- The scanner finds the tokens that a text falls into. -/
theorem Cuts.scan {text : List Char} {tokens : List Token} (cuts : Cuts text tokens)
    {count : Nat} (enough : text.length ≤ count) (read : List Token) :
    scan count read text = some (read.reverse ++ tokens) := by
  induction cuts generalizing count read with
  | nil => cases count <;> simp [Token.scan]
  | @space c text tokens isSpace later ih =>
      have skipped : Token.scan count read (c :: text) = Token.scan count read text := by
        cases count <;> rw [Token.scan, Token.scan, List.dropWhile_cons_of_pos isSpace]
      rw [skipped]
      exact ih (Nat.le_of_succ_le enough) read
  | @token c text rest token tokens solid first shorter later ih =>
      cases count with
      | zero => cases enough
      | succ count =>
          have whole : (c :: text).dropWhile isSpace = c :: text :=
            List.dropWhile_cons_of_neg (by rw [solid]; exact Bool.false_ne_true)
          have left : rest.length ≤ count := Nat.le_trans shorter (Nat.le_of_succ_le_succ enough)
          rw [Token.scan, whole, first]
          exact (ih left (token :: read)).trans (by simp)

theorem Cuts.ofChars? {text : List Char} {tokens : List Token} (cuts : Cuts text tokens) :
    ofChars? text = some tokens :=
  cuts.scan (Nat.le_refl _) []

theorem cuts_newLine {text : List Char} {tokens : List Token} (cuts : Cuts text tokens)
    (level : Nat) : Cuts (newLine level ++ text) tokens := by
  have indented : ∀ width, Cuts (List.replicate width ' ' ++ text) tokens := by
    intro width
    induction width with
    | zero => exact cuts
    | succ width ih => exact .space rfl ih
  exact .space rfl (indented (2 * level))

theorem cuts_string {rest : List Char} {tokens : List Token} (cuts : Cuts rest tokens)
    (text : String) : Cuts (stringChars text ++ rest) (.string (some text) :: tokens) := by
  refine .token rfl (first?_stringChars text rest) ?_ cuts
  simp only [List.append_eq, List.length_append]
  omega

end Token
end Json
end ClassAtlas
