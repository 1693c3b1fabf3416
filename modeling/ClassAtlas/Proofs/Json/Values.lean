import ClassAtlas.Proofs.Json.Tokens

/-!
# Values are read back

A value of texts, truth values and nulls, however nested, is read back from what is written
for it. The tokens of the value are the middle ground: the written text falls into them,
and the reader builds the value from them.
-/

namespace ClassAtlas
namespace Json

/-- A value without numbers in which everything can be read. -/
inductive Textual : Json → Prop where
  | null : Textual .null
  | bool (value : Bool) : Textual (.bool value)
  | string (text : String) : Textual (.string text)
  | array {items : List Json} (each : ∀ item ∈ items, Textual item) : Textual (.array items)
  | object {members : List (String × Json)} (each : ∀ member ∈ members, Textual member.2) :
      Textual (.object members)

mutual

def tokens : Json → List Token
  | .null => [.null]
  | .bool value => [.bool value]
  | .number literal => [.number literal]
  | .string text => [.string (some text)]
  | .array items => .openArray :: (itemTokens items ++ [.closeArray])
  | .object members => .openObject :: (memberTokens members ++ [.closeObject])
  | .unreadable => [.string none]

def itemTokens : List Json → List Token
  | [] => []
  | [item] => tokens item
  | item :: rest => tokens item ++ .comma :: itemTokens rest

def memberTokens : List (String × Json) → List Token
  | [] => []
  | [(name, value)] => .string (some name) :: .colon :: tokens value
  | (name, value) :: rest =>
      .string (some name) :: .colon :: (tokens value ++ .comma :: memberTokens rest)

end

theorem itemTokens_cons_cons (item next : Json) (others : List Json) :
    itemTokens (item :: next :: others) =
      tokens item ++ .comma :: itemTokens (next :: others) := by
  rw [itemTokens]
  exact List.cons_ne_nil next others

theorem memberTokens_cons_cons (name : String) (value : Json) (next : String × Json)
    (others : List (String × Json)) :
    memberTokens ((name, value) :: next :: others) = .string (some name) :: .colon ::
      (tokens value ++ .comma :: memberTokens (next :: others)) := by
  rw [memberTokens]
  exact List.cons_ne_nil next others

/-!
# Written values fall into their tokens
-/

/-- What is written for the value falls into its tokens, whatever follows. -/
def FallsApart (value : Json) : Prop :=
  ∀ (level : Nat) {rest : List Char} {later : List Token}, Token.Cuts rest later →
    Token.Cuts (prettyChars level value ++ rest) (tokens value ++ later)

theorem cuts_prettyItems {items : List Json} (each : ∀ item ∈ items, FallsApart item)
    (level : Nat) {rest : List Char} {later : List Token} (cuts : Token.Cuts rest later) :
    Token.Cuts (prettyItems level items ++ rest) (itemTokens items ++ later) := by
  match items with
  | [] => exact cuts
  | [item] =>
      rw [prettyItems, itemTokens, List.append_assoc]
      exact Token.cuts_newLine (each item List.mem_cons_self level cuts) level
  | item :: next :: others =>
      have inRest := cuts_prettyItems
        (fun other mem => each other (List.mem_cons_of_mem item mem)) level cuts
      have separated := Token.Cuts.token (c := ',') rfl rfl (Nat.le_refl _) inRest
      have first := each item List.mem_cons_self level separated
      simpa only [prettyItems, itemTokens, List.append_assoc, List.cons_append] using
        Token.cuts_newLine first level

theorem cuts_prettyMembers {members : List (String × Json)}
    (each : ∀ member ∈ members, FallsApart member.2) (level : Nat) {rest : List Char}
    {later : List Token} (cuts : Token.Cuts rest later) :
    Token.Cuts (prettyMembers level members ++ rest) (memberTokens members ++ later) := by
  have named : ∀ (name : String) {text : List Char} {tokens : List Token},
      Token.Cuts text tokens →
        Token.Cuts (newLine level ++ (stringChars name ++ ':' :: ' ' :: text))
          (.string (some name) :: .colon :: tokens) := by
    intro name text tokens value
    have spaced := Token.Cuts.space (c := ' ') rfl value
    have colon := Token.Cuts.token (c := ':') rfl rfl (Nat.le_refl _) spaced
    exact Token.cuts_newLine (Token.cuts_string colon name) level
  match members with
  | [] => exact cuts
  | [(name, value)] =>
      have only := named name (each (name, value) List.mem_cons_self level cuts)
      simpa only [prettyMembers, memberTokens, List.append_assoc, List.cons_append] using only
  | (name, value) :: next :: others =>
      have inRest := cuts_prettyMembers
        (fun other mem => each other (List.mem_cons_of_mem (name, value) mem)) level cuts
      have separated := Token.Cuts.token (c := ',') rfl rfl (Nat.le_refl _) inRest
      have first := named name (each (name, value) List.mem_cons_self level separated)
      simpa only [prettyMembers, memberTokens, List.append_assoc, List.cons_append] using first

theorem Textual.fallsApart {value : Json} (textual : Textual value) : FallsApart value := by
  induction textual with
  | null =>
      intro level rest later cuts
      exact .token (c := 'n') rfl rfl (Nat.le_add_right rest.length 3) cuts
  | bool value =>
      intro level rest later cuts
      cases value with
      | true => exact .token (c := 't') rfl rfl (Nat.le_add_right rest.length 3) cuts
      | false => exact .token (c := 'f') rfl rfl (Nat.le_add_right rest.length 4) cuts
  | string text =>
      intro level rest later cuts
      exact Token.cuts_string cuts text
  | @array items each ih =>
      intro level rest later cuts
      have closed := Token.Cuts.token (c := ']') rfl rfl (Nat.le_refl _) cuts
      cases items with
      | nil => exact .token (c := '[') rfl rfl (Nat.le_refl _) closed
      | cons item others =>
          have inside := cuts_prettyItems ih (level + 1) (Token.cuts_newLine closed level)
          have opened := Token.Cuts.token (c := '[') rfl rfl (Nat.le_refl _) inside
          simpa only [prettyChars, tokens, List.append_assoc, List.cons_append,
            List.nil_append] using opened
  | @object members each ih =>
      intro level rest later cuts
      have closed := Token.Cuts.token (c := '\x7d') rfl rfl (Nat.le_refl _) cuts
      cases members with
      | nil => exact .token (c := '\x7b') rfl rfl (Nat.le_refl _) closed
      | cons member others =>
          have inside := cuts_prettyMembers ih (level + 1) (Token.cuts_newLine closed level)
          have opened := Token.Cuts.token (c := '\x7b') rfl rfl (Nat.le_refl _) inside
          simpa only [prettyChars, tokens, List.append_assoc, List.cons_append,
            List.nil_append] using opened

/-!
# The reader builds the value from its tokens
-/

/-- From the tokens of the value the reader builds it, whatever is open and whatever follows. -/
def IsBuilt (value : Json) : Prop :=
  ∀ (outer : List Open) (later : List Token),
    Reader.run .none (.beforeValue outer) (tokens value ++ later) =
      Reader.run .none (.afterValue outer value) later

theorem run_itemTokens {items : List Json} (each : ∀ item ∈ items, IsBuilt item)
    (more : items ≠ []) (outer : List Open) (read : List Json) (later : List Token) :
    Reader.run .none (.beforeValue (.items read :: outer))
        (itemTokens items ++ .closeArray :: later) =
      Reader.run .none (.afterValue outer (.array (read.reverse ++ items))) later := by
  match items with
  | [] => exact absurd rfl more
  | [item] =>
      rw [itemTokens, each item List.mem_cons_self, ← List.reverse_cons]
      rfl
  | item :: next :: others =>
      have inRest := run_itemTokens (fun other mem => each other (List.mem_cons_of_mem item mem))
        (List.cons_ne_nil next others) outer (item :: read) later
      rw [List.reverse_cons, List.append_assoc] at inRest
      rw [itemTokens_cons_cons, List.append_assoc, each item List.mem_cons_self]
      exact inRest

theorem run_memberTokens {members : List (String × Json)}
    (each : ∀ member ∈ members, IsBuilt member.2) (more : members ≠ []) (outer : List Open)
    (read : List (Option String × Json)) (later : List Token) :
    Reader.run .none (.beforeName outer read) (memberTokens members ++ .closeObject :: later) =
      Reader.run .none (.afterValue outer (.ofMembers (read.reverse ++
        members.map fun member => (some member.1, member.2)))) later := by
  match members with
  | [] => exact absurd rfl more
  | [(name, value)] =>
      have built := each (name, value) List.mem_cons_self (.members read (some name) :: outer)
        (.closeObject :: later)
      rw [List.map_singleton, ← List.reverse_cons]
      exact built
  | (name, value) :: next :: others =>
      have inRest := run_memberTokens
        (fun other mem => each other (List.mem_cons_of_mem (name, value) mem))
        (List.cons_ne_nil next others) outer ((some name, value) :: read) later
      rw [List.reverse_cons, List.append_assoc] at inRest
      have built := each (name, value) List.mem_cons_self (.members read (some name) :: outer)
        (.comma :: (memberTokens (next :: others) ++ .closeObject :: later))
      rw [memberTokens_cons_cons, List.cons_append, List.cons_append, List.append_assoc]
      exact built.trans inRest

theorem ofMembers_map (members : List (String × Json)) :
    ofMembers (members.map fun member => (some member.1, member.2)) = .object members := by
  have each : ∀ collect : Option String × Json → Option (String × Json),
      (∀ name value, collect (some name, value) = some (name, value)) →
        (members.map fun member => (some member.1, member.2)).mapM collect = some members := by
    intro collect collects
    induction members with
    | nil => rfl
    | cons first rest ih => rw [List.map_cons, List.mapM_cons, collects, ih]; rfl
  rw [ofMembers, each _ fun _ _ => rfl]

/-- A value may stand where the end of an array may stand. -/
theorem run_arrayStart (value : Json) (outer : List Open) (later : List Token) :
    Reader.run .none (.arrayStart outer) (tokens value ++ later) =
      Reader.run .none (.beforeValue (.items [] :: outer)) (tokens value ++ later) := by
  cases value <;> rfl

theorem Textual.isBuilt {value : Json} (textual : Textual value) : IsBuilt value := by
  induction textual with
  | null => exact fun _ _ => rfl
  | bool value => exact fun _ _ => rfl
  | string text => exact fun _ _ => rfl
  | @array items each ih =>
      intro outer later
      rw [tokens, List.cons_append, List.append_assoc]
      match items with
      | [] => rfl
      | [item] =>
          exact (run_arrayStart item outer _).trans
            (run_itemTokens ih (List.cons_ne_nil item []) outer [] later)
      | item :: next :: others =>
          have whole := run_itemTokens ih (List.cons_ne_nil item (next :: others)) outer [] later
          rw [itemTokens_cons_cons, List.append_assoc] at whole ⊢
          exact (run_arrayStart item outer _).trans whole
  | @object members each ih =>
      intro outer later
      rw [tokens, List.cons_append, List.append_assoc]
      match members with
      | [] => rfl
      | (name, value) :: others =>
          have whole := run_memberTokens ih (List.cons_ne_nil (name, value) others) outer [] later
          rw [List.reverse_nil, List.nil_append, ofMembers_map] at whole
          rw [← whole]
          cases others with
          | nil => rfl
          | cons next more => rw [memberTokens_cons_cons]; rfl

/-- A value without numbers is read back from what is written for it. -/
theorem parse?_pretty {value : Json} (textual : Textual value) :
    parse? .none value.pretty = some value := by
  have cuts := textual.fallsApart 0 Token.Cuts.nil
  have built := textual.isBuilt [] []
  rw [List.append_nil, List.append_nil] at cuts
  rw [List.append_nil] at built
  rw [parse?, pretty, String.toList_ofList, cuts.ofChars?, Option.bind_some, ofTokens?, built]
  rfl

end Json
end ClassAtlas
