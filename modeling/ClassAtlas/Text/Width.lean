import ClassAtlas.Text.Columns
import ClassAtlas.Text.Emoji
import ClassAtlas.Text.Ligature

/-!
# Display width

The number of columns a text takes in a fixed-width display. It is mostly the sum
over the characters, but a picture of several characters takes two columns, and
letters written as one sign take one. The text is read backwards: what a character
adds depends on what follows it.
-/

namespace ClassAtlas
namespace Text

/-!
# What follows a character
-/

/-- The beginning of what follows, as far as a character before it can join it. -/
inductive Context where
  | plain
  | lineFeed
  | tone
  | indicator
  | indicators
  | picture
  /-- A joiner and a picture. -/
  | joinedPicture
  /-- The sign of a keycap, a joiner and a picture. -/
  | joinedKeycap
  /-- One regional indicator, a joiner and a picture. -/
  | joinedIndicator
  | joinedEvenIndicators
  | joinedOddIndicators
  /-- So many tag letters up to the end of the tags, a joiner and a picture. -/
  | tagLetters (count : Nat)
  /-- Tag digits before such an end. -/
  | tagDigits (count : Nat)
  | kiratE
  | kiratAi
  | arabicAlef
  | hebrewLamed
  | khmerSubscript
  | bugineseYa
  /-- The vowel sign of a Buginese ligature with the letter behind it. -/
  | bugineseVowelYa
  | tifinaghConsonant
  /-- The joiner of its own of the Tifinagh script and a consonant. -/
  | tifinaghJoiner
  | lastToneLetter
  | orkhonI
deriving DecidableEq

namespace Context

/-- Letters that a hidden mark does not keep from joining. -/
def isLetter : Context → Bool
  | arabicAlef | hebrewLamed | khmerSubscript | bugineseYa | bugineseVowelYa
  | tifinaghConsonant | tifinaghJoiner | lastToneLetter | orkhonI => true
  | _ => false

/-- Letters that joiners and hidden marks are passed over before. Arabic letters
have a rule of their own. -/
def isTransparent (context : Context) : Bool :=
  context.isLetter && context ≠ arabicAlef

def isJoined : Context → Bool
  | joinedPicture | joinedKeycap => true
  | _ => false

def ofChar (c : Char) : Context :=
  if isArabicAlef c then arabicAlef
  else if c = '\u05DC' then hebrewLamed
  else if isKhmerSubscript c then khmerSubscript
  else if c = '\u1A10' then bugineseYa
  else if isTifinaghConsonant c then tifinaghConsonant
  else if isLastToneLetter c then lastToneLetter
  else if c.toNat = 0x10C03 then orkhonI
  else if c.toNat = 0x16D67 then kiratE
  else if c.toNat = 0x16D68 then kiratAi
  else if isIndicator c then indicator
  else if isTone c then tone
  else if isPicture c then picture
  else plain

end Context

/-- The context of a character and the selectors and joiners before it. -/
structure Following where
  context : Context
  /-- A joiner comes first. -/
  joiner : Bool
  /-- A selector asks for a picture. -/
  picture : Bool
  /-- A selector asks for plain text. -/
  text : Bool
  /-- A selector asks for the wide form of a quotation mark. -/
  quote : Bool
deriving DecidableEq

namespace Following

def of (context : Context) : Following :=
  ⟨context, false, false, false, false⟩

def kept (next : Following) : Following :=
  if next.context.isLetter then next else of .plain

def askPicture (next : Following) : Following :=
  if next.context.isJoined then { next with picture := true }
  else { next.kept with picture := true }

def askText (next : Following) : Following :=
  { next.kept with text := true }

def askQuote (next : Following) : Following :=
  { next.kept with quote := true }

def withoutPicture (next : Following) : Following :=
  if next.picture then { next.kept with picture := false } else next

def withoutText (next : Following) : Following :=
  { next with text := false }

def withoutQuote (next : Following) : Following :=
  { next with quote := false }

end Following

/-!
# Joining
-/

def isJoiner (c : Char) : Bool :=
  c = '\u200D'

def joinToPicture? (c : Char) : Option (Int × Context) :=
  if c = '\u20E3' then some (0, .joinedKeycap)
  else if isIndicator c then some (1, .joinedIndicator)
  else if isTone c then some (0, .tone)
  else if c.toNat = 0xE007F then some (0, .tagLetters 0)
  else if isPicture c then some (0, .picture)
  else none

def isTagLetter (c : Char) : Bool :=
  inRanges [(0xE0061, 0xE007A)] c

def isTagDigit (c : Char) : Bool :=
  inRanges [(0xE0030, 0xE0039)] c

def isTaggedFlag (c : Char) : Bool :=
  c.toNat = 0x1F3F4

/-- Three to six tag letters spell a region, or three digits and some letters. -/
def joinToTags? (context : Context) (c : Char) : Option (Int × Context) :=
  match context with
  | .tagLetters count =>
      if isTagLetter c && count < 6 then some (0, .tagLetters (count + 1))
      else if isTagDigit c && count < 5 then some (0, .tagDigits 1)
      else if isTaggedFlag c && 2 < count then some (0, .picture)
      else none
  | .tagDigits count =>
      if isTagDigit c && count < 3 then some (0, .tagDigits (count + 1))
      else if isTaggedFlag c && count = 3 then some (0, .picture)
      else none
  | _ => none

/-- Two vowel signs that spell a third one are as wide as that one. -/
def joinToKirat? (context : Context) (c : Char) : Option (Int × Context) :=
  match context with
  | .kiratE =>
      if c.toNat = 0x16D63 || c.toNat = 0x16D69 then some (0, .plain)
      else if c.toNat = 0x16D67 then some (0, .kiratAi)
      else if c.toNat = 0x16D68 then some (1, .kiratE)
      else none
  | .kiratAi => if c.toNat = 0x16D63 then some (0, .plain) else none
  | _ => none

def joinToLetter? (context : Context) (joiner : Bool) (c : Char) : Option (Int × Context) :=
  match context with
  | .arabicAlef =>
      if isArabicLam c then some (0, .plain)
      else if isTransparentMark c then some (0, .arabicAlef)
      else none
  | .hebrewLamed => if joiner && c = '\u05D0' then some (0, .plain) else none
  | .khmerSubscript => if c = '\u17D2' then some (-1, .plain) else none
  | .bugineseYa => if joiner && c = '\u1A17' then some (0, .bugineseVowelYa) else none
  | .bugineseVowelYa => if c = '\u1A15' then some (0, .plain) else none
  | .tifinaghConsonant =>
      if c = '\u2D7F' then some (1, .tifinaghJoiner)
      else if joiner && isTifinaghConsonant c then some (0, .plain)
      else none
  | .tifinaghJoiner => if isTifinaghConsonant c then some (-1, .plain) else none
  | .lastToneLetter => if isFirstToneLetter c then some (0, .plain) else none
  | .orkhonI => if joiner && c.toNat = 0x10C32 then some (0, .plain) else none
  | _ => none

def joinToPictures? (context : Context) (c : Char) : Option (Int × Context) :=
  match context with
  | .tone =>
      if isToneable c then some (0, .picture)
      else if isJoiner c then some (0, .joinedPicture)
      else none
  | .indicator => if isIndicator c then some (1, .indicators) else none
  | .indicators =>
      if isIndicator c then some (1, .indicators)
      else if isJoiner c then some (0, .joinedPicture)
      else none
  | .picture => if isJoiner c then some (0, .joinedPicture) else none
  | .joinedPicture => joinToPicture? c
  | .joinedIndicator => if isIndicator c then some (-1, .joinedEvenIndicators) else none
  | .joinedEvenIndicators =>
      if isIndicator c then some (3, .joinedOddIndicators)
      else if isJoiner c then some (0, .joinedPicture)
      else none
  | .joinedOddIndicators =>
      if isIndicator c then some (-1, .joinedEvenIndicators)
      else if isJoiner c then some (0, .joinedPicture)
      else none
  | _ => none

def join? (context : Context) (joiner : Bool) (c : Char) : Option (Int × Context) :=
  joinToLetter? context joiner c <|> joinToPictures? context c <|> joinToTags? context c <|>
    joinToKirat? context c

/-!
# Reading backwards
-/

def isQuotation (c : Char) : Bool :=
  inRanges [(0x2018, 0x2019), (0x201C, 0x201D)] c

def stepBasic (next : Following) (c : Char) : Int × Following :=
  if c = '\n' then (1, .of .lineFeed)
  else if c = '\r' && next = .of .lineFeed then (0, .of .plain)
  else (1, .of .plain)

def stepPlain (next : Following) (c : Char) : Int × Following :=
  if next.context.isTransparent && isJoiner c then (0, { next with joiner := true })
  else if next.context.isTransparent && isHiddenMark c then (0, next)
  else
    match join? next.context next.joiner c with
    | some (added, context) => (added, .of context)
    | none => (columns c, .of (.ofChar c))

/-- What a character adds in front of what follows, and what it begins. -/
def step (next : Following) (c : Char) : Int × Following :=
  if next.picture && isSelectable c then
    (if next.context.isJoined then 0 else 2, .of .picture)
  else
    let next := next.withoutPicture
    if c.toNat ≤ 0xA0 then stepBasic next c
    else if c = '\uFE0F' then (0, next.askPicture)
    else if c = '\uFE0E' then (0, next.askText)
    else if c = '\uFE01' then (0, next.askQuote)
    else if next.text && hasNarrowText c then (1, .of .plain)
    else if next.quote && isQuotation c then (2, .of .plain)
    else stepPlain next.withoutText.withoutQuote c

def measure (text : List Char) : Int × Following :=
  text.foldr
    (fun c (width, next) =>
      let (added, first) := step next c
      (width + added, first))
    (0, .of .plain)

def displayWidth (text : String) : Nat :=
  (measure text.toList).1.toNat

end Text
end ClassAtlas
