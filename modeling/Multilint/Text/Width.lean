import Multilint.Text.WidthTable
/-!
# Display width

How many columns a text takes on a terminal. A character has two columns, one or none, controls included
as one; but what follows a character can change its columns: a picture swallows the parts of its sequence,
a selector says how a character is shown, and some scripts write two letters as one. So a text is
measured from its end, and `Follower` is what a character sees behind it.
-/

namespace Multilint

namespace Text

/-- What may stand behind a character and matter to its columns. -/
inductive Follower where
  /-- Nothing that matters. -/
  | plain
  /-- The end of a line. -/
  | lineFeed
  /-- A picture. -/
  | picture
  /-- A skin tone. -/
  | tone
  /-- The last letter of a flag. -/
  | flagLetter
  /-- Two or more letters of flags. -/
  | flagLetters
  /-- A joiner and a picture. -/
  | joinedPicture
  /-- The frame of a key, a joiner and a picture. -/
  | joinedKey
  /-- One letter of a flag, a joiner and a picture. -/
  | joinedLetter
  /-- An even number of letters of flags, a joiner and a picture. -/
  | joinedEven
  /-- An odd number of letters of flags, more than one, a joiner and a picture. -/
  | joinedOdd
  /-- So many letters of the tag of a flag, its end, a joiner and a picture. -/
  | tagLetters (count : Nat)
  /-- So many digits of the tag of a flag, its end, a joiner and a picture. -/
  | tagDigits (count : Nat)
  /-- An Arabic letter Alef. -/
  | alef
  /-- The Hebrew letter Lamed. -/
  | lamed
  /-- A Khmer letter that can be written below another one. -/
  | khmerLetter
  /-- The Buginese letter Ya. -/
  | ya
  /-- The Buginese vowel sign I, joined to the letter Ya. -/
  | vowelYa
  /-- A Tifinagh consonant. -/
  | consonant
  /-- The Tifinagh joiner before a consonant. -/
  | joinedConsonant
  /-- A low Lisu tone. -/
  | lisuTone
  /-- The letter I of the Orkhon script. -/
  | orkhonI
  /-- The Kirat Rai vowel sign E. -/
  | vowelE
  /-- The Kirat Rai vowel sign AI. -/
  | vowelAi
  deriving DecidableEq, Repr

/-- How a selector wants the character before it to be shown. -/
inductive Look where
  /-- As a picture. -/
  | picture
  /-- As plain text. -/
  | plain
  /-- A quotation mark as wide as a picture. -/
  | wideQuote
  deriving DecidableEq, Repr

/-- What stands behind a character: a follower, and before it perhaps a joiner and a selector. -/
structure Behind where
  /-- The follower. -/
  follower : Follower := .plain
  /-- A joiner stands before the follower. -/
  joined : Bool := false
  /-- The selector before the follower. -/
  look : Option Look := none
  deriving DecidableEq, Repr

namespace Follower

/-- A letter that can become one with a letter before it. -/
def isLetter : Follower → Bool
  | .alef | .lamed | .khmerLetter | .ya | .vowelYa | .consonant | .joinedConsonant | .lisuTone |
    .orkhonI => true
  | _ => false

/-- The follower that a character is by itself. -/
def ofChar (c : Char) : Follower :=
  let n := c.toNat
  let isIn (lo hi : Nat) : Bool := lo ≤ n && n ≤ hi
  if n = 0xA then .lineFeed
  else if n < 0x5DC then .plain
  else if n = 0x5DC then .lamed
  else if isIn 0x622 0x623 || n = 0x625 || n = 0x627 || isIn 0x671 0x673 || n = 0x675 ||
    isIn 0x773 0x774 || isIn 0x870 0x882 then .alef
  else if isIn 0x1780 0x1782 || isIn 0x1784 0x1787 || isIn 0x1789 0x178C || isIn 0x178E 0x1793 ||
    isIn 0x1795 0x1798 || isIn 0x179B 0x179D || n = 0x17A0 || n = 0x17A2 || n = 0x17A7 ||
    isIn 0x17AB 0x17AC || n = 0x17AF then .khmerLetter
  else if n = 0x1A10 then .ya
  else if isIn 0x2D31 0x2D65 || n = 0x2D6F then .consonant
  else if isIn 0xA4FC 0xA4FD then .lisuTone
  else if n = 0x10C03 then .orkhonI
  else if n = 0x16D67 then .vowelE
  else if n = 0x16D68 then .vowelAi
  else if isIn 0x1F1E6 0x1F1FF then .flagLetter
  else if isIn 0x1F3FB 0x1F3FF then .tone
  else if pictureRanges.has c then .picture
  else .plain

end Follower

/-- The columns of a character that stands alone. -/
def charWidth (c : Char) : Nat :=
  if c.toNat ≤ 0xA0 then 1
  else if c.toNat = 0x17D8 then 3
  else if flatRanges.has c then 0
  else if wideRanges.has c then 2
  else 1

/-- The look that a selector stands for. -/
def Look.ofChar? (c : Char) : Option Look :=
  if c = '\ufe0f' then some .picture
  else if c = '\ufe0e' then some .plain
  else if c = '\ufe01' then some .wideQuote
  else none

/-- A character that may stand between two letters written as one. -/
def isSilent (c : Char) : Bool :=
  let n := c.toNat
  n = 0x34F || (0x17B4 ≤ n && n ≤ 0x17B5) || (0x180B ≤ n && n ≤ 0x180D) || n = 0x180F ||
    n = 0x200D || (0xFE00 ≤ n && n ≤ 0xFE0F) || (0xE0100 ≤ n && n ≤ 0xE01EF)

/-- A letter of a flag. -/
def isFlagLetter (c : Char) : Bool :=
  0x1F1E6 ≤ c.toNat && c.toNat ≤ 0x1F1FF

/-- A letter of the tag that tells a flag. -/
def isTagLetter (c : Char) : Bool :=
  0xE0061 ≤ c.toNat && c.toNat ≤ 0xE007A

/-- A digit of the tag that tells a flag. -/
def isTagDigit (c : Char) : Bool :=
  0xE0030 ≤ c.toNat && c.toNat ≤ 0xE0039

/-- A Tifinagh consonant. -/
def isTifinagh (c : Char) : Bool :=
  Follower.ofChar c = .consonant

/-- An Arabic letter that is written as one with an Alef behind it. -/
def isLam (c : Char) : Bool :=
  let n := c.toNat
  n = 0x644 || (0x6B5 ≤ n && n ≤ 0x6B8) || n = 0x76A || n = 0x8A6 || n = 0x8C7

namespace Behind

/-- What stands behind, with a selector in front. A letter stays in sight behind it, and a joined picture
behind the selector of a picture. -/
def select (b : Behind) (look : Look) : Behind :=
  let stays := b.follower.isLetter ||
    (look = .picture && (b.follower = .joinedPicture || b.follower = .joinedKey))
  if stays then { b with look := some look } else ⟨.plain, false, some look⟩

/-- What stands behind where the selector in front says nothing. -/
def unselect (b : Behind) : Behind :=
  if b.follower.isLetter then { b with look := none } else {}

end Behind

/-- The columns that a part of a picture adds before what follows it, and what a character before the part
sees; nothing where the character is no part of the picture. -/
def pictureStep? (c : Char) : Follower → Option (Int × Follower)
  | .tone =>
    if toneBaseRanges.has c then some (0, .picture)
    else if c = '\u200d' then some (0, .joinedPicture)
    else none
  | .picture => if c = '\u200d' then some (0, .joinedPicture) else none
  | .flagLetter => if isFlagLetter c then some (1, .flagLetters) else none
  | .flagLetters =>
    if isFlagLetter c then some (1, .flagLetters)
    else if c = '\u200d' then some (0, .joinedPicture)
    else none
  | .joinedPicture =>
    if c.toNat = 0x20E3 then some (0, .joinedKey)
    else if c.toNat = 0xE007F then some (0, .tagLetters 0)
    else
      match Follower.ofChar c with
      | .flagLetter => some (1, .joinedLetter)
      | .tone => some (0, .tone)
      | .picture => some (0, .picture)
      | _ => none
  | .joinedLetter => if isFlagLetter c then some (-1, .joinedEven) else none
  | .joinedOdd =>
    if isFlagLetter c then some (-1, .joinedEven)
    else if c = '\u200d' then some (0, .joinedPicture)
    else none
  | .joinedEven =>
    if isFlagLetter c then some (3, .joinedOdd)
    else if c = '\u200d' then some (0, .joinedPicture)
    else none
  | .tagLetters n =>
    if isTagLetter c && n < 6 then some (0, .tagLetters (n + 1))
    else if isTagDigit c && n < 5 then some (0, .tagDigits 1)
    else if c.toNat = 0x1F3F4 && 3 ≤ n then some (0, .picture)
    else none
  | .tagDigits n =>
    if isTagDigit c && n < 3 then some (0, .tagDigits (n + 1))
    else if c.toNat = 0x1F3F4 && n = 3 then some (0, .picture)
    else none
  | _ => none

/-- The columns that a letter adds before one that it is written as one with, and what a character before
it sees; nothing where the two are written apart. -/
def letterStep? (c : Char) (b : Behind) : Option (Int × Follower) :=
  match b.follower, b.joined with
  | .alef, _ => if isLam c then some (0, .plain) else none
  | .lamed, true => if c.toNat = 0x5D0 then some (0, .plain) else none
  | .khmerLetter, false => if c.toNat = 0x17D2 then some (-1, .plain) else none
  | .ya, true => if c.toNat = 0x1A17 then some (0, .vowelYa) else none
  | .vowelYa, false => if c.toNat = 0x1A15 then some (0, .plain) else none
  | .consonant, joined =>
    if c.toNat = 0x2D7F then some (1, .joinedConsonant)
    else if joined && isTifinagh c then some (0, .plain)
    else none
  | .joinedConsonant, false => if isTifinagh c then some (-1, .plain) else none
  | .lisuTone, false => if 0xA4F8 ≤ c.toNat && c.toNat ≤ 0xA4FB then some (0, .plain) else none
  | .orkhonI, true => if c.toNat = 0x10C32 then some (0, .plain) else none
  | .vowelE, _ =>
    if c.toNat = 0x16D63 || c.toNat = 0x16D69 then some (0, .plain)
    else if c.toNat = 0x16D67 then some (0, .vowelAi)
    else if c.toNat = 0x16D68 then some (1, .vowelE)
    else none
  | .vowelAi, _ => if c.toNat = 0x16D63 then some (0, .plain) else none
  | _, _ => none

/-- The columns that a character adds before what stands behind it, and what a character before it sees,
where no selector is to be obeyed. -/
def stepPlain (c : Char) (b : Behind) : Int × Behind :=
  match pictureStep? c b.follower with
  | some (w, f) => (w, ⟨f, false, none⟩)
  | none =>
    if b.follower = .alef && !isLam c && flatRanges.has c && !partingRanges.has c then (0, b)
    else if b.follower.isLetter && b.follower ≠ .alef && c = '\u200d' then (0, { b with joined := true })
    else if b.follower.isLetter && b.follower ≠ .alef && isSilent c then (0, b)
    else
      match letterStep? c b with
      | some (w, f) => (w, ⟨f, false, none⟩)
      | none => (charWidth c, ⟨Follower.ofChar c, false, none⟩)

/-- The columns that a character adds before what stands behind it, and what a character before it
sees. -/
def step (c : Char) (b : Behind) : Int × Behind :=
  if b.look = some .picture && selectableRanges.has c then
    let swallowed := b.follower = .joinedPicture || b.follower = .joinedKey
    (if swallowed then 0 else 2, ⟨.picture, false, none⟩)
  else
    let b := if b.look = some .picture then b.unselect else b
    if c = '\r' && b.follower = .lineFeed then (0, {})
    else if c.toNat ≤ 0xA0 then (1, ⟨Follower.ofChar c, false, none⟩)
    else
      match Look.ofChar? c with
      | some look => (0, b.select look)
      | none =>
        match b.look with
        | some .plain =>
          if plainableRanges.has c then (1, {}) else stepPlain c { b with look := none }
        | some .wideQuote =>
          if c = '‘' || c = '’' || c = '“' || c = '”' then (2, {})
          else stepPlain c { b with look := none }
        | _ => stepPlain c { b with look := none }

/-- The columns of a text and what a character before it sees. -/
def measure (s : List Char) : Int × Behind :=
  s.foldr (fun c (n, b) => let (w, b) := step c b; (w + n, b)) (0, {})

/-- The columns of a text. -/
def width (s : List Char) : Nat :=
  (measure s).1.toNat

end Text

end Multilint
