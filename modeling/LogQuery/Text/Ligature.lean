import LogQuery.Text.Emoji
import LogQuery.Text.Width

/-!
# Width of texts

Characters that are drawn together fill other columns than they would one by one. A lam and an alef
make one letter, with marks between them or not; so do some pairs of letters that a joiner ties. A
Khmer letter after the subscript sign stands below the letter before it. A picture and its skin tone
are one picture, and so are pictures that joiners tie to a chain, whose links may be flags and keys
too. A selector makes the character before it a picture or a letter.

A text is measured from its end to its start, for it is the character on the right that tells what a
character can be drawn together with. Selectors and unseen marks may stand within the ligatures of
scripts, and joiners too, except between lam and alef.
-/

namespace LogQuery.Text

/-- The alefs. -/
def alefRanges : List Range :=
  [(0x622, 0x623), (0x625, 0x625), (0x627, 0x627), (0x671, 0x673), (0x675, 0x675), (0x773, 0x774),
   (0x870, 0x882)]

/-- The lams. -/
def lamRanges : List Range :=
  [(0x644, 0x644), (0x6B5, 0x6B8), (0x76A, 0x76A), (0x8A6, 0x8A6), (0x8C7, 0x8C7)]

/-- The Khmer letters that have a form to stand below another letter. -/
def subscriptRanges : List Range :=
  [(0x1780, 0x1782), (0x1784, 0x1787), (0x1789, 0x178C), (0x178E, 0x1793), (0x1795, 0x1798),
   (0x179B, 0x179D), (0x17A0, 0x17A0), (0x17A2, 0x17A2), (0x17A7, 0x17A7), (0x17AB, 0x17AC),
   (0x17AF, 0x17AF)]

/-- The characters that fill no column and yet part a lam from an alef. -/
def partingRanges : List Range :=
  [(0x605, 0x605), (0x890, 0x891), (0x8E2, 0x8E2), (0x9BE, 0x9BE), (0x9D7, 0x9D7), (0xB3E, 0xB3E),
   (0xB57, 0xB57), (0xBBE, 0xBBE), (0xBD7, 0xBD7), (0xCC0, 0xCC0), (0xCC2, 0xCC2), (0xCC7, 0xCC8),
   (0xCCA, 0xCCB), (0xCD5, 0xCD6), (0xD3E, 0xD3E), (0xD4E, 0xD4E), (0xD57, 0xD57), (0xDCF, 0xDCF),
   (0xDDF, 0xDDF), (0x1160, 0x11FF), (0x180E, 0x180E), (0x1B35, 0x1B35), (0x1B3B, 0x1B3B),
   (0x1B3D, 0x1B3D), (0x1B43, 0x1B43), (0x200C, 0x200D), (0x2065, 0x2069), (0x302E, 0x302F),
   (0x3164, 0x3164), (0xA8FA, 0xA8FA), (0xD7B0, 0xD7C6), (0xD7CB, 0xD7FB), (0xFF9E, 0xFFA0),
   (0xFFF0, 0xFFF8), (0x111C2, 0x111C3), (0x1133E, 0x1133E), (0x11357, 0x11357), (0x114B0, 0x114B0),
   (0x114BD, 0x114BD), (0x115AF, 0x115AF), (0x11930, 0x11930), (0x1193F, 0x1193F),
   (0x11941, 0x11941), (0x11A3A, 0x11A3A), (0x11A84, 0x11A89), (0x11D46, 0x11D46),
   (0x11F02, 0x11F02), (0x1D165, 0x1D165), (0x1D16E, 0x1D172), (0xE0000, 0xE0000),
   (0xE0002, 0xE001F), (0xE0080, 0xE00FF), (0xE01F0, 0xE0FFF)]

/-- The marks that are not shown. -/
def unseenMarkRanges : List Range :=
  [(0x34F, 0x34F), (0x17B4, 0x17B5), (0x180B, 0x180D), (0x180F, 0x180F), (0xFE00, 0xFE0F),
   (0xE0100, 0xE01EF)]

/-- Whether a character can stand between a lam and an alef that are drawn together. -/
def isTransparent (c : Char) : Bool := charWidth c = 0 && !inRanges partingRanges c.toNat

/-- Whether a character is a consonant of the Tifinagh script. -/
def isTifinagh (c : Char) : Bool :=
  (0x2D31 ≤ c.toNat && c.toNat ≤ 0x2D65) || c.toNat = 0x2D6F

/-- What a character that stands to the left can be drawn together with. -/
inductive Joint where
  /-- Nothing. -/
  | apart
  /-- A line feed, which makes one end of a line with a carriage return. -/
  | lineFeed
  | alef
  /-- A Hebrew lamed, with a joiner before it or not. -/
  | lamed (joined : Bool)
  /-- A Buginese ya, with a joiner before it or not. -/
  | ya (joined : Bool)
  /-- A Buginese ya with a joiner and the vowel i before it. -/
  | vowelAndYa
  /-- A Tifinagh consonant, with a joiner before it or not. -/
  | consonant (joined : Bool)
  /-- A Tifinagh consonant with the joiner of that script before it. -/
  | joinerAndConsonant
  /-- A Lisu letter for the second half of a tone. -/
  | tone
  /-- An Old Turkic i, with a joiner before it or not. -/
  | orkhonI (joined : Bool)
  /-- A Khmer letter that has a form to stand below another letter. -/
  | subscript
  | modifier
  /-- Half of a flag. -/
  | flagHalf
  /-- Halves of flags. -/
  | flagHalves
  | picture
  /-- A joiner before a picture. -/
  | joiner
  /-- A joiner before a picture, and the frame of a key before that. -/
  | joinedKey
  /-- A joiner before a picture, and half of a flag before that. -/
  | joinedFlagHalf
  /-- A joiner before a picture, and an even or odd number of halves of flags before that. -/
  | joinedFlagHalves (even : Bool)
  /-- A joiner before a picture, and the end of a tag before that with so many letters, and so many
  digits before those. -/
  | joinedTag (letters digits : Nat)
  deriving DecidableEq

namespace Joint

/-- Whether this belongs to a ligature of a script. -/
def isScript : Joint → Bool
  | alef | lamed _ | ya _ | vowelAndYa | consonant _ | joinerAndConsonant | tone | orkhonI _
  | subscript => true
  | _ => false

/-- Whether joiners and unseen marks may stand within the ligature. -/
def isOpen (joint : Joint) : Bool := joint.isScript && joint ≠ alef

/-- Whether a picture made by a selector carries on a chain of pictures. -/
def isChain (joint : Joint) : Bool := joint = joiner || joint = joinedKey

/-- What is there when a joiner comes before it. -/
def joined : Joint → Joint
  | lamed _ => lamed true
  | ya _ => ya true
  | consonant _ => consonant true
  | orkhonI _ => orkhonI true
  | joint => joint

/-- What a character is to the one before it, when it is not drawn together with what follows. -/
def start (c : Char) : Joint :=
  if isPicture c then picture
  else if isFlagHalf c then flagHalf
  else if isModifier c then modifier
  else if inRanges alefRanges c.toNat then alef
  else if c.toNat = 0x5DC then lamed false
  else if c.toNat = 0x1A10 then ya false
  else if isTifinagh c then consonant false
  else if c.toNat = 0xA4FC || c.toNat = 0xA4FD then tone
  else if c.toNat = 0x10C03 then orkhonI false
  else if inRanges subscriptRanges c.toNat then subscript
  else apart

/-- What a character adds to the width, and what it is to the one before it, when it makes a
ligature of a script with what follows. -/
def script? (joint : Joint) (c : Char) : Option (Int × Joint) :=
  match joint with
  | alef =>
    if inRanges lamRanges c.toNat then some (0, apart)
    else if isTransparent c then some (0, alef)
    else none
  | lamed true => if c.toNat = 0x5D0 then some (0, apart) else none
  | ya true => if c.toNat = 0x1A17 then some (0, vowelAndYa) else none
  | vowelAndYa => if c.toNat = 0x1A15 then some (0, apart) else none
  | consonant joined =>
    if c.toNat = 0x2D7F then some (1, joinerAndConsonant)
    else if joined && isTifinagh c then some (0, apart)
    else none
  | joinerAndConsonant => if isTifinagh c then some (-1, apart) else none
  | tone => if 0xA4F8 ≤ c.toNat && c.toNat ≤ 0xA4FB then some (0, apart) else none
  | orkhonI true => if c.toNat = 0x10C32 then some (0, apart) else none
  | subscript => if c.toNat = 0x17D2 then some (-1, apart) else none
  | _ => none

/-- The chain that a joiner makes with a picture. -/
def chain? (c : Char) : Option (Int × Joint) := if c = '\u200d' then some (0, joiner) else none

/-- What a character adds to the width, and what it is to the one before it, when it belongs to the
picture that follows. -/
def picture? (joint : Joint) (c : Char) : Option (Int × Joint) :=
  match joint with
  | picture => chain? c
  | modifier => if isModifiable c then some (0, picture) else chain? c
  | flagHalf => if isFlagHalf c then some (1, flagHalves) else none
  | flagHalves => if isFlagHalf c then some (1, flagHalves) else chain? c
  | joinedFlagHalf => if isFlagHalf c then some (-1, joinedFlagHalves true) else none
  | joinedFlagHalves even =>
    if isFlagHalf c then some (if even then 3 else -1, joinedFlagHalves !even) else chain? c
  | joiner =>
    if isPicture c then some (0, picture)
    else if isModifier c then some (0, modifier)
    else if isFlagHalf c then some (1, joinedFlagHalf)
    else if c.toNat = 0x20E3 then some (0, joinedKey)
    else if c.toNat = 0xE007F then some (0, joinedTag 0 0)
    else none
  | joinedTag letters digits =>
    if isTagLetter c && digits = 0 && letters < 6 then some (0, joinedTag (letters + 1) 0)
    else if isTagDigit c && digits < 3 && (letters < 5 || 0 < digits) then
      some (0, joinedTag letters (digits + 1))
    else if c.toNat = 0x1F3F4 && (digits = 3 || (digits = 0 && 3 ≤ letters)) then some (0, picture)
    else none
  | _ => none

/-- What a character other than a selector adds to the width, and what it is to the one before
it. -/
def step (joint : Joint) (c : Char) : Int × Joint :=
  if joint.isOpen && c = '\u200d' then (0, joint.joined)
  else if joint.isOpen && inRanges unseenMarkRanges c.toNat then (0, joint)
  else ((joint.script? c).or (joint.picture? c)).getD (charWidth c, start c)

end Joint

/-- What a selector makes of the character before it. -/
inductive Selector where
  | picture
  | letter
  deriving DecidableEq

/-- What stands to the right of a character. -/
structure Follower where
  /-- What the character can be drawn together with. -/
  joint : Joint := .apart
  /-- The selector before that. -/
  selector : Option Selector := none

namespace Follower

/-- What a character can be drawn together with that the selector says nothing to. Only in the
ligatures of scripts it is as if the selector were not there. -/
def unselected (next : Follower) : Joint :=
  if next.selector.isNone || next.joint.isScript then next.joint else .apart

/-- What a character adds to the width of a text, and what it is to the one before it. -/
def step (next : Follower) (c : Char) : Int × Follower :=
  let joint := next.unselected
  if next.selector = some .picture && isSelectable c then
    (if next.joint.isChain then 0 else 2, { joint := .picture })
  else if c = '\n' then (1, { joint := .lineFeed })
  else if c = '\r' && joint = .lineFeed then (0, {})
  else if c.toNat ≤ 0xA0 then (1, {})
  else if c = '\ufe0f' then
    (0, { joint := if joint.isScript || joint.isChain then joint else .apart,
          selector := some .picture })
  else if c = '\ufe0e' then
    (0, { joint := if joint.isScript then joint else .apart, selector := some .letter })
  else if next.selector = some .letter && isNarrowable c then (1, {})
  else
    let (width, joint) := joint.step c
    (width, { joint })

end Follower

/-- How many columns a text fills, and what it is to a character before it. -/
def measure (s : List Char) : Int × Follower :=
  s.foldr (fun c (width, next) =>
    let (more, next) := next.step c
    (width + more, next)) (0, {})

/-- How many columns a text fills. -/
def textWidth (s : List Char) : Nat := (measure s).1.toNat

end LogQuery.Text
