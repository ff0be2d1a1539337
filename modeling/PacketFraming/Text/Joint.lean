import PacketFraming.Text.Picture

/-! How neighbouring characters join on the page.

A line is measured from its end, and the `Joint` at the left edge of what has been measured
says which characters in front of it would be drawn into it. A joining character changes
the columns by less, or by more, than it fills alone. -/

namespace PacketFraming.Text

def isInvisible (char : Char) : Bool :=
  char ≠ '\u2d7f' && (inRanges markRanges char || inRanges invisibleRanges char)

/-- The columns of a character that joins nothing: none for attached marks and invisible
characters, two for East Asian wide ones, one for all others. Two signs go their own way:
the Khmer sign for "and so on" fills three columns, and the Tifinagh consonant joiner, a
mark by its class, fills one. -/
def charWidth (char : Char) : Nat :=
  if char.toNat < 0x300 then
    if char = '\u00ad' then 0 else 1
  else if char = '\u17d8' then 3
  else if isInvisible char then 0
  else if inRanges wideRanges char then 2
  else 1

/-- The joiner ties the characters on its two sides together. -/
def joiner : Char := '\u200d'

/-! ## Letters -/

/-- Letters that take part in a ligature as its last part, or as the part before that. -/
inductive Ligature
  | arabicAlef
  | hebrewLamed
  | bugineseYa
  | bugineseVowelYa
  | tifinaghConsonant
  | tifinaghJoiner
  | lisuTone
  | turkicOrkhonI
  | khmerLetter
deriving DecidableEq, Repr

def isAlef (char : Char) : Bool :=
  inRanges [(0x622, 0x623), (0x625, 0x625), (0x627, 0x627), (0x671, 0x673), (0x675, 0x675),
    (0x773, 0x774), (0x870, 0x882)] char

/-- Forms of the letter lam, which an alef behind it is drawn into. -/
def isLam (char : Char) : Bool :=
  inRanges [(0x644, 0x644), (0x6B5, 0x6B8), (0x76A, 0x76A), (0x8A6, 0x8A6), (0x8C7, 0x8C7)] char

def hasSubscript (char : Char) : Bool :=
  inRanges [(0x1780, 0x1782), (0x1784, 0x1787), (0x1789, 0x178C), (0x178E, 0x1793),
    (0x1795, 0x1798), (0x179B, 0x179D), (0x17A0, 0x17A0), (0x17A2, 0x17A2), (0x17A7, 0x17A7),
    (0x17AB, 0x17AC), (0x17AF, 0x17AF)] char

def isTifinaghConsonant (char : Char) : Bool :=
  inRanges [(0x2D31, 0x2D65), (0x2D6F, 0x2D6F)] char

/-- The ligature that a letter may close. -/
def Ligature.ofChar? (char : Char) : Option Ligature :=
  if isAlef char then some arabicAlef
  else if char = '\u05dc' then some hebrewLamed
  else if char = '\u1a10' then some bugineseYa
  else if isTifinaghConsonant char then some tifinaghConsonant
  else if char = '\ua4fc' ∨ char = '\ua4fd' then some lisuTone
  else if char.toNat = 0x10C03 then some turkicOrkhonI
  else if hasSubscript char then some khmerLetter
  else none

/-- Marks between two Arabic letters through which the letters still join. -/
def isTransparentMark (char : Char) : Bool :=
  charWidth char = 0 && !inRanges separatingRanges char

/-! ## Joints -/

inductive FlagRun
  | one
  | even
  | odd
deriving DecidableEq, Repr

/-- What the text to the right of a character still joins. -/
inductive Joint
  | plain
  | picture
  | skinTone
  | flagLetters (several : Bool)
  | joinedPicture
  | joinedKeycap
  | joinedFlag (run : FlagRun)
  /-- The end of a tagged flag in front of a joined picture, with its letters and digits. -/
  | joinedTags (letters digits : Nat)
  | letter (ligature : Ligature) (joined : Bool)
  | vowelE
  /-- Two Kirat Rai vowel signs e, which are drawn as one sign ai. -/
  | vowelAi
deriving DecidableEq, Repr

namespace Joint

def ofChar (char : Char) : Joint :=
  match Ligature.ofChar? char with
  | some ligature => letter ligature (ligature == .lisuTone || ligature == .khmerLetter)
  | none =>
      if isPicture char then picture
      else if isSkinTone char then skinTone
      else if isFlagLetter char then flagLetters false
      else if char.toNat = 0x16D67 then vowelE
      else if char.toNat = 0x16D68 then vowelAi
      else plain

def isJoined : Joint → Bool
  | joinedPicture | joinedKeycap => true
  | _ => false

/-- What a letter in front of a ligature's last part adds to the columns, and the joint in
front of it. -/
def joinLetter? (ligature : Ligature) (joined : Bool) (char : Char) : Option (Int × Joint) :=
  match ligature with
  | .arabicAlef =>
      if isLam char then some (0, plain)
      else if isTransparentMark char then some (0, letter .arabicAlef false)
      else none
  | .hebrewLamed => if joined && char = '\u05d0' then some (0, plain) else none
  | .bugineseYa =>
      if joined && char = '\u1a17' then some (0, letter .bugineseVowelYa true) else none
  | .bugineseVowelYa => if char = '\u1a15' then some (0, plain) else none
  | .tifinaghConsonant =>
      if char = '\u2d7f' then some (1, letter .tifinaghJoiner true)
      else if joined && isTifinaghConsonant char then some (0, plain)
      else none
  | .tifinaghJoiner => if isTifinaghConsonant char then some (-1, plain) else none
  | .lisuTone => if inRanges [(0xA4F8, 0xA4FB)] char then some (0, plain) else none
  | .turkicOrkhonI => if joined && char.toNat = 0x10C32 then some (0, plain) else none
  | .khmerLetter => if char = '\u17d2' then some (-1, plain) else none

/-- What a character in front of the end of a tagged flag adds, and the joint in front of
it. A name has three letters to six, or up to four letters or none and then three digits. -/
def joinTags? (letters digits : Nat) (char : Char) : Option (Int × Joint) :=
  if isTagLetter char && digits = 0 && letters < 6 then some (0, joinedTags (letters + 1) 0)
  else if isTagDigit char && letters ≤ 4 && digits < 3 then some (0, joinedTags 0 (digits + 1))
  else if char.toNat = 0x1F3F4 && (3 ≤ letters || digits = 3) then some (0, picture)
  else none

/-- What a character in front of a joined picture adds, and the joint in front of it. -/
def joinPicture? (char : Char) : Option (Int × Joint) :=
  if char = '\u20e3' then some (0, joinedKeycap)
  else if isFlagLetter char then some (1, joinedFlag .one)
  else if isSkinTone char then some (0, skinTone)
  else if char.toNat = 0xE007F then some (0, joinedTags 0 0)
  else if isPicture char then some (0, picture)
  else none

/-- What a character that joins adds to the columns, and the joint in front of it. Letters
that name a flag count in pairs, so that a third one starts anew. -/
def join? : Joint → Char → Option (Int × Joint)
  | letter ligature joined, char =>
      if ligature ≠ .arabicAlef && char = joiner then some (0, letter ligature true)
      else if ligature ≠ .arabicAlef && inRanges ignorableMarkRanges char then
        some (0, letter ligature joined)
      else joinLetter? ligature joined char
  | vowelE, char =>
      if char.toNat = 0x16D63 ∨ char.toNat = 0x16D69 then some (0, plain)
      else if char.toNat = 0x16D67 then some (0, vowelAi)
      else if char.toNat = 0x16D68 then some (1, vowelE)
      else none
  | vowelAi, char => if char.toNat = 0x16D63 then some (0, plain) else none
  | picture, char => if char = joiner then some (0, joinedPicture) else none
  | skinTone, char =>
      if takesSkinTone char then some (0, picture)
      else if char = joiner then some (0, joinedPicture)
      else none
  | flagLetters several, char =>
      if isFlagLetter char then some (1, flagLetters true)
      else if several && char = joiner then some (0, joinedPicture)
      else none
  | joinedPicture, char => joinPicture? char
  | joinedFlag run, char =>
      if isFlagLetter char then
        match run with
        | .even => some (3, joinedFlag .odd)
        | .one | .odd => some (-1, joinedFlag .even)
      else if run ≠ .one && char = joiner then some (0, joinedPicture)
      else none
  | joinedTags letters digits, char => joinTags? letters digits char
  | plain, _ | joinedKeycap, _ => none

end Joint

end PacketFraming.Text
