import PacketFraming.Text.Width

/-! Lines broken to fit into a number of columns.

A line is broken at its blanks, and a word is cut only when it is wider than a whole line.
Characters and the marks attached to them are not torn apart. -/

namespace PacketFraming.Text

def pieces (separator : Char) (text : List Char) : List (List Char) :=
  text.foldr
    (fun char pieces =>
      match pieces with
      | [] => [[char]]
      | piece :: rest => if char = separator then [] :: piece :: rest else (char :: piece) :: rest)
    [[]]

/-! ## Words -/

/-- Whether a character stays with the one before it. -/
def isAttached (before char : Char) : Bool :=
  inRanges markRanges char || char = joiner || isSkinTone char ||
    (before = joiner && isPicture char)

def clusters (word : List Char) : List (List Char) :=
  word.foldr
    (fun char clusters =>
      match clusters with
      | (next :: cluster) :: rest =>
          if isAttached char next then (char :: next :: cluster) :: rest
          else [char] :: (next :: cluster) :: rest
      | _ => [char] :: clusters)
    []

/-- How many characters the leading clusters have that fill at most this many columns,
added to those already counted. -/
def countFitting (columns : Nat) : List (List Char) → Nat → Nat
  | [], count => count
  | cluster :: rest, count =>
      if width cluster ≤ columns then
        countFitting (columns - width cluster) rest (count + cluster.length)
      else count

def fitting (columns : Nat) (word : List Char) : Nat :=
  countFitting columns (clusters word) 0

/-- The full lines that a word fills from the start of a line, and what is left of it for
the line after them. A full line has at least one character. -/
def cutWord (columns : Nat) (word : List Char) : List (List Char) × List Char :=
  if wide : columns < width word then
    have := length_pos_of_lt_width wide
    let cut := max 1 (fitting columns word)
    let (lines, rest) := cutWord columns (word.drop cut)
    (word.take cut :: lines, rest)
  else ([], word)
termination_by word.length
decreasing_by
  simp only [List.length_drop]
  omega

/-! ## Lines -/

structure Wrapping where
  closed : List (List Char) := []
  current : List Char := []
deriving DecidableEq, Repr

namespace Wrapping

def close (wrapping : Wrapping) : Wrapping :=
  { closed := wrapping.closed ++ [wrapping.current], current := [] }

/-- The current line is done unless two columns or more are left in it. -/
def closeIfFull (columns : Nat) (wrapping : Wrapping) : Wrapping :=
  if columns - 2 < width wrapping.current then wrapping.close else wrapping

/-- The columns in use once a blank is put behind the current line. -/
def used (wrapping : Wrapping) : Nat :=
  if wrapping.current.isEmpty then 0 else width wrapping.current + 1

def append (wrapping : Wrapping) (text : List Char) : Wrapping :=
  if wrapping.current.isEmpty then { wrapping with current := text }
  else { wrapping with current := wrapping.current ++ ' ' :: text }

/-- The start of a word that is wider than a line, put into what is left of the current
line. The rest of the word starts a new line. -/
def fill (columns : Nat) (wrapping : Wrapping) (word : List Char) : Wrapping × List Char :=
  let room := columns - wrapping.used
  if wrapping.current.isEmpty then (wrapping, word)
  else if room ≤ 2 then (wrapping.close, word)
  else
    let cut := fitting room word
    ((wrapping.append (word.take cut)).close, word.drop cut)

def place (columns : Nat) (wrapping : Wrapping) (word : List Char) : Wrapping :=
  let placed :=
    if wrapping.used + width word ≤ columns then wrapping.append word
    else if width word ≤ columns then wrapping.close.append word
    else
      let (filled, rest) := wrapping.fill columns word
      let (lines, rest) := cutWord columns rest
      { closed := filled.closed ++ lines, current := rest }
  placed.closeIfFull columns

def lines (wrapping : Wrapping) : List (List Char) :=
  if wrapping.current.isEmpty then wrapping.closed else wrapping.close.closed

end Wrapping

/-- The lines into which a line is broken; one that fits is left as it is. -/
def wrap (columns : Nat) (line : List Char) : List (List Char) :=
  if width line ≤ columns then [line]
  else ((pieces ' ' line).foldl (Wrapping.place columns) {}).lines

example : wrap 4 ['a', 'b', ' ', 'c', 'd', 'e'] = [['a', 'b'], ['c', 'd', 'e']] := by
  decide +kernel

example : wrap 3 ['a', 'b', 'c', 'd'] = [['a', 'b', 'c'], ['d']] := by decide +kernel

end PacketFraming.Text
