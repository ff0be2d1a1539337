import PacketFraming.Text.Joint

/-! How many terminal columns a line of text fills.

Most characters fill their own columns wherever they stand. The others join characters to
their right: ligatures, pictures put together from several characters, and characters
behind which a selector asks for another form. -/

namespace PacketFraming.Text

inductive Selector
  | picture
  | text
  | fullWidth
deriving DecidableEq, Repr

def Selector.ofChar? (char : Char) : Option Selector :=
  if char = '\ufe0f' then some picture
  else if char = '\ufe0e' then some text
  else if char = '\ufe01' then some fullWidth
  else none

def isQuotationMark (char : Char) : Bool :=
  inRanges [(0x2018, 0x2019), (0x201C, 0x201D)] char

/-- The selectors that wait for the character in front of them. -/
structure Selectors where
  picture : Bool := false
  text : Bool := false
  fullWidth : Bool := false
deriving DecidableEq, Repr

namespace Selectors

def add (selectors : Selectors) : Selector → Selectors
  | .picture => { selectors with picture := true }
  | .text => { selectors with text := true }
  | .fullWidth => { selectors with fullWidth := true }

/-- The columns of a character whose plain or full-width form is asked for. The plain form
comes first when both are. -/
def restyle? (selectors : Selectors) (char : Char) : Option Int :=
  if selectors.text && takesTextStyle char then some 1
  else if selectors.fullWidth && isQuotationMark char then some 2
  else none

end Selectors

/-- What stands at the left edge of measured text: its joint, and selectors in front. -/
structure Edge where
  joint : Joint
  selectors : Selectors
deriving DecidableEq, Repr

namespace Edge

def ofJoint (joint : Joint) : Edge := { joint, selectors := {} }

def plain : Edge := ofJoint .plain

/-- What is left when nothing in front takes the form of a picture: letters may still join,
but a joined picture finds nothing to be joined to. -/
def settled (edge : Edge) : Edge :=
  if edge.selectors.picture then
    match edge.joint with
    | .letter _ _ => { edge with selectors := { edge.selectors with picture := false } }
    | _ => plain
  else edge

/-- A selector in front of an edge. Letters join across any number of selectors, and a
joined picture joins what the selector makes a picture; in front of all else a selector
stands for itself alone. -/
def select (edge : Edge) (selector : Selector) : Edge :=
  match edge.joint with
  | .letter _ _ => { edge with selectors := edge.selectors.add selector }
  | joint =>
      let joined := selector = .picture && joint.isJoined
      { joint := if joined then joint else .plain, selectors := Selectors.add {} selector }

/-- What a character adds that is asked to be a picture, and can be one. -/
def pictured? (edge : Edge) (char : Char) : Option (Int × Edge) :=
  if edge.selectors.picture && takesPictureStyle char then
    some (if edge.joint.isJoined then 0 else 2, ofJoint .picture)
  else none

/-- What a character adds to the columns, and the edge in front of it, when no selector
makes it a picture. Characters up to the no-break space fill one column and join nothing. -/
def extendSettled (edge : Edge) (char : Char) : Int × Edge :=
  if char ≤ '\u00a0' then (1, plain)
  else
    match Selector.ofChar? char with
    | some selector => (0, edge.select selector)
    | none =>
        match edge.selectors.restyle? char with
        | some columns => (columns, plain)
        | none =>
            match edge.joint.join? char with
            | some (columns, joint) => (columns, ofJoint joint)
            | none => (charWidth char, ofJoint (.ofChar char))

/-- What a character adds to the columns, and the edge in front of it. -/
def extend (edge : Edge) (char : Char) : Int × Edge :=
  match edge.pictured? char with
  | some pictured => pictured
  | none => edge.settled.extendSettled char

end Edge

def measure (line : List Char) : Int × Edge :=
  line.foldr
    (fun char (columns, edge) =>
      let (added, edge) := edge.extend char
      (columns + added, edge))
    (0, .plain)

def width (line : List Char) : Nat :=
  (measure line).1.toNat

theorem length_pos_of_lt_width {columns : Nat} {line : List Char}
    (wide : columns < width line) : 0 < line.length := by
  cases line with
  | nil => simp [width, measure] at wide
  | cons char rest => simp

example : width ['a', 'b'] = 2 := by decide +kernel

example : width ['日', '\u0301'] = 2 := by decide +kernel

example : width ['❤'] = 1 ∧ width ['❤', '\ufe0f'] = 2 := by decide +kernel

example : width ['⌚'] = 2 ∧ width ['⌚', '\ufe0e'] = 1 := by decide +kernel

example : width ['\u0644', '\u0627'] = 1 := by decide +kernel

example : width ['\u2018', '\ufe0e', '\ufe01', '\u05dc'] = 3 := by decide +kernel

end PacketFraming.Text
