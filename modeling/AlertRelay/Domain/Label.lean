import AlertRelay.Domain.Mapping
import AlertRelay.Domain.Punycode
import AlertRelay.Unicode.Direction
import AlertRelay.Unicode.Joining
import AlertRelay.Unicode.Mark

/-!
# Labels of domain names

A domain name is a row of labels. A label whose written form begins with `xn--` stands for the
label that the rest of it is the punycode of. A label beyond ASCII must not begin with a mark, the
two invisible joiners may only stand where they change how letters join, and in a name with letters
written from right to left every label must have one direction.

## Main definitions

* `Domain.isSound` — a label beyond ASCII is well formed
* `Domain.hasOneDirection` — a label has one direction
* `Domain.shown?` — the label that a written form stands for
* `Domain.written` — the written form of a label
-/

namespace AlertRelay.Domain

open Unicode

/-! ### Joiners -/

/-- The first character that is not passed over joins in one of the given ways. -/
def meets (ways : List Joining) (cs : List Char) : Bool :=
  match cs.dropWhile fun c => joining c == .transparent with
  | [] => false
  | c :: _ => ways.contains (joining c)

/-- The joiners in a text stand where they may, after the given characters in reverse. -/
def joinersFit (before : List Char) : List Char → Bool
  | [] => true
  | c :: r =>
    let afterVirama := before.head?.any isVirama
    let fits :=
      if c = '\u200d' then afterVirama
      else if c = '\u200c' then
        afterVirama || (meets [.left, .both] before && meets [.right, .both] r)
      else true
    fits && joinersFit (c :: before) r

/-! ### Direction -/

/-- The classes of characters written from right to left. -/
def fromRight : List Direction := [.right, .arabicLetter, .arabicNumber]

/-- The classes that any label may have inside. -/
def inside : List Direction :=
  [.europeanNumber, .europeanSeparator, .commonSeparator, .europeanTerminator, .otherNeutral,
    .boundaryNeutral, .nonspacing]

/-- The label is written in one direction: from left to right, with a letter at its start and a
letter or number at its end, or the other way round, with numbers of one kind. -/
def hasOneDirection (label : List Char) : Bool :=
  let classes := label.map direction
  let last := (classes.reverse.find? (· != .nonspacing)).getD .otherNeutral
  match classes with
  | [] => true
  | .left :: _ => classes.all (.left :: inside).contains && [.left, .europeanNumber].contains last
  | .right :: _ | .arabicLetter :: _ =>
    classes.all (fromRight ++ inside).contains &&
      (.europeanNumber :: fromRight).contains last &&
      !(classes.contains .europeanNumber && classes.contains .arabicNumber)
  | _ => false

/-- The label has a character written from right to left. -/
def turnsRight (label : List Char) : Bool := label.any fun c => fromRight.contains (direction c)

/-! ### Labels -/

/-- The longest label beyond ASCII that is written. -/
def longestShown : Nat := 1000

/-- The longest written form that is read. -/
def longestWritten : Nat := 2000

/-- The label is made of ASCII characters. -/
def isPlain (label : List Char) : Bool := label.all Punycode.isBasic

/-- A label beyond ASCII is well formed. -/
def isSound (label : List Char) : Bool :=
  !label.head?.any isMark && joinersFit [] label && label.length ≤ longestShown

/-- The label that a written form stands for: itself, or what its punycode says, which must be as
the mapping leaves it. -/
def shown? (label : List Char) : Option (List Char) :=
  match label with
  | 'x' :: 'n' :: '-' :: '-' :: rest =>
    if rest.getLast?.all (· == '-') || longestWritten < rest.length then none
    else (Punycode.decode rest).filter fun l => mapped l = some l && isSound l
  | _ => if isPlain label || isSound label then some label else none

/-- The written form of a label. -/
def written (label : List Char) : List Char :=
  if isPlain label then label else 'x' :: 'n' :: '-' :: '-' :: Punycode.encode label

end AlertRelay.Domain
