import AlertRelay.Http.Escape
import AlertRelay.Text.Pieces

/-!
# Paths

A path is a row of segments, each after a slash. A segment of one dot is left out and one of two
dots takes the segment before it away, unless that is a drive letter.

## Main definitions

* `Path.step` — the segments so far after one more
* `Path.resolve` — the segments without dot segments
* `Path.text` — segments as they are shown
-/

namespace AlertRelay.Http.Path

/-- A segment that stays at the same level. -/
def isSingleDot (cs : List Char) : Bool :=
  [".", "%2e"].contains (String.ofList (cs.map Char.toLower))

/-- A segment that goes one level up. -/
def isDoubleDot (cs : List Char) : Bool :=
  ["..", ".%2e", "%2e.", "%2e%2e"].contains (String.ofList (cs.map Char.toLower))

/-- A segment that is a drive letter: a letter and a colon or bar. Where a backslash is no slash,
one may follow. -/
def isDrive : List Char → Bool
  | letter :: mark :: rest =>
    letter.isAlpha && (mark == ':' || mark == '|') && rest.head?.all (· == '\\')
  | _ => false

/-- The segments one level up, in reverse; a drive letter is never left. -/
def up : List (List Char) → List (List Char)
  | [] => []
  | s :: r => if isDrive s then s :: r else r

/-- The segments so far, in reverse, after one more; a dot segment at the end leaves an empty one
behind. -/
def step (before : List (List Char)) (s : List Char) (isLast : Bool) : List (List Char) :=
  if isDoubleDot s then (if isLast then [] :: up before else up before)
  else if isSingleDot s then (if isLast then [] :: before else before)
  else s :: before

/-- The segments without dot segments, behind those before in reverse. -/
def resolve (before : List (List Char)) : List (List Char) → List (List Char)
  | [] => before.reverse
  | s :: r => resolve (step before s r.isEmpty) r

/-- The pieces of a text between its slashes. -/
def split (isSlash : Char → Bool) (cs : List Char) : List (List Char) :=
  Text.pieces '/' (cs.map fun c => if isSlash c then '/' else c)

/-- The segments of a text, after its first slash. -/
def read (isSlash : Char → Bool) (cs : List Char) : List (List Char) :=
  resolve [] (split isSlash cs)

/-- The segments as they are shown. -/
def text (segments : List (List Char)) : String :=
  String.join (segments.map fun s => "/" ++ String.ofList (percentEncode pathSet s))

end AlertRelay.Http.Path
