import AlertRelay.Http.Path

/-!
# Paths of files

The path of a file may begin with a drive letter, which is then shown with a colon and never left.
It does not begin with an empty segment before others. Tabs and line ends in it do not count, with
one exception: after a drive letter at the beginning they end its segment, and what follows them is
a segment as it is, be it of dots.

## Main definitions

* `FilePath` — a path as far as it is read
* `FilePath.read` — the path of a text
* `FilePath.hasDrive` — the path names a drive
* `FilePath.segments` — the segments of the path
-/

namespace AlertRelay.Http

/-- A tab or line end. Apart from where it follows a drive letter it does not count. -/
def isBreak (c : Char) : Bool := c == '\t' || c == '\n' || c == '\r'

/-- The text without tabs and line ends. -/
def unbroken (cs : List Char) : List Char := cs.filter (!isBreak ·)

/-- A path of a file as far as it is read: its segments in reverse, and whether the first of them
was written as a drive letter of its own. -/
structure FilePath where
  before : List (List Char)
  hasDrive : Bool

namespace FilePath

/-- The path before its first segment. -/
def start : FilePath := { before := [], hasDrive := false }

/-- The drive letter at the start of a text that a break comes after, and what follows the break. -/
def splitDrive (cs : List Char) : Option (List Char × List Char) :=
  match cs.dropWhile isBreak with
  | [] => none
  | letter :: r =>
    match r.dropWhile isBreak with
    | ':' :: next :: rest =>
      if letter.isAlpha && isBreak next && !(unbroken rest).isEmpty then
        some ([letter, ':'], unbroken rest)
      else none
    | _ => none

/-- The path after its first segment. -/
def first (cs : List Char) (isLast : Bool) : FilePath :=
  match splitDrive cs with
  | some (drive, rest) => { before := [rest, drive], hasDrive := false }
  | none =>
    let s := unbroken cs
    if Path.isDrive s then { before := [s.set 1 ':'], hasDrive := true }
    else { before := Path.step [] s isLast, hasDrive := false }

/-- The path after one more segment. -/
def step (p : FilePath) (cs : List Char) (isLast : Bool) : FilePath :=
  if p.before.isEmpty then first cs isLast
  else { p with before := Path.step p.before (unbroken cs) isLast }

/-- The path after all segments of a row. -/
def resolve (p : FilePath) : List (List Char) → FilePath
  | [] => p
  | s :: r => resolve (p.step s r.isEmpty) r

/-- The path of a text, after its first slash. -/
def read (isSlash : Char → Bool) (cs : List Char) : FilePath :=
  resolve start (Path.split isSlash cs)

/-- The segments of the path. -/
def segments (p : FilePath) : List (List Char) :=
  match p.before.reverse.dropWhile List.isEmpty with
  | [] => [[]]
  | rest => rest

end FilePath

end AlertRelay.Http
