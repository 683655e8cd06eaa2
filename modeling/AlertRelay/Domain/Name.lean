import AlertRelay.Domain.Label

/-!
# Domain names

A domain name is looked up in its ASCII form: the mapped text, cut into labels at its dots, with
every label beyond ASCII written in punycode. A name with a character that no name may hold, or
with a label that is not well formed, has no such form.

## Main definitions

* `Domain.isAllowed` — an ASCII character that a name may hold
* `Domain.ascii?` — the ASCII form of a name
-/

namespace AlertRelay.Domain

/-- The ASCII characters that end or structure other parts of an address. -/
def reserved : List Char := "#/:<>?@[\\]^|%".toList

/-- A character that a mapped name may hold: any beyond ASCII, and of the ASCII characters those
that are neither blank nor control nor reserved. -/
def isAllowed (c : Char) : Bool :=
  if Punycode.isBasic c then 0x20 < c.toNat && c.toNat < 0x7f && !reserved.contains c else true

/-- The directions of the labels agree: where one has a character written from right to left, all
have one direction. -/
def directionsFit (labels : List (List Char)) : Bool :=
  !labels.any turnsRight || labels.all hasOneDirection

/-- The ASCII form of a name. -/
def ascii? (name : List Char) : Option (List Char) := do
  let text ← mapped name
  let labels := Text.pieces '.' text
  let shown ← labels.mapM shown?
  if text.all isAllowed && directionsFit shown then
    return Text.joined '.' (labels.map written)
  else none

end AlertRelay.Domain
