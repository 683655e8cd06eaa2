import AlertRelay.Domain.Name
import AlertRelay.Http.Address
import AlertRelay.Http.Escape

/-!
# Hosts

The host of a special address is a domain name in its ASCII form, an address of four bytes, or an
address of eight words between brackets; a name whose last label is a number must be an address.
The host of any other address is kept as it is written, brackets apart.

## Main definitions

* `Host.read` — the host of a special address, as it is shown
* `Host.readOpaque` — the host of any other address, as it is shown
-/

namespace AlertRelay.Http.Host

/-- The address of eight words after an opening bracket. -/
def readBracketed (cs : List Char) : Option String :=
  if cs.getLast? = some ']' then (Address.readWords cs.dropLast).map Address.bracketed else none

/-- The host of a special address, as it is shown. -/
def read (cs : List Char) : Option String :=
  match cs with
  | '[' :: r => readBracketed r
  | _ => do
    let name ← Domain.ascii? (← ofUtf8? (percentDecode cs))
    if name.isEmpty then none
    else if Address.endsInNumber name then (Address.readDotted name).map Address.dotted
    else return String.ofList name

/-- A character that no host holds. -/
def isForbidden (c : Char) : Bool := c.toNat = 0 || " #/:<>?@[\\]^|".toList.contains c

/-- The host of any other address, as it is shown. -/
def readOpaque (cs : List Char) : Option String :=
  match cs with
  | '[' :: r => readBracketed r
  | _ =>
    if cs.any isForbidden then none else some (String.ofList (percentEncode isOutside cs))

end AlertRelay.Http.Host
