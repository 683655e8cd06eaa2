import AlertRelay.Text.Unprintable

/-!
# Quoted text in messages

A message that names an offending text puts it in double quotes. The quote and the backslash are
escaped by a backslash, tab, line feed, carriage return and null have short escapes, and a character
that would not show is written as its code point in lowercase hexadecimal between braces.

## Main definitions

* `Text.escapeShown` — how one character is written
* `Text.quoted` — the quoted text
-/

namespace AlertRelay.Text

/-- Lowercase hexadecimal without leading zeros. -/
def hexOfNat (n : Nat) : String := String.ofList (Nat.toDigits 16 n)

/-- One character inside a quoted text. -/
def escapeShown (c : Char) : String :=
  match c with
  | '"' => "\\\""
  | '\\' => "\\\\"
  | '\n' => "\\n"
  | '\r' => "\\r"
  | '\t' => "\\t"
  | '\x00' => "\\0"
  | c => if isUnprintable c then "\\u\x7b" ++ hexOfNat c.toNat ++ "\x7d" else c.toString

/-- The text between double quotes. -/
def quoted (s : String) : String := "\"" ++ String.join (s.toList.map escapeShown) ++ "\""

end AlertRelay.Text
