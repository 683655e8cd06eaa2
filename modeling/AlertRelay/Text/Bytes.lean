import AlertRelay.Text.Hex

/-!
# Bytes of a text

## Main definitions

* `Text.utf8` — the bytes of a text
* `Text.hexByte` — the two digits of a byte

## Main results

* `utf8_append` — the bytes of a text are those of its parts
-/

namespace AlertRelay.Text

/-- The bytes of a text in UTF-8. -/
def utf8 (s : String) : List UInt8 := s.toUTF8.data.toList

/-- The two lowercase digits of a byte. -/
def hexByte (b : UInt8) : List Char := [hexDigit (b.toNat / 16), hexDigit (b.toNat % 16)]

/-- The bytes of a text are those of its parts. -/
theorem utf8_append (s t : String) : utf8 (s ++ t) = utf8 s ++ utf8 t := by
  simp [utf8]

end AlertRelay.Text
