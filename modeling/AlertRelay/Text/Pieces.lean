/-!
# Pieces of a text

A text is cut at every occurrence of a separator. There is always one piece more than there are
separators, so joining the pieces with the separator gives the text back.

## Main definitions

* `Text.pieces` — the pieces between the occurrences of a separator
* `Text.joined` — pieces with a separator between them

## Main results

* `joined_pieces` — joining the pieces of a text gives the text
-/

namespace AlertRelay.Text

/-- The pieces between the occurrences of a separator. -/
def pieces (separator : Char) : List Char → List (List Char)
  | [] => [[]]
  | c :: r =>
    if c = separator then [] :: pieces separator r
    else
      match pieces separator r with
      | [] => [[c]]
      | p :: ps => (c :: p) :: ps

/-- The pieces with a separator between them. -/
def joined (separator : Char) : List (List Char) → List Char
  | [] => []
  | [p] => p
  | p :: ps => p ++ separator :: joined separator ps

theorem pieces_ne_nil (separator : Char) (cs : List Char) : pieces separator cs ≠ [] := by
  cases cs with
  | nil => simp [pieces]
  | cons c r =>
    simp only [pieces]
    split
    · simp
    · split <;> simp

/-- Joining the pieces of a text gives the text back. -/
theorem joined_pieces (separator : Char) (cs : List Char) :
    joined separator (pieces separator cs) = cs := by
  induction cs with
  | nil => rfl
  | cons c r ih =>
    simp only [pieces]
    split
    · next h =>
      cases hr : pieces separator r with
      | nil => exact absurd hr (pieces_ne_nil separator r)
      | cons p ps =>
        rw [hr] at ih
        simp [joined, ih, h]
    · cases hr : pieces separator r with
      | nil => exact absurd hr (pieces_ne_nil separator r)
      | cons p ps =>
        rw [hr] at ih
        cases ps with
        | nil =>
          simp only [joined] at ih ⊢
          rw [ih]
        | cons q qs =>
          simp only [joined, List.cons_append] at ih ⊢
          rw [ih]

end AlertRelay.Text
