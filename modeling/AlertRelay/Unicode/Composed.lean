import AlertRelay.Unicode.CombiningClass
import AlertRelay.Unicode.Decomposition

/-!
# Composed form

Texts that differ only in how composed characters are written have one composed form: every
character is taken apart, the marks on each character are put in the order of their combining
classes, and then the marks are composed with the character before them where a character stands
for both. A mark is composed only if no mark that stays behind has its class or a higher one.

## Main definitions

* `Unicode.decomposed` — a character taken apart
* `Unicode.ordered` — marks in the order of their classes
* `Unicode.composed` — the composed form of a text

## Main results

* `length_ordered` — reordering loses no character
-/

namespace AlertRelay.Unicode

/-- The characters that a character stands for after at most the given number of steps. -/
def decomposedIn : Nat → Char → List Char
  | 0, c => [c]
  | steps + 1, c =>
    match decomposition? c with
    | none => [c]
    | some parts => parts.flatMap (decomposedIn steps)

/-- The characters that a character stands for; no character takes more than four steps. -/
def decomposed (c : Char) : List Char := decomposedIn 4 c

/-- Marks with one more behind those of its own and of lower classes. -/
def insertMark (m : Char) : List Char → List Char
  | [] => [m]
  | c :: r => if combiningClass m < combiningClass c then m :: c :: r else c :: insertMark m r

/-- The text with the marks after each character in the order of their classes, from the marks in
order that precede it. -/
def ordered (marks : List Char) : List Char → List Char
  | [] => marks
  | c :: r =>
    if combiningClass c = 0 then marks ++ c :: ordered [] r else ordered (insertMark c marks) r

/-- A character and the marks kept on it, composed with what follows. -/
def composedFrom (base : Char) (kept : List Char) : List Char → List Char
  | [] => base :: kept
  | c :: r =>
    let isFree := kept.getLast?.all fun m => combiningClass m < combiningClass c
    match if isFree then composite? base c else none with
    | some whole => composedFrom whole kept r
    | none =>
      if combiningClass c = 0 then base :: kept ++ composedFrom c [] r
      else composedFrom base (kept ++ [c]) r

/-- The composed form of a text in order; marks before the first character stay as they are. -/
def recomposed : List Char → List Char
  | [] => []
  | c :: r => if combiningClass c = 0 then composedFrom c [] r else c :: recomposed r

/-- The composed form of a text. -/
def composed (cs : List Char) : List Char := recomposed (ordered [] (cs.flatMap decomposed))

theorem length_insertMark (m : Char) (cs : List Char) :
    (insertMark m cs).length = cs.length + 1 := by
  induction cs with
  | nil => rfl
  | cons c r ih =>
    simp only [insertMark]
    split <;> simp [ih]

/-- Reordering loses no character and adds none. -/
theorem length_ordered (marks cs : List Char) :
    (ordered marks cs).length = marks.length + cs.length := by
  induction cs generalizing marks with
  | nil => simp [ordered]
  | cons c r ih =>
    simp only [ordered]
    split
    · simp [ih]
    · rw [ih, length_insertMark, List.length_cons]
      omega

end AlertRelay.Unicode
