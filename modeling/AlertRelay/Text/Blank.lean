/-!
# Blank characters

The characters that count as white space in text: the 25 code points with the `White_Space`
property. A text is trimmed of them at both ends, and a text made of them alone is blank.

## Main definitions

* `Text.isBlank` — the character property
* `Text.trim` / `Text.trimStart` — a text without its outer blanks
* `Text.allBlank` — no character but blanks
* `Text.Blank` — the property that this decides

## Main results

* `trim_eq_empty_iff` — a text trims to nothing exactly when it is blank
-/

namespace AlertRelay.Text

/-- The `White_Space` property. -/
def isBlank (c : Char) : Bool :=
  let n := c.val
  (0x09 ≤ n && n ≤ 0x0D) || n == 0x20 || n == 0x85 || n == 0xA0 || n == 0x1680 ||
    (0x2000 ≤ n && n ≤ 0x200A) || n == 0x2028 || n == 0x2029 || n == 0x202F || n == 0x205F ||
    n == 0x3000

/-- The characters without leading blanks. -/
def trimStart (cs : List Char) : List Char := cs.dropWhile isBlank

/-- The characters without leading and trailing blanks. -/
def trimChars (cs : List Char) : List Char :=
  (trimStart (trimStart cs).reverse).reverse

/-- The text without leading and trailing blanks. -/
def trim (s : String) : String := String.ofList (trimChars s.toList)

/-- Every character is blank; the empty text is blank. -/
def allBlank (s : String) : Bool := s.toList.all isBlank

/-- The text is empty, or has no character but blanks. -/
def Blank (s : String) : Prop := ∀ c ∈ s.toList, isBlank c = true

theorem allBlank_iff {s : String} : allBlank s = true ↔ Blank s := List.all_eq_true

theorem dropWhile_eq_nil_iff {α : Type} (p : α → Bool) (l : List α) :
    l.dropWhile p = [] ↔ l.all p = true := by
  induction l with
  | nil => simp
  | cons a r ih =>
    cases h : p a <;> simp [h, ih]

theorem trimStart_eq_nil_iff (cs : List Char) : trimStart cs = [] ↔ cs.all isBlank = true :=
  dropWhile_eq_nil_iff isBlank cs

/-- What is left of a non-blank text still starts with a character that is no blank. -/
theorem not_all_trimStart {cs : List Char} (h : trimStart cs ≠ []) :
    (trimStart cs).all isBlank = false := by
  induction cs with
  | nil => simp [trimStart] at h
  | cons c r ih =>
    cases hc : isBlank c
    · simp [trimStart, hc]
    · have step : trimStart (c :: r) = trimStart r := by simp [trimStart, hc]
      rw [step] at h ⊢
      exact ih h

theorem trimChars_eq_nil_iff (cs : List Char) : trimChars cs = [] ↔ cs.all isBlank = true := by
  rw [trimChars, List.reverse_eq_nil_iff, trimStart_eq_nil_iff, List.all_reverse]
  constructor
  · intro h
    by_cases hn : trimStart cs = []
    · exact (trimStart_eq_nil_iff cs).1 hn
    · rw [not_all_trimStart hn] at h
      exact absurd h (by decide)
  · intro h
    rw [(trimStart_eq_nil_iff cs).2 h]
    rfl

/-- A text trims to nothing exactly when it is blank. -/
theorem trim_eq_empty_iff (s : String) : trim s = "" ↔ allBlank s = true := by
  rw [trim, allBlank, ← trimChars_eq_nil_iff]
  constructor
  · intro h
    have := congrArg String.toList h
    simpa using this
  · intro h
    rw [h]

end AlertRelay.Text
