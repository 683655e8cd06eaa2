import AlertRelay.Proofs.Text.Edge

/-!
# Cutting a text

A text of too many bytes is cut at the last edge that is within the limit. The search for it begins
at the limit and steps back by one byte at a time. No character has more than four bytes, so three
steps always get to an edge, and the start is one, so no step leads out of the text. What is kept is
the longest beginning that fits and ends between characters. To cut what was cut before is to cut to
the smaller of both limits.

## Main definitions

* `Text.IsLongestStart` — the longest beginning up to a limit that ends between characters
* `Text.stepBack` — the search for an edge
* `Text.cut` — bytes cut at the edge that the search finds

## Main results

* `Text.isLongestStart_truncate` — a cut text is the longest beginning
* `Text.le_length_utf8_truncate` — at most three bytes less than the limit are kept
* `Text.truncate_truncate` — cutting twice is cutting to the smaller limit
* `Text.stepBack_encode` — the search finds the last boundary when it may step back far enough
* `Text.cut_utf8` — three steps are enough to cut a text
-/

namespace AlertRelay.Text

variable {cs : List Char} {s t : String} {bytes kept shorter : List UInt8}
  {limit allowed m n : Nat}

/-! ## The last boundary -/

/-- No later boundary is within the offset. -/
theorem le_boundaryAtMost (boundary : isBoundary cs m = true) (within : m ≤ n) :
    m ≤ boundaryAtMost cs n := by
  induction n with
  | zero => exact within
  | succ n ih =>
    rw [boundaryAtMost]
    split
    case isTrue => exact within
    case isFalse inside =>
      apply ih
      by_cases last : m = n + 1
      · exact absurd (last ▸ boundary) inside
      · omega

theorem exists_boundary_near (within : n ≤ byteSize cs) :
    ∃ m, isBoundary cs m = true ∧ m ≤ n ∧ n ≤ m + 3 := by
  induction cs generalizing n with
  | nil => exact ⟨0, rfl, Nat.zero_le n, Nat.le_trans within (Nat.zero_le _)⟩
  | cons c r ih =>
    rcases offset_cases c n with rfl | ⟨after, before⟩ | ⟨k, rfl⟩
    · exact ⟨0, isBoundary_zero _, Nat.le_refl 0, Nat.zero_le _⟩
    · -- a character has at most four bytes, so the start is near
      have widest := c.utf8Size_le_four
      exact ⟨0, isBoundary_zero _, Nat.zero_le n, by omega⟩
    · rw [byteSize] at within
      obtain ⟨m, boundary, before, near⟩ := ih (n := k) (by omega)
      refine ⟨m + c.utf8Size, ?_, by omega, by omega⟩
      rw [isBoundary_add]
      exact boundary

/-- The last boundary is at most three bytes away. -/
theorem le_boundaryAtMost_add_three (within : n ≤ byteSize cs) : n ≤ boundaryAtMost cs n + 3 := by
  obtain ⟨m, boundary, before, near⟩ := exists_boundary_near within
  have later := le_boundaryAtMost boundary before
  omega

/-! ## The longest beginning -/

/-- The longest beginning of some bytes that has at most so many of them and ends at an edge. -/
structure IsLongestStart (limit : Nat) (bytes kept : List UInt8) : Prop where
  start : kept <+: bytes
  edge : isEdge bytes kept.length = true
  fits : kept.length ≤ limit
  longest : ∀ other, other <+: bytes → isEdge bytes other.length = true → other.length ≤ limit →
    other <+: kept

namespace IsLongestStart

/-- There is only one longest beginning. -/
theorem unique (a : IsLongestStart limit bytes kept) (b : IsLongestStart limit bytes shorter) :
    kept = shorter :=
  (b.longest kept a.start a.edge a.fits).eq_of_length_le
    (a.longest shorter b.start b.edge b.fits).length_le

/-- The first bytes up to an edge, when no other edge is between there and the limit. -/
theorem of_last (edge : isEdge bytes n = true) (fits : n ≤ limit)
    (last : ∀ m, isEdge bytes m = true → m ≤ limit → m ≤ n) :
    IsLongestStart limit bytes (bytes.take n) := by
  have length : (bytes.take n).length = n := List.length_take_of_le (le_length_of_isEdge edge)
  constructor
  case start => exact List.take_prefix n bytes
  case edge => rw [length]; exact edge
  case fits => rw [length]; exact fits
  case longest =>
    intro other start edge fits
    apply List.prefix_of_prefix_length_le start (List.take_prefix n bytes)
    rw [length]
    exact last _ edge fits

/-- What is kept has the edges of all the bytes, as far as it goes. -/
theorem isEdge_eq (a : IsLongestStart limit bytes kept) (within : n ≤ kept.length) :
    isEdge kept n = isEdge bytes n := by
  by_cases last : n = kept.length
  · rw [last, isEdge_length, a.edge]
  · calc isEdge kept n
      _ = isEdge (bytes.take kept.length) n := by rw [← List.prefix_iff_eq_take.mp a.start]
      _ = isEdge bytes n := isEdge_take (by omega) a.start.length_le

/-- The longest beginning of the longest beginning is that up to the smaller limit. -/
theorem trans (a : IsLongestStart limit bytes kept) (b : IsLongestStart n kept shorter) :
    IsLongestStart (min n limit) bytes shorter := by
  constructor
  case start => exact b.start.trans a.start
  case edge =>
    rw [← a.isEdge_eq b.start.length_le]
    exact b.edge
  case fits => exact Nat.le_min.mpr ⟨b.fits, Nat.le_trans b.start.length_le a.fits⟩
  case longest =>
    intro other start edge fits
    obtain ⟨short, fitting⟩ := Nat.le_min.mp fits
    have kept := a.longest other start edge fitting
    apply b.longest other kept _ short
    rw [a.isEdge_eq kept.length_le]
    exact edge

end IsLongestStart

/-! ## A cut text -/

theorem length_utf8 (s : String) : (utf8 s).length = byteSize s.toList := by
  rw [utf8_eq_encode, length_encode]

theorem isEdge_utf8 (s : String) (n : Nat) : isEdge (utf8 s) n = isBoundary s.toList n := by
  rw [utf8_eq_encode, isEdge_encode]

theorem utf8_injective (same : utf8 s = utf8 t) : s = t := by
  simpa [utf8, ← ByteArray.ext_iff, Array.toList_inj, String.toByteArray_inj] using same

/-- A text that fits is kept as it is. -/
theorem truncate_of_fits (fits : (utf8 s).length ≤ limit) : truncate limit s = s := by
  rw [length_utf8] at fits
  rw [truncate, truncateChars, if_pos fits, String.ofList_toList]

/-- Of a longer text the bytes before the last boundary are kept. -/
theorem utf8_truncate_of_exceeds (exceeds : limit < (utf8 s).length) :
    utf8 (truncate limit s) = (utf8 s).take (boundaryAtMost s.toList limit) := by
  rw [length_utf8] at exceeds
  rw [truncate, truncateChars, if_neg (Nat.not_le_of_lt exceeds), utf8_eq_encode,
    String.toList_ofList, encode_takeBytes (isBoundary_boundaryAtMost _ _), ← utf8_eq_encode]

theorem length_utf8_truncate (exceeds : limit < (utf8 s).length) :
    (utf8 (truncate limit s)).length = boundaryAtMost s.toList limit := by
  have before := boundaryAtMost_le s.toList limit
  rw [utf8_truncate_of_exceeds exceeds, List.length_take_of_le (by omega)]

/-- Of a longer text at most three bytes less than the limit are kept. -/
theorem le_length_utf8_truncate (exceeds : limit < (utf8 s).length) :
    limit ≤ (utf8 (truncate limit s)).length + 3 := by
  rw [length_utf8_truncate exceeds]
  rw [length_utf8] at exceeds
  exact le_boundaryAtMost_add_three (Nat.le_of_lt exceeds)

/-- A cut text is the longest beginning that fits and splits no character. -/
theorem isLongestStart_truncate (limit : Nat) (s : String) :
    IsLongestStart limit (utf8 s) (utf8 (truncate limit s)) := by
  by_cases fits : (utf8 s).length ≤ limit
  · rw [truncate_of_fits fits]
    exact ⟨List.prefix_refl _, isEdge_length _, fits, fun other start _ _ => start⟩
  · rw [utf8_truncate_of_exceeds (Nat.lt_of_not_le fits)]
    apply IsLongestStart.of_last
    · rw [isEdge_utf8]
      exact isBoundary_boundaryAtMost _ _
    · exact boundaryAtMost_le _ _
    · intro m edge within
      rw [isEdge_utf8] at edge
      exact le_boundaryAtMost edge within

/-- Cutting to one limit and then to another is cutting to the smaller one. -/
theorem truncate_truncate (m n : Nat) (s : String) :
    truncate m (truncate n s) = truncate (min m n) s :=
  utf8_injective (((isLongestStart_truncate n s).trans (isLongestStart_truncate m _)).unique
    (isLongestStart_truncate (min m n) s))

/-! ## The search for an edge -/

/-- Why nothing is cut: a step back would lead out of the text, more steps would be needed, or the
cut would split a character. -/
inductive CutFault where
  | beforeStart
  | unfinished
  | insideCharacter
  deriving DecidableEq, Repr

/-- The search for an edge: from the offset back by one byte at a time, at most as often as
allowed. -/
def stepBack (bytes : List UInt8) : Nat → Nat → Except CutFault Nat
  | 0, n => if isEdge bytes n then .ok n else .error .unfinished
  | _ + 1, 0 => if isEdge bytes 0 then .ok 0 else .error .beforeStart
  | allowed + 1, n + 1 => if isEdge bytes (n + 1) then .ok (n + 1) else stepBack bytes allowed n

/-- The bytes cut to a limit, at the edge that a search with so many steps finds. -/
def cut (allowed limit : Nat) (bytes : List UInt8) : Except CutFault (List UInt8) :=
  if bytes.length ≤ limit then .ok bytes
  else
    match stepBack bytes allowed limit with
    | .error fault => .error fault
    | .ok stop => if isEdge bytes stop then .ok (bytes.take stop) else .error .insideCharacter

/-- At an edge the search ends. -/
theorem stepBack_of_edge (edge : isEdge bytes n = true) : stepBack bytes allowed n = .ok n := by
  cases allowed with
  | zero => rw [stepBack, if_pos edge]
  | succ allowed => cases n <;> rw [stepBack, if_pos edge]

/-- The search never steps out of the text, because the start is an edge. -/
theorem stepBack_ne_beforeStart (bytes : List UInt8) (allowed n : Nat) :
    stepBack bytes allowed n ≠ .error .beforeStart := by
  intro left
  induction allowed generalizing n with
  | zero =>
    rw [stepBack] at left
    split at left <;> cases left
  | succ allowed ih =>
    cases n with
    | zero =>
      rw [stepBack_of_edge (isEdge_zero bytes)] at left
      cases left
    | succ n =>
      rw [stepBack] at left
      split at left
      · cases left
      · exact ih n left

/-- The search finds the last boundary when it may step back far enough. -/
theorem stepBack_encode (near : n ≤ boundaryAtMost cs n + allowed) :
    stepBack (encode cs) allowed n = .ok (boundaryAtMost cs n) := by
  induction n generalizing allowed with
  | zero => exact stepBack_of_edge (isEdge_zero _)
  | succ n ih =>
    by_cases boundary : isBoundary cs (n + 1) = true
    · rw [stepBack_of_edge (isEdge_encode cs _ ▸ boundary), boundaryAtMost, if_pos boundary]
    · -- the offset is no boundary, so the last one comes before it and a step is left
      have earlier : boundaryAtMost cs (n + 1) = boundaryAtMost cs n := by
        rw [boundaryAtMost, if_neg boundary]
      have before := boundaryAtMost_le cs n
      obtain ⟨others, rfl⟩ : ∃ others, allowed = others + 1 := ⟨allowed - 1, by omega⟩
      rw [stepBack, isEdge_encode, if_neg boundary, earlier]
      exact ih (by omega)

/-- Within a text three steps back are enough, and they lead to the end of what is kept. -/
theorem stepBack_utf8 (enough : 3 ≤ allowed) (exceeds : limit < (utf8 s).length) :
    stepBack (utf8 s) allowed limit = .ok (utf8 (truncate limit s)).length := by
  have near := le_length_utf8_truncate exceeds
  rw [length_utf8_truncate exceeds] at near ⊢
  rw [utf8_eq_encode]
  exact stepBack_encode (by omega)

/-- Fewer steps are not enough for a limit before the last byte of a character of four. -/
example : stepBack (utf8 "a😀") 3 4 = .ok 1 ∧ stepBack (utf8 "a😀") 2 4 = .error .unfinished :=
  ⟨rfl, rfl⟩

/-- Three steps are enough to cut a text. -/
theorem cut_utf8 (enough : 3 ≤ allowed) (limit : Nat) (s : String) :
    cut allowed limit (utf8 s) = .ok (utf8 (truncate limit s)) := by
  by_cases fits : (utf8 s).length ≤ limit
  · rw [cut, if_pos fits, truncate_of_fits fits]
  · have kept := isLongestStart_truncate limit s
    rw [cut, if_neg fits, stepBack_utf8 enough (Nat.lt_of_not_le fits)]
    dsimp only
    rw [if_pos kept.edge, ← List.prefix_iff_eq_take.mp kept.start]

end AlertRelay.Text
