import AlertRelay.Time.Instant

/-!
# Pacing by a cooldown

A sequence of moments, in whatever order the clock gave them, at some of which something fires. It
is paced when every firing comes strictly after the cooldown of the last one that was stored, and
stores an instant no earlier than its own. Pacing looks only one firing back; the results here say
that it keeps *all* firings apart, and apart from what was stored before the sequence began.

## Main definitions

* `Moment` — when the cooldown was consulted, and what was stored if something fired
* `Paced` — every firing waits for the cooldown of the last

## Main results

* `Paced.after_stored` — every firing comes after the cooldown of the first stored instant
* `Paced.pairwise` — of two firings the later comes after the cooldown of the earlier
-/

namespace AlertRelay

/-- A moment at which a cooldown was consulted, with the instant that was stored if something
fired. -/
structure Moment where
  now : Instant
  stored : Option Instant

/-- Something fired at the moment. -/
def Moment.Fires (m : Moment) : Prop := m.stored.isSome = true

/-- Every firing comes strictly after the cooldown of the last stored instant, and stores one that
is no earlier, nor any earlier after the cooldown. -/
inductive Paced (cooldown : Int) : Option Instant → List Moment → Prop
  | nil (last : Option Instant) : Paced cooldown last []
  | quiet {last : Option Instant} {now : Instant} {rest : List Moment}
      (paced : Paced cooldown last rest) : Paced cooldown last (⟨now, none⟩ :: rest)
  | fire {last : Option Instant} {now stored : Instant} {rest : List Moment}
      (due : ∀ t, last = some t → t.moved cooldown < now)
      (kept : now ≤ stored) (kept_moved : now.moved cooldown ≤ stored.moved cooldown)
      (paced : Paced cooldown (some stored) rest) :
      Paced cooldown last (⟨now, some stored⟩ :: rest)

namespace Paced

variable {cooldown : Int} {last : Option Instant} {moments : List Moment}

/-- Every firing comes after the cooldown of what was stored first, however many lie between. -/
theorem after_stored (nonnegative : 0 ≤ cooldown) (paced : Paced cooldown last moments)
    {t : Instant} (stored : last = some t) :
    ∀ m ∈ moments, m.Fires → t.moved cooldown < m.now := by
  induction paced generalizing t with
  | nil => simp
  | quiet _ ih =>
    intro m member fires
    rcases List.mem_cons.mp member with rfl | member
    · simp [Moment.Fires] at fires
    · exact ih stored m member fires
  | @fire _ now kept _ due le_kept _ _ ih =>
    intro m member fires
    rcases List.mem_cons.mp member with rfl | member
    · exact due t stored
    · -- the firing in between is itself later, and no cooldown leads back
      have between := ih rfl m member fires
      have waited := Instant.le_trans le_kept (Instant.le_moved kept nonnegative)
      exact Instant.lt_of_le_of_lt
        (Instant.le_trans (Instant.le_of_lt (due t stored)) waited) between

/-- Of two firings the later one comes after the cooldown of the earlier one. -/
theorem pairwise (nonnegative : 0 ≤ cooldown) (paced : Paced cooldown last moments) :
    moments.Pairwise fun x y => x.Fires → y.Fires → x.now.moved cooldown < y.now := by
  induction paced with
  | nil => exact List.Pairwise.nil
  | quiet _ ih =>
    refine List.Pairwise.cons (fun y _ fires => ?_) ih
    simp [Moment.Fires] at fires
  | fire _ _ kept_moved rest ih =>
    refine List.Pairwise.cons (fun y member _ fires => ?_) ih
    exact Instant.lt_of_le_of_lt kept_moved (rest.after_stored nonnegative rfl y member fires)

end Paced

end AlertRelay
