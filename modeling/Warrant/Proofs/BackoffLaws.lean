import Warrant.Backoff

namespace Warrant

namespace SkipWindow

structure Bounded (w : SkipWindow) : Prop where
  least : 60 ≤ w.seconds
  most : w.seconds ≤ 1800

variable {w : SkipWindow} {now : Nat}

@[simp] theorem start_afterFailure (last : Option SkipWindow) (now : Nat) :
    (afterFailure last now).start = now := rfl

@[simp] theorem seconds_afterFailure_none (now : Nat) :
    (afterFailure none now).seconds = 60 := rfl

theorem seconds_afterFailure_of_soon (soon : now < w.finish + nanoseconds 60) :
    (afterFailure (some w) now).seconds = min (2 * w.seconds) 1800 :=
  if_pos soon

theorem seconds_afterFailure_of_late (late : w.finish + nanoseconds 60 ≤ now) :
    (afterFailure (some w) now).seconds = 60 :=
  if_neg (Nat.not_lt.2 late)

theorem bounded_afterFailure {last : Option SkipWindow} (bounded : ∀ w ∈ last, w.Bounded)
    (now : Nat) : (afterFailure last now).Bounded := by
  cases last with
  | none => constructor <;> simp
  | some w =>
    have bounds := bounded w rfl
    by_cases soon : now < w.finish + nanoseconds 60
    · constructor
      · rw [seconds_afterFailure_of_soon soon]
        have least := bounds.least
        omega
      · rw [seconds_afterFailure_of_soon soon]
        exact Nat.min_le_right _ _
    · constructor <;> simp [seconds_afterFailure_of_late (Nat.not_lt.1 soon)]

/-- Within the grace a window is at least as long as the last one, and after it that one is over. -/
theorem finish_le_finish_afterFailure (bounded : w.Bounded) (begun : w.start ≤ now) :
    w.finish ≤ (afterFailure (some w) now).finish := by
  by_cases soon : now < w.finish + nanoseconds 60
  · have longer : w.seconds ≤ min (2 * w.seconds) 1800 := by
      have most := bounded.most
      omega
    rw [finish, finish, start_afterFailure, seconds_afterFailure_of_soon soon]
    exact Nat.add_le_add begun (Nat.mul_le_mul_left _ longer)
  · calc
      w.finish ≤ w.finish + nanoseconds 60 := Nat.le_add_right _ _
      _ ≤ now := Nat.not_lt.1 soon
      _ ≤ (afterFailure (some w) now).finish := Nat.le_add_right _ _

end SkipWindow

namespace SkipList

structure Sound (l : SkipList) (now : Nat) : Prop where
  bounded : ∀ d w, l.get? d = some w → w.Bounded
  begun : ∀ d w, l.get? d = some w → w.start ≤ now

def SkipsUntil (l : SkipList) (destination : String) (time : Nat) : Prop :=
  ∃ w, l.get? destination = some w ∧ time ≤ w.finish

variable {l : SkipList} {d : String} {now time : Nat}

theorem skips_iff : l.skips d now = true ↔ ∃ w, l.get? d = some w ∧ now < w.finish := by
  simp [skips, Option.any_eq_true]

theorem SkipsUntil.skips (h : l.SkipsUntil d time) (early : now < time) : l.skips d now = true := by
  obtain ⟨w, found, lasts⟩ := h
  exact skips_iff.2 ⟨w, found, Nat.lt_of_lt_of_le early lasts⟩

theorem sound_empty (now : Nat) : empty.Sound now :=
  ⟨nofun, nofun⟩

theorem get?_fail_self (l : SkipList) (d : String) (now : Nat) :
    (l.fail d now).get? d = some (.afterFailure (l.get? d) now) := by
  rw [get?_fail, if_pos rfl]

theorem get?_fail_of_ne {other : String} (l : SkipList) (differs : other ≠ d) (now : Nat) :
    (l.fail d now).get? other = l.get? other := by
  rw [get?_fail, if_neg differs]

namespace Sound

theorem wait (h : l.Sound now) (seconds : Nat) : l.Sound (now + seconds) where
  bounded := h.bounded
  begun d w found := Nat.le_add_right_of_le (h.begun d w found)

theorem fail (h : l.Sound now) (d : String) : (l.fail d now).Sound now where
  bounded other w found := by
    by_cases same : other = d
    · subst same
      rw [get?_fail_self] at found
      cases found
      exact SkipWindow.bounded_afterFailure (fun w => h.bounded other w) now
    · rw [get?_fail_of_ne l same] at found
      exact h.bounded other w found
  begun other w found := by
    by_cases same : other = d
    · subst same
      rw [get?_fail_self] at found
      cases found
      exact Nat.le_refl now
    · rw [get?_fail_of_ne l same] at found
      exact h.begun other w found

/-- No failure, of whichever destination, puts an end to a window. -/
theorem skipsUntil_fail (h : l.Sound now) (skipped : l.SkipsUntil d time) (other : String) :
    (l.fail other now).SkipsUntil d time := by
  obtain ⟨w, found, lasts⟩ := skipped
  by_cases same : d = other
  · subst same
    refine ⟨_, get?_fail_self l d now, Nat.le_trans lasts ?_⟩
    rw [found]
    exact SkipWindow.finish_le_finish_afterFailure (h.bounded d w found) (h.begun d w found)
  · exact ⟨w, (get?_fail_of_ne l same now).trans found, lasts⟩

end Sound

end SkipList

end Warrant
