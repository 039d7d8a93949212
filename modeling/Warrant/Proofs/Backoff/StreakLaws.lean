import Warrant.Proofs.BackoffLaws
import Mathlib.Algebra.Group.Nat.Defs
import Mathlib.Data.List.Induction

namespace Warrant

structure Failure where
  destination : String
  time : Nat
  deriving DecidableEq

namespace SkipWindow

def span (streak : Nat) : Nat :=
  min (60 * 2 ^ streak) 1800

theorem min_span (k : Nat) : min (2 * span k) 1800 = span (k + 1) := by
  unfold span
  omega

/-- How many failures in a row come right before the latest one. Of the times the last one comes
first. -/
def streak : List Nat → Nat
  | t :: s :: earlier =>
    if t < s + nanoseconds (span (streak (s :: earlier)) + 60) then streak (s :: earlier) + 1 else 0
  | _ => 0

/-- The latest failure comes before the end of the last one's window and another minute. -/
def Follows : List Nat → Prop
  | t :: s :: earlier => t < s + nanoseconds (span (streak (s :: earlier)) + 60)
  | _ => False

theorem streak_of_follows {t : Nat} {earlier : List Nat} (soon : Follows (t :: earlier)) :
    streak (t :: earlier) = streak earlier + 1 := by
  cases earlier with
  | nil => exact soon.elim
  | cons s earlier => exact if_pos soon

theorem streak_of_not_follows {times : List Nat} (late : ¬Follows times) : streak times = 0 := by
  match times with
  | [] => rfl
  | [_] => rfl
  | t :: s :: earlier => exact if_neg late

theorem streak_eq_iff {times : List Nat} {k : Nat} :
    streak times = k ↔ (∀ i < k, Follows (times.drop i)) ∧ ¬Follows (times.drop k) := by
  induction k generalizing times with
  | zero =>
    rw [List.drop_zero]
    constructor
    · intro none
      refine ⟨nofun, fun soon => ?_⟩
      cases times with
      | nil => exact soon
      | cons t earlier => exact nomatch (streak_of_follows soon).symm.trans none
    · exact fun late => streak_of_not_follows late.2
  | succ k ih =>
    by_cases soon : Follows times
    · cases times with
      | nil => exact soon.elim
      | cons t earlier =>
        rw [streak_of_follows soon, Nat.add_right_cancel_iff, ih, List.drop_succ_cons]
        refine and_congr_left fun _ => ⟨fun chain i lt => ?_, fun chain i lt => ?_⟩
        · cases i with
          | zero => exact soon
          | succ i => exact chain i (Nat.lt_of_succ_lt_succ lt)
        · exact chain (i + 1) (Nat.succ_lt_succ lt)
    · rw [streak_of_not_follows soon]
      constructor
      · exact nofun
      · exact fun chain => absurd (chain.1 0 (Nat.succ_pos k)) soon

def ofTimes : List Nat → Option SkipWindow
  | [] => none
  | t :: earlier => some ⟨t, span (streak (t :: earlier))⟩

theorem follows_iff {t s : Nat} {earlier : List Nat} :
    Follows (t :: s :: earlier) ↔
      t < finish ⟨s, span (streak (s :: earlier))⟩ + nanoseconds 60 := by
  have limit : finish ⟨s, span (streak (s :: earlier))⟩ + nanoseconds 60 =
      s + nanoseconds (span (streak (s :: earlier)) + 60) := by
    simp only [finish, nanoseconds]
    omega
  rw [limit]
  exact Iff.rfl

theorem afterFailure_ofTimes (t : Nat) (times : List Nat) :
    afterFailure (ofTimes times) t = ⟨t, span (streak (t :: times))⟩ := by
  cases times with
  | nil => rfl
  | cons s earlier =>
    refine congrArg (SkipWindow.mk t) ?_
    by_cases soon : Follows (t :: s :: earlier)
    · rw [streak_of_follows soon, ← min_span]
      exact seconds_afterFailure_of_soon (follows_iff.1 soon)
    · rw [streak_of_not_follows soon]
      exact seconds_afterFailure_of_late (Nat.not_lt.1 (mt follows_iff.2 soon))

end SkipWindow

namespace SkipList

open SkipWindow

def recorded (past : List Failure) : SkipList :=
  past.foldl (fun l f => l.fail f.destination f.time) .empty

def times (destination : String) (past : List Failure) : List Nat :=
  ((past.filter (·.destination = destination)).map Failure.time).reverse

theorem recorded_concat (past : List Failure) (f : Failure) :
    recorded (past ++ [f]) = (recorded past).fail f.destination f.time := by
  rw [recorded, List.foldl_append]
  rfl

theorem times_concat_self (past : List Failure) (f : Failure) :
    times f.destination (past ++ [f]) = f.time :: times f.destination past := by
  simp [times]

theorem times_concat_of_ne {d : String} (past : List Failure) {f : Failure}
    (differs : f.destination ≠ d) : times d (past ++ [f]) = times d past := by
  simp [times, differs]

theorem get?_recorded (past : List Failure) (d : String) :
    (recorded past).get? d = ofTimes (times d past) := by
  induction past using List.reverseRecOn with
  | nil => rfl
  | append_singleton past f ih =>
    rw [recorded_concat]
    by_cases same : f.destination = d
    · subst same
      rw [get?_fail_self, ih, times_concat_self, afterFailure_ofTimes]
      rfl
    · rw [get?_fail_of_ne _ (Ne.symm same), ih, times_concat_of_ne past same]

/-- All that is asked after these failures follows from the times of the destination's own. -/
structure Exact (past : List Failure) : Prop where
  window : ∀ f k, streak (f.time :: times f.destination past) = k →
    (recorded (past ++ [f])).get? f.destination = some ⟨f.time, min (60 * 2 ^ k) 1800⟩
  chain : ∀ d t k, streak (t :: times d past) = k ↔
    (∀ i < k, Follows ((t :: times d past).drop i)) ∧ ¬Follows ((t :: times d past).drop k)
  others : ∀ f d, d ≠ f.destination →
    (recorded (past ++ [f])).get? d = (recorded past).get? d
  skips : ∀ d u, (recorded past).skips d u = true ↔
    ∃ t earlier, times d past = t :: earlier ∧
      u < t + nanoseconds (min (60 * 2 ^ streak (t :: earlier)) 1800)

theorem backoff_run (past : List Failure) : Exact past where
  window f k row := by
    rw [get?_recorded, times_concat_self, ofTimes, row]
    rfl
  chain _ _ _ := streak_eq_iff
  others f d differs := by
    rw [get?_recorded, get?_recorded, times_concat_of_ne past differs.symm]
  skips d u := by
    rw [skips_iff, get?_recorded]
    cases failed : times d past with
    | nil => simp [ofTimes]
    | cons t earlier => simp [ofTimes, finish, span]

/-- The second failure comes within the minute after the first window, the third one as the minute
after the second window ends. -/
example :
    (recorded [⟨"bob", 0⟩, ⟨"bob", nanoseconds 119⟩, ⟨"carol", nanoseconds 120⟩]).get? "bob" =
        some ⟨nanoseconds 119, 120⟩ ∧
      (recorded [⟨"bob", 0⟩, ⟨"bob", nanoseconds 119⟩, ⟨"bob", nanoseconds 299⟩]).get? "bob" =
        some ⟨nanoseconds 299, 60⟩ := by
  decide +kernel

end SkipList

end Warrant
