import Warrant.Proofs.Outbound.Traffic

namespace Warrant.Traffic

variable {t u : Traffic} {d : String} {time : Nat}

theorem Sound.skipsUntil_move (h : t.Sound) (skipped : t.outbound.skips.SkipsUntil d time)
    (move : t.Move u) : u.outbound.skips.SkipsUntil d time := by
  cases move with
  | rest _ _ => exact skipped
  | deliver _ _ => exact skipped
  | ask _ _ _ => exact skipped
  | @conclude _ c reply _ =>
    cases reply with
    | ok _ => exact skipped
    | error _ => exact h.skips.skipsUntil_fail skipped c.destination

section

variable [Scheme]

/-- Requests to the destination are sent without a claim, and tokens refused. -/
structure Skips (t : Traffic) (destination : String) : Prop where
  attach : ∀ c reading metadata, reading.isDisabled = false → c.destination = destination →
    c.purpose = .attach metadata → t.Immediate c reading (.metadata metadata)
  token : ∀ c reading, reading.isDisabled = false → c.destination = destination →
    c.purpose = .token → t.Immediate c reading (.token (.error (.destinationSkipped destination)))

structure Recorded (t u : Traffic) (destination : String) (w : SkipWindow) : Prop where
  found : u.outbound.skips.get? destination = some w
  start : w.start = t.now
  bounded : w.Bounded
  finish : ∀ last, t.outbound.skips.get? destination = some last → last.finish ≤ w.finish
  others : ∀ d, d ≠ destination → u.outbound.skips.get? d = t.outbound.skips.get? d
  skips : ∀ events, (u.run events).now < w.finish → (u.run events).Skips destination

structure Restrained (t : Traffic) : Prop where
  bounded : ∀ d w, t.outbound.skips.get? d = some w → w.Bounded
  recorded : ∀ n c e, t.waiting.get? n = some c →
    ∃ w, Recorded t (t.step (.reply n (.error e))) c.destination w

theorem Sound.immediate_of_withheld (h : t.Sound) {c : OutboundCall} {reading : Reading}
    {delivery : Delivery}
    (withheld : c.withheld? t.outbound.skips reading.isDisabled t.now = some delivery) :
    t.Immediate c reading delivery :=
  h.immediate (OutboundCall.first_of_withheld withheld)

theorem Sound.skips_of_early (h : t.Sound) (skipped : t.outbound.skips.SkipsUntil d time)
    (early : t.now < time) : t.Skips d where
  attach c reading metadata enabled same purpose := by
    apply h.immediate_of_withheld
    simp [OutboundCall.withheld?, purpose, enabled, same, skipped.skips early]
  token c reading enabled same purpose := by
    apply h.immediate_of_withheld
    simp [OutboundCall.withheld?, purpose, enabled, same, skipped.skips early]

theorem Sound.skipsUntil_run (h : t.Sound) (skipped : t.outbound.skips.SkipsUntil d time)
    (events : List Event) : (t.run events).outbound.skips.SkipsUntil d time := by
  induction events generalizing t with
  | nil => exact skipped
  | cons e rest ih =>
    have move := t.step_moves e
    exact ih (h.move move) (h.skipsUntil_move skipped move)

theorem Sound.recorded (h : t.Sound) {n : Nat} {c : OutboundCall} (e : Error)
    (waiting : t.waiting.get? n = some c) :
    Recorded t (t.step (.reply n (.error e))) c.destination
      (.afterFailure (t.outbound.skips.get? c.destination) t.now) := by
  have after := h.move (.conclude (.error e) waiting)
  have found := t.outbound.skips.get?_fail_self c.destination t.now
  rw [step_reply waiting]
  constructor
  · exact found
  · rfl
  · exact after.skips.bounded c.destination _ found
  · intro last known
    rw [known]
    exact SkipWindow.finish_le_finish_afterFailure (h.skips.bounded _ _ known)
      (h.skips.begun _ _ known)
  · intro d differs
    exact t.outbound.skips.get?_fail_of_ne differs t.now
  · intro events early
    have skipped := after.skipsUntil_run ⟨_, found, Nat.le_refl _⟩ events
    exact (after.run events).skips_of_early skipped early

theorem restraint_run (keys : AuthorityKeys) (now : Nat) (events : List Event) :
    ((start keys now).run events).Restrained :=
  have sound := (sound_start keys now).run events
  { bounded := sound.skips.bounded
    recorded := fun _ _ e waiting => ⟨_, sound.recorded e waiting⟩ }

end

/-- Of two calls under way the one that fails later prolongs the window. -/
example :
    ((start .empty 0).run
      [.call ⟨.token, .alice, "bob", none⟩ ⟨false, .ofSecond 0, 0, by decide⟩,
        .call ⟨.token, .alice, "bob", none⟩ ⟨false, .ofSecond 0, 0, by decide⟩,
        .reply 0 (.error (.authorityUnavailable .unreachable)), .pass (nanoseconds 5),
        .reply 1 (.error (.authorityUnavailable .unreachable))]).outbound.skips.get? "bob" =
      some ⟨nanoseconds 5, 120⟩ := by
  decide +kernel

end Warrant.Traffic
