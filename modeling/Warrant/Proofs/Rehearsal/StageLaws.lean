import Warrant.Proofs.Host.PathLaws
import Warrant.Rehearsal.Stage

namespace Warrant.Rehearsal.Stage

variable {s s' s'' : Stage}

section

variable (s : Stage)

@[simp] theorem host_note (call : Call) : (s.note call).host = s.host := rfl

@[simp] theorem clock_note (call : Call) : (s.note call).clock = s.clock := rfl

theorem noteLookups_keeps (names : List String) :
    (s.noteLookups names).host = s.host ∧ (s.noteLookups names).clock = s.clock := by
  unfold noteLookups
  induction names generalizing s with
  | nil => exact ⟨rfl, rfl⟩
  | cons name rest ih => exact ih (s.note (.lookup name))

@[simp] theorem host_noteLookups (names : List String) : (s.noteLookups names).host = s.host :=
  (s.noteLookups_keeps names).1

@[simp] theorem clock_noteLookups (names : List String) :
    (s.noteLookups names).clock = s.clock :=
  (s.noteLookups_keeps names).2

end

/-- Of the stage's own client: it runs no monitor, so that watches may work for it. -/
structure Ready (s : Stage) : Prop where
  ordered : s.host.Ordered
  registry : s.host.registries.contains own = true
  client : ∃ seat, s.host.seats.get? own = some seat ∧ seat.client.monitor = none

variable [Scheme]

/-- Time may have passed, and nobody has intervened. -/
structure Passes (s s' : Stage) : Prop where
  host : s.host.Stirs s'.host
  clock : s.clock ≤ s'.clock

theorem Passes.refl (s : Stage) : s.Passes s :=
  ⟨.refl, Nat.le_refl _⟩

theorem Passes.trans (first : s.Passes s') (second : s'.Passes s'') : s.Passes s'' :=
  ⟨first.host.trans second.host, Nat.le_trans first.clock second.clock⟩

theorem Passes.of_eq (host : s'.host = s.host) (clock : s.clock ≤ s'.clock) : s.Passes s' :=
  ⟨host ▸ .refl, clock⟩

theorem Ready.leads (ready : s.Ready) (leads : s.host.Leads s'.host) : s'.Ready := by
  have persists := leads.persists ready.ordered
  obtain ⟨seat, there, none⟩ := ready.client
  obtain ⟨seat', there', -, -, -, none'⟩ := persists.seats own seat there
  obtain ⟨l, given⟩ := Option.isSome_iff_exists.1 ready.registry
  obtain ⟨l', given', -⟩ := persists.registries own l given
  refine ⟨persists.ordered, ?_, seat', there', none' none⟩
  rw [Table.contains, given']
  rfl

theorem Ready.of_eq (ready : s.Ready) (host : s'.host = s.host) : s'.Ready :=
  ready.leads (host ▸ .refl)

theorem Ready.passes (ready : s.Ready) (passes : s.Passes s') : s'.Ready :=
  ready.leads passes.host.leads

theorem passes_setOwn {seat : Seat} {c : Client} (there : s.host.seats.get? own = some seat)
    (alike : seat.client.Alike c) (outbound : c.outbound = seat.client.outbound) :
    s.Passes (s.setClient own c) :=
  ⟨Host.stirs_aside there alike outbound, Nat.le_refl _⟩

omit [Scheme] in
theorem seat_of_client? {h : Host} {c : Client} (found : h.client? own = some c) :
    ∃ seat, h.seats.get? own = some seat ∧ seat.client = c :=
  Option.map_eq_some_iff.1 found

theorem Ready.passes_check (ready : s.Ready) (number : Nat) : s.Passes (s.check number) := by
  unfold check
  split
  · next w c _ found =>
    obtain ⟨seat, there, rfl⟩ := seat_of_client? found
    obtain ⟨_, again, none⟩ := ready.client
    cases there.symm.trans again
    generalize w.monitor.check seat.client.isDisabled s.lookup (s.usable w.keys) s.wall = checked
    have alike : seat.client.Alike { seat.client with isDisabled := checked.isDisabled } :=
      { Client.Alike.refl seat.client with isDisabled := fun monitored => absurd none monitored }
    have passes := passes_setOwn (s := s) there alike rfl
    constructor
    · rw [host_noteLookups]
      exact passes.host
    · rw [clock_noteLookups]
      exact passes.clock
  · exact .refl s

theorem begin_keeps (s : Stage) (wait : Wait) :
    (s.begin wait).1.host = s.host ∧ (s.begin wait).1.clock = s.clock := by
  cases wait <;> exact ⟨rfl, rfl⟩

theorem attend_keeps (s : Stage) : s.attend.host = s.host ∧ s.attend.clock = s.clock := by
  unfold attend
  generalize s.actors = actors
  induction actors generalizing s with
  | nil => exact ⟨rfl, rfl⟩
  | cons actor rest ih =>
    rw [List.foldl_cons]
    split
    · exact ih s
    · split
      · next wait _ =>
        obtain ⟨host, clock⟩ := s.begin_keeps wait
        obtain ⟨host', clock'⟩ := ih
          { (s.begin wait).1 with
            pending := (s.begin wait).1.pending ++
              [⟨(s.begin wait).1.clock + (s.begin wait).2.1, actor, wait, (s.begin wait).2.2⟩] }
        exact ⟨host'.trans host, clock'.trans clock⟩
      · exact ih s

theorem passes_tellTask (s : Stage) (task : HostTask) (news : News) :
    s.Passes (s.tellTask task news) := by
  unfold tellTask
  refine ⟨?_, by simp [nextKey]⟩
  rw [host_noteLookups]
  exact Host.stirs_tell _ task news

theorem Ready.passes_tellRound (ready : s.Ready) (number : Nat) :
    s.Passes (s.tellRound number) := by
  unfold tellRound
  split
  · next r _ => exact ⟨(ready.passes_check r.watch).host, (ready.passes_check r.watch).clock⟩
  · exact .refl s

theorem passes_tellReader (s : Stage) (number : Nat) (news : News) :
    s.Passes (s.tellReader number news) := by
  unfold tellReader
  split
  · next c _ found =>
    obtain ⟨seat, there, rfl⟩ := seat_of_client? found
    split
    · next reply =>
      have alike : seat.client.Alike
          { seat.client with
            derelicts := (DerelictRefresher.replied seat.client.derelicts s.clock reply).1 } :=
        { Client.Alike.refl seat.client with }
      have passes := passes_setOwn (s := s) there alike rfl
      exact ⟨passes.host, passes.clock⟩
    · exact .of_eq rfl (Nat.le_refl _)
  · exact .refl s

theorem Ready.passes_tell (ready : s.Ready) (p : Pending) : s.Passes (s.tell p) := by
  have told : s.Passes (tell.told s p) := by
    unfold tell.told
    split
    · exact s.passes_tellTask _ _
    · exact ready.passes_tellRound _
    · exact s.passes_tellReader _ _
  unfold tell
  split
  · split
    · exact told
    · exact .refl s
  · exact told

theorem Ready.passes_passWithin (ready : s.Ready) (fuel target : Nat) :
    s.Passes (passWithin fuel target s) := by
  induction fuel generalizing s with
  | zero => exact .of_eq rfl (Nat.le_max_left _ _)
  | succ fuel ih =>
    obtain ⟨host, clock⟩ := s.attend_keeps
    have attended : s.Passes s.attend := .of_eq host (Nat.le_of_eq clock.symm)
    have late : s.Passes { s.attend with clock := max s.attend.clock target } :=
      attended.trans (.of_eq rfl (Nat.le_max_left _ _))
    rw [passWithin]
    split
    · next p pending _ =>
      split
      · have reached :
            s.Passes { s.attend with pending, clock := max s.attend.clock p.due } :=
          attended.trans (.of_eq rfl (Nat.le_max_left _ _))
        have told := reached.trans ((ready.passes reached).passes_tell p)
        exact told.trans (ih (ready.passes told))
      · exact late
    · exact late

theorem Ready.passes_pass (ready : s.Ready) (seconds : Nat) : s.Passes (s.pass seconds) :=
  ready.passes_passWithin _ _

theorem Ready.passes_rest (ready : s.Ready) : s.Passes s.rest := by
  have passed := ready.passes_pass 0
  exact ⟨passed.host.trans (Host.stirs_sweep _), passed.clock⟩

end Warrant.Rehearsal.Stage
