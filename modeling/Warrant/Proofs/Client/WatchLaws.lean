import Warrant.Proofs.Client.RecoveryLaws

namespace Warrant

/-- No handle gets a bootstrap certificate in place of a regular one. -/
def Registry.Spares (r r' : Registry) : Prop :=
  ∀ h credential, r'.current? h = some credential → credential.certificate.isBootstrap = true →
    ∃ old, r.current? h = some old ∧ old.certificate.isBootstrap = true

theorem Registry.Spares.refl (r : Registry) : r.Spares r :=
  fun _ credential found bootstrap => ⟨credential, found, bootstrap⟩

theorem Registry.spares_install (r : Registry) (key : RegistryKey) (e : Entry)
    {credential : Credential} (regular : credential.certificate.isBootstrap = false) :
    r.Spares (r.install key e credential) := by
  intro h other found bootstrap
  rw [current?, get?_copies_install] at found
  split at found
  · cases found
    exact nomatch regular.symm.trans bootstrap
  · exact ⟨other, found, bootstrap⟩

namespace Recoveries

def Lone (r : Recoveries) : Prop :=
  r.busy = false ∧ r.tasks.entries = [] ∨
    r.busy = true ∧ ∃ number at_, r.tasks.entries = [(number, at_)]

theorem Lone.entries {r : Recoveries} (h : r.Lone) {number : Nat} {at_ : Recovery}
    (task : r.tasks.get? number = some at_) :
    r.busy = true ∧ r.tasks.entries = [(number, at_)] := by
  have mem := Table.mem_of_get? task
  obtain ⟨-, none⟩ | ⟨busy, n, x, one⟩ := h
  · rw [none] at mem
    contradiction
  · rw [one] at mem ⊢
    obtain ⟨⟩ := List.mem_singleton.1 mem
    exact ⟨busy, rfl⟩

theorem Lone.number_eq {r : Recoveries} (h : r.Lone) {m n : Nat} {x y : Recovery}
    (hm : r.tasks.get? m = some x) (hn : r.tasks.get? n = some y) : m = n := by
  have one := (h.entries hm).2.symm.trans (h.entries hn).2
  cases one
  rfl

theorem Lone.size_le {r : Recoveries} (h : r.Lone) : r.tasks.size ≤ 1 := by
  obtain ⟨-, none⟩ | ⟨-, number, at_, one⟩ := h
  · simp [Table.size, none]
  · simp [Table.size, one]

theorem lone_idle : idle.Lone :=
  .inl ⟨rfl, rfl⟩

theorem Lone.start {r : Recoveries} (h : r.Lone) : r.start.Lone := by
  unfold Recoveries.start
  obtain ⟨idle, none⟩ | ⟨busy, one⟩ := h
  · rw [idle]
    exact .inr ⟨rfl, r.started, .checkingHealth, by rw [Table.push, none]; rfl⟩
  · rw [busy]
    exact .inr ⟨busy, one⟩

theorem Lone.set {r : Recoveries} (h : r.Lone) {number : Nat} {at_ : Recovery}
    (task : r.tasks.get? number = some at_) (next : Recovery) : (r.set number next).Lone := by
  obtain ⟨busy, one⟩ := h.entries task
  exact .inr ⟨busy, number, next, by simp [Recoveries.set, Table.put, one, Table.putEntry]⟩

theorem Lone.leave {r : Recoveries} (h : r.Lone) (number : Nat) : (r.leave number).Lone := by
  unfold Recoveries.leave
  split
  · next task =>
    exact .inl ⟨rfl, by simp [Table.erase, (h.entries task).2]⟩
  · exact h

end Recoveries

namespace Client

section

variable [Scheme]

theorem lone_step {c : Client} (h : c.recoveries.Lone) (usable : Int64 → List PublicKey)
    (l : LiveRegistry) (event : Event) : (c.step usable l event).1.recoveries.Lone := by
  have leaves := c.step_leaves usable l event
  generalize (c.step usable l event).1.recoveries = after at leaves
  cases leaves with
  | same => exact h
  | start => exact h.start
  | turn task => exact h.set task _
  | leave number => exact h.leave number

end

def Recovers (c : Client) : Prop :=
  ∃ number at_, c.recoveries.tasks.get? number = some at_ ∧ at_ ≠ .leaving

structure Watchful (c : Client) (r : Registry) : Prop where
  lone : c.recoveries.Lone
  leaving : ∀ number, c.recoveries.tasks.get? number = some .leaving →
    c.stopping = true ∨ ¬c.HoldsBootstrap r
  awaited : c.stopping = false → c.isDisabled = false → c.HoldsBootstrap r →
    c.IsSignalled ∨ c.Recovers

variable {c c' : Client} {r r' : Registry} {l : LiveRegistry}

theorem HoldsBootstrap.of_spares (h : c'.HoldsBootstrap r') (same : c'.identity = c.identity)
    (spares : r.Spares r') : c.HoldsBootstrap r := by
  obtain ⟨credential, held, bootstrap⟩ := h
  unfold HoldsBootstrap credential? at *
  rw [same] at held
  cases identity : c.identity with
  | registered handle =>
    rw [identity] at held
    exact spares handle credential held bootstrap
  | enrolled key =>
    rw [identity] at held
    cases held

theorem Watchful.of_spares (h : c.Watchful r) (spares : r.Spares r') : c.Watchful r' := by
  refine ⟨h.lone, ?_, ?_⟩
  · intro number task
    exact (h.leaving number task).imp_right fun regular bootstrap =>
      regular (bootstrap.of_spares rfl spares)
  · intro going enabled bootstrap
    exact h.awaited going enabled (bootstrap.of_spares rfl spares)

variable [Scheme]

theorem step_spares (regains : c.Regains) (usable : Int64 → List PublicKey) (l : LiveRegistry)
    (event : Event) : l.registry.Spares (c.step usable l event).2.registry := by
  rw [step_registry]
  split
  · next handle credential offered =>
    obtain ⟨number, -, -, -, task⟩ := offer?_eq_some_iff.1 offered
    split
    · next updated =>
      obtain ⟨e, -, -, rfl⟩ := LiveRegistry.update_eq_ok_iff.1 updated
      exact Registry.spares_install _ _ e (regains number credential task)
    · exact .refl _
  · exact .refl _

/-- A recovery that has put a regular certificate into the registry has done its work. -/
theorem not_holdsBootstrap_of_installed (regains : c.Regains) (usable : Int64 → List PublicKey)
    {number now : Nat} {handle : Handle} {credential : Credential}
    (registered : c.identity = .registered handle)
    (task : c.recoveries.tasks.get? number = some (.installing credential))
    (updated : l.registry.update handle credential = .ok r') :
    ¬(c.step usable l (.install number now)).1.HoldsBootstrap
      (c.step usable l (.install number now)).2.registry := by
  have after : (c.step usable l (.install number now)).2 = { l with registry := r' } := by
    have offered := offer?_eq_some_iff.2 ⟨number, now, rfl, registered, task⟩
    simp only [step_registry, offered, LiveRegistry.update, updated]
    rfl
  obtain ⟨e, -, mem, rfl⟩ := Registry.update_eq_ok_iff.1 updated
  have held : (l.registry.install handle.key e credential).current? handle = some credential :=
    (Registry.get?_copies_install ..).trans (if_pos mem)
  rintro ⟨other, found, bootstrap⟩
  rw [after, credential?, (c.step_continues usable l _).identity, registered] at found
  cases held.symm.trans found
  cases (regains number credential task).symm.trans bootstrap

omit [Scheme] in
theorem deliver_cases (c : Client) :
    c.deliver.recoveries = c.recoveries.start ∨ ¬c.IsSignalled ∧ c.deliver = c := by
  unfold deliver
  split
  · next monitor monitored =>
    split
    · exact .inl rfl
    · next unsignalled =>
      refine .inr ⟨?_, rfl⟩
      rintro ⟨other, found, recovered⟩
      cases monitored.symm.trans found
      exact unsignalled recovered
  · next unmonitored =>
    refine .inr ⟨?_, rfl⟩
    rintro ⟨monitor, found, -⟩
    exact nomatch unmonitored.symm.trans found

namespace Watchful

theorem leaving_step (h : c.Watchful l.registry) (regains : c.Regains)
    (usable : Int64 → List PublicKey) (event : Event) :
    ∀ number, (c.step usable l event).1.recoveries.tasks.get? number = some .leaving →
      (c.step usable l event).1.stopping = true ∨
        ¬(c.step usable l event).1.HoldsBootstrap (c.step usable l event).2.registry := by
  intro number found
  have continues := c.step_continues usable l event
  have spares := step_spares regains usable l event
  refine (c.step_leaves usable l event).forall_task
    (p := fun _ at_ => at_ = .leaving → _) nofun ?_ ?_ number _ found rfl
  · rintro n at_ next task turn - rfl
    cases turn with
    | fit _ _ _ _ _ regular =>
      exact .inr fun bootstrap => regular (bootstrap.of_spares continues.identity spares)
    | installed _ now registered updated =>
      exact .inr (not_holdsBootstrap_of_installed regains usable registered task updated)
    | dismissed _ _ stopping => exact .inl (continues.stopping stopping)
  · rintro n _ task rfl
    exact (h.leaving n task).imp continues.stopping fun regular bootstrap =>
      regular (bootstrap.of_spares continues.identity spares)

omit [Scheme] in
theorem recovers_start (h : c.Watchful r) (going : c.stopping = false)
    (bootstrap : c.HoldsBootstrap r) :
    ∃ number at_, c.recoveries.start.tasks.get? number = some at_ ∧ at_ ≠ .leaving := by
  unfold Recoveries.start
  obtain ⟨idle, none⟩ | ⟨busy, number, at_, one⟩ := h.lone
  · refine ⟨c.recoveries.started, .checkingHealth, ?_, nofun⟩
    simp [idle, Table.push, Table.get?, none, Table.getEntry]
  · have task : c.recoveries.tasks.get? number = some at_ := by
      simp [Table.get?, one, Table.getEntry]
    rw [if_pos busy]
    refine ⟨number, at_, task, ?_⟩
    rintro rfl
    obtain stopping | regular := h.leaving number task
    · cases going.symm.trans stopping
    · exact regular bootstrap

theorem recovers_step (h : c.Watchful l.registry) {usable : Int64 → List PublicKey} {event : Event}
    (other : event ≠ .deliver) (recovers : c.Recovers)
    (busy : ∀ number, (c.step usable l event).1.recoveries.tasks.get? number ≠ some .leaving) :
    (c.step usable l event).1.Recovers := by
  obtain ⟨number, at_, task, unfinished⟩ := recovers
  have leaves := c.step_leaves usable l event
  unfold Recovers
  generalize (c.step usable l event).1.recoveries = after at leaves busy ⊢
  cases leaves with
  | same => exact ⟨number, at_, task, unfinished⟩
  | start => exact absurd rfl other
  | @turn _ n before next found =>
    refine ⟨n, next, Table.get?_put_self .., ?_⟩
    rintro rfl
    exact busy n (Table.get?_put_self ..)
  | leave n =>
    refine ⟨number, at_, ?_, unfinished⟩
    unfold Recoveries.leave
    split
    · next done =>
      cases h.lone.number_eq task done
      cases task.symm.trans done
      exact absurd rfl unfinished
    · exact task

theorem awaited_step (h : c.Watchful l.registry) (regains : c.Regains)
    (usable : Int64 → List PublicKey) (event : Event)
    (going : (c.step usable l event).1.stopping = false)
    (enabled : (c.step usable l event).1.isDisabled = false)
    (bootstrap : (c.step usable l event).1.HoldsBootstrap (c.step usable l event).2.registry) :
    (c.step usable l event).1.IsSignalled ∨ (c.step usable l event).1.Recovers := by
  have continues := c.step_continues usable l event
  have went : c.stopping = false := by
    rw [← Bool.not_eq_true]
    exact fun stopping => nomatch going.symm.trans (continues.stopping stopping)
  have held := bootstrap.of_spares continues.identity (step_spares regains usable l event)
  obtain before | signalled := continues.enabled enabled
  · by_cases delivered : event = .deliver
    · subst delivered
      obtain started | ⟨unsignalled, same⟩ := c.deliver_cases
      · right
        rw [step, Recovers, started]
        exact h.recovers_start went held
      · rw [step, same]
        exact h.awaited went before held
    · refine (h.awaited went before held).imp (continues.signalled delivered) fun recovers =>
        h.recovers_step delivered recovers fun number done => ?_
      obtain stopping | regular := h.leaving_step regains usable event number done
      · exact nomatch going.symm.trans stopping
      · exact regular bootstrap
  · exact .inl signalled

theorem step (h : c.Watchful l.registry) (regains : c.Regains) (usable : Int64 → List PublicKey)
    (event : Event) : (c.step usable l event).1.Watchful (c.step usable l event).2.registry where
  lone := lone_step h.lone usable l event
  leaving := h.leaving_step regains usable event
  awaited := h.awaited_step regains usable event

end Watchful

end Client

end Warrant
