import Warrant.Proofs.Upkeep
import Mathlib.Data.List.Induction

namespace Warrant.Upkeep

/-- The event brings the credential to a task, from the authority or from the daemon. -/
inductive Event.Supplies (g : Nat) (c : Credential) (wall : Int64) : Event → Prop
  | authority (usable : List PublicKey) :
      Supplies g c wall (.registry (.task g (.authority usable wall (.ok c.certificate))))
  | daemon (usable : List PublicKey) :
      Supplies g c wall (.registry (.task g (.daemon usable wall (.ok c))))

/-- The event brings the credential's certificate to a recovery. -/
inductive Event.Signs (n number : Nat) (c : Credential) (wall : Int64) : Event → Prop
  | sign (now : Nat) : Signs n number c wall (.client n (.sign number now wall (.ok c.certificate)))

section

variable [Scheme]

/-- What a daemon sends comes as bytes. -/
def Event.IsWired (e : Event) : Prop :=
  ∀ g usable wall c, e = .registry (.task g (.daemon usable wall (.ok c))) →
    ∃ wording bytes, (DaemonExchange.answered bytes).result wording = .ok c

/-- The credential's certificate was in force, by the keys of this set, when it came. -/
def Vetted (u : Upkeep) (events : List Event) (brings : Int64 → Event → Prop) (keys : Nat)
    (c : Credential) : Prop :=
  ∃ before e after wall, events = before ++ e :: after ∧ brings wall e ∧
    c.certificate.InForce ((u.run before).usable keys wall) wall

/-- The authority has failed the task of this generation, which has been asking the daemon since. -/
def Denied (u : Upkeep) (events : List Event) (g : Nat) (current : Credential) (cause : Error) :
    Prop :=
  ∃ before usable wall reply after t renewal,
    events = before ++ .registry (.task g (.authority usable wall reply)) :: after ∧
    (u.run before).task? g = some t ∧ t.phase = .renewing renewal ∧ renewal.current = current ∧
    reply.bind (renewal.finish ((u.run before).usable t.context.keys wall) wall) = .error cause ∧
    ∀ more, more <+: after → ∃ t',
      (u.run (before ++ .registry (.task g (.authority usable wall reply)) :: more)).task? g =
        some t' ∧ t'.phase = .askingDaemon current cause

structure Supplied (u : Upkeep) (events : List Event) : Prop where
  tasks : ∀ g t c, (u.run events).task? g = some t → t.phase = .installing c →
    c.Matches ∧ Vetted u events (Event.Supplies g c) t.context.keys c
  recoveries : ∀ n s number c, (u.run events).residents.get? n = some s →
    s.client.recoveries.tasks.get? number = some (.installing c) →
    c.Matches ∧ Vetted u events (Event.Signs n number c) s.keys c
  asking : ∀ g t current cause, (u.run events).task? g = some t →
    t.phase = .askingDaemon current cause → Denied u events g current cause

variable {u : Upkeep} {events : List Event}

theorem Vetted.concat {brings : Int64 → Event → Prop} {keys : Nat} {c : Credential}
    (h : Vetted u events brings keys c) (e : Event) : Vetted u (events ++ [e]) brings keys c := by
  obtain ⟨before, e₀, after, wall, rfl, brought, inForce⟩ := h
  exact ⟨before, e₀, after ++ [e], wall, by simp, brought, inForce⟩

theorem vetted_last {brings : Int64 → Event → Prop} {keys : Nat} {c : Credential} {wall : Int64}
    {e : Event} (brought : brings wall e)
    (checked : c.certificate.check ((u.run events).usable keys wall) wall = .ok ()) :
    Vetted u (events ++ [e]) brings keys c :=
  ⟨events, e, [], wall, rfl, brought, Certificate.check_eq_ok_iff.1 checked⟩

theorem Denied.concat {g : Nat} {current : Credential} {cause : Error}
    (h : Denied u events g current cause) {e : Event} {t : RefreshTask}
    (running : (u.run (events ++ [e])).task? g = some t)
    (phase : t.phase = .askingDaemon current cause) :
    Denied u (events ++ [e]) g current cause := by
  obtain ⟨before, usable, wall, reply, after, t₀, renewal, rfl, found, renewing, same, failed,
    since⟩ := h
  refine ⟨before, usable, wall, reply, after ++ [e], t₀, renewal, by simp, found, renewing, same,
    failed, ?_⟩
  intro more hmore
  obtain rfl | hmore := List.prefix_concat_iff.1 hmore
  · exact ⟨t, by simpa using running, phase⟩
  · exact since more hmore

theorem supplied_nil (period : Nat) : Supplied (start period) [] := by
  have tasks (g : Nat) : ((start period).run []).task? g = none := rfl
  have residents (n : Nat) : ((start period).run []).residents.get? n = none := rfl
  exact ⟨by simp [tasks], by simp [residents], by simp [tasks]⟩

namespace Supplied

theorem tasks_concat (h : Supplied u events) (proper : (u.run events).Proper) {e : Event}
    (wired : e.IsWired) : ∀ g t c, (u.run (events ++ [e])).task? g = some t →
      t.phase = .installing c →
      c.Matches ∧ Vetted u (events ++ [e]) (Event.Supplies g c) t.context.keys c := by
  intro g t c found phase
  rw [run_concat] at found
  obtain found | ⟨_, _, _, -, -, -, rfl⟩ | ⟨t₀, event, rfl, running, -, -, context, turn⟩ :=
    task_cases found
  · exact (h.tasks g t c found phase).imp_right fun vetted => vetted.concat e
  · cases phase
  · rw [context]
    rw [phase] at turn
    generalize same : event.withKeys ((u.run events).usable t₀.context.keys) = told at turn
    generalize installing : RefreshPhase.installing c = next at turn
    cases turn with
    | stay =>
      exact (h.tasks g t₀ c running installing.symm).imp_right fun vetted => vetted.concat _
    | signed renewing done =>
      cases installing
      obtain ⟨unused, rfl, rfl⟩ := RefreshTask.Event.withKeys_eq_authority same
      obtain ⟨rfl, -, checked, -⟩ := Renewal.bind_finish_eq_ok_iff.1 done
      exact ⟨((proper.tasks g t₀ running).renewing _ renewing).matches done,
        vetted_last (.authority unused) checked⟩
    | supplied asking supplies =>
      cases installing
      obtain ⟨unused, rfl, rfl⟩ := RefreshTask.Event.withKeys_eq_daemon same
      obtain ⟨rfl, checked⟩ := supplies
      obtain ⟨wording, bytes, taken⟩ := wired g _ _ c rfl
      exact ⟨DaemonExchange.matches_of_result taken, vetted_last (.daemon unused) checked⟩
    | _ => cases installing

theorem recoveries_concat (h : Supplied u events) (proper : (u.run events).Proper) (e : Event) :
    ∀ n s number c, (u.run (events ++ [e])).residents.get? n = some s →
      s.client.recoveries.tasks.get? number = some (.installing c) →
      c.Matches ∧ Vetted u (events ++ [e]) (Event.Signs n number c) s.keys c := by
  intro n s number c found task
  rw [run_concat] at found
  obtain found | ⟨_, _, _, _, -, rfl⟩ | ⟨s₀, event, rfl, there, rfl⟩ := resident_cases found
  · exact (h.recoveries n s number c found task).imp_right fun vetted => vetted.concat e
  · cases task
  · refine (s₀.client.step_leaves _ _ event).forall_task
      (p := fun number at_ => ∀ c, at_ = .installing c → c.Matches ∧
        Vetted u (events ++ [.client n event]) (Event.Signs n number c) s₀.keys c)
      nofun ?_ ?_ number _ task c rfl
    · rintro number at_ next renewing turn - c rfl
      cases turn with
      | signed _ now done =>
        obtain ⟨rfl, -, checked, -⟩ := Renewal.bind_finish_eq_ok_iff.1 done
        exact ⟨(proper.residents n s₀ there _ _ renewing).matches done,
          vetted_last (.sign now) checked⟩
    · rintro number _ before c rfl
      exact (h.recoveries n s₀ number c there before).imp_right fun vetted => vetted.concat _

theorem asking_concat (h : Supplied u events) (e : Event) :
    ∀ g t current cause, (u.run (events ++ [e])).task? g = some t →
      t.phase = .askingDaemon current cause → Denied u (events ++ [e]) g current cause := by
  intro g t current cause running phase
  have found := running
  rw [run_concat] at found
  obtain found | ⟨_, _, _, -, -, -, rfl⟩ | ⟨t₀, event, rfl, before, -, -, -, turn⟩ :=
    task_cases found
  · exact (h.asking g t current cause found phase).concat running phase
  · cases phase
  · rw [phase] at turn
    generalize same : event.withKeys ((u.run events).usable t₀.context.keys) = told at turn
    generalize asking : RefreshPhase.askingDaemon current cause = next at turn
    cases turn with
    | stay => exact (h.asking g t₀ current cause before asking.symm).concat running phase
    | denied renewing failed =>
      cases asking
      obtain ⟨unused, rfl, rfl⟩ := RefreshTask.Event.withKeys_eq_authority same
      refine ⟨events, unused, _, _, [], t₀, _, rfl, before, renewing, rfl, failed, ?_⟩
      intro more none
      rw [List.prefix_nil.1 none]
      exact ⟨t, running, phase⟩
    | _ => cases asking

theorem concat (h : Supplied u events) (proper : (u.run events).Proper) {e : Event}
    (wired : e.IsWired) : Supplied u (events ++ [e]) where
  tasks := h.tasks_concat proper wired
  recoveries := h.recoveries_concat proper e
  asking := h.asking_concat e

end Supplied

theorem supplied_run (period : Nat) (events : List Event) (wired : ∀ e ∈ events, e.IsWired) :
    Supplied (start period) events := by
  induction events using List.reverseRecOn with
  | nil => exact supplied_nil period
  | append_singleton events e ih =>
    have before := ih fun e mem => wired e (List.mem_append_left _ mem)
    exact before.concat ((proper_start period).run events) (wired e (by simp))

/-! ### What is put into the registry -/

theorem told_task {g : Nat} {t t' : RefreshTask} (running : u.task? g = some t)
    {event : RefreshTask.Event}
    (next : t.step u.live.registry (event.withKeys (u.usable t.context.keys)) =
      (u.live.registry, some t')) :
    (u.step (.registry (.task g event))).live.registry = u.live.registry ∧
      (u.step (.registry (.task g event))).task? g = some t' := by
  rw [task?, live_task running, next]
  exact ⟨rfl, Table.get?_put_self ..⟩

/-- A task changes its own entry at most, and installs there what was in order when it came. -/
def Refreshed (u : Upkeep) (events : List Event) (g : Nat) (event : RefreshTask.Event) : Prop :=
  let v := u.run events
  let after := v.step (.registry (.task g event))
  after.live.registry = v.live.registry ∨
    ∃ t c e, event = .install ∧ v.task? g = some t ∧ v.find? t.key = some e ∧ e.generation = g ∧
      after.live.registry = v.live.registry.install t.key e c ∧
      c.Matches ∧ Vetted u events (Event.Supplies g c) t.context.keys c

def Recovered (u : Upkeep) (events : List Event) (n : Nat) (event : Client.Event) : Prop :=
  let v := u.run events
  let after := v.step (.client n event)
  after.live.registry = v.live.registry ∨
    ∃ number now s h c e, event = .install number now ∧ v.residents.get? n = some s ∧
      s.client.identity = .registered h ∧ v.find? h.key = some e ∧ h.id ∈ e.handles ∧
      after.live.registry = v.live.registry.install h.key e c ∧
      c.Matches ∧ Vetted u events (Event.Signs n number c) s.keys c

structure Secured (u : Upkeep) (events : List Event) : Prop where
  refreshed : ∀ g event, Refreshed u events g event
  recovered : ∀ n event, Recovered u events n event
  asked : ∀ g t current cause, (u.run events).task? g = some t →
    t.phase = .askingDaemon current cause → Denied u events g current cause
  denied : ∀ g t renewal cause usable wall reply, let v := u.run events
    v.task? g = some t → t.phase = .renewing renewal →
    reply.bind (renewal.finish (v.usable t.context.keys wall) wall) = .error cause →
    let after := v.step (.registry (.task g (.authority usable wall reply)))
    after.live.registry = v.live.registry ∧ after.task? g = some
      { t with
        phase := if t.context.hasDaemon then .askingDaemon renewal.current cause else .waiting }
  bothFailed : ∀ g t current cause usable wall reply, let v := u.run events
    v.task? g = some t → t.phase = .askingDaemon current cause →
    (∀ c, ¬RefreshTask.Supplies (v.usable t.context.keys wall) wall reply c) →
    let after := v.step (.registry (.task g (.daemon usable wall reply)))
    after.live.registry = v.live.registry ∧ after.task? g = some { t with phase := .waiting }

theorem denied_task {g : Nat} {t : RefreshTask} {renewal : Renewal} {cause : Error}
    (running : u.task? g = some t) (phase : t.phase = .renewing renewal) {wall : Int64}
    {reply : Except Error Certificate}
    (failed : reply.bind (renewal.finish (u.usable t.context.keys wall) wall) = .error cause)
    (usable : List PublicKey) :
    let after := u.step (.registry (.task g (.authority usable wall reply)))
    after.live.registry = u.live.registry ∧ after.task? g = some
      { t with
        phase := if t.context.hasDaemon then .askingDaemon renewal.current cause
          else .waiting } := by
  refine told_task running ?_
  simp only [RefreshTask.Event.withKeys, RefreshTask.step, RefreshTask.authorityReplied, phase,
    failed]
  split <;> rfl

theorem bothFailed_task {g : Nat} {t : RefreshTask} {current : Credential} {cause : Error}
    (running : u.task? g = some t) (phase : t.phase = .askingDaemon current cause) {wall : Int64}
    {reply : Except Error Credential}
    (failed : ∀ c, ¬RefreshTask.Supplies (u.usable t.context.keys wall) wall reply c)
    (usable : List PublicKey) :
    let after := u.step (.registry (.task g (.daemon usable wall reply)))
    after.live.registry = u.live.registry ∧ after.task? g = some { t with phase := .waiting } := by
  refine told_task running ?_
  simp only [RefreshTask.Event.withKeys, RefreshTask.step, RefreshTask.daemonReplied, phase]
  cases reply with
  | error e => rfl
  | ok c =>
    cases checked : c.certificate.check (u.usable t.context.keys wall) wall with
    | error e => simp only [bind, Except.bind, checked]; rfl
    | ok passed => exact absurd ⟨rfl, checked⟩ (failed c)

theorem supplied_task {g : Nat} {t : RefreshTask} {current c : Credential} {cause : Error}
    (running : u.task? g = some t) (phase : t.phase = .askingDaemon current cause) {wall : Int64}
    {reply : Except Error Credential}
    (supplies : RefreshTask.Supplies (u.usable t.context.keys wall) wall reply c)
    (usable : List PublicKey) :
    let after := u.step (.registry (.task g (.daemon usable wall reply)))
    after.live.registry = u.live.registry ∧
      after.task? g = some { t with phase := .installing c } := by
  refine told_task running ?_
  obtain ⟨rfl, checked⟩ := supplies
  simp only [RefreshTask.Event.withKeys, RefreshTask.step, RefreshTask.daemonReplied, phase, bind,
    Except.bind, checked]
  rfl

theorem Supplied.refreshed (h : Supplied u events) (proper : (u.run events).Proper) (g : Nat)
    (event : RefreshTask.Event) : Refreshed u events g event := by
  obtain same | ⟨t, c, e, rfl, running, phase, there, same, installed⟩ :=
    (u.run events).registry_task g event
  · exact .inl same
  · have own : t.generation = g := (proper.sound.tasked.origin g t running).1
    exact .inr ⟨t, c, e, rfl, running, there, same.trans own, installed,
      h.tasks g t c running phase⟩

theorem Supplied.recovered (h : Supplied u events) (n : Nat) (event : Client.Event) :
    Recovered u events n event := by
  unfold Recovered
  generalize ran : u.run events = v
  cases there : v.residents.get? n with
  | none =>
    left
    simp only [step, there]
  | some s =>
    simp only [live_client there, Client.step_registry]
    split
    · next handle c offered =>
      obtain ⟨number, now, rfl, registered, task⟩ := Client.offer?_eq_some_iff.1 offered
      split
      · next updated =>
        obtain ⟨e, found, mem, rfl⟩ := LiveRegistry.update_eq_ok_iff.1 updated
        exact .inr ⟨number, now, s, handle, c, e, rfl, there, registered, found, mem, rfl,
          h.recoveries n s number c (ran ▸ there) task⟩
      · exact .inl rfl
    · exact .inl rfl

theorem supply_run (period : Nat) (events : List Event) (wired : ∀ e ∈ events, e.IsWired) :
    Secured (start period) events := by
  have supplied := supplied_run period events wired
  have proper := (proper_start period).run events
  constructor
  · exact supplied.refreshed proper
  · exact supplied.recovered
  · exact supplied.asking
  · intro g t renewal cause usable wall reply v running phase failed
    exact denied_task running phase failed usable
  · intro g t current cause usable wall reply v running phase failed
    exact bothFailed_task running phase failed usable

end

/-! ### A daemon that answers when the authority does not -/

def denying : List Event :=
  [.keys 0 (.pinned [.ofTwos]),
    .registry (.reserve ⟨.bootstrap, "", ⟨true, 0⟩⟩),
    .registry (.enter 1 0),
    .registry (.task 1 (.wake 0)),
    .registry (.task 1 (.read .ofTwos 1 1700000000)),
    .registry (.task 1 (.authority [] 1700000000 (.error (.authorityUnavailable .unreachable))))]

theorem task_denying : ((start 1800).run denying).task? 1 = some
    ⟨.of .bootstrap "", 1, ⟨true, 0⟩, 1800, 1800,
      .askingDaemon .bootstrap (.authorityUnavailable .unreachable)⟩ := rfl

def supplying : List Event :=
  denying ++ [.registry (.task 1 (.daemon [] 1700000000 (.ok .bootstrap)))]

theorem wired_supplying : ∀ e ∈ supplying, e.IsWired := by
  intro e mem g usable wall c same
  have sent : g = 1 ∧ usable = [] ∧ wall = 1700000000 ∧ c = .bootstrap := by
    subst same
    simpa [supplying, denying] using mem
  rw [sent.2.2.2]
  exact ⟨fun _ => "", _, DaemonExchange.result_bootstrap _⟩

theorem secured_supplying :
    (∀ e ∈ supplying, e.IsWired) ∧ Secured (start 1800) supplying ∧
      ∃ t, ((start 1800).run supplying).task? 1 = some t ∧ t.phase = .installing .bootstrap := by
  refine ⟨wired_supplying, supply_run 1800 supplying wired_supplying, ?_⟩
  have usable : ((start 1800).run denying).usable 0 1700000000 = [.ofTwos] :=
    KeyRing.usable_put_empty _ _ _ _
  rw [supplying, run_concat]
  refine ⟨_, (supplied_task task_denying rfl ⟨rfl, ?_⟩ []).2, rfl⟩
  rw [usable]
  exact Certificate.check_bootstrap

end Warrant.Upkeep
