import Warrant.Proofs.Client.FoundingLaws
import Warrant.Proofs.Upkeep.HonestLaws
import Warrant.Proofs.Upkeep.SupplyLaws

namespace Warrant.Upkeep

open Happening

section

variable [Scheme] {u : Upkeep} {e : Event}

/-! ### What is signed and installed -/

theorem signed_client {n number : Nat} {s : Resident} {renewal : Renewal} {c : Credential}
    (there : u.residents.get? n = some s)
    (task : s.client.recoveries.tasks.get? number = some (.renewing renewal)) {wall : Int64}
    {reply : Except Error Certificate}
    (done : reply.bind (renewal.finish (u.usable s.keys wall) wall) = .ok c) (now : Nat) :
    let after := u.step (.client n (.sign number now wall reply))
    after.chronicle = u.chronicle ∧
      after.residents.get? n =
        some { s with client := s.client.setRecovery number (.installing c) } := by
  rw [step_client there]
  refine ⟨rfl, (Table.get?_put_self ..).trans ?_⟩
  simp only [Client.step, Client.signReplied, task, Recovery.signReplied, done]

theorem installed_client {n number : Nat} {s : Resident} {h : Handle} {c : Credential} {e : Entry}
    (there : u.residents.get? n = some s) (registered : s.client.identity = .registered h)
    (task : s.client.recoveries.tasks.get? number = some (.installing c))
    (found : u.find? h.key = some e) (mem : h.id ∈ e.handles) (now : Nat) :
    let after := u.step (.client n (.install number now))
    after.find? h.key = some { e with current := c } ∧ after.live.tasks = u.live.tasks := by
  have offered := Client.offer?_eq_some_iff.2 ⟨number, now, rfl, registered, task⟩
  have updated : u.live.update h c =
      .ok { u.live with registry := u.live.registry.install h.key e c } :=
    LiveRegistry.update_eq_ok_iff.2 ⟨e, found, mem, rfl⟩
  have after := live_client there (.install number now)
  simp only [Client.step_registry, offered, updated] at after
  refine ⟨?_, by rw [after]⟩
  rw [find?, Chronicle.find?, ← live, after, Registry.find?_install, if_pos rfl]

theorem installed_task {g : Nat} {t : RefreshTask} {c : Credential} {e : Entry}
    (running : u.task? g = some t) (phase : t.phase = .installing c)
    (found : u.find? t.key = some e) (same : e.generation = t.generation) :
    (u.step (.registry (.task g .install))).find? t.key = some { e with current := c } := by
  have put : u.live.registry.refresh? t.key t.generation c =
      some (u.live.registry.install t.key e c) :=
    Registry.refresh?_eq_some_iff.2 ⟨e, found, same, rfl⟩
  have after := live_task running .install
  simp only [RefreshTask.Event.withKeys, RefreshTask.step, RefreshTask.install, phase, put] at after
  rw [find?, Chronicle.find?, ← live, after]
  exact (Registry.find?_install ..).trans (if_pos rfl)

/-! ### How long an upgrade lasts -/

/-- The entry of this generation has been upgraded, and nobody is about to undo it. -/
structure Upgraded (u : Upkeep) (g : Nat) : Prop where
  given : g ∈ (issued u.chronicle.past).map Handle.id
  entry : ∀ key e, u.find? key = some e → e.generation = g →
    e.current.certificate.isBootstrap = false
  task : ∀ t, u.task? g = some t → ¬t.Lags

namespace Upgraded

variable {g : Nat}

theorem task_step (h : u.Upgraded g) (regular : u.Regular) (honest : u.Honest e) :
    ∀ t, (u.step e).task? g = some t → ¬t.Lags := by
  intro t found lags
  obtain found | ⟨_, _, _, -, -, -, rfl⟩ | ⟨t₀, event, rfl, running, advances⟩ := task_cases found
  · exact h.task t found lags
  · exact lags
  · obtain ⟨granted, kept⟩ := honest_task honest running _
    obtain lags | ⟨-, old, there, same, bootstrap⟩ :=
      (regular.proper.tasks g t₀ running).lags_cases advances granted kept lags
    · exact h.task t₀ running lags
    -- An attempt that starts now starts with the upgraded certificate.
    · have own := (regular.proper.sound.tasked.origin g t₀ running).1
      exact nomatch (h.entry _ old there (same.trans own)).symm.trans bootstrap

theorem entry_step (h : u.Upgraded g) (regular : u.Regular) (honest : u.Honest e) :
    ∀ key f, (u.step e).find? key = some f → f.generation = g →
      f.current.certificate.isBootstrap = false := by
  intro key f found generation
  cases current_step found with
  | kept there same current =>
    rw [current]
    exact h.entry _ _ there (same.symm.trans generation)
  | opened waiting =>
    obtain ⟨a, issued, same⟩ := List.mem_map.1 h.given
    exact absurd (same.trans generation.symm) (regular.proper.sound.pending_ne waiting issued)
  | updated => exact honest.elim
  | refreshed running phase there same =>
    have own := (regular.proper.sound.tasked.origin _ _ running).1
    have lags := h.task _ (own.symm.trans (same.symm.trans generation) ▸ running)
    rw [RefreshTask.Lags, phase] at lags
    exact Bool.eq_false_iff.2 lags
  | recovered there offered =>
    obtain ⟨number, -, -, -, task⟩ := Client.offer?_eq_some_iff.1 offered
    exact regular.residents _ _ there number _ task

theorem step (h : u.Upgraded g) (regular : u.Regular) (honest : u.Honest e) :
    (u.step e).Upgraded g :=
  ⟨Chronicle.given_moves (u.step_moves e) h.given, h.entry_step regular honest,
    h.task_step regular honest⟩

theorem run (h : u.Upgraded g) (regular : u.Regular) {events : List Event}
    (honest : u.HonestRun events) : (u.run events).Upgraded g := by
  refine (honest.preserves (p := fun u => u.Upgraded g ∧ u.Regular) ?_ ⟨h, regular⟩).1
  intro u e _ honest h
  exact ⟨h.1.step h.2 honest, h.2.step honest⟩

end Upgraded

/-- An upgrade is undone only by a task that was at work on the bootstrap certificate when the
upgrade came, and that has a daemon. -/
theorem downgrade_run (period : Nat) {before after : List Event}
    (honest : (start period).HonestRun (before ++ after)) {key later : RegistryKey} {e f : Entry}
    (there : ((start period).run before).find? key = some e)
    (regular : e.current.certificate.isBootstrap = false)
    (still : ((start period).run (before ++ after)).find? later = some f)
    (same : f.generation = e.generation) (lost : f.current.certificate.isBootstrap = true) :
    ∃ t, ((start period).run before).task? e.generation = some t ∧ t.Lags ∧
      t.context.hasDaemon = true := by
  obtain ⟨honest, later⟩ := honestRun_append.1 honest
  have sofar := (regular_start period).run honest
  have sound := sofar.proper.sound
  obtain ⟨t, running, -⟩ := sound.tasked.running key e there
  by_cases lags : t.Lags
  · exact ⟨t, running, lags, sofar.tasks _ t running lags⟩
  · have upgraded : ((start period).run before).Upgraded e.generation := by
      refine ⟨List.mem_map.2 ⟨_, sound.issued_opener there, rfl⟩, ?_, ?_⟩
      · intro k old found generation
        obtain rfl := sound.key_eq_of_generation found there generation
        cases there.symm.trans found
        exact regular
      · intro other found
        cases running.symm.trans found
        exact lags
    have kept := (upgraded.run sofar later).entry _ f (run_append .. ▸ still) same
    exact nomatch kept.symm.trans lost

end

/-! ### An upgrade that is undone -/

def recovering : List Event :=
  denying ++ [.arrive .paused (.registered ⟨1, .of .bootstrap ""⟩) 0 0,
    .client 0 (.check (fun _ => none) 1700000000),
    .client 0 .deliver,
    .client 0 (.health 0 0 .ofTwos 1 1700000000 (.ok ()))]

def upgrading : List Event :=
  recovering ++ [.client 0 (.sign 0 0 1700000000 (.ok Credential.exchanged.certificate)),
    .client 0 (.install 0 0)]

def lagging : List Event :=
  [.registry (.task 1 (.daemon [] 1700000000 (.ok .bootstrap))), .registry (.task 1 .install)]

theorem run_recovering :
    let u := (start 1800).run recovering
    u.usable 0 1700000000 = [.ofTwos] ∧
      u.find? (.of .bootstrap "") = some ⟨1, .bootstrap, [1]⟩ ∧
      u.task? 1 = some ⟨.of .bootstrap "", 1, ⟨true, 0⟩, 1800, 1800,
        .askingDaemon .bootstrap (.authorityUnavailable .unreachable)⟩ ∧
      ∃ s, u.residents.get? 0 = some s ∧ s.keys = 0 ∧
        s.client.identity = .registered ⟨1, .of .bootstrap ""⟩ ∧
        s.client.recoveries.tasks.get? 0 =
          some (.renewing (.start .bootstrap .ofTwos 1 1700000000)) :=
  ⟨KeyRing.usable_put_empty .., rfl, rfl, _, rfl, rfl, rfl, rfl⟩

theorem run_upgrading :
    let u := (start 1800).run upgrading
    u.usable 0 1700000000 = [.ofTwos] ∧
      u.find? (.of .bootstrap "") = some ⟨1, .exchanged, [1]⟩ ∧
      u.task? 1 = some ⟨.of .bootstrap "", 1, ⟨true, 0⟩, 1800, 1800,
        .askingDaemon .bootstrap (.authorityUnavailable .unreachable)⟩ := by
  refine ⟨KeyRing.usable_put_empty .., ?_⟩
  obtain ⟨usable, found, running, s, there, keys, registered, task⟩ := run_recovering
  rw [upgrading, run_append, run_cons, run_cons, run_nil]
  generalize (start 1800).run recovering = u at *
  have done : (Except.ok Credential.exchanged.certificate).bind
      ((Renewal.start .bootstrap .ofTwos 1 1700000000).finish (u.usable s.keys 1700000000)
        1700000000) = .ok .exchanged := by
    rw [keys, usable]
    exact Renewal.bind_finish_eq_ok_iff.2 ⟨rfl, rfl, Credential.check_exchanged, rfl⟩
  obtain ⟨same, signed⟩ := signed_client there task done 0
  obtain ⟨installed, tasks⟩ := installed_client signed registered (Table.get?_put_self ..)
    (e := ⟨1, .bootstrap, [1]⟩) (by rw [find?, same]; exact found) (.head _) 0
  refine ⟨installed, (congrArg (·.get? 1) tasks).trans ?_⟩
  rw [live, same]
  exact running

theorem find?_lagging {u : Upkeep} {e : Entry} (usable : u.usable 0 1700000000 = [.ofTwos])
    (found : u.find? (.of .bootstrap "") = some e) (own : e.generation = 1)
    (running : u.task? 1 = some ⟨.of .bootstrap "", 1, ⟨true, 0⟩, 1800, 1800,
      .askingDaemon .bootstrap (.authorityUnavailable .unreachable)⟩) :
    (u.run lagging).find? (.of .bootstrap "") = some { e with current := .bootstrap } := by
  have supplies : RefreshTask.Supplies (u.usable 0 1700000000) 1700000000 (.ok .bootstrap)
      .bootstrap := by
    rw [usable]
    exact ⟨rfl, Certificate.check_bootstrap⟩
  obtain ⟨same, supplied⟩ := supplied_task running rfl supplies []
  rw [lagging, run_cons, run_cons, run_nil]
  refine installed_task supplied rfl ?_ own
  rw [find?, Chronicle.find?, ← live, same]
  exact found

theorem honestRun_lagging : (start 1800).HonestRun (upgrading ++ lagging) := by
  have silent (u : Upkeep) (g : Nat) (event : RefreshTask.Event) (told : ∀ t : RefreshTask,
      t.Granted event ∧ t.Kept event) : u.Honest (.registry (.task g event)) :=
    fun t _ => told t
  refine honestRun_append.2 ⟨honestRun_append.2 ⟨honestRun_append.2 ⟨?_, ?_⟩, ?_⟩, ?_⟩
  · exact ⟨trivial, trivial, trivial, silent _ 1 _ fun _ => ⟨trivial, trivial⟩,
      silent _ 1 _ fun _ => ⟨trivial, trivial⟩, silent _ 1 _ fun _ => ⟨fun _ _ => nofun, trivial⟩,
      trivial⟩
  · exact ⟨trivial, fun _ _ => trivial, fun _ _ => trivial, fun _ _ => trivial, trivial⟩
  · obtain ⟨-, -, -, s, there, -, -, task⟩ := run_recovering
    refine ⟨?_, fun _ _ => trivial, trivial⟩
    intro s' there' renewal asked
    cases there.symm.trans there'
    cases task.symm.trans asked
    rintro _ ⟨⟩
    exact ⟨_, rfl⟩
  · obtain ⟨-, -, running⟩ := run_upgrading
    refine ⟨?_, fun _ _ => ⟨trivial, trivial⟩, trivial⟩
    intro t running'
    cases running.symm.trans running'
    refine ⟨trivial, ?_⟩
    rintro current cause ⟨⟩ c ⟨⟩
    rfl

theorem find?_run_lagging :
    ((start 1800).run (upgrading ++ lagging)).find? (.of .bootstrap "") =
      some ⟨1, .bootstrap, [1]⟩ := by
  obtain ⟨usable, found, running⟩ := run_upgrading
  rw [run_append]
  exact find?_lagging usable found rfl running

theorem upgrade_undone :
    (∃ records now, Founding.start .bob (.pinned [.ofTwos]) records now = .ok .paused) ∧
      (start 1800).HonestRun (upgrading ++ lagging) ∧
      ∃ e f, ((start 1800).run upgrading).find? (.of .bootstrap "") = some e ∧
        e.current.certificate.isBootstrap = false ∧
        ((start 1800).run (upgrading ++ lagging)).find? (.of .bootstrap "") = some f ∧
        f.generation = e.generation ∧ f.current.certificate.isBootstrap = true := by
  obtain ⟨-, found, -⟩ := run_upgrading
  exact ⟨⟨_, _, Founding.start_paused⟩, honestRun_lagging, _, _, found, rfl, find?_run_lagging, rfl,
    rfl⟩

theorem downgrade_lagging :
    (start 1800).HonestRun (upgrading ++ lagging) ∧
      (∃ e f, ((start 1800).run upgrading).find? (.of .bootstrap "") = some e ∧
        e.current.certificate.isBootstrap = false ∧
        ((start 1800).run (upgrading ++ lagging)).find? (.of .bootstrap "") = some f ∧
        f.generation = e.generation ∧ f.current.certificate.isBootstrap = true) ∧
      ∃ t, ((start 1800).run upgrading).task? 1 = some t ∧ t.Lags ∧ t.context.hasDaemon = true := by
  obtain ⟨-, found, -⟩ := run_upgrading
  have undone := downgrade_run 1800 honestRun_lagging found rfl find?_run_lagging rfl rfl
  exact ⟨honestRun_lagging, ⟨_, _, found, rfl, find?_run_lagging, rfl, rfl⟩, undone⟩

end Warrant.Upkeep
