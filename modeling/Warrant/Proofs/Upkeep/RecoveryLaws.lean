import Warrant.Proofs.Client.FoundingLaws
import Warrant.Proofs.Upkeep.HonestLaws

namespace Warrant

theorem Registry.spares_remove (r : Registry) (h : Handle) (e : Entry) : r.Spares (r.remove h e) :=
  fun _ credential found bootstrap => ⟨credential, found, bootstrap⟩

namespace Upkeep

/-- The event concerns nobody but the first client, its keys and its entry. -/
def Event.IsOwn : Event → Prop
  | .keys _ _ => True
  | .registry (.task _ _) => True
  | .registry (.unregister _) => True
  | .client number _ => number = 0
  | _ => False

def arrival (f : Founding) (endpoint : String) (context : RefreshContext) (now : Nat) :
    Identity → List Event
  | .certified credential =>
    [.registry (.reserve ⟨credential, endpoint, context⟩), .registry (.enter 1 now),
      .arrive f (.registered ⟨1, .of credential.certificate endpoint⟩) context.keys now]
  | .enrolled _ key => [.arrive f (.enrolled key) context.keys now]

section

variable [Scheme]

def alone (f : Founding) (endpoint : String) (context : RefreshContext) (now : Nat)
    (identity : Identity) : Upkeep :=
  (start (Timings.period f.config.timings.certificateRefresh)).run
    (arrival f endpoint context now identity)

theorem alone_eq_join (f : Founding) (endpoint : String) (context : RefreshContext) (now : Nat)
    (identity : Identity) :
    let u := alone f endpoint context now identity
    let joined := f.join identity f.registry endpoint context now
    u.live = joined.2.1 ∧ u.residents.get? 0 = some ⟨joined.1, context.keys⟩ := by
  cases identity <;> exact ⟨rfl, rfl⟩

structure Solitary (u : Upkeep) : Prop where
  regular : u.Regular
  tasks : ∀ g t, u.task? g = some t → t.context.hasDaemon = false
  resident : ∃ s, u.residents.get? 0 = some s ∧ s.client.Watchful u.live.registry

variable {u : Upkeep} {e : Event}

theorem honestRun_arrival (u : Upkeep) (f : Founding) (endpoint : String)
    (context : RefreshContext) (now : Nat) (identity : Identity) :
    u.HonestRun (arrival f endpoint context now identity) := by
  cases identity with
  | certified credential => exact ⟨trivial, trivial, trivial, trivial⟩
  | enrolled entity key => exact ⟨trivial, trivial⟩

theorem tasks_alone {f : Founding} {endpoint : String} {context : RefreshContext} {now : Nat}
    {identity : Identity} {g : Nat} {t : RefreshTask}
    (found : (alone f endpoint context now identity).task? g = some t) : t.context = context := by
  cases identity with
  | certified credential =>
    have opened : (alone f endpoint context now (.certified credential)).live.tasks =
        (∅ : Table Nat RefreshTask).push 1
          (.make (.of credential.certificate endpoint) 1 context
            (Timings.period f.config.timings.certificateRefresh) now) := rfl
    rw [task?, opened, Table.get?_push, Table.get?_empty, Option.none_or] at found
    split at found
    · cases found
      rfl
    · cases found
  | enrolled entity key => cases found

theorem watchful_alone {f : Founding} {identity kept : Identity} (admits : f.Admits identity kept)
    (endpoint : String) (context : RefreshContext) (now : Nat) :
    (f.join kept f.registry endpoint context now).1.Watchful
      (f.join kept f.registry endpoint context now).2.1.registry := by
  cases kept with
  | certified credential =>
    refine ⟨Recoveries.lone_idle, nofun, ?_⟩
    rintro - enabled ⟨held, found, bootstrap⟩
    cases found
    exact nomatch (admits.isDisabled bootstrap).symm.trans enabled
  | enrolled entity key =>
    refine ⟨Recoveries.lone_idle, nofun, ?_⟩
    rintro - - ⟨held, found, -⟩
    cases found

theorem solitary_alone {f : Founding} {identity kept : Identity} (admits : f.Admits identity kept)
    (endpoint : String) {context : RefreshContext} (daemonless : context.hasDaemon = false)
    (now : Nat) : (alone f endpoint context now kept).Solitary := by
  obtain ⟨same, there⟩ := alone_eq_join f endpoint context now kept
  refine ⟨(regular_start _).run (honestRun_arrival ..), ?_, _, there, ?_⟩
  · intro g t found
    rw [tasks_alone found]
    exact daemonless
  · rw [same]
    exact watchful_alone admits endpoint context now

namespace Solitary

theorem spares_task (h : u.Solitary) (g : Nat) (event : RefreshTask.Event) :
    u.live.registry.Spares (u.step (.registry (.task g event))).live.registry := by
  obtain same | ⟨t, c, e, rfl, running, phase, -, -, installed⟩ := u.registry_task g event
  · rw [same]
    exact .refl _
  · rw [installed]
    refine Registry.spares_install _ _ e ?_
    rw [← Bool.not_eq_true]
    intro bootstrap
    have lags : t.Lags := by rwa [RefreshTask.Lags, phase]
    cases (h.tasks g t running).symm.trans (h.regular.tasks g t running lags)

theorem spares_unregister (u : Upkeep) (handle : Handle) :
    u.live.registry.Spares (u.step (.registry (.unregister handle))).live.registry := by
  simp only [step, told, live, Chronicle.step]
  split
  · next removed =>
    obtain ⟨e, -, -, rfl⟩ := LiveRegistry.unregister_eq_ok_iff.1 removed
    exact Registry.spares_remove _ handle e
  · exact .refl _

theorem step (h : u.Solitary) (own : e.IsOwn) (honest : u.Honest e) : (u.step e).Solitary := by
  refine ⟨h.regular.step honest, ?_, ?_⟩
  · intro g t found
    obtain found | ⟨_, _, _, rfl, -⟩ | ⟨t₀, event, rfl, running, advances⟩ := task_cases found
    · exact h.tasks g t found
    · exact own.elim
    · rw [advances.context]
      exact h.tasks g t₀ running
  · obtain ⟨s, there, watchful⟩ := h.resident
    cases e with
    | keys number keys => exact ⟨s, there, watchful⟩
    | arrive => exact own.elim
    | client number event =>
      cases own
      refine ⟨_, resident_client there event, ?_⟩
      rw [live_client there]
      exact watchful.step (h.regular.residents 0 s there) (u.usable s.keys) event
    | registry event =>
      cases event with
      | task g event => exact ⟨s, there, watchful.of_spares (h.spares_task g event)⟩
      | unregister handle => exact ⟨s, there, watchful.of_spares (spares_unregister u handle)⟩
      | _ => exact own.elim

theorem run (h : u.Solitary) {events : List Event} (own : ∀ e ∈ events, e.IsOwn)
    (honest : u.HonestRun events) : (u.run events).Solitary :=
  honest.preserves (fun _ e mem honest solitary => solitary.step (own e mem) honest) h

end Solitary

/-! ### How long a client goes on -/

def Goes (u : Upkeep) : Prop :=
  ∀ s, u.residents.get? 0 = some s → s.client.stopping = false

def Event.Keeps (e : Event) : Prop :=
  e ≠ .client 0 .close ∧ e ≠ .client 0 .drop

theorem Goes.step (h : u.Goes) (own : e.IsOwn) (keeps : e.Keeps) : (u.step e).Goes := by
  intro s found
  obtain found | ⟨_, _, _, _, rfl, -⟩ | ⟨s₀, event, rfl, there, rfl⟩ := resident_cases found
  · exact h s found
  · exact own.elim
  · rw [← Bool.not_eq_true]
    intro stopping
    obtain before | rfl | rfl := (s₀.client.step_continues _ _ event).stopped stopping
    · exact nomatch (h s₀ there).symm.trans before
    · exact keeps.1 rfl
    · exact keeps.2 rfl

theorem Goes.run (h : u.Goes) {events : List Event} (own : ∀ e ∈ events, e.IsOwn)
    (keeps : ∀ e ∈ events, e.Keeps) : (u.run events).Goes :=
  run_preserves (fun _ e mem goes => goes.step (own e mem) (keeps e mem)) h

/-- While the library is enabled and a client is left with a bootstrap certificate, there is a
signal for it, or a recovery is under way. There are never two. -/
theorem recovery_run (f : Founding) {identity kept : Identity} (admits : f.Admits identity kept)
    (endpoint : String) {context : RefreshContext} (daemonless : context.hasDaemon = false)
    (now : Nat) {events : List Event} (own : ∀ e ∈ events, e.IsOwn)
    (honest : (alone f endpoint context now kept).HonestRun events) :
    let u := (alone f endpoint context now kept).run events
    ∃ s, u.residents.get? 0 = some s ∧ s.client.recoveries.tasks.size ≤ 1 ∧
      ((∀ e ∈ events, e.Keeps) → s.client.isDisabled = false →
        s.client.HoldsBootstrap u.live.registry → s.client.IsSignalled ∨ s.client.Recovers) := by
  have before := solitary_alone admits endpoint daemonless now
  have goes : (alone f endpoint context now kept).Goes := by
    intro s there
    obtain ⟨-, joined⟩ := alone_eq_join f endpoint context now kept
    cases joined.symm.trans there
    cases kept <;> rfl
  obtain ⟨s, there, watchful⟩ := (before.run own honest).resident
  refine ⟨s, there, watchful.lone.size_le, ?_⟩
  intro keeps
  exact watchful.awaited (goes.run own keeps s there)

end

/-! ### A client that starts while the library is disabled -/

def resuming : List Event :=
  [.keys 0 (.pinned [.ofTwos]), .client 0 (.check (fun _ => none) 1700000000), .client 0 .deliver]

theorem recovery_resuming :
    (∀ e ∈ resuming, e.IsOwn ∧ e.Keeps) ∧
      let u := alone .paused "" ⟨false, 0⟩ 0 (.certified .bootstrap)
      u.HonestRun resuming ∧ ∃ s, (u.run resuming).residents.get? 0 = some s ∧
        s.client.recoveries.tasks.size ≤ 1 ∧ s.client.isDisabled = false ∧
        s.client.HoldsBootstrap (u.run resuming).live.registry ∧
        (s.client.IsSignalled ∨ s.client.Recovers) := by
  have own : ∀ e ∈ resuming, e.IsOwn := by simp [resuming, Event.IsOwn]
  have keeps : ∀ e ∈ resuming, e.Keeps := by simp [resuming, Event.Keeps]
  have honest : (alone .paused "" ⟨false, 0⟩ 0 (.certified .bootstrap)).HonestRun resuming :=
    ⟨trivial, fun _ _ => trivial, fun _ _ => trivial, trivial⟩
  obtain ⟨s, there, alone, awaited⟩ :=
    recovery_run .paused Founding.admits_paused "" rfl 0 own honest
  refine ⟨fun e mem => ⟨own e mem, keeps e mem⟩, honest, s, there, alone, ?_⟩
  cases there
  exact ⟨rfl, ⟨_, rfl, rfl⟩, awaited keeps rfl ⟨_, rfl, rfl⟩⟩

end Upkeep

end Warrant
