import Mathlib.Data.List.Induction
import Warrant.Proofs.Client.FoundingLaws
import Warrant.Proofs.Upkeep.HonestLaws

namespace Warrant.Upkeep

section

variable [Scheme]

/-- Somebody has registered a bootstrap certificate under this key. -/
def Brought (events : List Event) (key : RegistryKey) : Prop :=
  ∃ r, .registry (.reserve r) ∈ events ∧ r.key = key ∧
    r.credential.certificate.isBootstrap = true

structure Sourced (u : Upkeep) (events : List Event) : Prop where
  pending : ∀ id r, (u.run events).chronicle.pending.get? id = some r →
    .registry (.reserve r) ∈ events
  entries : ∀ key e, (u.run events).find? key = some e →
    e.current.certificate.isBootstrap = true → Brought events key
  tasks : ∀ g t, (u.run events).task? g = some t → t.Lags → Brought events t.key

variable {u : Upkeep} {events : List Event} {e : Event}

omit [Scheme] in
theorem Brought.concat {key : RegistryKey} (h : Brought events key) (e : Event) :
    Brought (events ++ [e]) key := by
  obtain ⟨r, mem, same, bootstrap⟩ := h
  exact ⟨r, List.mem_append_left _ mem, same, bootstrap⟩

theorem sourced_nil (period : Nat) : Sourced (start period) [] := by
  have pending (id : Nat) : ((start period).run []).chronicle.pending.get? id = none := rfl
  have entries (key : RegistryKey) : ((start period).run []).find? key = none := rfl
  have tasks (g : Nat) : ((start period).run []).task? g = none := rfl
  exact ⟨by simp [pending], by simp [entries], by simp [tasks]⟩

namespace Sourced

theorem pending_concat (h : Sourced u events) (e : Event) :
    ∀ id r, (u.run (events ++ [e])).chronicle.pending.get? id = some r →
      .registry (.reserve r) ∈ events ++ [e] := by
  intro id r found
  rw [run_concat] at found
  obtain before | rfl := pending_cases found
  · exact List.mem_append_left _ (h.pending id r before)
  · exact List.mem_append_right _ (List.mem_singleton_self _)

theorem entries_concat (h : Sourced u events) (regular : (u.run events).Regular)
    (honest : (u.run events).Honest e) :
    ∀ key f, (u.run (events ++ [e])).find? key = some f →
      f.current.certificate.isBootstrap = true → Brought (events ++ [e]) key := by
  intro key f found bootstrap
  rw [run_concat] at found
  cases current_step found with
  | kept there _ current => exact (h.entries key _ there (current ▸ bootstrap)).concat e
  | @opened id now r waiting =>
    exact .concat ⟨r, h.pending id r waiting, rfl, bootstrap⟩ _
  | updated => exact honest.elim
  | refreshed running phase =>
    refine (h.tasks _ _ running ?_).concat _
    rwa [RefreshTask.Lags, phase]
  | recovered there offered =>
    obtain ⟨number, -, -, -, task⟩ := Client.offer?_eq_some_iff.1 offered
    cases (regular.residents _ _ there number _ task).symm.trans bootstrap

theorem tasks_concat (h : Sourced u events) (regular : (u.run events).Regular)
    (honest : (u.run events).Honest e) :
    ∀ g t, (u.run (events ++ [e])).task? g = some t → t.Lags → Brought (events ++ [e]) t.key := by
  intro g t found lags
  rw [run_concat] at found
  obtain found | ⟨_, _, _, -, -, -, rfl⟩ | ⟨t₀, event, rfl, running, advances⟩ := task_cases found
  · exact (h.tasks g t found lags).concat e
  · exact lags.elim
  · obtain ⟨granted, kept⟩ := honest_task honest running _
    rw [advances.key]
    obtain lags | ⟨-, old, there, -, bootstrap⟩ :=
      (regular.proper.tasks g t₀ running).lags_cases advances granted kept lags
    · exact (h.tasks g t₀ running lags).concat _
    · exact (h.entries t₀.key old there bootstrap).concat _

end Sourced

theorem sourced_run (period : Nat) {events : List Event}
    (honest : (start period).HonestRun events) : Sourced (start period) events := by
  induction events using List.reverseRecOn with
  | nil => exact sourced_nil period
  | append_singleton events e ih =>
    obtain ⟨before, last, -⟩ := honestRun_append.1 honest
    have regular := (regular_start period).run before
    have sourced := ih before
    exact ⟨sourced.pending_concat e, sourced.entries_concat regular last,
      sourced.tasks_concat regular last⟩

/-- What a newcomer starts with: the credential of an entry that is there, or else its own. -/
def adopted (u : Upkeep) (r : Registration) : Credential :=
  match u.find? r.key with
  | some e => e.current
  | none => r.credential

theorem current?_enter {id : Nat} {r : Registration}
    (waiting : u.chronicle.pending.get? id = some r) (now : Nat) :
    (u.step (.registry (.enter id now))).live.registry.current? ⟨id, r.key⟩ =
      some (u.adopted r) := by
  have after : (u.step (.registry (.enter id now))).live =
      (u.chronicle.live.enter id r.credential r.endpoint r.context now).1 :=
    Chronicle.live_enter waiting now
  rw [after, adopted]
  cases there : u.find? r.key with
  | some e =>
    rw [LiveRegistry.enter_of_some there]
    exact Table.get?_put_self ..
  | none =>
    rw [LiveRegistry.enter_of_none there]
    exact Table.get?_put_self ..

/-- Every certificate that is registered has been exchanged before, if it had to be. -/
def Founded (events : List Event) : Prop :=
  ∀ r, .registry (.reserve r) ∈ events →
    ∃ (f : Founding) (identity : Identity), f.Admits identity (.certified r.credential)

/-- A client that is made while the library is enabled starts with a bootstrap certificate only if
it finds one where a client has left it that was made while the library was disabled. -/
theorem newcomer_run (period : Nat) {events : List Event}
    (honest : (start period).HonestRun events) (founded : Founded events) {f : Founding}
    {identity : Identity} {id : Nat} {r : Registration}
    (waiting : ((start period).run events).chronicle.pending.get? id = some r)
    (admits : f.Admits identity (.certified r.credential)) (enabled : f.isDisabled = false)
    (now : Nat) :
    let u := (start period).run events
    let c := (f.finish (.registered ⟨id, r.key⟩) now).1
    c.isDisabled = false ∧
      c.credential? (u.step (.registry (.enter id now))).live.registry = some (u.adopted r) ∧
      ((u.adopted r).certificate.isBootstrap = true →
        (u.find? r.key).isSome ∧
        ∃ (earlier : Registration) (g : Founding) (other : Identity),
          .registry (.reserve earlier) ∈ events ∧ earlier.key = r.key ∧
          earlier.credential.certificate.isBootstrap = true ∧
          g.Admits other (.certified earlier.credential) ∧ g.isDisabled = true) := by
  intro u c
  refine ⟨enabled, current?_enter waiting now, ?_⟩
  unfold adopted
  cases there : u.find? r.key with
  | some e =>
    intro bootstrap
    refine ⟨rfl, ?_⟩
    obtain ⟨earlier, mem, same, brought⟩ :=
      (sourced_run period honest).entries r.key e there bootstrap
    obtain ⟨g, other, admitted⟩ := founded earlier mem
    exact ⟨earlier, g, other, mem, same, brought, admitted, admitted.isDisabled brought⟩
  | none =>
    intro bootstrap
    exact nomatch enabled.symm.trans (admits.isDisabled bootstrap)

end

/-! ### A client that joins what has been left -/

def joining : List Event :=
  [.registry (.reserve ⟨.bootstrap, "", ⟨false, 0⟩⟩), .registry (.enter 1 0),
    .arrive .paused (.registered ⟨1, .of .bootstrap ""⟩) 0 0,
    .registry (.reserve ⟨.exchanged, "", ⟨false, 0⟩⟩)]

theorem founded_joining : Founded joining := by
  intro r mem
  have cases : r = ⟨.bootstrap, "", ⟨false, 0⟩⟩ ∨ r = ⟨.exchanged, "", ⟨false, 0⟩⟩ := by
    simpa [joining] using mem
  obtain rfl | rfl := cases
  · exact ⟨_, _, Founding.admits_paused⟩
  · exact ⟨_, _, Founding.admits_enabled⟩

theorem newcomer_holds_bootstrap :
    (∃ records now, Founding.start .bob (.pinned [.ofTwos]) records now = .ok .paused) ∧
      Founding.paused.Admits (.certified .bootstrap) (.certified .bootstrap) ∧
      (∃ records now, Founding.start .bob (.pinned [.ofTwos]) records now = .ok .enabled) ∧
      Founding.enabled.Admits (.certified .exchanged) (.certified .exchanged) ∧
      let first := Founding.paused.join (.certified .bootstrap) (.make 1800) "" ⟨false, 0⟩ 0
      let second := Founding.enabled.join (.certified .exchanged) first.2.1 "" ⟨false, 0⟩ 0
      second.1.isDisabled = false ∧ second.1.HoldsBootstrap second.2.1.registry :=
  ⟨⟨_, _, Founding.start_paused⟩, Founding.admits_paused,
    ⟨_, .ofSecond 1700000000, Founding.start_enabled _⟩, Founding.admits_enabled, rfl, _, rfl, rfl⟩

theorem newcomer_joining :
    (start 1800).HonestRun joining ∧ Founded joining ∧
      let u := (start 1800).run joining
      let r : Registration := ⟨.exchanged, "", ⟨false, 0⟩⟩
      u.chronicle.pending.get? 2 = some r ∧
      Founding.enabled.Admits (.certified .exchanged) (.certified .exchanged) ∧
      Founding.enabled.isDisabled = false ∧ u.adopted r = .bootstrap ∧
      ∃ (earlier : Registration) (g : Founding) (other : Identity),
        .registry (.reserve earlier) ∈ joining ∧ earlier.key = r.key ∧
        earlier.credential.certificate.isBootstrap = true ∧
        g.Admits other (.certified earlier.credential) ∧ g.isDisabled = true := by
  have honest : (start 1800).HonestRun joining := ⟨trivial, trivial, trivial, trivial, trivial⟩
  have waiting : ((start 1800).run joining).chronicle.pending.get? 2 =
      some ⟨.exchanged, "", ⟨false, 0⟩⟩ := rfl
  have enabled : Founding.enabled.isDisabled = false := rfl
  have adopts : ((start 1800).run joining).adopted ⟨.exchanged, "", ⟨false, 0⟩⟩ = .bootstrap := rfl
  obtain ⟨-, -, origin⟩ :=
    newcomer_run 1800 honest founded_joining waiting Founding.admits_enabled enabled 0
  obtain ⟨-, left⟩ := origin (by rw [adopts]; rfl)
  exact ⟨honest, founded_joining, waiting, Founding.admits_enabled, enabled, adopts, left⟩

end Warrant.Upkeep
