import Warrant.Proofs.Registry.SoundLaws

namespace Warrant.Chronicle

open Happening

variable {c : Chronicle}

theorem Sound.current (h : c.Sound) {a : Handle} (held : Held c.past a) :
    ∃ e, c.find? a.key = some e ∧ a.id ∈ e.handles ∧
      c.live.registry.current? a = some e.current ∧
      given? e.generation c.past = some e.current := by
  obtain ⟨e, there, mem⟩ := (h.shared.held_iff a).2 held
  exact ⟨e, there, mem, h.agreed.copies a.key e there a.id mem, h.agreed.given a.key e there⟩

variable [Scheme]

/-- What the handles of a registry answer. -/
structure Agreement (c : Chronicle) : Prop where
  current : ∀ h, Held c.past h → ∃ e, c.find? h.key = some e ∧ h.id ∈ e.handles ∧
    c.live.registry.current? h = some e.current ∧
    given? e.generation c.past = some e.current
  joins : ∀ id r e now, c.pending.get? id = some r → c.find? r.key = some e →
    Held (c.step (.enter id now)).past ⟨id, r.key⟩ ∧
    (c.step (.enter id now)).live.registry.current? ⟨id, r.key⟩ = some e.current ∧
    (c.step (.enter id now)).find? r.key = some { e with handles := e.handles ++ [id] }
  update_held : ∀ h credential, Held c.past h → (∃ l, c.live.update h credential = .ok l) ∧ ∃ e,
    c.find? h.key = some e ∧
    (c.step (.update h credential)).find? h.key = some { e with current := credential }
  update_unheld : ∀ h credential, ¬Held c.past h →
    (∃ e, c.live.update h credential = .error e) ∧ c.step (.update h credential) = c
  refresh_late : ∀ g t event, c.live.tasks.get? g = some t →
    (∀ e, c.find? t.key = some e → e.generation ≠ g) →
    (c.step (.task g event)).live.registry = c.live.registry ∧
    (c.step (.task g event)).past = c.past

namespace Sound

theorem joins (h : c.Sound) {id : Nat} {r : Registration} {e : Entry}
    (waiting : c.pending.get? id = some r) (there : c.find? r.key = some e) (now : Nat) :
    Held (c.step (.enter id now)).past ⟨id, r.key⟩ ∧
      (c.step (.enter id now)).live.registry.current? ⟨id, r.key⟩ = some e.current ∧
      (c.step (.enter id now)).find? r.key = some { e with handles := e.handles ++ [id] } := by
  have entered := LiveRegistry.enter_of_some there id r.context now
  have entry : c.find? (.of r.credential.certificate r.endpoint) = some e := there
  simp only [step, waiting, entered, entry]
  refine ⟨?_, ?_, ?_⟩
  · exact (h.held_enter waiting (issued_joined ..) (by simp) _).2 (.inl rfl)
  · exact (Registry.get?_copies_join ..).trans (if_pos rfl)
  · exact (Registry.find?_join ..).trans (if_pos rfl)

theorem update_held (h : c.Sound) {a : Handle} (held : Held c.past a) (credential : Credential) :
    (∃ l, c.live.update a credential = .ok l) ∧ ∃ e, c.find? a.key = some e ∧
      (c.step (.update a credential)).find? a.key = some { e with current := credential } := by
  obtain ⟨e, there, mem⟩ := (h.shared.held_iff a).2 held
  have updated : c.live.update a credential =
      .ok { c.live with registry := c.live.registry.install a.key e credential } :=
    LiveRegistry.update_eq_ok_iff.2 ⟨e, there, mem, rfl⟩
  refine ⟨⟨_, updated⟩, e, there, ?_⟩
  simp only [step, updated, there]
  exact (Registry.find?_install ..).trans (if_pos rfl)

theorem update_unheld (h : c.Sound) {a : Handle} (unheld : ¬Held c.past a)
    (credential : Credential) :
    (∃ e, c.live.update a credential = .error e) ∧ c.step (.update a credential) = c := by
  cases result : c.live.update a credential with
  | ok l =>
    obtain ⟨e, there, mem, -⟩ := LiveRegistry.update_eq_ok_iff.1 result
    exact absurd ((h.shared.held_iff a).1 ⟨e, there, mem⟩) unheld
  | error e => exact ⟨⟨e, rfl⟩, by simp only [step, result]⟩

theorem refresh_late (h : c.Sound) {g : Nat} {t : RefreshTask}
    (running : c.live.tasks.get? g = some t)
    (late : ∀ e, c.find? t.key = some e → e.generation ≠ g) (event : RefreshTask.Event) :
    (c.step (.task g event)).live.registry = c.live.registry ∧
      (c.step (.task g event)).past = c.past := by
  have generation := (h.tasked.origin g t running).1
  simp only [step, running, LiveRegistry.step_of_some running]
  obtain ⟨t', next, -, nothing⟩ | ⟨next, -, nothing⟩ | ⟨e, credential, there, same, -⟩ :=
    t.step_cases c.live.registry event
  · simp only [next, nothing]
    exact ⟨rfl, rfl⟩
  · simp only [next, nothing]
    exact ⟨rfl, rfl⟩
  · exact absurd (same.trans generation) (late e there)

theorem agreement (h : c.Sound) : c.Agreement where
  current _ held := h.current held
  joins _ _ _ now waiting there := h.joins waiting there now
  update_held _ credential held := h.update_held held credential
  update_unheld _ credential unheld := h.update_unheld unheld credential
  refresh_late _ _ event running late := h.refresh_late running late event

end Sound

theorem agreement_run (period : Nat) (events : List RegistryEvent) :
    (run period events).Agreement :=
  (sound_run period events).agreement

end Warrant.Chronicle
