import Warrant.Proofs.Registry.AttemptLaws
import Warrant.Proofs.Registry.SoundLaws

namespace Warrant.Chronicle

open Happening

variable {c c' : Chronicle}

/-- The entry of this generation has come and gone. -/
structure Gone (c : Chronicle) (generation : Nat) : Prop where
  given : generation ∈ (issued c.past).map Handle.id
  absent : ∀ key e, c.find? key = some e → e.generation ≠ generation

theorem Gone.of_continues {generation : Nat} (gone : c.Gone generation)
    (continues : c.live.registry.Continues c'.live.registry)
    (given : generation ∈ (issued c'.past).map Handle.id) : c'.Gone generation := by
  refine ⟨given, ?_⟩
  intro key f found
  obtain ⟨e, there, same⟩ := continues key f found
  exact same ▸ gone.absent key e there

theorem Gone.move {generation : Nat} (gone : c.Gone generation) (h : c.Sound) (m : Move c c') :
    c'.Gone generation := by
  have given := given_move m gone.given
  cases m with
  | reserve r => exact ⟨given, gone.absent⟩
  | join waiting there => exact gone.of_continues (Registry.continues_join there _) given
  | @create id r now waiting free =>
    refine ⟨given, ?_⟩
    simp only [find?, Registry.find?_create]
    refine Registry.forall_entry ?_ fun k _ => gone.absent k
    rintro _ ⟨⟩
    obtain ⟨a, issued, rfl⟩ := List.mem_map.1 gone.given
    exact (h.pending_ne waiting issued).symm
  | remove there mem => exact gone.of_continues (Registry.continues_remove there) given
  | install credential there =>
    exact gone.of_continues (Registry.continues_install there credential) given
  | goOn running follows => exact ⟨given, gone.absent⟩
  | finish running ended => exact ⟨given, gone.absent⟩

theorem Gone.moves {generation : Nat} (gone : c.Gone generation) (h : c.Sound)
    (m : Relation.ReflTransGen Move c c') : c'.Gone generation := by
  induction m with
  | refl => exact gone
  | tail before m ih => exact ih.move (h.moves before) m

theorem Gone.not_owns {generation : Nat} (gone : c.Gone generation) (key : RegistryKey) :
    c.live.registry.owns key generation = false :=
  Registry.owns_eq_false_iff.2 fun e there => gone.absent key e there

theorem openers_sublist (past : List Happening) : (openers past).Sublist (issued past) := by
  induction past with
  | nil => exact .slnil
  | cons happening past ih =>
    cases happening with
    | opened h credential => exact ih.cons_cons h
    | joined h => exact ih.cons h
    | left h => exact ih
    | installed generation credential => exact ih

namespace Sound

theorem generations_once (h : c.Sound) : ((openers c.past).map Handle.id).Nodup :=
  (List.nodup_append.1 h.numbered.distinct).1.sublist ((openers_sublist c.past).map Handle.id)

theorem task_of_entry (h : c.Sound) {key : RegistryKey} {e : Entry}
    (there : c.find? key = some e) :
    ∃ t, c.live.tasks.entries.filter (fun p => p.2.key = key ∧ p.2.generation = e.generation) =
      [(e.generation, t)] := by
  obtain ⟨t, running, rfl⟩ := h.tasked.running key e there
  have generation := (h.tasked.origin e.generation t running).1
  have distinct : c.live.tasks.entries.Nodup := .of_map Prod.fst h.tasked.single
  -- A task stands under its generation, so of two with one generation both are this one.
  refine ⟨t, List.perm_singleton.1 ?_⟩
  rw [List.perm_ext_iff_of_nodup (distinct.filter _) (List.nodup_singleton _)]
  rintro ⟨g, u⟩
  rw [List.mem_filter, List.mem_singleton]
  constructor
  · rintro ⟨mem, same⟩
    have found := Table.get?_of_mem h.tasked.single mem
    have own := (h.tasked.origin g u found).1
    simp only [decide_eq_true_eq] at same
    obtain rfl : g = e.generation := own.symm.trans same.2
    rw [running] at found
    cases found
    rfl
  · rintro ⟨⟩
    exact ⟨Table.mem_of_get? running, by simp [generation]⟩

theorem gone_of_task (h : c.Sound) {g : Nat} {t : RefreshTask}
    (running : c.live.tasks.get? g = some t)
    (orphan : ¬∃ e, c.find? t.key = some e ∧ e.generation = g) : c.Gone g := by
  have opener := issued_of_opener (h.tasked.origin g t running).2
  refine ⟨List.mem_map.2 ⟨_, opener, rfl⟩, ?_⟩
  rintro key e there rfl
  -- An entry of this generation would have the handle that the task was started with as its first.
  have same := h.handle_eq (h.issued_opener there) opener rfl
  cases same
  exact orphan ⟨e, there, rfl⟩

theorem unregister_iff (h : c.Sound) (a : Handle) :
    (∃ l, c.live.unregister a = .ok l) ↔ Held c.past a := by
  rw [← h.shared.held_iff]
  constructor
  · rintro ⟨l, ok⟩
    obtain ⟨e, there, mem, -⟩ := LiveRegistry.unregister_eq_ok_iff.1 ok
    exact ⟨e, there, mem⟩
  · rintro ⟨e, there, mem⟩
    exact ⟨_, LiveRegistry.unregister_eq_ok_iff.2 ⟨e, there, mem, rfl⟩⟩

theorem without_eq (h : c.Sound) {a : Handle} {e : Entry} (there : c.find? a.key = some e)
    (mem : a.id ∈ e.handles) :
    Registry.without e a.id = if e.handles = [a.id] then none
      else some { e with handles := e.handles.filter (· ≠ a.id) } := by
  have last : e.handles.filter (· ≠ a.id) = [] ↔ e.handles = [a.id] := by
    constructor
    · intro none
      have all : ∀ i ∈ e.handles, i = a.id := by simpa using none
      apply List.perm_singleton.1
      rw [List.perm_ext_iff_of_nodup (h.shared.apart a.key e there) (List.nodup_singleton _)]
      intro i
      rw [List.mem_singleton]
      exact ⟨all i, fun same => same ▸ mem⟩
    · intro same
      simp [same]
  rw [Registry.without]
  simp only [last]

theorem unregister_ok (h : c.Sound) {a : Handle} {l : LiveRegistry}
    (ok : c.live.unregister a = .ok l) : ∃ e, c.find? a.key = some e ∧ a.id ∈ e.handles ∧
      l.registry.find? a.key = (if e.handles = [a.id] then none
        else some { e with handles := e.handles.filter (· ≠ a.id) }) ∧
      (∀ k, k ≠ a.key → l.registry.find? k = c.find? k) ∧
      l = { c.live with registry := { c.live.registry with entries := l.registry.entries } } := by
  obtain ⟨e, there, mem, rfl⟩ := LiveRegistry.unregister_eq_ok_iff.1 ok
  refine ⟨e, there, mem, ?_, ?_, rfl⟩
  · rw [Registry.find?_remove, if_pos rfl, h.without_eq there mem]
  · intro k other
    rw [Registry.find?_remove, if_neg other]
    rfl

end Sound

variable [Scheme]

theorem Gone.foldl {generation : Nat} (gone : c.Gone generation) (h : c.Sound)
    (events : List RegistryEvent) : (events.foldl step c).Gone generation := by
  induction events generalizing c with
  | nil => exact gone
  | cons event events ih => exact ih (gone.moves h (c.step_moves event)) (sound_step h event)

structure Outlived (c : Chronicle) (generation : Nat) : Prop where
  absent : ∀ key e, c.find? key = some e → e.generation ≠ generation
  harmless : ∀ event, (c.live.step generation event).registry = c.live.registry
  barren : ∀ t event t' renewal, c.live.tasks.get? generation = some t →
    (c.live.step generation event).tasks.get? generation = some t' →
    t'.phase = .renewing renewal → t.phase = .renewing renewal

theorem Gone.outlived {generation : Nat} (gone : c.Gone generation) (h : c.Sound) :
    c.Outlived generation := by
  refine ⟨gone.absent, ?_, ?_⟩
  · intro event
    cases running : c.live.tasks.get? generation with
    | none => rw [LiveRegistry.step, running]
    | some t =>
      rw [LiveRegistry.step_of_some running]
      obtain ⟨t', next, -⟩ | ⟨next, -⟩ | ⟨e, credential, there, same, -⟩ :=
        t.step_cases c.live.registry event
      · rw [next]
        rfl
      · rw [next]
        rfl
      · rw [(h.tasked.origin generation t running).1] at same
        exact absurd same (gone.absent t.key e there)
  · intro t event t' renewal running stepped renewing
    rw [LiveRegistry.step_of_some running, LiveRegistry.putTask] at stepped
    cases next : t.step c.live.registry event with
    | mk r left =>
      rw [next] at stepped
      cases left with
      | none => simp [Table.get?_erase] at stepped
      | some u =>
        simp only [Table.get?_put_self, Option.some.injEq] at stepped
        subst stepped
        obtain before | owns := (RefreshTask.step_advances next).renewing renewing
        · exact before
        · rw [(h.tasked.origin generation t running).1, gone.not_owns] at owns
          cases owns

/-- The life of a registry's entries. -/
structure Lifecycle (c : Chronicle) : Prop where
  nonempty : ∀ key e, c.find? key = some e → e.handles ≠ []
  numbers_once : ((issued c.past).map Handle.id ++ c.pending.keys).Nodup
  generations_once : ((openers c.past).map Handle.id).Nodup
  opener : ∀ key e, c.find? key = some e → ⟨e.generation, key⟩ ∈ openers c.past
  own : ∀ key e id, c.find? key = some e → id ∈ e.handles → ⟨id, key⟩ ∈ issued c.past
  unique : ∀ k l e f id, c.find? k = some e → c.find? l = some f → id ∈ e.handles →
    id ∈ f.handles → k = l
  task : ∀ key e, c.find? key = some e → ∃ t,
    c.live.tasks.entries.filter (fun p => p.2.key = key ∧ p.2.generation = e.generation) =
      [(e.generation, t)]
  task_stays : ∀ key e event, c.find? key = some e → ∃ t,
    (c.live.step e.generation event).tasks.get? e.generation = some t ∧ t.key = key ∧
      t.generation = e.generation
  others : ∀ p ∈ c.live.tasks.entries,
    (∃ e, c.find? p.2.key = some e ∧ e.generation = p.2.generation) ∨
      ⟨p.2.generation, p.2.key⟩ ∈ openers c.past ∧
        ∀ events : List RegistryEvent, (events.foldl step c).Outlived p.2.generation
  unregister_iff : ∀ h, (∃ l, c.live.unregister h = .ok l) ↔ Held c.past h
  unregister_ok : ∀ h l, c.live.unregister h = .ok l → ∃ e, c.find? h.key = some e ∧
    h.id ∈ e.handles ∧
    l.registry.find? h.key = (if e.handles = [h.id] then none
      else some { e with handles := e.handles.filter (· ≠ h.id) }) ∧
    (∀ k, k ≠ h.key → l.registry.find? k = c.find? k) ∧
    l = { c.live with registry := { c.live.registry with entries := l.registry.entries } }
  unregister_error : ∀ h e, c.live.unregister h = .error e → c.step (.unregister h) = c

theorem Sound.task_stays (h : c.Sound) {key : RegistryKey} {e : Entry}
    (there : c.find? key = some e) (event : RefreshTask.Event) : ∃ t,
    (c.live.step e.generation event).tasks.get? e.generation = some t ∧ t.key = key ∧
      t.generation = e.generation := by
  obtain ⟨t, running, rfl⟩ := h.tasked.running key e there
  have generation := (h.tasked.origin e.generation t running).1
  rw [LiveRegistry.step_of_some running, LiveRegistry.putTask]
  obtain ⟨t', next, follows, -⟩ | ⟨next, gone, -⟩ | ⟨f, credential, -, -, next, -⟩ :=
    t.step_cases c.live.registry event
  · rw [next]
    exact ⟨t', Table.get?_put_self .., follows.1, follows.2.trans generation⟩
  · rw [generation] at gone
    exact absurd rfl (Registry.owns_eq_false_iff.1 gone e there)
  · rw [next]
    exact ⟨_, Table.get?_put_self .., rfl, generation⟩

theorem Sound.lifecycle (h : c.Sound) : c.Lifecycle where
  nonempty := h.shared.nonempty
  numbers_once := h.numbered.distinct
  generations_once := h.generations_once
  opener := h.shared.opener
  own key e id there mem := h.issued_of_mem there mem
  unique k l e f id he hf me mf := h.key_eq_of_mem he hf me mf
  task key e there := h.task_of_entry there
  task_stays key e event there := h.task_stays there event
  others := by
    rintro ⟨g, t⟩ mem
    have running := Table.get?_of_mem h.tasked.single mem
    obtain ⟨rfl, opener⟩ := h.tasked.origin g t running
    by_cases there : ∃ e, c.find? t.key = some e ∧ e.generation = t.generation
    · exact .inl there
    · have gone := h.gone_of_task running there
      exact .inr ⟨opener, fun events => (gone.foldl h events).outlived (sound_foldl h events)⟩
  unregister_iff := h.unregister_iff
  unregister_ok a l ok := h.unregister_ok ok
  unregister_error a e failed := by rw [step, failed]

theorem lifecycle_run (period : Nat) (events : List RegistryEvent) :
    (run period events).Lifecycle :=
  (sound_run period events).lifecycle

end Warrant.Chronicle
