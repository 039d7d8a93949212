import Warrant.Proofs.Registry.Chronicle
import Mathlib.Data.List.Nodup

namespace Warrant.Chronicle

open Happening

def numbers (c : Chronicle) : List Nat :=
  (issued c.past).map Handle.id ++ c.pending.keys

structure Numbered (c : Chronicle) : Prop where
  fresh : ∀ id ∈ c.numbers, id < c.live.registry.nextId
  distinct : c.numbers.Nodup
  issued_of_left : ∀ h, .left h ∈ c.past → h ∈ issued c.past

/-- The entries hold the handles that have not been given back. -/
structure Shared (c : Chronicle) : Prop where
  held_iff : ∀ h, (∃ e, c.find? h.key = some e ∧ h.id ∈ e.handles) ↔ Held c.past h
  nonempty : ∀ key e, c.find? key = some e → e.handles ≠ []
  apart : ∀ key e, c.find? key = some e → e.handles.Nodup
  opener : ∀ key e, c.find? key = some e → ⟨e.generation, key⟩ ∈ openers c.past

/-- Every entry has its task, and every task was started for an entry. -/
structure Tasked (c : Chronicle) : Prop where
  single : c.live.tasks.keys.Nodup
  origin : ∀ g t, c.live.tasks.get? g = some t → t.generation = g ∧ ⟨g, t.key⟩ ∈ openers c.past
  running : ∀ key e, c.find? key = some e →
    ∃ t, c.live.tasks.get? e.generation = some t ∧ t.key = key

structure Agreed (c : Chronicle) : Prop where
  copies : ∀ key e, c.find? key = some e → ∀ id ∈ e.handles,
    c.live.registry.copies.get? id = some e.current
  given : ∀ key e, c.find? key = some e → given? e.generation c.past = some e.current

structure Sound (c : Chronicle) : Prop where
  numbered : c.Numbered
  shared : c.Shared
  tasked : c.Tasked
  agreed : c.Agreed

theorem sound_start (period : Nat) : (start period).Sound := by
  have numbers : (start period).numbers = [] := rfl
  have issued : issued (start period).past = [] := rfl
  have entries (key : RegistryKey) : (start period).find? key = none := rfl
  have tasks (g : Nat) : (start period).live.tasks.get? g = none := rfl
  have handles (h : Handle) : ¬Held (start period).past h := by simp [Held, issued]
  refine ⟨⟨?_, ?_, ?_⟩, ⟨?_, ?_, ?_, ?_⟩, ⟨?_, ?_, ?_⟩, ⟨?_, ?_⟩⟩
  · simp [numbers]
  · simp [numbers]
  · exact fun h left => absurd left List.not_mem_nil
  · simp [entries, handles]
  · simp [entries]
  · simp [entries]
  · simp [entries]
  · exact .nil
  · simp [tasks]
  · simp [entries]
  · simp [entries]
  · simp [entries]

variable {c c' : Chronicle}

theorem nodup_erase {l m : List Nat} {id : Nat} (distinct : (l ++ m).Nodup) (mem : id ∈ m) :
    (id :: l ++ m.filter (· ≠ id)).Nodup := by
  obtain ⟨hl, hm, apart⟩ := List.nodup_append.1 distinct
  rw [List.cons_append, List.nodup_cons]
  constructor
  · simp only [List.mem_append, List.mem_filter]
    rintro (hid | ⟨-, hid⟩)
    · exact apart id hid id mem rfl
    · simp at hid
  · refine List.nodup_append.2 ⟨hl, hm.filter _, ?_⟩
    intro a ha b hb
    exact apart a ha b (List.mem_filter.1 hb).1

theorem Shared.opener_of_continues (shared : c.Shared) {r : Registry}
    (continues : c.live.registry.Continues r) :
    ∀ key f, r.find? key = some f → ⟨f.generation, key⟩ ∈ openers c.past := by
  intro key f found
  obtain ⟨e, there, same⟩ := continues key f found
  exact same ▸ shared.opener key e there

theorem Tasked.of_continues (tasked : c.Tasked)
    (continues : c.live.registry.Continues c'.live.registry) (tasks : c'.live.tasks = c.live.tasks)
    (past : openers c'.past = openers c.past) : c'.Tasked := by
  refine ⟨?_, ?_, ?_⟩
  · exact tasks ▸ tasked.single
  · rw [tasks, past]
    exact tasked.origin
  · intro key f found
    obtain ⟨e, there, same⟩ := continues key f found
    rw [tasks, ← same]
    exact tasked.running key e there

namespace Sound

theorem handle_eq (h : c.Sound) {a b : Handle} (ha : a ∈ issued c.past) (hb : b ∈ issued c.past)
    (same : a.id = b.id) : a = b :=
  List.inj_on_of_nodup_map (List.nodup_append.1 h.numbered.distinct).1 ha hb same

theorem pending_ne (h : c.Sound) {id : Nat} {r : Registration}
    (waiting : c.pending.get? id = some r) {a : Handle} (ha : a ∈ issued c.past) : a.id ≠ id := by
  obtain ⟨-, -, apart⟩ := List.nodup_append.1 h.numbered.distinct
  exact apart a.id (List.mem_map_of_mem ha) id (Table.mem_keys_of_get? waiting)

theorem issued_of_mem (h : c.Sound) {key : RegistryKey} {e : Entry} (there : c.find? key = some e)
    {id : Nat} (mem : id ∈ e.handles) : ⟨id, key⟩ ∈ issued c.past :=
  ((h.shared.held_iff ⟨id, key⟩).1 ⟨e, there, mem⟩).1

theorem issued_opener (h : c.Sound) {key : RegistryKey} {e : Entry}
    (there : c.find? key = some e) : ⟨e.generation, key⟩ ∈ issued c.past :=
  issued_of_opener (h.shared.opener key e there)

theorem key_eq_of_mem (h : c.Sound) {k l : RegistryKey} {e f : Entry} (he : c.find? k = some e)
    (hf : c.find? l = some f) {id : Nat} (me : id ∈ e.handles) (mf : id ∈ f.handles) : k = l :=
  congrArg Handle.key (h.handle_eq (h.issued_of_mem he me) (h.issued_of_mem hf mf) rfl)

theorem key_eq_of_generation (h : c.Sound) {k l : RegistryKey} {e f : Entry}
    (he : c.find? k = some e) (hf : c.find? l = some f) (same : e.generation = f.generation) :
    k = l :=
  congrArg Handle.key (h.handle_eq (h.issued_opener he) (h.issued_opener hf) same)

theorem numbered_enter (h : c.Sound) {id : Nat} {r : Registration}
    (waiting : c.pending.get? id = some r) (id_eq : issued c'.past = ⟨id, r.key⟩ :: issued c.past)
    (pending : c'.pending = c.pending.erase id)
    (left : ∀ a, .left a ∈ c'.past → .left a ∈ c.past)
    (next : c'.live.registry.nextId = c.live.registry.nextId) : c'.Numbered := by
  have numbers_eq : c'.numbers =
      id :: (issued c.past).map Handle.id ++ c.pending.keys.filter (· ≠ id) := by
    rw [numbers, id_eq, pending, Table.keys_erase]
    rfl
  refine ⟨?_, ?_, ?_⟩
  · intro i mem
    rw [next]
    apply h.numbered.fresh
    rw [numbers_eq, List.cons_append, List.mem_cons, List.mem_append, List.mem_filter] at mem
    rw [numbers, List.mem_append]
    obtain rfl | mem | ⟨mem, -⟩ := mem
    · exact .inr (Table.mem_keys_of_get? waiting)
    · exact .inl mem
    · exact .inr mem
  · rw [numbers_eq]
    exact nodup_erase h.numbered.distinct (Table.mem_keys_of_get? waiting)
  · intro a mem
    rw [id_eq]
    exact List.mem_cons_of_mem _ (h.numbered.issued_of_left a (left a mem))

theorem numbered_reserve (h : c.Sound) (r : Registration) :
    Numbered { c with
      live := c.live.reserve.1
      pending := c.pending.put c.live.registry.nextId r } := by
  have new : c.live.registry.nextId ∉ c.numbers := fun mem =>
    Nat.lt_irrefl _ (h.numbered.fresh _ mem)
  have keys : (c.pending.put c.live.registry.nextId r).keys =
      c.pending.keys ++ [c.live.registry.nextId] := by
    rw [Table.keys_put, if_neg fun mem => new (List.mem_append_right _ mem)]
  refine ⟨?_, ?_, h.numbered.issued_of_left⟩
  · intro id mem
    change id < c.live.registry.nextId + 1
    rw [numbers, keys, ← List.append_assoc, List.mem_append, List.mem_singleton] at mem
    obtain mem | rfl := mem
    · exact Nat.lt_succ_of_lt (h.numbered.fresh id mem)
    · exact Nat.lt_succ_self _
  · rw [numbers, keys, ← List.append_assoc, ← List.concat_eq_append]
    exact .concat new h.numbered.distinct

theorem numbered_move (h : c.Sound) (move : Move c c') : c'.Numbered := by
  cases move with
  | reserve r => exact h.numbered_reserve r
  | join waiting there => exact h.numbered_enter waiting rfl rfl (by simp) rfl
  | create now waiting free => exact h.numbered_enter waiting rfl rfl (by simp) rfl
  | remove there mem =>
    refine ⟨h.numbered.fresh, h.numbered.distinct, ?_⟩
    rintro a (_ | ⟨_, left⟩)
    · exact h.issued_of_mem there mem
    · exact h.numbered.issued_of_left a left
  | install credential there =>
    refine ⟨h.numbered.fresh, h.numbered.distinct, ?_⟩
    rintro a (_ | ⟨_, left⟩)
    exact h.numbered.issued_of_left a left
  | goOn running follows => exact ⟨h.numbered.fresh, h.numbered.distinct, h.numbered.issued_of_left⟩
  | finish running gone => exact ⟨h.numbered.fresh, h.numbered.distinct, h.numbered.issued_of_left⟩

theorem held_enter (h : c.Sound) {id : Nat} {r : Registration}
    (waiting : c.pending.get? id = some r) {past : List Happening}
    (arrived : issued past = ⟨id, r.key⟩ :: issued c.past)
    (left : ∀ a, .left a ∈ past ↔ .left a ∈ c.past) (a : Handle) :
    Held past a ↔ a = ⟨id, r.key⟩ ∨ Held c.past a := by
  have stays : a = ⟨id, r.key⟩ → .left a ∉ c.past := by
    rintro rfl mem
    exact h.pending_ne waiting (h.numbered.issued_of_left _ mem) rfl
  rw [Held, Held, arrived, left, List.mem_cons]
  constructor
  · rintro ⟨rfl | mem, kept⟩
    · exact .inl rfl
    · exact .inr ⟨mem, kept⟩
  · rintro (same | ⟨mem, kept⟩)
    · exact ⟨.inl same, stays same⟩
    · exact ⟨.inr mem, kept⟩

theorem shared_join (h : c.Sound) {id : Nat} {r : Registration} {e : Entry}
    (waiting : c.pending.get? id = some r) (there : c.find? r.key = some e) :
    Shared
      { live := { c.live with registry := c.live.registry.join r.key e id }
        pending := c.pending.erase id
        past := .joined ⟨id, r.key⟩ :: c.past } := by
  have entries : ∀ k, (c.live.registry.join r.key e id).find? k = _ :=
    c.live.registry.find?_join r.key e id
  have new : id ∉ e.handles := fun mem => h.pending_ne waiting (h.issued_of_mem there mem) rfl
  have opener := h.shared.opener_of_continues (Registry.continues_join there id)
  refine ⟨?_, ?_, ?_, opener⟩ <;> simp only [find?, entries]
  · rintro ⟨i, k⟩
    rw [h.held_enter waiting (issued_joined ..) (by simp), ← h.shared.held_iff, find?]
    by_cases same : k = r.key
    · subst same
      rw [find?] at there
      simp [there, or_comm]
    · simp [same]
  · refine Registry.forall_entry ?_ fun k _ => h.shared.nonempty k
    rintro _ ⟨⟩
    simp
  · refine Registry.forall_entry ?_ fun k _ => h.shared.apart k
    rintro _ ⟨⟩
    rw [← List.concat_eq_append]
    exact .concat new (h.shared.apart r.key e there)

theorem shared_create (h : c.Sound) {id now : Nat} {r : Registration}
    (waiting : c.pending.get? id = some r) (free : c.find? r.key = none) :
    Shared
      { live := { c.live with
          registry := c.live.registry.create r.key id r.credential
          tasks := c.live.tasks.push id (.make r.key id r.context c.live.period now) }
        pending := c.pending.erase id
        past := .opened ⟨id, r.key⟩ r.credential :: c.past } := by
  have entries : ∀ k, (c.live.registry.create r.key id r.credential).find? k = _ :=
    c.live.registry.find?_create r.key id r.credential
  refine ⟨?_, ?_, ?_, ?_⟩ <;> simp only [find?, entries]
  · rintro ⟨i, k⟩
    rw [h.held_enter waiting (issued_opened ..) (by simp), ← h.shared.held_iff, find?]
    by_cases same : k = r.key
    · subst same
      rw [find?] at free
      simp [free]
    · simp [same]
  · refine Registry.forall_entry ?_ fun k _ => h.shared.nonempty k
    rintro _ ⟨⟩
    simp
  · refine Registry.forall_entry ?_ fun k _ => h.shared.apart k
    rintro _ ⟨⟩
    simp
  · refine Registry.forall_entry ?_ fun k _ e there => ?_
    · rintro _ ⟨⟩
      simp
    · exact List.mem_cons_of_mem _ (h.shared.opener k e there)

theorem shared_remove (h : c.Sound) {a : Handle} {e : Entry} (there : c.find? a.key = some e)
    (mem : a.id ∈ e.handles) :
    Shared
      { c with
        live := { c.live with registry := c.live.registry.remove a e }
        past := .left a :: c.past } := by
  have entries : ∀ k, (c.live.registry.remove a e).find? k = _ := c.live.registry.find?_remove a e
  have held (b : Handle) : Held (.left a :: c.past) b ↔ Held c.past b ∧ b ≠ a := by
    simp [Held, and_comm, and_left_comm]
  have opener := h.shared.opener_of_continues (Registry.continues_remove there)
  refine ⟨?_, ?_, ?_, opener⟩ <;> simp only [find?, entries]
  · rintro ⟨i, k⟩
    obtain ⟨id, key⟩ := a
    rw [held, ← h.shared.held_iff, find?]
    by_cases same : k = key
    · subst same
      rw [find?] at there
      simp only [if_true, Registry.mem_without, there, Option.some.injEq, exists_eq_left', ne_eq,
        Handle.mk.injEq, and_true]
    · simp [same]
  · refine Registry.forall_entry ?_ fun k _ => h.shared.nonempty k
    intro f left
    exact (Registry.without_eq_some_iff.1 left).2
  · refine Registry.forall_entry ?_ fun k _ => h.shared.apart k
    intro f left
    obtain ⟨rfl, -⟩ := Registry.without_eq_some_iff.1 left
    exact (h.shared.apart a.key e there).filter _

theorem shared_install (h : c.Sound) {key : RegistryKey} {e : Entry} (credential : Credential)
    (there : c.find? key = some e) :
    Shared
      { c with
        live := { c.live with registry := c.live.registry.install key e credential }
        past := .installed e.generation credential :: c.past } := by
  have entries : ∀ k, (c.live.registry.install key e credential).find? k = _ :=
    c.live.registry.find?_install key e credential
  have held (b : Handle) :
      Held (.installed e.generation credential :: c.past) b ↔ Held c.past b := by
    simp [Held]
  have opener := h.shared.opener_of_continues (Registry.continues_install there credential)
  refine ⟨?_, ?_, ?_, opener⟩ <;> simp only [find?, entries]
  · rintro ⟨i, k⟩
    rw [held, ← h.shared.held_iff, find?]
    by_cases same : k = key
    · subst same
      rw [find?] at there
      simp [there]
    · simp [same]
  · refine Registry.forall_entry ?_ fun k _ => h.shared.nonempty k
    rintro _ ⟨⟩
    exact h.shared.nonempty key e there
  · refine Registry.forall_entry ?_ fun k _ => h.shared.apart k
    rintro _ ⟨⟩
    exact h.shared.apart key e there

theorem shared_move (h : c.Sound) (move : Move c c') : c'.Shared := by
  have shared := h.shared
  cases move with
  | reserve r => exact ⟨shared.held_iff, shared.nonempty, shared.apart, shared.opener⟩
  | join waiting there => exact h.shared_join waiting there
  | create now waiting free => exact h.shared_create waiting free
  | remove there mem => exact h.shared_remove there mem
  | install credential there => exact h.shared_install credential there
  | goOn running follows => exact ⟨shared.held_iff, shared.nonempty, shared.apart, shared.opener⟩
  | finish running gone => exact ⟨shared.held_iff, shared.nonempty, shared.apart, shared.opener⟩

theorem tasked_create (h : c.Sound) {id now : Nat} {r : Registration}
    (waiting : c.pending.get? id = some r) :
    Tasked
      { live := { c.live with
          registry := c.live.registry.create r.key id r.credential
          tasks := c.live.tasks.push id (.make r.key id r.context c.live.period now) }
        pending := c.pending.erase id
        past := .opened ⟨id, r.key⟩ r.credential :: c.past } := by
  have entries : ∀ k, (c.live.registry.create r.key id r.credential).find? k = _ :=
    c.live.registry.find?_create r.key id r.credential
  have new : id ∉ c.live.tasks.keys := by
    intro mem
    obtain ⟨t, found⟩ := Table.mem_keys_iff.1 mem
    obtain ⟨-, opener⟩ := h.tasked.origin id t found
    exact h.pending_ne waiting (issued_of_opener opener) rfl
  refine ⟨?_, ?_, ?_⟩
  · rw [Table.keys_push, ← List.concat_eq_append]
    exact .concat new h.tasked.single
  · intro g t found
    rw [Table.get?_push, Option.or_eq_some_iff] at found
    obtain found | ⟨-, found⟩ := found
    · obtain ⟨same, opener⟩ := h.tasked.origin g t found
      exact ⟨same, List.mem_cons_of_mem _ opener⟩
    · split at found
      · next same =>
        cases found
        subst same
        exact ⟨rfl, List.mem_cons_self⟩
      · contradiction
  · simp only [find?, entries, Table.get?_push]
    refine Registry.forall_entry ?_ fun k _ e there => ?_
    · rintro _ ⟨⟩
      have none := Table.get?_eq_none_iff.2 new
      exact ⟨_, by rw [none, if_pos rfl]; rfl, rfl⟩
    · obtain ⟨t, found, key⟩ := h.tasked.running k e there
      exact ⟨t, by rw [found]; rfl, key⟩

theorem tasked_goOn (h : c.Sound) {g : Nat} {t t' : RefreshTask}
    (running : c.live.tasks.get? g = some t) (follows : t.Follows t') :
    Tasked { c with live := { c.live with tasks := c.live.tasks.put g t' } } := by
  refine ⟨?_, ?_, ?_⟩
  · rw [Table.keys_put, if_pos (Table.mem_keys_of_get? running)]
    exact h.tasked.single
  · intro i u found
    rw [Table.get?_put] at found
    split at found
    · next same =>
      cases found
      subst same
      obtain ⟨generation, opener⟩ := h.tasked.origin i t running
      exact ⟨follows.2.trans generation, follows.1 ▸ opener⟩
    · exact h.tasked.origin i u found
  · intro k e there
    obtain ⟨u, found, key⟩ := h.tasked.running k e there
    rw [Table.get?_put]
    by_cases same : e.generation = g
    · rw [same, running] at found
      cases found
      exact ⟨t', if_pos same, follows.1.trans key⟩
    · exact ⟨u, (if_neg same).trans found, key⟩

theorem tasked_finish (h : c.Sound) {g : Nat} {t : RefreshTask}
    (running : c.live.tasks.get? g = some t)
    (gone : c.live.registry.owns t.key t.generation = false) :
    Tasked { c with live := { c.live with tasks := c.live.tasks.erase g } } := by
  refine ⟨?_, ?_, ?_⟩
  · rw [Table.keys_erase]
    exact h.tasked.single.filter _
  · intro i u found
    rw [Table.get?_erase] at found
    split at found
    · contradiction
    · exact h.tasked.origin i u found
  · intro k e there
    obtain ⟨u, found, key⟩ := h.tasked.running k e there
    -- The task of an entry that is there would own it, and so would not have ended.
    have other : e.generation ≠ g := by
      rintro rfl
      rw [running] at found
      cases found
      rw [key, (h.tasked.origin _ t running).1] at gone
      exact Registry.owns_eq_false_iff.1 gone e there rfl
    exact ⟨u, by rw [Table.get?_erase, if_neg other, found], key⟩

theorem tasked_move (h : c.Sound) (move : Move c c') : c'.Tasked := by
  have tasked := h.tasked
  cases move with
  | reserve r => exact ⟨tasked.single, tasked.origin, tasked.running⟩
  | join waiting there => exact tasked.of_continues (Registry.continues_join there _) rfl rfl
  | create now waiting free => exact h.tasked_create waiting
  | remove there mem => exact tasked.of_continues (Registry.continues_remove there) rfl rfl
  | install credential there =>
    exact tasked.of_continues (Registry.continues_install there credential) rfl rfl
  | goOn running follows => exact h.tasked_goOn running follows
  | finish running gone => exact h.tasked_finish running gone

theorem agreed_join (h : c.Sound) {id : Nat} {r : Registration} {e : Entry}
    (waiting : c.pending.get? id = some r) (there : c.find? r.key = some e) :
    Agreed
      { live := { c.live with registry := c.live.registry.join r.key e id }
        pending := c.pending.erase id
        past := .joined ⟨id, r.key⟩ :: c.past } := by
  refine ⟨?_, ?_⟩ <;> simp only [find?, Registry.find?_join, Registry.get?_copies_join]
  · refine Registry.forall_entry ?_ fun k _ f found i mem => ?_
    · rintro _ ⟨⟩ i mem
      split
      · rfl
      · next other =>
        have mem : i ∈ e.handles := by simpa [other] using mem
        exact h.agreed.copies r.key e there i mem
    · rw [if_neg (h.pending_ne waiting (h.issued_of_mem found mem))]
      exact h.agreed.copies k f found i mem
  · refine Registry.forall_entry ?_ fun k _ => h.agreed.given k
    rintro _ ⟨⟩
    exact h.agreed.given r.key e there

theorem agreed_create (h : c.Sound) {id now : Nat} {r : Registration}
    (waiting : c.pending.get? id = some r) :
    Agreed
      { live := { c.live with
          registry := c.live.registry.create r.key id r.credential
          tasks := c.live.tasks.push id (.make r.key id r.context c.live.period now) }
        pending := c.pending.erase id
        past := .opened ⟨id, r.key⟩ r.credential :: c.past } := by
  refine ⟨?_, ?_⟩ <;> simp only [find?, Registry.find?_create, Registry.get?_copies_create]
  · refine Registry.forall_entry ?_ fun k _ f found i mem => ?_
    · rintro _ ⟨⟩ i mem
      rw [if_pos (List.mem_singleton.1 mem)]
    · rw [if_neg (h.pending_ne waiting (h.issued_of_mem found mem))]
      exact h.agreed.copies k f found i mem
  · refine Registry.forall_entry ?_ fun k _ f found => ?_
    · rintro _ ⟨⟩
      exact if_pos rfl
    · have other : id ≠ f.generation := (h.pending_ne waiting (h.issued_opener found)).symm
      rw [given?, if_neg other]
      exact h.agreed.given k f found

theorem agreed_remove (h : c.Sound) {a : Handle} {e : Entry} (there : c.find? a.key = some e) :
    Agreed
      { c with
        live := { c.live with registry := c.live.registry.remove a e }
        past := .left a :: c.past } := by
  refine ⟨?_, ?_⟩ <;> simp only [find?, Registry.find?_remove]
  · refine Registry.forall_entry ?_ fun k _ => h.agreed.copies k
    intro f left i mem
    obtain ⟨rfl, -⟩ := Registry.without_eq_some_iff.1 left
    exact h.agreed.copies a.key e there i (List.mem_filter.1 mem).1
  · refine Registry.forall_entry ?_ fun k _ => h.agreed.given k
    intro f left
    obtain ⟨rfl, -⟩ := Registry.without_eq_some_iff.1 left
    exact h.agreed.given a.key e there

/-- A credential that is installed reaches every handle of its entry, and no other. -/
theorem agreed_install (h : c.Sound) {key : RegistryKey} {e : Entry} (credential : Credential)
    (there : c.find? key = some e) :
    Agreed
      { c with
        live := { c.live with registry := c.live.registry.install key e credential }
        past := .installed e.generation credential :: c.past } := by
  refine ⟨?_, ?_⟩ <;> simp only [find?, Registry.find?_install, Registry.get?_copies_install]
  · refine Registry.forall_entry ?_ fun k other f found i mem => ?_
    · rintro _ ⟨⟩ i mem
      exact if_pos mem
    -- A handle of another entry is none of this one's, so its copy stays.
    · have elsewhere : i ∉ e.handles := fun shared =>
        other (h.key_eq_of_mem found there mem shared)
      rw [if_neg elsewhere]
      exact h.agreed.copies k f found i mem
  · refine Registry.forall_entry ?_ fun k other f found => ?_
    · rintro _ ⟨⟩
      exact if_pos rfl
    · have elsewhere : e.generation ≠ f.generation := fun same =>
        other (h.key_eq_of_generation found there same.symm)
      rw [given?, if_neg elsewhere]
      exact h.agreed.given k f found

theorem agreed_move (h : c.Sound) (move : Move c c') : c'.Agreed := by
  have agreed := h.agreed
  cases move with
  | reserve r => exact ⟨agreed.copies, agreed.given⟩
  | join waiting there => exact h.agreed_join waiting there
  | create now waiting free => exact h.agreed_create waiting
  | remove there mem => exact h.agreed_remove there
  | install credential there => exact h.agreed_install credential there
  | goOn running follows => exact ⟨agreed.copies, agreed.given⟩
  | finish running gone => exact ⟨agreed.copies, agreed.given⟩

theorem move (h : c.Sound) (m : Move c c') : c'.Sound :=
  ⟨h.numbered_move m, h.shared_move m, h.tasked_move m, h.agreed_move m⟩

theorem moves (h : c.Sound) (m : Relation.ReflTransGen Move c c') : c'.Sound := by
  induction m with
  | refl => exact h
  | tail _ m ih => exact ih.move m

end Sound

theorem sound_step [Scheme] (h : c.Sound) (event : RegistryEvent) : (c.step event).Sound :=
  h.moves (c.step_moves event)

theorem sound_foldl [Scheme] (h : c.Sound) (events : List RegistryEvent) :
    (events.foldl step c).Sound := by
  induction events generalizing c with
  | nil => exact h
  | cons event events ih => exact ih (sound_step h event)

theorem sound_run [Scheme] (period : Nat) (events : List RegistryEvent) :
    (run period events).Sound :=
  sound_foldl (sound_start period) events

end Warrant.Chronicle
