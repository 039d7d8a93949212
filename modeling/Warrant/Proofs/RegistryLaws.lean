import Warrant.Registry

namespace Warrant.Registry

@[simp] theorem find?_empty (k : RegistryKey) : empty.find? k = none := rfl

theorem owns_iff {r : Registry} {key : RegistryKey} {generation : Nat} :
    r.owns key generation = true ↔ ∃ e, r.find? key = some e ∧ e.generation = generation := by
  simp [owns, Option.any_eq_true]

theorem owns_eq_false_iff {r : Registry} {key : RegistryKey} {generation : Nat} :
    r.owns key generation = false ↔ ∀ e, r.find? key = some e → e.generation ≠ generation := by
  rw [← Bool.not_eq_true, owns_iff]
  simp

section Join

variable (r : Registry) (key : RegistryKey) (e : Entry) (id : Nat) (credential : Credential)

theorem find?_join (k : RegistryKey) :
    (r.join key e id).find? k =
      if k = key then some { e with handles := e.handles ++ [id] } else r.find? k :=
  Table.get?_put ..

theorem get?_copies_join (i : Nat) :
    (r.join key e id).copies.get? i = if i = id then some e.current else r.copies.get? i :=
  Table.get?_put ..

theorem find?_create (k : RegistryKey) :
    (r.create key id credential).find? k =
      if k = key then some ⟨id, credential, [id]⟩ else r.find? k :=
  Table.get?_put ..

theorem get?_copies_create (i : Nat) :
    (r.create key id credential).copies.get? i =
      if i = id then some credential else r.copies.get? i :=
  Table.get?_put ..

theorem find?_install (k : RegistryKey) :
    (r.install key e credential).find? k =
      if k = key then some { e with current := credential } else r.find? k :=
  Table.get?_put ..

theorem get?_foldl_put (ids : List Nat) (copies : Table Nat Credential) (i : Nat) :
    (ids.foldl (fun copies id => copies.put id credential) copies).get? i =
      if i ∈ ids then some credential else copies.get? i := by
  induction ids generalizing copies with
  | nil => simp
  | cons id rest ih =>
    rw [List.foldl_cons, ih, Table.get?_put]
    by_cases mem : i ∈ rest
    · rw [if_pos mem, if_pos (List.mem_cons_of_mem id mem)]
    · by_cases same : i = id <;> simp [mem, same]

theorem get?_copies_install (i : Nat) :
    (r.install key e credential).copies.get? i =
      if i ∈ e.handles then some credential else r.copies.get? i :=
  get?_foldl_put ..

end Join

def without (e : Entry) (id : Nat) : Option Entry :=
  if e.handles.filter (· ≠ id) = [] then none
  else some { e with handles := e.handles.filter (· ≠ id) }

theorem without_eq_some_iff {e f : Entry} {id : Nat} :
    without e id = some f ↔
      f = { e with handles := e.handles.filter (· ≠ id) } ∧ f.handles ≠ [] := by
  unfold without
  split
  · next none =>
    constructor
    · exact nofun
    · rintro ⟨rfl, some⟩
      exact absurd none some
  · next some =>
    constructor
    · rintro ⟨⟩
      exact ⟨rfl, some⟩
    · rintro ⟨rfl, -⟩
      rfl

theorem mem_without {e : Entry} {id i : Nat} :
    (∃ f, without e id = some f ∧ i ∈ f.handles) ↔ i ∈ e.handles ∧ i ≠ id := by
  constructor
  · rintro ⟨f, left, mem⟩
    obtain ⟨rfl, -⟩ := without_eq_some_iff.1 left
    simpa using mem
  · intro h
    have mem : i ∈ e.handles.filter (· ≠ id) := by simpa using h
    exact ⟨_, without_eq_some_iff.2 ⟨rfl, List.ne_nil_of_mem mem⟩, mem⟩

theorem find?_remove (r : Registry) (h : Handle) (e : Entry) (k : RegistryKey) :
    (r.remove h e).find? k = if k = h.key then without e h.id else r.find? k := by
  unfold remove find? without
  simp only [List.isEmpty_iff]
  split
  · rw [Table.get?_erase]
  · rw [Table.get?_put]

theorem forall_entry {p : RegistryKey → Entry → Prop} {key : RegistryKey} {new : Option Entry}
    {old : RegistryKey → Option Entry} (here : ∀ e, new = some e → p key e)
    (elsewhere : ∀ k, k ≠ key → ∀ e, old k = some e → p k e) :
    ∀ k e, (if k = key then new else old k) = some e → p k e := by
  intro k e
  by_cases same : k = key
  · subst same
    rw [if_pos rfl]
    exact here e
  · rw [if_neg same]
    exact elsewhere k same e

/-- No entry is new: each has been opened before. -/
def Continues (r r' : Registry) : Prop :=
  ∀ key f, r'.find? key = some f → ∃ e, r.find? key = some e ∧ e.generation = f.generation

section Continues

variable {r : Registry} {key : RegistryKey} {e : Entry}

theorem continues_join (there : r.find? key = some e) (id : Nat) :
    r.Continues (r.join key e id) := by
  simp only [Continues, find?_join]
  refine forall_entry ?_ fun k _ f old => ⟨f, old, rfl⟩
  rintro _ ⟨⟩
  exact ⟨e, there, rfl⟩

theorem continues_install (there : r.find? key = some e) (credential : Credential) :
    r.Continues (r.install key e credential) := by
  simp only [Continues, find?_install]
  refine forall_entry ?_ fun k _ f old => ⟨f, old, rfl⟩
  rintro _ ⟨⟩
  exact ⟨e, there, rfl⟩

theorem continues_remove {h : Handle} (there : r.find? h.key = some e) :
    r.Continues (r.remove h e) := by
  simp only [Continues, find?_remove]
  refine forall_entry ?_ fun k _ f old => ⟨f, old, rfl⟩
  intro f left
  obtain ⟨rfl, -⟩ := without_eq_some_iff.1 left
  exact ⟨e, there, rfl⟩

end Continues

theorem revise?_eq_some_iff {r r' : Registry} {key : RegistryKey} {credential : Credential}
    {owns : Entry → Bool} :
    r.revise? key credential owns = some r' ↔
      ∃ e, r.find? key = some e ∧ owns e = true ∧ r' = r.install key e credential := by
  unfold revise?
  cases r.find? key with
  | none => simp
  | some e =>
    by_cases owned : owns e = true
    · simp only [owned, if_true, Option.some.injEq, exists_eq_left', true_and]
      exact eq_comm
    · simp [owned]

theorem update_eq_ok_iff {r r' : Registry} {h : Handle} {credential : Credential} :
    r.update h credential = .ok r' ↔
      ∃ e, r.find? h.key = some e ∧ h.id ∈ e.handles ∧ r' = r.install h.key e credential := by
  have updated : (r.revise? h.key credential fun e => e.handles.contains h.id) = some r' ↔
      ∃ e, r.find? h.key = some e ∧ h.id ∈ e.handles ∧ r' = r.install h.key e credential := by
    simp only [revise?_eq_some_iff, List.contains_iff_mem]
  rw [← updated, update]
  cases r.revise? h.key credential _ <;> simp

theorem refresh?_eq_some_iff {r r' : Registry} {key : RegistryKey} {generation : Nat}
    {credential : Credential} :
    r.refresh? key generation credential = some r' ↔
      ∃ e, r.find? key = some e ∧ e.generation = generation ∧
        r' = r.install key e credential := by
  rw [refresh?, revise?_eq_some_iff]
  simp only [beq_iff_eq]

theorem refresh?_eq_none_iff {r : Registry} {key : RegistryKey} {generation : Nat}
    {credential : Credential} :
    r.refresh? key generation credential = none ↔ r.owns key generation = false := by
  unfold refresh? revise? owns
  cases r.find? key with
  | none => simp
  | some e => cases h : e.generation == generation <;> simp [h]

theorem unregister_eq_ok_iff {r r' : Registry} {h : Handle} :
    r.unregister h = .ok r' ↔
      ∃ e, r.find? h.key = some e ∧ h.id ∈ e.handles ∧ r' = r.remove h e := by
  unfold unregister
  cases r.find? h.key with
  | none => simp
  | some e =>
    by_cases mem : h.id ∈ e.handles
    · simp only [mem, if_true, Except.ok.injEq, Option.some.injEq, exists_eq_left', true_and]
      exact eq_comm
    · simp [mem]

end Warrant.Registry
