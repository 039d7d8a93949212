import Warrant.Dictionary

namespace Warrant.Dictionary

variable {α : Type}

@[simp] theorem entries_empty : (∅ : Dictionary α).entries = [] := rfl

theorem pairwise_of_increasing {entries : List (String × α)} (h : Increasing entries) :
    entries.Pairwise fun e f => e.1 < f.1 := by
  induction h with
  | nil => exact .nil
  | cons before _ ih => exact .cons before ih

theorem nodup_keys (d : Dictionary α) : (d.entries.map Prod.fst).Nodup := by
  have ordered := pairwise_of_increasing d.increasing
  rw [List.nodup_iff_pairwise_ne, List.pairwise_map]
  exact ordered.imp fun h => String.ne_of_lt h

theorem nodup_entries (d : Dictionary α) : d.entries.Nodup := by
  refine (pairwise_of_increasing d.increasing).imp ?_
  rintro e f before rfl
  exact String.lt_irrefl _ before

theorem insertEntry_perm {key : String} (value : α) {entries : List (String × α)}
    (fresh : key ∉ entries.map Prod.fst) :
    (insertEntry key value entries).Perm ((key, value) :: entries) := by
  induction entries with
  | nil => exact .refl _
  | cons e rest ih =>
    obtain ⟨k, v⟩ := e
    simp only [List.map_cons, List.mem_cons, not_or] at fresh
    rw [insertEntry, if_neg fresh.1]
    split
    · exact .refl _
    · exact ((ih fresh.2).cons (k, v)).trans (.swap _ _ rest)

theorem foldl_insert_perm (entries : List (String × α)) (d : Dictionary α)
    (distinct : ((entries ++ d.entries).map Prod.fst).Nodup) :
    (entries.foldl (fun d e => d.insert e.1 e.2) d).entries.Perm (entries ++ d.entries) := by
  induction entries generalizing d with
  | nil => exact .refl _
  | cons e rest ih =>
    have fresh : e.1 ∉ d.entries.map Prod.fst := by
      intro h
      simp only [List.cons_append, List.map_cons, List.map_append, List.nodup_cons,
        List.mem_append] at distinct
      exact distinct.1 (.inr h)
    have moved : (rest ++ (d.insert e.1 e.2).entries).Perm (e :: rest ++ d.entries) :=
      ((insertEntry_perm e.2 fresh).append_left rest).trans List.perm_middle
    exact (ih _ ((moved.map Prod.fst).nodup_iff.2 distinct)).trans moved

theorem ext_of_perm {a b : Dictionary α} (h : a.entries.Perm b.entries) : a = b := by
  refine ext (h.eq_of_pairwise ?_ (pairwise_of_increasing a.increasing)
    (pairwise_of_increasing b.increasing))
  intro e f _ _ ef fe
  exact absurd fe (String.lt_asymm ef)

theorem ofList_of_perm {d : Dictionary α} {entries : List (String × α)}
    (h : entries.Perm d.entries) : ofList entries = d := by
  have distinct : (entries.map Prod.fst).Nodup := (h.map Prod.fst).nodup_iff.2 d.nodup_keys
  have inserted : (ofList entries).entries.Perm (entries ++ []) :=
    foldl_insert_perm entries ∅ (by rwa [entries_empty, List.append_nil])
  rw [List.append_nil] at inserted
  exact ext_of_perm (inserted.trans h)

theorem lookup_insertEntry (key : String) (value : α) (k : String) (entries : List (String × α)) :
    (insertEntry key value entries).lookup k =
      if k = key then some value else entries.lookup k := by
  induction entries with
  | nil =>
    rw [insertEntry, List.lookup_cons]
    by_cases same : k = key
    · simp [same]
    · simp [beq_false_of_ne same, same]
  | cons e rest ih =>
    obtain ⟨l, v⟩ := e
    by_cases same : k = key
    · subst same
      unfold insertEntry
      split
      · simp
      split
      · simp
      · next other => simpa [List.lookup_cons, beq_false_of_ne other] using ih
    · rw [if_neg same] at ih ⊢
      unfold insertEntry
      split
      · rw [List.lookup_cons, beq_false_of_ne same]
      split
      · next replaced =>
        subst replaced
        simp [List.lookup_cons, beq_false_of_ne same]
      · rw [List.lookup_cons, List.lookup_cons, ih]

theorem get?_insert (d : Dictionary α) (key : String) (value : α) (k : String) :
    (d.insert key value).get? k = if k = key then some value else d.get? k :=
  lookup_insertEntry key value k d.entries

theorem get?_eq_some_iff {d : Dictionary α} {key : String} {value : α} :
    d.get? key = some value ↔ (key, value) ∈ d.entries := by
  rw [get?, List.lookup_eq_some_iff]
  constructor
  · rintro ⟨before, after, entries, -⟩
    simp [entries]
  · intro mem
    obtain ⟨before, after, entries⟩ := List.append_of_mem mem
    have distinct := d.nodup_keys
    rw [entries, List.map_append, List.nodup_append] at distinct
    refine ⟨before, after, entries, fun e earlier => ?_⟩
    have other := distinct.2.2 e.1 (List.mem_map_of_mem earlier) key (by simp)
    simpa using Ne.symm other

theorem ext_get? {a b : Dictionary α} (h : ∀ key, a.get? key = b.get? key) : a = b := by
  apply ext_of_perm
  rw [List.perm_ext_iff_of_nodup a.nodup_entries b.nodup_entries]
  rintro ⟨key, value⟩
  rw [← get?_eq_some_iff, ← get?_eq_some_iff, h]

theorem filter_insertEntry {p : String × α → Bool} {key : String}
    (dropped : ∀ value, p (key, value) = false) (value : α) (entries : List (String × α)) :
    (insertEntry key value entries).filter p = entries.filter p := by
  induction entries with
  | nil => simp [insertEntry, dropped]
  | cons e rest ih =>
    obtain ⟨l, v⟩ := e
    unfold insertEntry
    split
    · simp [dropped]
    split
    · next replaced => simp [← replaced, dropped]
    · simp [List.filter_cons, ih]

theorem lookup_filter (key k : String) (entries : List (String × α)) :
    (entries.filter fun e => e.1 != key).lookup k =
      if k = key then none else entries.lookup k := by
  induction entries with
  | nil => simp
  | cons e rest ih =>
    obtain ⟨l, v⟩ := e
    by_cases dropped : l = key
    · subst dropped
      rw [List.filter_cons_of_neg (by simp), ih]
      by_cases same : k = l
      · simp [same]
      · simp [same, List.lookup_cons, beq_false_of_ne same]
    · rw [List.filter_cons_of_pos (by simpa using dropped), List.lookup_cons, List.lookup_cons, ih]
      by_cases same : k = l
      · simp [same, dropped]
      · simp [beq_false_of_ne same]

theorem get?_erase (d : Dictionary α) (key k : String) :
    (d.erase key).get? k = if k = key then none else d.get? k :=
  lookup_filter key k d.entries

end Warrant.Dictionary
