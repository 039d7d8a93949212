/-!
Finite maps that keep the order in which their keys came in. A value put under a key that is there
takes the old one's place.
-/

namespace Warrant

structure Table (κ α : Type) where
  entries : List (κ × α)

namespace Table

variable {κ α : Type}

def empty : Table κ α := ⟨[]⟩

instance : EmptyCollection (Table κ α) := ⟨empty⟩

instance : Inhabited (Table κ α) := ⟨empty⟩

def keys (t : Table κ α) : List κ :=
  t.entries.map Prod.fst

def values (t : Table κ α) : List α :=
  t.entries.map Prod.snd

def size (t : Table κ α) : Nat :=
  t.entries.length

def map {β : Type} (f : α → β) (t : Table κ α) : Table κ β :=
  ⟨t.entries.map fun e => (e.1, f e.2)⟩

def push (t : Table κ α) (k : κ) (a : α) : Table κ α :=
  ⟨t.entries ++ [(k, a)]⟩

@[simp] theorem keys_empty : (∅ : Table κ α).keys = [] := rfl

@[simp] theorem keys_push (t : Table κ α) (k : κ) (a : α) : (t.push k a).keys = t.keys ++ [k] := by
  simp [keys, push]

variable [DecidableEq κ]

def getEntry (k : κ) : List (κ × α) → Option α
  | [] => none
  | (l, a) :: rest => if k = l then some a else getEntry k rest

def get? (t : Table κ α) (k : κ) : Option α :=
  getEntry k t.entries

def contains (t : Table κ α) (k : κ) : Bool :=
  (t.get? k).isSome

def putEntry (k : κ) (a : α) : List (κ × α) → List (κ × α)
  | [] => [(k, a)]
  | (l, b) :: rest => if k = l then (k, a) :: rest else (l, b) :: putEntry k a rest

def put (t : Table κ α) (k : κ) (a : α) : Table κ α :=
  ⟨putEntry k a t.entries⟩

def erase (t : Table κ α) (k : κ) : Table κ α :=
  ⟨t.entries.filter fun e => e.1 ≠ k⟩

@[simp] theorem get?_empty (k : κ) : (∅ : Table κ α).get? k = none := rfl

theorem getEntry_putEntry (k l : κ) (a : α) (es : List (κ × α)) :
    getEntry l (putEntry k a es) = if l = k then some a else getEntry l es := by
  induction es with
  | nil => simp [putEntry, getEntry]
  | cons e rest ih =>
    obtain ⟨m, b⟩ := e
    by_cases hm : k = m
    · subst hm
      by_cases hl : l = k <;> simp [putEntry, getEntry, hl]
    · by_cases hl : l = k
      · subst hl
        simpa [putEntry, getEntry, hm] using ih
      · by_cases h : l = m <;> simp_all [putEntry, getEntry]

@[grind =] theorem get?_put (t : Table κ α) (k l : κ) (a : α) :
    (t.put k a).get? l = if l = k then some a else t.get? l :=
  getEntry_putEntry k l a t.entries

@[simp] theorem get?_put_self (t : Table κ α) (k : κ) (a : α) : (t.put k a).get? k = some a := by
  simp [get?_put]

theorem putEntry_putEntry (k : κ) (a b : α) (es : List (κ × α)) :
    putEntry k b (putEntry k a es) = putEntry k b es := by
  induction es with
  | nil => simp [putEntry]
  | cons e rest ih =>
    obtain ⟨l, c⟩ := e
    by_cases h : k = l <;> simp [putEntry, h, ih]

@[simp] theorem put_put (t : Table κ α) (k : κ) (a b : α) : (t.put k a).put k b = t.put k b :=
  congrArg Table.mk (putEntry_putEntry k a b t.entries)

theorem putEntry_of_getEntry {k : κ} {a : α} {es : List (κ × α)} (h : getEntry k es = some a) :
    putEntry k a es = es := by
  induction es with
  | nil => contradiction
  | cons e rest ih =>
    obtain ⟨l, b⟩ := e
    rw [getEntry] at h
    split at h
    · next same =>
      cases h
      rw [putEntry, if_pos same, same]
    · next other => rw [putEntry, if_neg other, ih h]

theorem put_of_get? {t : Table κ α} {k : κ} {a : α} (h : t.get? k = some a) : t.put k a = t :=
  congrArg Table.mk (putEntry_of_getEntry h)

theorem getEntry_append (k : κ) (es fs : List (κ × α)) :
    getEntry k (es ++ fs) = (getEntry k es).or (getEntry k fs) := by
  induction es with
  | nil => rfl
  | cons e rest ih =>
    obtain ⟨l, a⟩ := e
    by_cases h : k = l <;> simp [getEntry, h, ih]

@[grind =] theorem get?_push (t : Table κ α) (k l : κ) (a : α) :
    (t.push k a).get? l = (t.get? l).or (if l = k then some a else none) :=
  getEntry_append l t.entries [(k, a)]

theorem getEntry_filter (k l : κ) (es : List (κ × α)) :
    getEntry l (es.filter fun e => e.1 ≠ k) = if l = k then none else getEntry l es := by
  induction es with
  | nil => simp [getEntry]
  | cons e rest ih =>
    obtain ⟨m, b⟩ := e
    by_cases hm : m = k
    · subst hm
      rw [List.filter_cons_of_neg (by simp), ih]
      by_cases hl : l = m <;> simp [getEntry, hl]
    · rw [List.filter_cons_of_pos (by simpa using hm)]
      by_cases hl : l = m
      · subst hl
        simp [getEntry, hm]
      · simpa [getEntry, hl] using ih

@[grind =] theorem get?_erase (t : Table κ α) (k l : κ) :
    (t.erase k).get? l = if l = k then none else t.get? l :=
  getEntry_filter k l t.entries

theorem getEntry_eq_none_iff {k : κ} {es : List (κ × α)} :
    getEntry k es = none ↔ k ∉ es.map Prod.fst := by
  induction es with
  | nil => simp [getEntry]
  | cons e rest ih =>
    obtain ⟨l, a⟩ := e
    by_cases h : k = l <;> simp [getEntry, h, ih]

theorem get?_eq_none_iff {t : Table κ α} {k : κ} : t.get? k = none ↔ k ∉ t.keys :=
  getEntry_eq_none_iff

theorem getEntry_of_mem {k : κ} {a : α} {es : List (κ × α)} (distinct : (es.map Prod.fst).Nodup)
    (mem : (k, a) ∈ es) : getEntry k es = some a := by
  induction es with
  | nil => contradiction
  | cons e rest ih =>
    obtain ⟨l, b⟩ := e
    obtain ⟨fresh, distinct⟩ := List.nodup_cons.1 distinct
    cases mem with
    | head => exact if_pos rfl
    | tail _ mem =>
      have other : k ≠ l := by
        rintro rfl
        exact fresh (List.mem_map.2 ⟨(k, a), mem, rfl⟩)
      rw [getEntry, if_neg other]
      exact ih distinct mem

theorem get?_of_mem {t : Table κ α} {k : κ} {a : α} (distinct : t.keys.Nodup)
    (mem : (k, a) ∈ t.entries) : t.get? k = some a :=
  getEntry_of_mem distinct mem

theorem mem_of_getEntry {k : κ} {a : α} {es : List (κ × α)} (h : getEntry k es = some a) :
    (k, a) ∈ es := by
  induction es with
  | nil => contradiction
  | cons e rest ih =>
    obtain ⟨l, b⟩ := e
    rw [getEntry] at h
    split at h
    · next same =>
      cases h
      exact same ▸ List.mem_cons_self
    · exact List.mem_cons_of_mem _ (ih h)

theorem mem_of_get? {t : Table κ α} {k : κ} {a : α} (h : t.get? k = some a) : (k, a) ∈ t.entries :=
  mem_of_getEntry h

theorem contains_iff {t : Table κ α} {k : κ} : t.contains k = true ↔ k ∈ t.keys := by
  rw [contains, Option.isSome_iff_ne_none, ne_eq, get?_eq_none_iff, Decidable.not_not]

theorem mem_keys_iff {t : Table κ α} {k : κ} : k ∈ t.keys ↔ ∃ a, t.get? k = some a := by
  rw [← contains_iff, contains, Option.isSome_iff_exists]

theorem mem_keys_of_get? {t : Table κ α} {k : κ} {a : α} (h : t.get? k = some a) : k ∈ t.keys :=
  mem_keys_iff.2 ⟨a, h⟩

theorem map_fst_putEntry (k : κ) (a : α) (es : List (κ × α)) :
    (putEntry k a es).map Prod.fst =
      if k ∈ es.map Prod.fst then es.map Prod.fst else es.map Prod.fst ++ [k] := by
  induction es with
  | nil => simp [putEntry]
  | cons e rest ih =>
    obtain ⟨l, b⟩ := e
    by_cases h : k = l
    · subst h
      simp [putEntry]
    · simp only [putEntry, if_neg h, List.map_cons, ih]
      by_cases hk : k ∈ rest.map Prod.fst <;> simp_all

theorem keys_put (t : Table κ α) (k : κ) (a : α) :
    (t.put k a).keys = if k ∈ t.keys then t.keys else t.keys ++ [k] :=
  map_fst_putEntry k a t.entries

theorem keys_erase (t : Table κ α) (k : κ) : (t.erase k).keys = t.keys.filter (· ≠ k) := by
  simp [keys, erase, List.filter_map, Function.comp_def]

end Table

end Warrant
