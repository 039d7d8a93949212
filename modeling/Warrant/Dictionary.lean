namespace Warrant

def Before {α : Type} (key : String) (entries : List (String × α)) : Prop :=
  ∀ e ∈ entries, key < e.1

inductive Increasing {α : Type} : List (String × α) → Prop
  | nil : Increasing []
  | cons {key : String} {value : α} {rest : List (String × α)} :
      Before key rest → Increasing rest → Increasing ((key, value) :: rest)

structure Dictionary (α : Type) where
  entries : List (String × α)
  increasing : Increasing entries

namespace Dictionary

variable {α : Type}

instance [DecidableEq α] : DecidableEq (Dictionary α) := fun a b =>
  if h : a.entries = b.entries then
    isTrue (by cases a; cases b; simp_all)
  else isFalse fun e => h (e ▸ rfl)

theorem ext {a b : Dictionary α} (h : a.entries = b.entries) : a = b := by
  cases a; cases b; simp_all

def empty : Dictionary α where
  entries := []
  increasing := .nil

instance : EmptyCollection (Dictionary α) := ⟨empty⟩

instance : Inhabited (Dictionary α) := ⟨empty⟩

def insertEntry (key : String) (value : α) : List (String × α) → List (String × α)
  | [] => [(key, value)]
  | (k, v) :: rest =>
    if key < k then (key, value) :: (k, v) :: rest
    else if key = k then (key, value) :: rest
    else (k, v) :: insertEntry key value rest

theorem before_insertEntry {k key : String} {value : α} {entries : List (String × α)}
    (h : Before k entries) (hk : k < key) : Before k (insertEntry key value entries) := by
  induction entries with
  | nil => simpa [insertEntry, Before] using hk
  | cons e rest ih =>
    obtain ⟨l, v⟩ := e
    have hl : k < l := h (l, v) (by simp)
    have hr : Before k rest := fun e he => h e (by simp [he])
    unfold insertEntry
    intro e he
    split at he
    · rcases List.mem_cons.1 he with rfl | he
      · exact hk
      · exact h e he
    · split at he
      · rcases List.mem_cons.1 he with rfl | he
        · exact hk
        · exact hr e he
      · rcases List.mem_cons.1 he with rfl | he
        · exact hl
        · exact ih hr e he

theorem increasing_insertEntry {key : String} {value : α} {entries : List (String × α)}
    (h : Increasing entries) : Increasing (insertEntry key value entries) := by
  induction h with
  | nil => exact .cons (by simp [Before]) .nil
  | @cons k v rest hb hr ih =>
    unfold insertEntry
    split
    · next hk =>
      refine .cons (fun e he => ?_) (.cons hb hr)
      rcases List.mem_cons.1 he with rfl | he
      · exact hk
      · exact String.lt_trans hk (hb e he)
    · next hk =>
      split
      · next he => exact he ▸ .cons hb hr
      · next he =>
        refine .cons (before_insertEntry hb ?_) ih
        exact Decidable.byContradiction fun h =>
          he (String.le_antisymm (String.not_lt.1 h) (String.not_lt.1 hk))

def insert (d : Dictionary α) (key : String) (value : α) : Dictionary α where
  entries := insertEntry key value d.entries
  increasing := increasing_insertEntry d.increasing

theorem increasing_filter {p : String × α → Bool} {entries : List (String × α)}
    (h : Increasing entries) : Increasing (entries.filter p) := by
  induction h with
  | nil => exact .nil
  | @cons k v rest hb _ ih =>
    rw [List.filter_cons]
    split
    · exact .cons (fun e he => hb e (List.mem_filter.1 he).1) ih
    · exact ih

def erase (d : Dictionary α) (key : String) : Dictionary α where
  entries := d.entries.filter fun e => e.1 != key
  increasing := increasing_filter d.increasing

def get? (d : Dictionary α) (key : String) : Option α :=
  d.entries.lookup key

def contains (d : Dictionary α) (key : String) : Bool :=
  (d.get? key).isSome

def ofList (entries : List (String × α)) : Dictionary α :=
  entries.foldl (fun d e => d.insert e.1 e.2) ∅

def size (d : Dictionary α) : Nat :=
  d.entries.length

end Dictionary

end Warrant
