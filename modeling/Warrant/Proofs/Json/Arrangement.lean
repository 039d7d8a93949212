import Mathlib.Data.List.Pairwise
import Warrant.Proofs.Json.ReadLaws

namespace Warrant.Json

structure Arrangement where
  order : List (Bytes × Json) → List (Bytes × Json)
  perm (members : List (Bytes × Json)) : (order members).Perm members

mutual

def arrange (a : Arrangement) : Json → Json
  | .array items => .array (arrangeItems a items)
  | .object members => .object (a.order (arrangeMembers a members))
  | j => j

def arrangeItems (a : Arrangement) : List Json → List Json
  | [] => []
  | item :: rest => item.arrange a :: arrangeItems a rest

def arrangeMembers (a : Arrangement) : List (Bytes × Json) → List (Bytes × Json)
  | [] => []
  | (name, value) :: rest => (name, value.arrange a) :: arrangeMembers a rest

end

namespace Arrangement

def asMade : Arrangement where
  order members := members
  perm members := .refl members

def byName : Arrangement where
  order members := members.mergeSort nameLe
  perm members := List.mergeSort_perm members nameLe

theorem mem_order (a : Arrangement) {m : Bytes × Json} {members : List (Bytes × Json)} :
    m ∈ a.order members ↔ m ∈ members :=
  (a.perm members).mem_iff

end Arrangement

theorem arrangeItems_eq_map (a : Arrangement) (items : List Json) :
    arrangeItems a items = items.map (arrange a) := by
  induction items with
  | nil => rfl
  | cons item rest ih => rw [arrangeItems, ih, List.map_cons]

theorem arrangeMembers_eq_map (a : Arrangement) (members : List (Bytes × Json)) :
    arrangeMembers a members = members.map fun m => (m.1, m.2.arrange a) := by
  induction members with
  | nil => rfl
  | cons m rest ih => rw [arrangeMembers, ih, List.map_cons]

@[simp] theorem arrange_array (a : Arrangement) (items : List Json) :
    (Json.array items).arrange a = .array (items.map (arrange a)) := by
  rw [arrange, arrangeItems_eq_map]

@[simp] theorem arrange_object (a : Arrangement) (members : List (Bytes × Json)) :
    (Json.object members).arrange a =
      .object (a.order (members.map fun m => (m.1, m.2.arrange a))) := by
  rw [arrange, arrangeMembers_eq_map]

mutual

theorem arrange_byName : (j : Json) → j.arrange .byName = j.canonical
  | .array items => by rw [arrange, canonical, arrangeItems_byName]
  | .object members => by
    rw [arrange, canonical, arrangeMembers_byName]
    rfl
  | .null | .bool _ | .number _ | .string _ => rfl

theorem arrangeItems_byName : (items : List Json) →
    arrangeItems .byName items = canonicalItems items
  | [] => rfl
  | item :: rest => by
    rw [arrangeItems, canonicalItems, arrange_byName item, arrangeItems_byName rest]

theorem arrangeMembers_byName : (members : List (Bytes × Json)) →
    arrangeMembers .byName members = canonicalMembers members
  | [] => rfl
  | (name, value) :: rest => by
    rw [arrangeMembers, canonicalMembers, arrange_byName value, arrangeMembers_byName rest]

end

mutual

theorem arrange_asMade : (j : Json) → j.arrange .asMade = j
  | .array items => by rw [arrange, arrangeItems_asMade]
  | .object members => by
    rw [arrange, arrangeMembers_asMade]
    rfl
  | .null | .bool _ | .number _ | .string _ => rfl

theorem arrangeItems_asMade : (items : List Json) → arrangeItems .asMade items = items
  | [] => rfl
  | item :: rest => by rw [arrangeItems, arrange_asMade item, arrangeItems_asMade rest]

theorem arrangeMembers_asMade : (members : List (Bytes × Json)) →
    arrangeMembers .asMade members = members
  | [] => rfl
  | (name, value) :: rest => by
    rw [arrangeMembers, arrange_asMade value, arrangeMembers_asMade rest]

end

theorem plain_arrange (a : Arrangement) {j : Json} (h : Plain j) : Plain (j.arrange a) := by
  induction h with
  | null => exact .null
  | bool value => exact .bool value
  | int n => exact .int n
  | string text => exact .string text
  | @array items _ ih =>
    rw [arrange_array]
    refine .array fun item h => ?_
    obtain ⟨item, mem, rfl⟩ := List.mem_map.1 h
    exact ih item mem
  | @object members named _ ih =>
    rw [arrange_object]
    refine .object (fun m h => ?_) (fun m h => ?_)
    · obtain ⟨m, mem, rfl⟩ := List.mem_map.1 (a.mem_order.1 h)
      exact named m mem
    · obtain ⟨m, mem, rfl⟩ := List.mem_map.1 (a.mem_order.1 h)
      exact ih m mem

theorem plain_canonical {j : Json} (h : Plain j) : Plain j.canonical :=
  arrange_byName j ▸ plain_arrange .byName h

theorem canonical_object_of_perm {members sorted : List (Bytes × Json)}
    (perm : (canonicalMembers members).Perm sorted)
    (strict : sorted.Pairwise fun a b => nameLe b a = false) :
    (object members).canonical = .object sorted := by
  have total (a b : Bytes × Json) : (nameLe a b || nameLe b a) = true := Bytes.le_total _ _
  have ordered : sorted.Pairwise fun a b => nameLe a b = true :=
    strict.imp fun {a b} after => by simpa [after] using total a b
  have trans (a b c : Bytes × Json) (h : nameLe a b = true) (g : nameLe b c = true) :
      nameLe a c = true := Bytes.le_trans h g
  have sorts :
      ((canonicalMembers members).mergeSort nameLe).Pairwise fun a b => nameLe a b = true :=
    List.pairwise_mergeSort trans total _
  have same : ((canonicalMembers members).mergeSort nameLe).Perm sorted :=
    (List.mergeSort_perm _ _).trans perm
  -- Two different members of the sorted list are not both before each other.
  have : Std.Symm fun a b : Bytes × Json => ¬(nameLe a b = true ∧ nameLe b a = true) :=
    ⟨fun _ _ apart both => apart both.symm⟩
  have apart : sorted.Pairwise fun a b => ¬(nameLe a b = true ∧ nameLe b a = true) :=
    strict.imp fun after both => by simp [after] at both
  rw [canonical, List.Perm.eq_of_pairwise _ sorts ordered same]
  intro a b mem other le ge
  by_contra differs
  exact apart.forall (same.subset mem) other differs ⟨le, ge⟩

end Warrant.Json
