import Warrant.Proofs.Json.CodecLaws
import Warrant.Record

namespace Warrant.Json

/-- The fields of a record with their names, in their order; one without a value is left out. -/
abbrev Fields := List (String × Option Json)

def Fields.names (fields : Fields) : List String :=
  fields.map Prod.fst

def Fields.members (fields : Fields) : List (Bytes × Json) :=
  fields.filterMap fun f => f.2.map (member f.1)

def ofFields (fields : Fields) : Json :=
  .object fields.members

def valueUnless (omitted : Bool) (value : Json) : Option Json :=
  if omitted then none else some value

theorem Fields.members_append (fields more : Fields) :
    members (fields ++ more) = fields.members ++ more.members :=
  List.filterMap_append

theorem memberUnless_eq (omitted : Bool) (name : String) (value : Json) :
    memberUnless omitted name value = Fields.members [(name, valueUnless omitted value)] := by
  cases omitted <;> rfl

theorem named_of_mem {fields : Fields} {m : Bytes × Json} (h : m ∈ fields.members) :
    ∃ f ∈ fields, ∃ value ∈ f.2, m = member f.1 value := by
  obtain ⟨f, mem, hm⟩ := List.mem_filterMap.1 h
  obtain ⟨value, hv, rfl⟩ := Option.map_eq_some_iff.1 hm
  exact ⟨f, mem, value, hv, rfl⟩

theorem text?_member (name : String) (value : Json) :
    Escape.text? (member name value).1 = some name :=
  Escape.text?_encode_utf8 name

theorem plain_ofFields {fields : Fields} (h : ∀ f ∈ fields, ∀ value ∈ f.2, Plain value) :
    Plain (ofFields fields) := by
  refine .object (fun m hm => ?_) fun m hm => ?_
  · obtain ⟨f, -, value, -, rfl⟩ := named_of_mem hm
    exact ⟨f.1, rfl⟩
  · obtain ⟨f, mem, value, hv, rfl⟩ := named_of_mem hm
    exact h f mem value hv

def only? : List (Bytes × Json) → Option (Option Json)
  | [] => some none
  | [m] => some (some m.2)
  | _ => none

def isNamed (name : String) (m : Bytes × Json) : Bool :=
  Escape.text? m.1 == some name

theorem find?_eq_only? (members : List (Bytes × Json)) (name : String) :
    find? members name = only? (members.filter (isNamed name)) :=
  rfl

theorem only?_perm {members others : List (Bytes × Json)} (h : members.Perm others) :
    only? members = only? others := by
  match members, others with
  | [], others => rw [List.nil_perm.1 h]
  | [m], others => rw [List.singleton_perm.1 h]
  | _ :: _ :: _, [] => simpa using h.length_eq
  | _ :: _ :: _, [_] => simpa using h.length_eq
  | _ :: _ :: _, _ :: _ :: _ => rfl

theorem find?_perm {members others : List (Bytes × Json)} (h : members.Perm others)
    (name : String) : find? members name = find? others name :=
  only?_perm (h.filter (isNamed name))

theorem only?_map (f : Json → Json) (members : List (Bytes × Json)) :
    only? (members.map fun m => (m.1, f m.2)) = (only? members).map (Option.map f) := by
  match members with
  | [] => rfl
  | [m] => rfl
  | _ :: _ :: _ => rfl

theorem find?_map (f : Json → Json) (members : List (Bytes × Json)) (name : String) :
    find? (members.map fun m => (m.1, f m.2)) name = (find? members name).map (Option.map f) := by
  rw [find?_eq_only?, List.filter_map, only?_map]
  rfl

theorem isNamed_member (name other : String) (value : Json) :
    isNamed name (member other value) = (other == name) := by
  rw [isNamed, text?_member]
  rfl

theorem filter_members_of_not_mem {fields : Fields} {name : String} (h : name ∉ fields.names) :
    fields.members.filter (isNamed name) = [] := by
  rw [List.filter_eq_nil_iff]
  intro m hm named
  obtain ⟨f, mem, value, -, rfl⟩ := named_of_mem hm
  rw [isNamed_member, beq_iff_eq] at named
  exact h (named ▸ List.mem_map_of_mem mem)

theorem find?_members {fields : Fields} (distinct : fields.names.Nodup) {f : String × Option Json}
    (h : f ∈ fields) : find? fields.members f.1 = some f.2 := by
  rw [find?_eq_only?]
  induction fields with
  | nil => contradiction
  | cons g rest ih =>
    obtain ⟨fresh, distinct⟩ := List.nodup_cons.1 distinct
    rw [← List.singleton_append, Fields.members_append, List.filter_append]
    cases h with
    | head =>
      rw [filter_members_of_not_mem fresh]
      obtain ⟨name, _ | value⟩ := f
      · rfl
      · change only? ([member name value].filter (isNamed name) ++ []) = _
        rw [List.filter_cons_of_pos (by simp [isNamed_member])]
        rfl
    | tail _ mem =>
      have other : f.1 ∉ Fields.names [g] := by
        intro same
        rw [Fields.names, List.map_singleton, List.mem_singleton] at same
        exact fresh (same ▸ List.mem_map_of_mem mem)
      rw [filter_members_of_not_mem other, List.nil_append]
      exact ih distinct mem

theorem areNamed_members (a : Arrangement) (fields : Fields) :
    areNamed (a.order (fields.members.map fun m => (m.1, m.2.arrange a))) = true := by
  rw [areNamed, List.all_eq_true]
  intro m h
  obtain ⟨m, mem, rfl⟩ := List.mem_map.1 (a.mem_order.1 h)
  obtain ⟨f, -, value, -, rfl⟩ := named_of_mem mem
  rw [text?_member]
  rfl

theorem record?_of_eq (a : Arrangement) {j : Json} {fields : Fields} (h : j = ofFields fields)
    (distinct : fields.names.Nodup) :
    record? fields.names (j.arrange a) = some (fields.map fun f => f.2.map (arrange a)) := by
  have found : ∀ f ∈ fields,
      find? (a.order (fields.members.map fun m => (m.1, m.2.arrange a))) f.1 =
        some (f.2.map (arrange a)) := by
    intro f h
    rw [find?_perm (a.perm _), find?_map, find?_members distinct h]
    rfl
  rw [h, ofFields, arrange_object, record?, if_pos (areNamed_members a fields)]
  exact mapM_map found

def mentions (name : String) : Json → Bool
  | .object members => members.any (isNamed name)
  | _ => false

theorem any_members (fields : Fields) (name : String) :
    fields.members.any (isNamed name) = fields.any fun f => f.2.isSome && f.1 == name := by
  induction fields with
  | nil => rfl
  | cons f rest ih =>
    rw [← List.singleton_append, Fields.members_append, List.any_append, List.any_append, ih]
    obtain ⟨other, _ | value⟩ := f
    · rfl
    · simp [Fields.members, isNamed_member]

theorem mentions_of_eq (a : Arrangement) {j : Json} {fields : Fields} (h : j = ofFields fields)
    (name : String) :
    (j.arrange a).mentions name = fields.any fun f => f.2.isSome && f.1 == name := by
  rw [h, ofFields, arrange_object, mentions, (a.perm _).any_eq, List.any_map]
  exact any_members fields name

/-! What is read of a field that has been written, and of one that has been left out. -/

section Field

variable {α : Type} {of : α → Json} {read : Json → Option α}

@[simp] theorem field_some (j : Json) : field read (some j) = read j := rfl

@[simp] theorem fieldOr_some (default : α) (j : Json) : fieldOr default read (some j) = read j :=
  rfl

theorem plain_valueUnless {omitted : Bool} {value : Json} (h : omitted = false → Plain value) :
    ∀ j ∈ valueUnless omitted value, Plain j := by
  cases omitted <;> simp_all [valueUnless]

theorem Codec.plain_unlessNone (c : Codec of read) (v : Option α) :
    ∀ j ∈ valueUnless v.isNone (ofOption of v), Plain j := by
  apply plain_valueUnless
  cases v with
  | none => simp
  | some v => exact fun _ => c.plain v

theorem Codec.fieldOr_unlessEmpty {β : Type} {of : List β → Json} {read : Json → Option (List β)}
    (c : Codec of read) (a : Arrangement) (v : List β) :
    fieldOr [] read ((valueUnless v.isEmpty (of v)).map (arrange a)) = some v := by
  cases v with
  | nil => rfl
  | cons b rest => exact c.read_arrange a (b :: rest)

theorem Codec.fieldOr_unlessNone (c : Codec of read) (written : ∀ v, of v ≠ .null)
    (a : Arrangement) (v : Option α) :
    fieldOr none (option? read) ((valueUnless v.isNone (ofOption of v)).map (arrange a)) =
      some v := by
  cases v with
  | none => rfl
  | some v => exact c.option_some (written v) a

end Field

end Warrant.Json
