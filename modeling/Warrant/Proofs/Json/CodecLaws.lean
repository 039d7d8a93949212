import Warrant.Proofs.Base64Laws
import Warrant.Proofs.DictionaryLaws
import Warrant.Proofs.Json.Arrangement

namespace Warrant.Json

structure Codec {α : Type} (of : α → Json) (read : Json → Option α) : Prop where
  plain (v : α) : Plain (of v)
  read_arrange (a : Arrangement) (v : α) : read ((of v).arrange a) = some v

variable {α : Type} {of : α → Json} {read : Json → Option α}

theorem mapM_eq_filterMap {β γ : Type} {f : β → Option γ} {items : List β}
    (h : ∀ item ∈ items, (f item).isSome) : items.mapM f = some (items.filterMap f) := by
  induction items with
  | nil => rfl
  | cons item rest ih =>
    obtain ⟨b, hb⟩ := Option.isSome_iff_exists.1 (h item List.mem_cons_self)
    rw [List.mapM_cons, ih fun i hi => h i (List.mem_cons_of_mem _ hi),
      List.filterMap_cons_some hb, hb]
    rfl

theorem mapM_map {β γ δ : Type} {f : β → δ} {g : δ → Option γ} {h : β → γ} {items : List β}
    (read : ∀ b ∈ items, g (f b) = some (h b)) : (items.map f).mapM g = some (items.map h) := by
  induction items with
  | nil => rfl
  | cons b rest ih =>
    rw [List.map_cons, List.mapM_cons, read b List.mem_cons_self,
      ih fun b mem => read b (List.mem_cons_of_mem _ mem)]
    rfl

theorem codec_text : Codec ofText text? where
  plain v := .string v
  read_arrange _ v := Escape.text?_encode_utf8 v

theorem codec_bool : Codec Json.bool bool? where
  plain v := .bool v
  read_arrange _ _ := rfl

theorem codec_int64 : Codec ofInt64 int64? where
  plain v := .int v.toInt
  read_arrange _ v := int64?_ofInt64 v

theorem codec_uint64 : Codec ofUInt64 uint64? where
  plain v := .int v.toNat
  read_arrange _ v := uint64?_ofUInt64 v

theorem escape_singleton {s : UInt8} (h : s = Base64.pad ∨ ∃ n < 64, s = Base64.symbol n) :
    Escape.encodeByte s = [s] := by
  have symbols : ∀ n < 64, Escape.encodeByte (Base64.symbol n) = [Base64.symbol n] := by decide
  obtain rfl | ⟨n, hn, rfl⟩ := h
  · rfl
  · exact symbols n hn

theorem escape_base64 (bytes : Bytes) :
    Escape.encode (Base64.encode bytes) = Base64.encode bytes := by
  have all : ∀ s ∈ Base64.encode bytes, Escape.encodeByte s = [s] :=
    fun _ h => escape_singleton (Base64.symbol_of_mem_encode h)
  rw [Escape.encode, List.flatMap_def, List.map_congr_left all, ← List.flatMap_def,
    List.flatMap_singleton']

theorem codec_bytes : Codec ofBytes bytes? where
  plain v := by
    rw [ofBytes, ← escape_base64, ← Base64.utf8_encodeText]
    exact .string (Base64.encodeText v)
  read_arrange _ v := by
    have text : Escape.text? (Base64.encode v) = some (Base64.encodeText v) := by
      rw [← escape_base64, ← Base64.utf8_encodeText, Escape.text?_encode_utf8]
    change bytes? (.string (Base64.encode v)) = some v
    rw [bytes?, text]
    simp [Except.toOption]

theorem Codec.list (c : Codec of read) : Codec (ofList of) (list? read) where
  plain items := by
    refine .array fun item h => ?_
    obtain ⟨v, -, rfl⟩ := List.mem_map.1 h
    exact c.plain v
  read_arrange a items := by
    rw [ofList, arrange_array, list?, List.map_map, mapM_map (f := arrange a ∘ of)
      fun v _ => c.read_arrange a v, List.map_id']

theorem Codec.option_some (c : Codec of read) {v : α} (null : of v ≠ .null) (a : Arrangement) :
    option? read ((of v).arrange a) = some (some v) := by
  have kept := c.read_arrange a v
  unfold option?
  split
  · next h => cases hv : of v <;> simp_all [arrange]
  · rw [kept]
    rfl

def readMember? (read : Json → Option α) (m : Bytes × Json) : Option (String × α) := do
  let name ← Escape.text? m.1
  let v ← read m.2
  return (name, v)

theorem dictionary?_object (read : Json → Option α) (members : List (Bytes × Json)) :
    dictionary? read (.object members) =
      (members.mapM (readMember? read)).map Dictionary.ofList := by
  rw [dictionary?]
  cases h : members.mapM (readMember? read) <;> exact congrArg (Option.bind · _) h

def arrangedMember (a : Arrangement) (of : α → Json) (e : String × α) : Bytes × Json :=
  ((member e.1 (of e.2)).1, (of e.2).arrange a)

theorem Codec.readMember?_arrangedMember (c : Codec of read) (a : Arrangement) (e : String × α) :
    readMember? read (arrangedMember a of e) = some e := by
  simp [readMember?, arrangedMember, member, c.read_arrange]

theorem arrange_ofDictionary (a : Arrangement) (d : Dictionary α) :
    (ofDictionary of d).arrange a = .object (a.order (d.entries.map (arrangedMember a of))) := by
  rw [ofDictionary, arrange_object, List.map_map]
  rfl

theorem Codec.dictionary (c : Codec of read) : Codec (ofDictionary of) (dictionary? read) where
  plain d := by
    refine .object (fun m h => ?_) fun m h => ?_
    · obtain ⟨e, -, rfl⟩ := List.mem_map.1 h
      exact ⟨e.1, rfl⟩
    · obtain ⟨e, -, rfl⟩ := List.mem_map.1 h
      exact c.plain e.2
  read_arrange a d := by
    have perm := a.perm (d.entries.map (arrangedMember a of))
    have all : ∀ m ∈ a.order (d.entries.map (arrangedMember a of)),
        (readMember? read m).isSome := by
      intro m h
      obtain ⟨e, -, rfl⟩ := List.mem_map.1 (perm.mem_iff.1 h)
      rw [c.readMember?_arrangedMember]
      rfl
    have entries := perm.filterMap (readMember? read)
    rw [List.filterMap_map, show readMember? read ∘ arrangedMember a of = some from
      funext (c.readMember?_arrangedMember a), List.filterMap_some] at entries
    rw [arrange_ofDictionary, dictionary?_object, mapM_eq_filterMap all]
    exact congrArg some (Dictionary.ofList_of_perm entries)

end Warrant.Json
