import Warrant.Proofs.Base64Laws
import Warrant.Proofs.Json.ScanLaws

namespace Warrant.Json

/-! ### Trees -/

def itemsBefore (items : List Json) : Bytes :=
  items.flatMap fun item => item.write ++ [44]

def membersBefore (members : List (Bytes × Json)) : Bytes :=
  members.flatMap fun m => quoted m.1 ++ 58 :: m.2.write ++ [44]

theorem writeItems_concat (items : List Json) (item : Json) :
    writeItems (items ++ [item]) = itemsBefore items ++ item.write ++ [93] := by
  induction items with
  | nil => rfl
  | cons first items ih =>
    rw [List.cons_append, writeItems.eq_3 _ _ (by simp), ih]
    simp [itemsBefore]

theorem writeMembers_concat (members : List (Bytes × Json)) (name : Bytes) (value : Json) :
    writeMembers (members ++ [(name, value)]) =
      membersBefore members ++ quoted name ++ 58 :: value.write ++ [125] := by
  induction members with
  | nil => simp [writeMembers, membersBefore]
  | cons first members ih =>
    rw [List.cons_append, writeMembers.eq_3 _ _ _ (by simp), ih]
    simp [membersBefore]

/-! ### The reader -/

def Frame.text : Frame → Bytes
  | .array done => 91 :: itemsBefore done.reverse
  | .object done key => 123 :: membersBefore done.reverse ++ quoted key ++ [58]

def framesText (frames : List Frame) : Bytes :=
  frames.reverse.flatMap Frame.text

theorem framesText_cons (frame : Frame) (frames : List Frame) :
    framesText (frame :: frames) = framesText frames ++ frame.text := by
  simp [framesText]

namespace Reader

def text : Reader → Bytes
  | .value frames => framesText frames
  | .itemOrEnd frames => framesText frames ++ [91]
  | .nameOrEnd frames => framesText frames ++ [123]
  | .name done frames => framesText frames ++ 123 :: membersBefore done.reverse
  | .colon done key frames => framesText frames ++ 123 :: membersBefore done.reverse ++ quoted key
  | .after j frames => framesText frames ++ j.write

theorem text_startValue {frames : List Frame} {t : Token} {r : Reader}
    (h : startValue frames t = some r) : r.text = framesText frames ++ t.text := by
  cases t <;> cases h <;> rfl

theorem text_startName {done : List (Bytes × Json)} {frames : List Frame} {t : Token} {r : Reader}
    (h : startName done frames t = some r) :
    r.text = framesText frames ++ 123 :: membersBefore done.reverse ++ t.text := by
  cases t <;> cases h
  rfl

/-- A token adds its own text, and nothing that has been taken is lost. -/
theorem text_step {r r' : Reader} {t : Token} (h : r.step t = some r') :
    r'.text = r.text ++ t.text := by
  fun_cases step r t with
  | case1 frames t => exact text_startValue h
  | case2 frames =>
    cases h
    simp [text, Token.text, write, writeItems]
  | case3 frames t other =>
    rw [text_startValue ((starts_itemOrEnd frames t other).symm.trans h)]
    simp [text, framesText_cons, Frame.text, itemsBefore]
  | case4 frames =>
    cases h
    simp [text, Token.text, write, writeMembers]
  | case5 frames t other =>
    rw [step.eq_5 _ _ other] at h
    rw [text_startName h]
    rfl
  | case6 done frames t => exact text_startName h
  | case7 done key frames =>
    cases h
    simp [text, framesText_cons, Frame.text, Token.text]
  | case8 done key frames t other =>
    rw [step.eq_8 _ _ _ _ other] at h
    contradiction
  | case9 j done frames =>
    cases h
    simp [text, framesText_cons, Frame.text, Token.text, itemsBefore]
  | case10 j done frames =>
    cases h
    simp [text, framesText_cons, Frame.text, Token.text, write, writeItems_concat]
  | case11 j done key frames =>
    cases h
    simp [text, framesText_cons, Frame.text, Token.text, membersBefore]
  | case12 j done key frames =>
    cases h
    simp [text, framesText_cons, Frame.text, Token.text, write, writeMembers_concat]
  | case13 j frames t h₁ h₂ h₃ h₄ =>
    rw [step.eq_13 _ _ _ h₁ h₂ h₃ h₄] at h
    contradiction

theorem text_run {r r' : Reader} {tokens : List Token} (h : r.run tokens = some r') :
    r'.text = r.text ++ tokens.flatMap Token.text := by
  induction tokens generalizing r with
  | nil =>
    cases h
    simp
  | cons t tokens ih =>
    rw [run] at h
    cases stepped : r.step t with
    | none => simp [stepped] at h
    | some next =>
      rw [stepped] at h
      rw [ih h, text_step stepped, List.flatMap_cons, List.append_assoc]

end Reader

theorem write_sublist_of_read? {s : Bytes} {j : Json} (h : read? s = some j) :
    j.write.Sublist s := by
  obtain ⟨tokens, scanned, run⟩ := read?_eq_some_iff.1 h
  have text : j.write = tokens.flatMap Token.text := Reader.text_run run
  rw [text]
  exact (Token.scans_of_scan scanned).text_sublist

/-! ### Fields -/

theorem write_sublist_of_mem_items {items : List Json} {item : Json} (h : item ∈ items) :
    item.write.Sublist (writeItems items) := by
  induction items with
  | nil => contradiction
  | cons first items ih =>
    by_cases last : items = []
    · rw [last, List.mem_singleton] at h
      rw [last, h, writeItems]
      exact List.sublist_append_left _ _
    · rw [writeItems.eq_3 _ _ last]
      cases h with
      | head => exact List.sublist_append_left _ _
      | tail _ mem => exact ((ih mem).cons 44).trans (List.sublist_append_right _ _)

theorem write_sublist_of_mem_members {members : List (Bytes × Json)} {m : Bytes × Json}
    (h : m ∈ members) : m.2.write.Sublist (writeMembers members) := by
  induction members with
  | nil => contradiction
  | cons first members ih =>
    by_cases last : members = []
    · rw [last, List.mem_singleton] at h
      rw [last, h, writeMembers]
      exact List.IsInfix.sublist ⟨quoted first.1 ++ [58], [125], by simp⟩
    · rw [writeMembers.eq_3 _ _ _ last]
      cases h with
      | head => exact List.IsInfix.sublist ⟨quoted m.1 ++ [58], 44 :: writeMembers members, by simp⟩
      | tail _ mem => exact ((ih mem).cons 44).trans (List.sublist_append_right _ _)

theorem exists_of_mem_mapM {α β : Type} {f : α → Option β} {as : List α} {bs : List β}
    (h : as.mapM f = some bs) {b : β} (mem : b ∈ bs) : ∃ a ∈ as, f a = some b := by
  induction as generalizing bs with
  | nil =>
    cases h
    contradiction
  | cons a as ih =>
    simp only [List.mapM_cons, Option.bind_eq_bind, Option.bind_eq_some_iff, Option.pure_def,
      Option.some.injEq] at h
    obtain ⟨first, read, rest, tail, rfl⟩ := h
    cases mem with
    | head => exact ⟨a, List.mem_cons_self, read⟩
    | tail _ mem =>
      obtain ⟨a', mem', read'⟩ := ih tail mem
      exact ⟨a', List.mem_cons_of_mem a mem', read'⟩

theorem mem_of_find? {members : List (Bytes × Json)} {name : String} {j : Json}
    (h : find? members name = some (some j)) : ∃ m ∈ members, m.2 = j := by
  unfold find? at h
  split at h
  · cases h
  · next m found =>
    cases h
    exact ⟨m, (List.mem_filter.1 (found ▸ List.mem_singleton_self m)).1, rfl⟩
  · contradiction

theorem write_sublist_of_record? {names : List String} {j field : Json}
    {fields : List (Option Json)} (h : j.record? names = some fields)
    (mem : some field ∈ fields) : field.write.Sublist j.write := by
  cases j with
  | object members =>
    rw [record?] at h
    split at h
    · obtain ⟨name, -, found⟩ := exists_of_mem_mapM h mem
      obtain ⟨m, member, rfl⟩ := mem_of_find? found
      exact (write_sublist_of_mem_members member).cons 123
    · contradiction
  | array items =>
    rw [record?] at h
    split at h
    · cases h
      have item : field ∈ items := by simpa using mem
      exact (write_sublist_of_mem_items item).cons 91
    · contradiction
  | _ => contradiction

theorem length_of_bytes? {j : Json} {bytes : Bytes} (h : j.bytes? = some bytes) :
    4 * bytes.length + 6 ≤ 3 * j.write.length := by
  cases j with
  | null =>
    cases h
    decide
  | string written =>
    simp only [bytes?, Option.bind_eq_bind, Option.bind_eq_some_iff] at h
    obtain ⟨text, read, decoded⟩ := h
    obtain ⟨characters, unescaped, valid⟩ := Option.bind_eq_some_iff.1 read
    have shorter := Escape.length_decode? unescaped
    cases result : Base64.decodeText text with
    | error cause =>
      rw [result] at decoded
      contradiction
    | ok _ =>
      rw [result] at decoded
      cases decoded
      have symbols := Base64.length_decode result
      rw [Text.utf8_of_ofUtf8? valid] at symbols
      simp only [write, quoted, List.length_append, List.length_cons, List.length_nil]
      omega
  | _ => contradiction

end Warrant.Json
