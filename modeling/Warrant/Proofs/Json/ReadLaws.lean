import Warrant.Proofs.Json.DigitLaws
import Warrant.Proofs.Json.EscapeLaws

namespace Warrant.Json

/-- Trees whose strings and names are texts, escaped, and whose numbers are integers. -/
inductive Plain : Json → Prop
  | null : Plain .null
  | bool (value : Bool) : Plain (.bool value)
  | int (n : Int) : Plain (ofInt n)
  | string (text : String) : Plain (.string (Escape.encode (Text.utf8 text)))
  | array {items : List Json} : (∀ item ∈ items, Plain item) → Plain (.array items)
  | object {members : List (Bytes × Json)} :
      (∀ m ∈ members, ∃ text, m.1 = Escape.encode (Text.utf8 text)) →
      (∀ m ∈ members, Plain m.2) → Plain (.object members)

namespace Token

theorem scanAfter_append (read more : List Token) (s : Bytes) :
    scanAfter (read ++ more) s = (scanAfter read s).map (more.reverse ++ ·) := by
  fun_induction scanAfter read s with
  | case1 read => simp [scanAfter]
  | case2 read b rest blank ih => rw [scanAfter, if_pos blank, ih]
  | case3 read b rest blank t tail next ih =>
    rw [scanAfter, if_neg blank]
    split <;> simp_all
  | case4 read b rest blank next =>
    rw [scanAfter, if_neg blank]
    split <;> simp_all

theorem scan_cons {b : UInt8} {rest tail : Bytes} {t : Token} (blank : isBlank b = false)
    (h : next? b rest = some (t, tail)) : scan (b :: rest) = (scan tail).map (t :: ·) := by
  have head : scan (b :: rest) = scanAfter ([] ++ [t]) tail := by
    rw [scan, scanAfter, if_neg (by simp [blank])]
    split <;> simp_all
  rw [head, scanAfter_append]
  rfl

theorem next?_punctuation {b : UInt8} {t : Token} (h : punctuation? b = some t) (rest : Bytes) :
    next? b rest = some (t, rest) := by
  simp [next?, h]

theorem next?_string (bytes rest : Bytes) :
    next? quote (Escape.encode bytes ++ quote :: rest) =
      some (.string (Escape.encode bytes), rest) := by
  have none : punctuation? quote = none := by decide
  simp [next?, none, scanString_encode]

theorem literal?_eq_none {b : UInt8} (h : b ≠ 110 ∧ b ≠ 116 ∧ b ≠ 102) (s : Bytes) :
    literal? (b :: s) = none := by
  unfold literal?
  split <;> simp_all

theorem next?_int (n : Int) {rest : Bytes} (hr : Closed rest) :
    ∃ b s, intDigits n ++ rest = b :: s ∧ isBlank b = false ∧
      next? b s = some (.scalar (ofInt n), rest) := by
  have number := scanNumber_intDigits n hr
  obtain ⟨b, ds, hd, start⟩ := intDigits_eq_cons n
  have other : isBlank b = false ∧ (punctuation? b).isNone ∧ b ≠ quote ∧
      (b ≠ 110 ∧ b ≠ 116 ∧ b ≠ 102) := by
    have digits : ∀ k < 10, isBlank (digit k) = false ∧ (punctuation? (digit k)).isNone ∧
        digit k ≠ quote ∧ (digit k ≠ 110 ∧ digit k ≠ 116 ∧ digit k ≠ 102) := by decide
    obtain rfl | ⟨k, hk, rfl⟩ := start
    · decide
    · exact digits k hk
  obtain ⟨blank, punctuation, string, literal⟩ := other
  rw [hd, List.cons_append] at number ⊢
  refine ⟨b, ds ++ rest, rfl, blank, ?_⟩
  rw [next?, Option.isNone_iff_eq_none.1 punctuation, if_neg string, literal?_eq_none literal,
    number, ← hd]
  rfl

end Token

namespace Reader

def feed (r : Reader) (s : Bytes) : Option Reader :=
  (Token.scan s).bind r.run

theorem feed_nil (r : Reader) : r.feed [] = some r := by
  simp [feed, Token.scan, Token.scanAfter, run]

theorem feed_cons {b : UInt8} {rest tail : Bytes} {t : Token} (blank : Token.isBlank b = false)
    (h : Token.next? b rest = some (t, tail)) (r : Reader) :
    r.feed (b :: rest) = (r.step t).bind fun r => r.feed tail := by
  rw [feed, Token.scan_cons blank h]
  cases hs : r.step t <;> cases ht : Token.scan tail <;> simp [run, feed, hs, ht]

theorem feed_punctuation {b : UInt8} {t : Token} (h : Token.punctuation? b = some t)
    (blank : Token.isBlank b = false) (r : Reader) (rest : Bytes) :
    r.feed (b :: rest) = (r.step t).bind fun r => r.feed rest :=
  feed_cons blank (Token.next?_punctuation h rest) r

theorem feed_quoted (r : Reader) (bytes rest : Bytes) :
    r.feed (quoted (Escape.encode bytes) ++ rest) =
      (r.step (.string (Escape.encode bytes))).bind fun r => r.feed rest := by
  rw [quoted, List.cons_append, List.cons_append, List.append_assoc]
  exact feed_cons (by decide) (Token.next?_string bytes rest) r

/-- The reader takes the start of a value, as one under `frames`. -/
def Starts (r : Reader) (frames : List Frame) : Prop :=
  ∀ t, t ≠ .closeArray → r.step t = startValue frames t

theorem starts_value (frames : List Frame) : (Reader.value frames).Starts frames :=
  fun _ _ => rfl

theorem starts_itemOrEnd (frames : List Frame) :
    (Reader.itemOrEnd frames).Starts (.array [] :: frames) := by
  intro t h
  cases t <;> first | rfl | contradiction

def Names (r : Reader) (done : List (Bytes × Json)) (frames : List Frame) : Prop :=
  ∀ w, r.step (.string w) = some (.colon done w frames)

theorem names_nameOrEnd (frames : List Frame) : (Reader.nameOrEnd frames).Names [] frames :=
  fun _ => rfl

theorem names_name (done : List (Bytes × Json)) (frames : List Frame) :
    (Reader.name done frames).Names done frames :=
  fun _ => rfl

theorem closed_cons {b : UInt8} (h : b = 44 ∨ b = 93 ∨ b = 125) (rest : Bytes) :
    Closed (b :: rest) := by
  simpa [Closed] using h

/-- What is written of the tree is read back wherever a value may start. -/
def Reads (j : Json) : Prop :=
  ∀ (r : Reader) (frames : List Frame) (rest : Bytes), r.Starts frames → Closed rest →
    r.feed (j.write ++ rest) = (Reader.after j frames).feed rest

theorem feed_writeItems {items : List Json} (ih : ∀ item ∈ items, Reads item) (some : items ≠ [])
    {r : Reader} {done : List Json} {frames : List Frame}
    (starts : r.Starts (.array done :: frames))
    (rest : Bytes) :
    r.feed (writeItems items ++ rest) =
      (Reader.after (.array (done.reverse ++ items)) frames).feed rest := by
  -- An item that has been read goes into the frame, so the reader and its frame change on the way.
  induction items generalizing r done with
  | nil => contradiction
  | cons item items more =>
    have read := ih item List.mem_cons_self r (.array done :: frames)
    cases items with
    | nil =>
      rw [writeItems, List.append_assoc, List.singleton_append,
        read _ starts (closed_cons (by decide) rest), feed_punctuation rfl rfl]
      simp [step]
    | cons next items =>
      have tail := more (fun i hi => ih i (List.mem_cons_of_mem _ hi)) (List.cons_ne_nil _ _)
        (starts_value (.array (item :: done) :: frames))
      rw [writeItems.eq_3 _ _ (List.cons_ne_nil _ _), List.append_assoc, List.cons_append,
        read _ starts (closed_cons (by decide) _), feed_punctuation rfl rfl]
      simpa [step] using tail

theorem feed_writeMembers {members : List (Bytes × Json)}
    (named : ∀ m ∈ members, ∃ bytes, m.1 = Escape.encode bytes) (ih : ∀ m ∈ members, Reads m.2)
    (some : members ≠ []) {r : Reader} {done : List (Bytes × Json)} {frames : List Frame}
    (names : r.Names done frames) (rest : Bytes) :
    r.feed (writeMembers members ++ rest) =
      (Reader.after (.object (done.reverse ++ members)) frames).feed rest := by
  induction members generalizing r done with
  | nil => contradiction
  | cons m members more =>
    obtain ⟨name, value⟩ := m
    obtain ⟨bytes, rfl⟩ : ∃ bytes, name = Escape.encode bytes := named _ List.mem_cons_self
    have read := fun rest => ih _ List.mem_cons_self _ _ rest
      (starts_value (.object done (Escape.encode bytes) :: frames))
    cases members with
    | nil =>
      rw [writeMembers, List.append_assoc, List.append_assoc, feed_quoted, names, Option.bind_some,
        List.cons_append, feed_punctuation rfl rfl, List.singleton_append]
      change (Reader.value _).feed _ = _
      rw [read _ (closed_cons (by decide) rest), feed_punctuation rfl rfl]
      simp [step]
    | cons next members =>
      have tail := more (fun m hm => named m (List.mem_cons_of_mem _ hm))
        (fun m hm => ih m (List.mem_cons_of_mem _ hm)) (List.cons_ne_nil _ _)
        (names_name ((Escape.encode bytes, value) :: done) frames)
      rw [writeMembers.eq_3 _ _ _ (List.cons_ne_nil _ _), List.append_assoc, List.append_assoc,
        feed_quoted, names, Option.bind_some, List.cons_append, feed_punctuation rfl rfl,
        List.cons_append]
      change (Reader.value _).feed _ = _
      rw [read _ (closed_cons (by decide) _), feed_punctuation rfl rfl]
      simpa [step] using tail

theorem reads_of_plain {j : Json} (h : Plain j) : Reads j := by
  -- Frames and rest stay open: an item is read under the frame of its array, a comma behind it.
  induction h with
  | null =>
    intro r frames rest starts _
    exact (feed_cons rfl rfl r).trans (by rw [starts _ (by simp)]; rfl)
  | bool value =>
    intro r frames rest starts _
    cases value <;> exact (feed_cons rfl rfl r).trans (by rw [starts _ (by simp)]; rfl)
  | int n =>
    intro r frames rest starts closed
    obtain ⟨b, s, hs, blank, next⟩ := Token.next?_int n closed
    change r.feed (intDigits n ++ rest) = _
    rw [hs, feed_cons blank next, starts _ (by simp)]
    rfl
  | string text =>
    intro r frames rest starts _
    rw [write, feed_quoted, starts _ (by simp)]
    rfl
  | @array items _ ih =>
    intro r frames rest starts _
    rw [write, List.cons_append, feed_punctuation rfl rfl, starts _ (by simp)]
    change (Reader.itemOrEnd frames).feed _ = _
    by_cases some : items = []
    · rw [some, writeItems, List.singleton_append, feed_punctuation rfl rfl]
      rfl
    · exact feed_writeItems ih some (starts_itemOrEnd frames) rest
  | @object members named _ ih =>
    intro r frames rest starts _
    rw [write, List.cons_append, feed_punctuation rfl rfl, starts _ (by simp)]
    change (Reader.nameOrEnd frames).feed _ = _
    by_cases some : members = []
    · rw [some, writeMembers, List.singleton_append, feed_punctuation rfl rfl]
      rfl
    · exact feed_writeMembers (fun m h => (named m h).imp' Text.utf8 fun _ => id) ih some
        (names_nameOrEnd frames) rest

end Reader

theorem read?_eq_feed (s : Bytes) : read? s = ((Reader.value []).feed s).bind Reader.result? := by
  simp [read?, Reader.feed, Option.bind_assoc]

theorem read?_write {j : Json} (h : Plain j) : read? j.write = some j := by
  have fed := Reader.reads_of_plain h (.value []) [] [] (Reader.starts_value []) (by simp [Closed])
  rw [List.append_nil, Reader.feed_nil] at fed
  rw [read?_eq_feed, fed]
  rfl

theorem write_injective {j k : Json} (hj : Plain j) (hk : Plain k) (h : j.write = k.write) :
    j = k := by
  simpa [read?_write hj, read?_write hk] using congrArg read? h

end Warrant.Json
