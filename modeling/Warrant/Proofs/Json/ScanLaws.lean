import Warrant.Proofs.Json.ReadLaws

namespace Warrant.Json

def isNumber : Json → Bool
  | .number _ => true
  | _ => false

namespace Token

/-! ### Strings -/

theorem scanString_text {read s w rest : Bytes} (h : scanString read s = some (w, rest)) :
    w ++ quote :: rest = read.reverse ++ s := by
  fun_induction scanString read s <;> simp_all

theorem scanString_append {read s w rest : Bytes} (h : scanString read s = some (w, rest))
    (more : Bytes) : scanString read (s ++ more) = some (w, rest ++ more) := by
  fun_induction scanString read s with
  | case5 read b rest short letter ih =>
    have lettered : b ≠ 117 := by
      rintro rfl
      contradiction
    simp [scanString, lettered, letter, ih h]
  | _ => simp_all [scanString]

/-! ### Numbers -/

/-- `w` is what `scan` takes off `s`, with no regard for more than the byte behind it. -/
structure TakenOff (scan : Bytes → Option (Bytes × Bytes)) (s w rest : Bytes) : Prop where
  text : w ++ rest = s
  append : rest ≠ [] → ∀ more, scan (s ++ more) = some (w, rest ++ more)

theorem digits_text (s : Bytes) : (digits s).1 ++ (digits s).2 = s :=
  List.takeWhile_append_dropWhile

theorem digits_cons {b : UInt8} (h : isDigit b = true) (s : Bytes) :
    digits (b :: s) = (b :: (digits s).1, (digits s).2) := by
  simp [digits, h]

theorem digits_append_of_ne_nil {s : Bytes} (h : (digits s).2 ≠ []) (more : Bytes) :
    digits (s ++ more) = ((digits s).1, (digits s).2 ++ more) := by
  induction s with
  | nil => contradiction
  | cons b s ih =>
    cases hb : isDigit b with
    | false => simp [digits, hb]
    | true =>
      rw [digits_cons hb] at h ⊢
      rw [List.cons_append, digits_cons hb, ih h]

section

variable {s w rest : Bytes}

theorem takenOff_scanWhole (h : scanWhole s = some (w, rest)) : TakenOff scanWhole s w rest := by
  fun_cases scanWhole s with
  | case1 tail =>
    cases h
    exact ⟨rfl, fun _ _ => rfl⟩
  | case2 b tail other digit =>
    rw [scanWhole.eq_2 _ _ other, if_pos digit] at h
    cases h
    refine ⟨congrArg (b :: ·) (digits_text tail), fun unread more => ?_⟩
    rw [List.cons_append, scanWhole.eq_2 _ _ other, if_pos digit, digits_append_of_ne_nil unread]
  | case3 b tail other digit => simp [scanWhole, digit] at h
  | case4 => contradiction

theorem takenOff_scanFraction (h : scanFraction s = some (w, rest)) :
    TakenOff scanFraction s w rest := by
  fun_cases scanFraction s with
  | case1 tail none => simp [scanFraction, none] at h
  | case2 tail some =>
    rw [scanFraction, if_neg some] at h
    cases h
    refine ⟨congrArg (46 :: ·) (digits_text tail), fun unread more => ?_⟩
    rw [List.cons_append, scanFraction, digits_append_of_ne_nil unread, if_neg some]
  | case3 s other =>
    rw [scanFraction.eq_2 _ other] at h
    cases h
    refine ⟨rfl, fun unread more => ?_⟩
    obtain ⟨b, tail, rfl⟩ := List.exists_cons_of_ne_nil unread
    exact scanFraction.eq_2 _ fun _ point => other tail (by simp_all)

theorem scanSign_text (s : Bytes) : (scanSign s).1 ++ (scanSign s).2 = s := by
  unfold scanSign
  split <;> rfl

theorem scanSign_append (h : s ≠ []) (more : Bytes) :
    scanSign (s ++ more) = ((scanSign s).1, (scanSign s).2 ++ more) := by
  fun_cases scanSign s with
  | case1 tail => rfl
  | case2 tail => rfl
  | case3 s plus minus =>
    obtain ⟨b, tail, rfl⟩ := List.exists_cons_of_ne_nil h
    apply scanSign.eq_3
    · intro _ same
      exact plus tail (by simp_all)
    · intro _ same
      exact minus tail (by simp_all)

theorem scanExponent_cons {b : UInt8} {tail : Bytes} (mark : (b = 101 || b = 69) = true)
    (some : ¬(digits (scanSign tail).2).1.isEmpty) :
    scanExponent (b :: tail) = .some (b :: (scanSign tail).1 ++ (digits (scanSign tail).2).1,
      (digits (scanSign tail).2).2) := by
  rw [scanExponent, if_pos mark]
  exact if_neg some

theorem takenOff_scanExponent (h : scanExponent s = some (w, rest)) :
    TakenOff scanExponent s w rest := by
  fun_cases scanExponent s with
  | case1 b tail mark _ _ signed none => simp [scanExponent, mark, signed, none] at h
  | case2 b tail mark sign ds signed some =>
    have digit : ¬(digits (scanSign tail).2).1.isEmpty := by rwa [signed]
    rw [scanExponent_cons mark digit] at h
    cases h
    refine ⟨?_, fun unread more => ?_⟩
    · rw [List.append_assoc, List.cons_append, digits_text, scanSign_text]
    · have begun : tail ≠ [] := by
        rintro rfl
        contradiction
      have signed := scanSign_append begun more
      have read := digits_append_of_ne_nil unread more
      rw [List.cons_append, scanExponent_cons mark (by rwa [signed, read]), signed, read]
  | case3 b tail other =>
    rw [scanExponent, if_neg other] at h
    cases h
    refine ⟨rfl, fun _ more => ?_⟩
    rw [List.cons_append, scanExponent, if_neg other]
  | case4 =>
    cases h
    exact ⟨rfl, nofun⟩

theorem scanUnsigned_eq_some_iff : scanUnsigned s = some (w, rest) ↔
    ∃ whole fraction exponent s₁ s₂,
      scanWhole s = some (whole, s₁) ∧ scanFraction s₁ = some (fraction, s₂) ∧
        scanExponent s₂ = some (exponent, rest) ∧ w = whole ++ fraction ++ exponent := by
  constructor
  · intro h
    fun_cases scanUnsigned s with
    | case4 _ _ h₁ _ _ h₂ _ _ h₃ =>
      simp only [scanUnsigned, h₁, h₂, h₃, Option.some.injEq, Prod.mk.injEq] at h
      obtain ⟨rfl, rfl⟩ := h
      exact ⟨_, _, _, _, _, h₁, h₂, h₃, rfl⟩
    | _ => simp_all [scanUnsigned]
  · rintro ⟨whole, fraction, exponent, s₁, s₂, h₁, h₂, h₃, rfl⟩
    simp [scanUnsigned, h₁, h₂, h₃]

theorem takenOff_scanUnsigned (h : scanUnsigned s = some (w, rest)) :
    TakenOff scanUnsigned s w rest := by
  obtain ⟨whole, fraction, exponent, s₁, s₂, h₁, h₂, h₃, rfl⟩ := scanUnsigned_eq_some_iff.1 h
  have first := takenOff_scanWhole h₁
  have second := takenOff_scanFraction h₂
  have third := takenOff_scanExponent h₃
  refine ⟨?_, fun unread more => ?_⟩
  · rw [List.append_assoc, third.text, List.append_assoc, second.text, first.text]
  · -- Something is left after the last part, so something is left after each.
    have open₂ : s₂ ≠ [] := by
      rintro rfl
      exact unread (List.append_eq_nil_iff.1 third.text).2
    have open₁ : s₁ ≠ [] := by
      rintro rfl
      exact open₂ (List.append_eq_nil_iff.1 second.text).2
    exact scanUnsigned_eq_some_iff.2 ⟨_, _, _, _, _, first.append open₁ more,
      second.append open₂ more, third.append unread more, rfl⟩

theorem takenOff_scanNumber (h : scanNumber s = some (w, rest)) :
    TakenOff scanNumber s w rest := by
  fun_cases scanNumber s with
  | case1 tail =>
    obtain ⟨⟨v, _⟩, read, same⟩ := Option.map_eq_some_iff.1 h
    cases same
    have unsigned := takenOff_scanUnsigned read
    refine ⟨congrArg (45 :: ·) unsigned.text, fun unread more => ?_⟩
    rw [List.cons_append, scanNumber, unsigned.append unread]
    rfl
  | case2 s other =>
    rw [scanNumber.eq_2 _ other] at h
    have unsigned := takenOff_scanUnsigned h
    refine ⟨unsigned.text, fun unread more => ?_⟩
    obtain ⟨b, tail, rfl⟩ : ∃ b tail, s = b :: tail := by
      refine List.exists_cons_of_ne_nil ?_
      rintro rfl
      contradiction
    rw [← unsigned.append unread]
    exact scanNumber.eq_2 _ fun _ minus => other tail (by simp_all)

end

/-! ### All tokens -/

def text : Token → Bytes
  | .openArray => [91]
  | .closeArray => [93]
  | .openObject => [123]
  | .closeObject => [125]
  | .colon => [58]
  | .comma => [44]
  | .string written => quoted written
  | .scalar value => value.write

def isNumber : Token → Bool
  | .scalar value => value.isNumber
  | _ => false

theorem punctuation?_text {b : UInt8} {t : Token} (h : punctuation? b = some t) :
    t.text = [b] := by
  unfold punctuation? at h
  grind [text]

theorem literal?_text {s rest : Bytes} {j : Json} (h : literal? s = some (j, rest)) :
    j.write ++ rest = s := by
  fun_cases literal? s with
  | case4 => simp_all [literal?]
  | _ => cases h; rfl

theorem literal?_append {s rest : Bytes} {j : Json} (h : literal? s = some (j, rest))
    (more : Bytes) : literal? (s ++ more) = some (j, rest ++ more) := by
  fun_cases literal? s with
  | case4 => simp_all [literal?]
  | _ => cases h; rfl

theorem literal?_of_scanNumber {b : UInt8} {rest w tail : Bytes}
    (h : scanNumber (b :: rest) = some (w, tail)) (s : Bytes) : literal? (b :: s) = none := by
  refine literal?_eq_none ⟨?_, ?_, ?_⟩ s <;>
  · rintro rfl
    simp [scanNumber, scanUnsigned, scanWhole, isDigit] at h

section

variable {b : UInt8} {rest : Bytes}

theorem next?_quote :
    next? quote rest = (scanString [] rest).map fun (w, tail) => (.string w, tail) :=
  rfl

theorem next?_literal (mark : punctuation? b = none) (string : b ≠ quote) {j : Json} {tail : Bytes}
    (read : literal? (b :: rest) = some (j, tail)) : next? b rest = some (.scalar j, tail) := by
  simp [next?, mark, string, read]

theorem next?_number (mark : punctuation? b = none) (string : b ≠ quote)
    (literal : literal? (b :: rest) = none) :
    next? b rest = (scanNumber (b :: rest)).map fun (w, tail) => (.scalar (.number w), tail) := by
  simp [next?, mark, string, literal]

end

/-- All but numbers tell by themselves where they end. -/
theorem takenOff_next? {b : UInt8} {rest tail : Bytes} {t : Token}
    (h : next? b rest = some (t, tail)) :
    t.text ++ tail = b :: rest ∧ ((t.isNumber = true → tail ≠ []) →
      ∀ more, next? b (rest ++ more) = some (t, tail ++ more)) := by
  fun_cases next? b rest with
  | case1 t' mark =>
    rw [next?_punctuation mark] at h
    cases h
    refine ⟨congrArg (· ++ rest) (punctuation?_text mark), fun _ more => ?_⟩
    exact next?_punctuation mark _
  | case2 mark string =>
    rw [string, next?_quote] at h
    obtain ⟨⟨w, _⟩, read, same⟩ := Option.map_eq_some_iff.1 h
    cases same
    refine ⟨?_, fun _ more => ?_⟩
    · calc quoted w ++ tail
        _ = quote :: (w ++ quote :: tail) := by simp [quoted]
        _ = b :: rest := by rw [scanString_text read, string]; rfl
    · rw [string, next?_quote, scanString_append read]
      rfl
  | case3 mark string j tail' read =>
    rw [next?_literal mark string read] at h
    cases h
    refine ⟨literal?_text read, fun _ more => ?_⟩
    exact next?_literal mark string (literal?_append read more)
  | case4 mark string literal =>
    rw [next?_number mark string literal] at h
    obtain ⟨⟨w, _⟩, read, same⟩ := Option.map_eq_some_iff.1 h
    cases same
    have number := takenOff_scanNumber read
    refine ⟨number.text, fun ends more => ?_⟩
    have longer := number.append (ends rfl) more
    rw [List.cons_append] at longer
    rw [next?_number mark string (literal?_of_scanNumber read _), longer]
    rfl

/-! ### Whole texts -/

theorem scan_blank {b : UInt8} (blank : isBlank b = true) (rest : Bytes) :
    scan (b :: rest) = scan rest := by
  rw [scan, scanAfter, if_pos blank, scan]

inductive Scans : Bytes → List Token → Prop
  | nil : Scans [] []
  | blank {b rest tokens} : isBlank b = true → Scans rest tokens → Scans (b :: rest) tokens
  | token {b rest t tail tokens} : isBlank b = false → next? b rest = some (t, tail) →
      Scans tail tokens → Scans (b :: rest) (t :: tokens)

theorem exists_scans {read tokens : List Token} {s : Bytes} (h : scanAfter read s = some tokens) :
    ∃ next, Scans s next ∧ tokens = read.reverse ++ next := by
  fun_induction scanAfter read s with
  | case1 read =>
    cases h
    exact ⟨[], .nil, (List.append_nil _).symm⟩
  | case2 read b rest blank ih =>
    obtain ⟨next, scans, same⟩ := ih h
    exact ⟨next, .blank blank scans, same⟩
  | case3 read b rest blank t tail found ih =>
    obtain ⟨next, scans, same⟩ := ih h
    exact ⟨t :: next, .token (by simpa using blank) found scans, by simp [same]⟩
  | case4 => contradiction

theorem scans_of_scan {tokens : List Token} {s : Bytes} (h : scan s = some tokens) :
    Scans s tokens := by
  obtain ⟨_, scans, rfl⟩ := exists_scans h
  exact scans

namespace Scans

variable {s : Bytes} {tokens : List Token}

theorem text_sublist (h : Scans s tokens) : (tokens.flatMap text).Sublist s := by
  induction h with
  | nil => exact .slnil
  | blank _ _ ih => exact ih.cons _
  | token _ found _ ih =>
    rw [List.flatMap_cons, ← (takenOff_next? found).1]
    exact ih.append_left _

theorem scan_append (h : Scans s tokens) (ends : ∀ t ∈ tokens.getLast?, t.isNumber = false)
    (more : Bytes) : scan (s ++ more) = (scan more).map (tokens ++ ·) := by
  induction h with
  | nil => simp
  | blank blank _ ih =>
    rw [List.cons_append, scan_blank blank]
    exact ih ends
  | @token b rest t tail tokens blank found scans ih =>
    have open_ : t.isNumber = true → tail ≠ [] := by
      rintro number rfl
      cases scans
      simp [ends t rfl] at number
    have longer := (takenOff_next? found).2 open_ more
    rw [List.cons_append, scan_cons blank longer, ih, Option.map_map]
    · rfl
    · intro t' last
      exact ends t' (by simp [List.getLast?_cons, Option.mem_def.1 last])

theorem blanks (h : Scans s []) : s.all isBlank = true := by
  induction s with
  | nil => rfl
  | cons b s ih =>
    cases h with
    | blank blank scans => simp [blank, ih scans]

end Scans

theorem scan_blanks_append {blanks : Bytes} (h : blanks.all isBlank = true) (s : Bytes) :
    scan (blanks ++ s) = scan s := by
  induction blanks with
  | nil => rfl
  | cons b blanks ih =>
    rw [List.all_cons, Bool.and_eq_true] at h
    rw [List.cons_append, scan_blank h.1, ih h.2]

theorem scan_blanks {s : Bytes} (h : s.all isBlank = true) : scan s = some [] := by
  have all := scan_blanks_append h []
  rw [List.append_nil] at all
  rw [all, scan, scanAfter, List.reverse_nil]

end Token

/-! ### Values -/

namespace Reader

theorem run_append (r : Reader) (tokens more : List Token) :
    r.run (tokens ++ more) = (r.run tokens).bind fun r => r.run more := by
  induction tokens generalizing r with
  | nil => rfl
  | cons t tokens ih =>
    rw [List.cons_append, run, run]
    cases r.step t with
    | none => rfl
    | some r => exact ih r

theorem run_singleton (r : Reader) (t : Token) : r.run [t] = r.step t := by
  rw [run]
  cases r.step t <;> rfl

theorem result?_eq_some_iff {r : Reader} {j : Json} : r.result? = some j ↔ r = .after j [] := by
  constructor
  · intro h
    fun_cases result? r with
    | case1 => cases h; rfl
    | case2 => simp_all [result?]
  · rintro rfl
    rfl

theorem isNumber_of_step {r : Reader} {t : Token} {j : Json} {frames : List Frame}
    (h : r.step t = some (.after j frames)) (number : t.isNumber = true) : j.isNumber = true := by
  have start {frames' : List Frame} (h : startValue frames' t = some (.after j frames)) :
      j.isNumber = true := by
    cases t <;> simp_all [startValue, Token.isNumber]
  cases r with
  | value _ => exact start h
  | itemOrEnd frames' =>
    have open_ : t ≠ .closeArray := by
      rintro rfl
      contradiction
    exact start ((starts_itemOrEnd frames' t open_).symm.trans h)
  | _ => cases t <;> simp_all [step, startName, Token.isNumber]

theorem ends_of_run {r : Reader} {tokens : List Token} {j : Json} {frames : List Frame}
    (h : r.run tokens = some (.after j frames)) (other : j.isNumber = false) :
    ∀ t ∈ tokens.getLast?, t.isNumber = false := by
  intro t last
  obtain ⟨before, rfl⟩ := List.getLast?_eq_some_iff.1 last
  rw [run_append, Option.bind_eq_some_iff] at h
  obtain ⟨r', -, final⟩ := h
  rw [run_singleton] at final
  cases number : t.isNumber with
  | false => rfl
  | true =>
    rw [isNumber_of_step final number] at other
    contradiction

end Reader

theorem read?_eq_some_iff {s : Bytes} {j : Json} : read? s = some j ↔
    ∃ tokens, Token.scan s = some tokens ∧ (Reader.value []).run tokens = some (.after j []) := by
  simp [read?, Option.bind_eq_some_iff, Reader.result?_eq_some_iff]

theorem read?_blanks_append {blanks : Bytes} (h : blanks.all Token.isBlank = true) (s : Bytes) :
    read? (blanks ++ s) = read? s := by
  rw [read?, Token.scan_blanks_append h, read?]

/-- A value that tells by itself where it ends may be followed by blanks, and by nothing else. -/
theorem read?_append {s : Bytes} {j : Json} (h : read? s = some j) (other : j.isNumber = false)
    (more : Bytes) : read? (s ++ more) = if more.all Token.isBlank then some j else none := by
  obtain ⟨tokens, scanned, run⟩ := read?_eq_some_iff.1 h
  have scans := Token.scans_of_scan scanned
  rw [read?, scans.scan_append (Reader.ends_of_run run other) more]
  cases following : Token.scan more with
  | none =>
    rw [if_neg fun blanks => by simp [Token.scan_blanks blanks] at following]
    rfl
  | some next =>
    cases next with
    | nil =>
      rw [if_pos (Token.scans_of_scan following).blanks]
      simp [run, Reader.result?]
    | cons t next =>
      rw [if_neg fun blanks => by simp [Token.scan_blanks blanks] at following]
      simp [Reader.run_append, run, Reader.run, Reader.step]

end Warrant.Json
