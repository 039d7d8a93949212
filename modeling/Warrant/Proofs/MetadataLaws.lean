import Warrant.Metadata
import Warrant.Proofs.RoundTripLaws
import Mathlib.Data.List.Induction

namespace Warrant

@[simp] theorem Text.lower_lower (text : String) : lower (lower text) = lower text := by
  have again (c : Char) : c.toLower.toLower = c.toLower := by
    unfold Char.toLower
    grind
  simp [lower, String.map_map, Function.comp_def, again]

namespace Metadata

section

variable (m : Metadata) (key value k : String)

theorem get?_insert :
    (m.insert key value).get? k =
      if Text.sameIgnoringCase k key then some value else m.get? k := by
  simp only [get?, insert, Dictionary.get?_insert, Text.sameIgnoringCase_iff]

theorem get?_remove :
    (m.remove key).2.get? k = if Text.sameIgnoringCase k key then none else m.get? k := by
  simp only [get?, remove, Dictionary.get?_erase, Text.sameIgnoringCase_iff]

end

def IsLowered (m : Metadata) : Prop :=
  ∀ e ∈ m.entries.entries, Text.lower e.1 = e.1

theorem isLowered_empty : IsLowered empty :=
  fun _ mem => absurd mem List.not_mem_nil

theorem IsLowered.insert {m : Metadata} (h : m.IsLowered) (key value : String) :
    (m.insert key value).IsLowered := by
  rintro ⟨k, v⟩ mem
  rw [Metadata.insert, ← Dictionary.get?_eq_some_iff, Dictionary.get?_insert] at mem
  split at mem
  · next new =>
    rw [new]
    exact Text.lower_lower key
  · exact h (k, v) (Dictionary.get?_eq_some_iff.1 mem)

theorem IsLowered.remove {m : Metadata} (h : m.IsLowered) (key : String) :
    (m.remove key).2.IsLowered :=
  fun e mem => h e (List.mem_filter.1 mem).1

theorem IsLowered.ext {a b : Metadata} (ha : a.IsLowered) (hb : b.IsLowered)
    (entries : ∀ key, a.get? key = b.get? key) (request : a.claimRequest = b.claimRequest) :
    a = b := by
  have absent {m : Metadata} (h : m.IsLowered) {key : String} (capital : Text.lower key ≠ key) :
      m.entries.get? key = none := by
    rw [Option.eq_none_iff_forall_ne_some]
    intro value found
    exact capital (h _ (Dictionary.get?_eq_some_iff.1 found))
  have same : a.entries = b.entries := by
    apply Dictionary.ext_get?
    intro key
    by_cases small : Text.lower key = key
    · rw [← small]
      exact entries key
    · rw [absent ha small, absent hb small]
  cases a
  cases b
  simp_all

/-! ### As they are made -/

/-- A change of metadata. The token is put in and taken out like any other entry. -/
inductive Edit
  | insert (key value : String)
  | remove (key : String)
  | request (claim : String)

def edit (m : Metadata) : Edit → Metadata
  | .insert key value => m.insert key value
  | .remove key => (m.remove key).2
  | .request claim => m.withClaimRequest claim

def made (edits : List Edit) : Metadata :=
  edits.foldl edit empty

theorem made_concat (edits : List Edit) (e : Edit) : made (edits ++ [e]) = (made edits).edit e := by
  simp [made]

theorem IsLowered.edit {m : Metadata} (h : m.IsLowered) (e : Edit) : (m.edit e).IsLowered := by
  cases e with
  | insert key value => exact h.insert key value
  | remove key => exact h.remove key
  | request claim => exact h

theorem isLowered_made (edits : List Edit) : (made edits).IsLowered := by
  induction edits using List.reverseRecOn with
  | nil => exact isLowered_empty
  | append_singleton edits e ih =>
    rw [made_concat]
    exact ih.edit e

theorem lower_claimKey : Text.lower claimKey = claimKey := by decide +kernel

def isToken (key : String) : Bool :=
  Text.sameIgnoringCase key claimKey

def Edit.isOfToken : Edit → Bool
  | .insert key _ => isToken key
  | .remove key => isToken key
  | .request _ => false

theorem isToken_congr {key k : String} (same : Text.sameIgnoringCase k key = true) :
    isToken k = isToken key := by
  rw [Text.sameIgnoringCase_iff] at same
  rw [isToken, isToken, Text.sameIgnoringCase, Text.sameIgnoringCase, same]

theorem get?_edit_of_isOfToken (m : Metadata) {e : Edit} (ofToken : e.isOfToken = true)
    {key : String} (other : isToken key = false) : (m.edit e).get? key = m.get? key := by
  have apart {k : String} (token : isToken k = true) : Text.sameIgnoringCase key k = false := by
    rw [Bool.eq_false_iff]
    intro same
    simp [isToken_congr same, token] at other
  cases e with
  | insert k value => simp [edit, get?_insert, apart ofToken]
  | remove k => simp [edit, get?_remove, apart ofToken]
  | request _ => rfl

theorem get?_edit_of_not_isOfToken {m n : Metadata} {e : Edit} (elsewhere : e.isOfToken = false)
    (h : ∀ key, n.get? key = if isToken key then none else m.get? key) (key : String) :
    (n.edit e).get? key = if isToken key then none else (m.edit e).get? key := by
  cases e with
  | insert k value =>
    simp only [edit, get?_insert]
    split
    · next same => rw [isToken_congr same, show isToken k = false from elsewhere]; rfl
    · exact h key
  | remove k =>
    simp only [edit, get?_remove]
    split
    · exact (ite_self _).symm
    · exact h key
  | request _ => exact h key

theorem claimRequest_edit_of_isOfToken (m : Metadata) {e : Edit} (ofToken : e.isOfToken = true) :
    (m.edit e).claimRequest = m.claimRequest := by
  cases e with
  | insert _ _ => rfl
  | remove _ => rfl
  | request _ => contradiction

theorem claimRequest_edit_congr {m n : Metadata} (same : m.claimRequest = n.claimRequest)
    (e : Edit) : (m.edit e).claimRequest = (n.edit e).claimRequest := by
  cases e with
  | insert _ _ => exact same
  | remove _ => exact same
  | request _ => rfl

/-! ### With a token and without -/

/-- The metadata are as they were, but for the token that has been taken out. -/
structure Strips (m left : Metadata) : Prop where
  entries : left.entries.entries = m.entries.entries.filter fun e => !isToken e.1
  get? : ∀ key, left.get? key = if isToken key then none else m.get? key
  claimRequest : left.claimRequest = m.claimRequest

theorem strips_takeToken {m : Metadata} (h : m.IsLowered) : m.Strips m.takeToken.2 where
  entries := by
    refine List.filter_congr fun e mem => ?_
    rw [isToken, Text.sameIgnoringCase, h e mem]
    rfl
  get? := get?_remove m claimKey
  claimRequest := rfl

def withoutToken (edits : List Edit) : List Edit :=
  edits.filter fun e => !e.isOfToken

theorem withoutToken_concat (edits : List Edit) (e : Edit) :
    withoutToken (edits ++ [e]) =
      if e.isOfToken then withoutToken edits else withoutToken edits ++ [e] := by
  cases ofToken : e.isOfToken <;> simp [withoutToken, ofToken]

theorem get?_made_withoutToken (edits : List Edit) (key : String) :
    (made (withoutToken edits)).get? key =
      if isToken key then none else (made edits).get? key := by
  -- Edits are made one after the other, so the last one is taken off.
  induction edits using List.reverseRecOn generalizing key with
  | nil => exact (ite_self _).symm
  | append_singleton edits e ih =>
    rw [withoutToken_concat, made_concat]
    split
    · next ofToken =>
      refine (ih key).trans ?_
      split
      · rfl
      · next other => exact (get?_edit_of_isOfToken _ ofToken (Bool.eq_false_iff.2 other)).symm
    · next elsewhere =>
      rw [made_concat]
      exact get?_edit_of_not_isOfToken (Bool.eq_false_iff.2 elsewhere) ih key

theorem claimRequest_made_withoutToken (edits : List Edit) :
    (made (withoutToken edits)).claimRequest = (made edits).claimRequest := by
  induction edits using List.reverseRecOn with
  | nil => rfl
  | append_singleton edits e ih =>
    rw [withoutToken_concat, made_concat]
    split
    · next ofToken => exact ih.trans (claimRequest_edit_of_isOfToken _ ofToken).symm
    · rw [made_concat]
      exact claimRequest_edit_congr ih e

theorem takeToken_made (edits : List Edit) :
    (made edits).takeToken.2 = made (withoutToken edits) := by
  have strips := strips_takeToken (isLowered_made edits)
  apply ((isLowered_made edits).remove claimKey).ext (isLowered_made _)
  · intro key
    exact (strips.get? key).trans (get?_made_withoutToken edits key).symm
  · exact (claimRequest_made_withoutToken edits).symm

/-- The metadata are as they were, but for a token, which is the claim's. -/
structure Bears (m : Metadata) (claim : Claim) (sent : Metadata) : Prop where
  token : ∀ key, isToken key = true → sent.get? key = some (Record.marshal claim)
  stored : ∀ e ∈ sent.entries.entries, isToken e.1 = true → e = (claimKey, Record.marshal claim)
  read : Record.unmarshal (Record.marshal claim) = .ok claim
  get? : ∀ key, isToken key = false → sent.get? key = m.get? key
  entries : (sent.entries.entries.filter fun e => !isToken e.1) =
    m.entries.entries.filter fun e => !isToken e.1
  claimRequest : sent.claimRequest = m.claimRequest

theorem bears_withToken {m : Metadata} (h : m.IsLowered) (claim : Claim) :
    m.Bears claim (m.withToken (Record.marshal claim)) where
  token key token := (get?_insert m claimKey _ key).trans (if_pos token)
  stored := by
    rintro ⟨k, v⟩ mem token
    have small : Text.lower k = k := h.insert claimKey _ _ mem
    have key : k = claimKey := by
      rwa [isToken, Text.sameIgnoringCase_iff, small, lower_claimKey] at token
    subst key
    have found : (m.withToken (Record.marshal claim)).entries.get? claimKey = some v :=
      Dictionary.get?_eq_some_iff.2 mem
    rw [withToken, insert, lower_claimKey, Dictionary.get?_insert, if_pos rfl] at found
    cases found
    rfl
  read := Claim.codec.travels.unmarshal_alone claim
  get? key other := (get?_insert m claimKey _ key).trans (if_neg (by simp_all [isToken]))
  entries := by
    refine Dictionary.filter_insertEntry (fun _ => ?_) _ _
    simp [isToken, lower_claimKey]
  claimRequest := rfl

end Metadata

end Warrant
