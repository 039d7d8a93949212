import Warrant.Json.Decode

/-!
Documents in which everything can be told: strings and names are texts, numbers are within the range
of doubles, and nothing is nested too deeply.
-/

namespace Warrant.Json

def deepest : Nat := 127

mutual

def isTellableWithin (depth : Nat) : Json → Bool
  | .string written => (Escape.text? written).isSome
  | .number written => (Json.number written).float?.isSome
  | .array items =>
    match depth with
    | 0 => false
    | depth + 1 => areTellableWithin depth items
  | .object members =>
    match depth with
    | 0 => false
    | depth + 1 => areNamed members && membersAreTellableWithin depth members
  | _ => true

def areTellableWithin (depth : Nat) : List Json → Bool
  | [] => true
  | item :: rest => item.isTellableWithin depth && areTellableWithin depth rest

def membersAreTellableWithin (depth : Nat) : List (Bytes × Json) → Bool
  | [] => true
  | (_, value) :: rest => value.isTellableWithin depth && membersAreTellableWithin depth rest

end

def isTellable (j : Json) : Bool :=
  j.isTellableWithin deepest

end Warrant.Json
