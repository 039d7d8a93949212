import Warrant.Domain.Direction
import Warrant.Domain.Mapping
import Warrant.Domain.Punycode

namespace Warrant

structure Domain where
  labels : List (List Char)
  deriving DecidableEq

namespace Domain

def codeLimit : Nat := 2000

def labelLimit : Nat := 1000

def isAscii (c : Char) : Bool :=
  c.toNat < 128

def isForbidden (c : Char) : Bool :=
  c.toNat ≤ 32 || c.toNat = 127 || "%#/:<>?@[\\]^|.".toList.contains c

def isLabel (label : List Char) : Bool :=
  !label.any isForbidden && !(label.head?.any isMark) && joinersFit [] label &&
    (label.all isAscii || label.length ≤ labelLimit)

/-- The label that a code stands for. A label without other characters than ASCII has no code, and
nor has one that is not in its final form. -/
def decodeLabel? (code : List Char) : Option (List Char) :=
  if code.isEmpty || code.getLast? = some '-' || !code.all isAscii || codeLimit < code.length then
    none
  else
    (Punycode.decode? code).filter fun label =>
      label.all isSettled && label == Text.composed label

def label? (text : List Char) : Option (List Char) :=
  let label :=
    match text with
    | 'x' :: 'n' :: '-' :: '-' :: code => decodeLabel? code
    | _ => some text
  label.filter isLabel

def read? (text : List Char) : Option Domain := do
  let mapped ← map? text
  let labels ← (Text.pieces (· = '.') (Text.composed mapped)).mapM label?
  if labels.any (fun label => label.any isRightToLeft) &&
      !labels.all (fun label => keepsDirection (label.map direction)) then none
  else return ⟨labels⟩

def isEmpty (d : Domain) : Bool :=
  d.labels.all List.isEmpty && d.labels.length ≤ 1

end Domain

end Warrant
