import Warrant.Bytes

/-!
JSON texts as trees. Strings, member names and numbers are kept as they are written, so a tree and
its compact text determine each other, and what nobody asks for is never interpreted.
-/

namespace Warrant

/-- A string stands here without its quotes and with its escapes. -/
inductive Json
  | null
  | bool (value : Bool)
  | number (written : Bytes)
  | string (written : Bytes)
  | array (items : List Json)
  | object (members : List (Bytes × Json))

namespace Json

abbrev quote : UInt8 := 34

def quoted (written : Bytes) : Bytes :=
  quote :: written ++ [quote]

mutual

def write : Json → Bytes
  | .null => [110, 117, 108, 108]
  | .bool true => [116, 114, 117, 101]
  | .bool false => [102, 97, 108, 115, 101]
  | .number written => written
  | .string written => quoted written
  | .array items => 91 :: writeItems items
  | .object members => 123 :: writeMembers members

def writeItems : List Json → Bytes
  | [] => [93]
  | [item] => item.write ++ [93]
  | item :: rest => item.write ++ 44 :: writeItems rest

def writeMembers : List (Bytes × Json) → Bytes
  | [] => [125]
  | [(name, value)] => quoted name ++ 58 :: value.write ++ [125]
  | (name, value) :: rest => quoted name ++ 58 :: value.write ++ 44 :: writeMembers rest

end

/-- The order of members in canonical form: by the bytes of the written name, its closing quote
included. -/
def nameLe (a b : Bytes × Json) : Bool :=
  Bytes.le (a.1 ++ [quote]) (b.1 ++ [quote])

mutual

def canonical : Json → Json
  | .array items => .array (canonicalItems items)
  | .object members => .object ((canonicalMembers members).mergeSort nameLe)
  | j => j

def canonicalItems : List Json → List Json
  | [] => []
  | item :: rest => item.canonical :: canonicalItems rest

def canonicalMembers : List (Bytes × Json) → List (Bytes × Json)
  | [] => []
  | (name, value) :: rest => (name, value.canonical) :: canonicalMembers rest

end

end Json

end Warrant
