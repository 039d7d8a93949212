import Warrant.Bytes
import Warrant.Text
import Warrant.Text.Utf8

namespace Warrant.Url

def escape (b : UInt8) : List Char :=
  '%' :: (Hex.encodeChars [b]).map Char.toUpper

def escapeChar (listed : List Char) (c : Char) : List Char :=
  if c.toNat < 32 || 127 ≤ c.toNat || listed.contains c then
    (Text.utf8 c.toString).flatMap escape
  else [c]

def escapePath (path : List Char) : List Char :=
  path.flatMap (escapeChar [' ', '"', '#', '<', '>', '?', '\x60', '\x7b', '\x7d'])

def escapeQuery (query : List Char) : List Char :=
  query.flatMap (escapeChar [' ', '"', '#', '<', '>', '\x27'])

def isHere (segment : List Char) : Bool :=
  [".", "%2e"].contains (Text.lower (String.ofList segment))

def isBack (segment : List Char) : Bool :=
  ["..", ".%2e", "%2e.", "%2e%2e"].contains (Text.lower (String.ofList segment))

def isDrive (segment : List Char) : Bool :=
  match segment with
  | [letter, mark] => letter.isAlpha && (mark = ':' || mark = '|')
  | _ => false

def back : List (List Char) → List (List Char)
  | [] => []
  | segment :: before => if isDrive segment then segment :: before else before

/-- Walks the segments of a path; those kept so far stand last to first. A detour at the end leaves
an empty segment. -/
def walk (kept : List (List Char)) : List (List Char) → List (List Char)
  | [] => kept.reverse
  | segment :: rest =>
    let next :=
      if isBack segment then back kept
      else if isHere segment then kept
      else segment :: kept
    if rest.isEmpty && (isBack segment || isHere segment) then ([] :: next).reverse
    else walk next rest

def path (text : List Char) : List Char :=
  let segments := Text.pieces (fun c => c = '/' || c = '\\') text
  let segments :=
    match segments with
    | [] :: rest => if rest.isEmpty then segments else rest
    | _ => segments
  (walk [] segments).flatMap fun segment => '/' :: escapePath segment

def target (text : List Char) : String :=
  let asked := text.takeWhile (· ≠ '#')
  let query := asked.dropWhile (· ≠ '?')
  String.ofList
    (path (asked.takeWhile (· ≠ '?')) ++
      match query with
      | [] => []
      | mark :: rest => mark :: escapeQuery rest)

end Warrant.Url
