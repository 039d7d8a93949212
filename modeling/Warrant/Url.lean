import Warrant.Domain
import Warrant.Text
import Warrant.Url.Address
import Warrant.Url.Target

namespace Warrant

structure Url where
  scheme : String
  rest : List Char
  deriving DecidableEq

namespace Url

def isEdge (c : Char) : Bool :=
  c.toNat ≤ 32

def isBreak (c : Char) : Bool :=
  c = '\t' || c = '\n' || c = '\r'

/-- The text that counts: without controls and spaces at its ends, and without tabs and line breaks
anywhere. -/
def relevant (text : String) : List Char :=
  (Text.trimBy isEdge text).toList.filter fun c => !isBreak c

def isSchemeChar (c : Char) : Bool :=
  c.isAlphanum || c = '+' || c = '-' || c = '.'

def splitScheme (text : List Char) : Option (String × List Char) :=
  match text with
  | c :: _ =>
    match text.dropWhile isSchemeChar with
    | ':' :: rest =>
      if c.isAlpha then some (Text.lower (String.ofList (text.takeWhile isSchemeChar)), rest)
      else none
    | _ => none
  | [] => none

def isSpecial (scheme : String) : Bool :=
  ["http", "https", "ws", "wss", "ftp"].contains scheme

def isSlash (special : Bool) (c : Char) : Bool :=
  c = '/' || (special && c = '\\')

def endsAuthority (special : Bool) (c : Char) : Bool :=
  isSlash special c || c = '?' || c = '#'

def percentDecode : Bytes → Bytes
  | 37 :: a :: b :: rest =>
    match Hex.value? (Char.ofNat a.toNat), Hex.value? (Char.ofNat b.toNat) with
    | some x, some y => UInt8.ofNat (16 * x + y) :: percentDecode rest
    | _, _ => 37 :: percentDecode (a :: b :: rest)
  | b :: rest => b :: percentDecode rest
  | [] => []

def isForbiddenInHost (c : Char) : Bool :=
  c.toNat = 0 || c = ' ' || isBreak c || "#/:<>?@[\\]^|".toList.contains c

/-- A domain, or the four numbers of an address: what ends in a number has to be one. -/
def isName (host : List Char) : Bool :=
  let decoded := Text.ofUtf8Lossy (percentDecode (Text.utf8 (String.ofList host)))
  match Domain.read? decoded.toList with
  | some domain => !domain.isEmpty && (!endsInNumber domain.labels || isIPv4 domain.labels)
  | none => false

def isHost (special : Bool) (host : List Char) : Bool :=
  match host with
  | '[' :: rest => rest.getLast? == some ']' && isIPv6 rest.dropLast
  | _ => if special then isName host else !host.any isForbiddenInHost

def isPort (port : List Char) : Bool :=
  let digits := port.takeWhile (· ≠ '\\')
  digits.all Char.isDigit && (readBase? 10 digits).any (· < 65536)

def splitPort (bracketed : Bool) : List Char → List Char × Option (List Char)
  | [] => ([], none)
  | ':' :: rest =>
    if bracketed then
      let (host, port) := splitPort bracketed rest
      (':' :: host, port)
    else ([], some rest)
  | c :: rest =>
    let (host, port) := splitPort (c = '[' || (bracketed && c != ']')) rest
    (c :: host, port)

def splitUser (authority : List Char) : Option (List Char) × List Char :=
  let host := (authority.reverse.takeWhile (· ≠ '@')).reverse
  let user := authority.take (authority.length - host.length)
  (if user.isEmpty then none else some user.dropLast, host)

/-- A user without a name and a password is none, but an `@` alone has to stand at the end of the
URL. -/
def allowsNoHost (user : Option (List Char)) (atEnd : Bool) : Bool :=
  match user with
  | none | some [':'] => true
  | some [] => atEnd
  | _ => false

def isAuthority (special : Bool) (authority : List Char) (atEnd : Bool) : Bool :=
  let (user, rest) := splitUser authority
  let (host, port) := splitPort false rest
  if host.isEmpty then !special && port.isNone && allowsNoHost user atEnd
  else isHost special host && port.all isPort

def ofAuthority? (scheme : String) (special : Bool) (text : List Char) : Option Url :=
  let authority := text.takeWhile fun c => !endsAuthority special c
  let rest := text.dropWhile fun c => !endsAuthority special c
  if isAuthority special authority rest.isEmpty then some ⟨scheme, rest⟩ else none

/-- A file may be on a host; a drive is none. -/
def ofFile? (text : List Char) : Option Url :=
  match text with
  | a :: b :: tail =>
    if isSlash true a && isSlash true b then
      let host := tail.takeWhile fun c => !endsAuthority true c
      if host.isEmpty || isDrive host || isHost true host then
        some ⟨"file", tail.dropWhile fun c => !endsAuthority true c⟩
      else none
    else some ⟨"file", text⟩
  | _ => some ⟨"file", text⟩

def read? (text : String) : Option Url :=
  match splitScheme (relevant text) with
  | some (scheme, rest) =>
    if isSpecial scheme then ofAuthority? scheme true (rest.dropWhile (isSlash true))
    else if scheme = "file" then ofFile? rest
    else
      match rest with
      | '/' :: '/' :: tail => ofAuthority? scheme false tail
      | _ => some ⟨scheme, rest⟩
  | none => none

def asked (u : Url) : String :=
  target u.rest

end Url

end Warrant
