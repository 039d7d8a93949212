import Warrant.Dictionary
import Warrant.Text

namespace Warrant

structure Metadata where
  entries : Dictionary String
  /-- Never sent. -/
  claimRequest : Option String
  deriving DecidableEq

namespace Metadata

def claimKey : String := "x-tessera-claim"

def empty : Metadata := ⟨∅, none⟩

def get? (m : Metadata) (key : String) : Option String :=
  m.entries.get? (Text.lower key)

def insert (m : Metadata) (key value : String) : Metadata :=
  { m with entries := m.entries.insert (Text.lower key) value }

def remove (m : Metadata) (key : String) : Option String × Metadata :=
  (m.get? key, { m with entries := m.entries.erase (Text.lower key) })

def ofList (entries : List (String × String)) : Metadata :=
  entries.foldl (fun m e => m.insert e.1 e.2) empty

def token? (m : Metadata) : Option String :=
  m.get? claimKey

def withToken (m : Metadata) (token : String) : Metadata :=
  m.insert claimKey token

/-- A token goes no further than one hop. -/
def takeToken (m : Metadata) : Option String × Metadata :=
  m.remove claimKey

def withClaimRequest (m : Metadata) (claim : String) : Metadata :=
  { m with claimRequest := some claim }

end Metadata

end Warrant
