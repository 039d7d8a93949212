import Warrant.Config
import Warrant.Text

namespace Warrant

abbrev Environment := (name : String) → Option String

namespace Environment

def listOf (text : String) : List String :=
  ((text.splitOn ",").map Text.trim).filter fun t => !t.isEmpty

def seconds? (text : String) : Option UInt64 :=
  let digits :=
    match text.toList with
    | '+' :: rest => rest
    | all => all
  if digits.isEmpty || !digits.all Char.isDigit then none
  else
    let n := ofDigits digits
    if n < UInt64.size then some (UInt64.ofNat n) else none

end Environment

def Config.ofEnvironment (env : Environment) : Config :=
  { standard with
    serviceName := (env "TESSERA_SERVICE_NAME").getD ""
    aliases := ((env "TESSERA_SERVICE_ALIASES").map Environment.listOf).getD []
    allowedEntities := ((env "TESSERA_ALLOWED_ENTITIES").map Environment.listOf).getD []
    enforcePercentage :=
      ((env "TESSERA_ENFORCE_PERCENTAGE").bind fun text => readFloat? (Text.trim text)).getD 0
    authorityUrl := (env "TESSERA_AUTHORITY_URL").getD standard.authorityUrl
    disabled :=
      (env "TESSERA_DISABLED").any fun text => text == "1" || Text.sameIgnoringCase text "true"
    requestTimeout :=
      ((env "TESSERA_REQUEST_TIMEOUT").bind Environment.seconds?).getD standard.requestTimeout
    recordDomain := (env "TESSERA_DISABLE_RECORD_DOMAIN").getD standard.recordDomain }

end Warrant
