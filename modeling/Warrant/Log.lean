import Warrant.Error
import Warrant.Decimal.Shortest

namespace Warrant

inductive InboundStatus
  | denied
  | notEnforced
  | allowed
  deriving DecidableEq

def InboundStatus.name : InboundStatus → String
  | .denied => "denied"
  | .notEnforced => "not_enforced"
  | .allowed => "allowed"

inductive LogEvent
  | authenticated (service remote : String) (status : InboundStatus)
  | failed (service : String) (destinations : List String) (remote : String)
      (allowed : List String) (status : InboundStatus) (reason : Option Unauthorized)
      (derelict : Bool) (percentage : Float)
  | entityDiffers (service remote caller : String)
  | notChecked (service : String)
  | normalized (configured used : Float)
  | percentageSet (percentage : Float)

inductive LogValue
  | text (value : String)
  | flag (value : Bool)
  | number (value : Float)

namespace LogEvent

def level : LogEvent → String
  | .authenticated .. => "debug"
  | .percentageSet _ => "info"
  | _ => "warn"

def message : LogEvent → String
  | .authenticated .. => "inbound request authenticated"
  | .failed .. => "inbound request failed authentication"
  | .entityDiffers .. => "claim entity differs from caller name"
  | .notChecked _ => "globally disabled, inbound request not checked"
  | .normalized .. => "enforce percentage outside [0, 1], normalized"
  | .percentageSet _ => "updated enforce percentage"

def fields : LogEvent → List (String × LogValue)
  | .authenticated service remote status =>
    [("entity", .text service), ("remote_entity", .text remote), ("status", .text status.name)]
  | .failed service destinations remote allowed status reason derelict percentage =>
    [("entity", .text service), ("destination", .text (Text.quotedList destinations)),
      ("remote_entity", .text remote), ("allowed_entities", .text (Text.quotedList allowed)),
      ("status", .text status.name),
      ("unauthorized_reason", .text ((reason.map Unauthorized.name).getD "")),
      ("derelict", .flag derelict), ("enforce_percentage", .number percentage)]
  | .entityDiffers service remote caller =>
    [("entity", .text service), ("remote_entity", .text remote), ("caller", .text caller),
      ("unauthorized_reason", .text Unauthorized.remoteEntityMismatch.name)]
  | .notChecked service => [("entity", .text service)]
  | .normalized configured used => [("configured", .number configured), ("using", .number used)]
  | .percentageSet percentage => [("enforce_percentage", .number percentage)]

end LogEvent

end Warrant
