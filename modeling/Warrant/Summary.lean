import Warrant.Client

namespace Warrant

namespace Summary

def write (name : String) (fields : List (String × String)) : String :=
  name ++ " \x7b " ++ String.join (fields.map fun f => f.1 ++ ": " ++ f.2 ++ ", ") ++ ".. \x7d"

def seconds (n : Nat) : String :=
  toString n ++ "s"

def flag (b : Bool) : String :=
  if b then "true" else "false"

def layout : NumberLayout where
  positional top := -4 ≤ top && top ≤ 15
  pointKept := true

def number (x : Float) : String :=
  if x.isNaN then "NaN" else layout.write x.toBits.toNat

end Summary

def ClaimCache.summary (c : ClaimCache) (timeout : Nat) : String :=
  Summary.write "ClaimCache"
    [("entries", toString c.entries.size), ("timeout", Summary.seconds timeout)]

def LiveRegistry.summary (l : LiveRegistry) : String :=
  Summary.write "CertificateRegistry"
    [("refresh_period", Summary.seconds l.period), ("active_tasks", toString l.tasks.size)]

def DisableMonitor.summary (m : DisableMonitor) (isDisabled : Bool) : String :=
  Summary.write "DisableMonitor"
    [("domain", Text.quoted m.domain), ("disabled", Summary.flag isDisabled)]

def Client.summary (c : Client) : String :=
  Summary.write "TrustClient"
    [("service_name", Text.quoted c.config.serviceName),
      ("disabled", Summary.flag c.isDisabled),
      ("enforce_percentage", Summary.number c.enforcement.fraction)]

end Warrant
