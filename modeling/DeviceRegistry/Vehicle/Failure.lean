import DeviceRegistry.Http.Target

/-!
# Failures of the vehicle service

Why an exchange with the vehicle service came to nothing. A `SyncFailure` is one that the service
expects: no connection, a refused login, an unreadable reply, a refused vehicle. An `ExchangeFault`
breaks the exchange off: a reply that lacks the expected shape or is nested too deep, a session, a
number of a vehicle, a body or a target that cannot be sent, or a time that cannot be compared.
-/

namespace DeviceRegistry

/-- The expected failures; `endpoint` is the path that was asked. -/
inductive SyncFailure where
  | transport (endpoint text : String)
  | loginRefused (endpoint : String) (status : Int)
  | unreadable (endpoint : String) (status : Int)
  | noSession (endpoint : String)
  | vehicleRefused (endpoint message : String)
  deriving DecidableEq, Repr, Inhabited

/-- The failures that were not expected. -/
inductive ExchangeFault where
  | notAnObject
  | notASequence
  | noFirstItem
  | replyTooDeep
  | sessionNotText
  | sessionNotAscii
  | vinNotWhole
  | bodyNotFinite
  | bodyNotWhole
  | pathNotText
  | target (fault : Http.TargetFault)
  | lifetimeNotNumber
  deriving DecidableEq, Repr, Inhabited

/-- How an exchange fails. -/
inductive ExchangeFailure where
  | sync (cause : SyncFailure)
  | fault (fault : ExchangeFault)
  deriving DecidableEq, Repr, Inhabited

end DeviceRegistry
