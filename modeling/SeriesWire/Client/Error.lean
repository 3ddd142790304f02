import SeriesWire.IoError

/-! Why a client was not made or did not do what it was asked. -/
namespace SeriesWire

inductive ClientError where
  | resolveFailed (address : String) (cause : IoError)
  | noAddressResolved (address : String)
  | connectFailed (address : String) (cause : IoError)
  | writeFailed (cause : IoError)
  | closeFailed (cause : IoError)
  | queryNotSupported
deriving DecidableEq, Repr

namespace ClientError

def message : ClientError → String
  | .resolveFailed address cause => s!"failed to resolve address {address}: {cause.message}"
  | .noAddressResolved address => s!"no socket address resolved from {address}"
  | .connectFailed address cause => s!"failed to connect to {address}: {cause.message}"
  | .writeFailed cause => s!"write failed: {cause.message}"
  | .closeFailed cause => s!"close failed: {cause.message}"
  | .queryNotSupported => "querying via TCP is not supported"

/-- The failure behind a failure, where it is kept apart. -/
def source? : ClientError → Option IoError
  | .resolveFailed _ cause | .connectFailed _ cause => some cause
  | .noAddressResolved _ | .writeFailed _ | .closeFailed _ | .queryNotSupported => none

end ClientError

end SeriesWire
