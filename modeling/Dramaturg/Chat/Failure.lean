import Dramaturg.Fault
import Dramaturg.Text.Listed

set_option autoImplicit false

/-! # Failures

Why a model gave no answer, and the wider failures of which that is one. A failure is an answer that
the host has to deal with; a fault is none. -/

namespace Dramaturg

/-- Why a model gave no answer. -/
inductive ProviderFailure where
  | refused (status : Nat) (message : String)
  | rateLimited (retryAfterSeconds : Nat)
  | unauthorized (message : String)
  | notConfigured (message : String)
  | timedOut (message : String)
  | unreachable (message : String)
deriving DecidableEq

/-- What is told about a failed call. -/
def ProviderFailure.message : ProviderFailure → String
  | .refused status message =>
    "API request failed: " ++ message ++ " (status: " ++ toString status ++ ")"
  | .rateLimited seconds =>
    "Rate limited by provider, retry after " ++ toString seconds ++ "s"
  | .unauthorized message => "Authentication failed: " ++ message
  | .notConfigured message => "Provider not configured: " ++ message
  | .timedOut message => "Request timed out: " ++ message
  | .unreachable message => "Network error: " ++ message

/-- What a diagnostic listing shows of a failed call. -/
def ProviderFailure.listing : ProviderFailure → String
  | .refused status message =>
    "ApiError \x7b status_code: " ++ toString status ++ ", message: " ++ Text.listed message
      ++ " \x7d"
  | .rateLimited seconds => "RateLimited \x7b retry_after_secs: " ++ toString seconds ++ " \x7d"
  | .unauthorized message => "AuthenticationFailed(" ++ Text.listed message ++ ")"
  | .notConfigured message => "NotConfigured(" ++ Text.listed message ++ ")"
  | .timedOut message => "Timeout(" ++ Text.listed message ++ ")"
  | .unreachable message => "Network(" ++ Text.listed message ++ ")"

/-- Why a piece of work failed. -/
inductive Failure where
  | provider (failure : ProviderFailure)
  | config (message : String)
  | io (message : String)
  | internal (message : String)
deriving DecidableEq

/-- What is told about a failure. -/
def Failure.message : Failure → String
  | .provider failure => "Provider error: " ++ failure.message
  | .config message => "Configuration error: " ++ message
  | .io message => "I/O error: " ++ message
  | .internal message => "Internal error: " ++ message

/-- What a diagnostic listing shows of a failure. -/
def Failure.listing : Failure → String
  | .provider failure => "Provider(" ++ failure.listing ++ ")"
  | .config message => "Config \x7b message: " ++ Text.listed message ++ " \x7d"
  | .io message => "Io(" ++ Text.listed message ++ ")"
  | .internal message => "Internal(" ++ Text.listed message ++ ")"

/-- Why a piece of work was not finished. -/
inductive Stop where
  | failure (failure : Failure)
  | fault (fault : Fault)
deriving DecidableEq

end Dramaturg
