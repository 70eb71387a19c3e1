import TrafficTrace.Credentials
import TrafficTrace.Retry

/-! What a connection to the service is set up with. -/
namespace TrafficTrace

def defaultDomain : String := "tracehound.dev"

structure TransportSettings where
  domain : String
  /-- The full address of the service, which counts instead of the domain. -/
  baseUrl : Option String
  allowInsecureHttp : Bool
  credentials : Option Credentials
  /-- What is lacking while there are no credentials. -/
  missing : MissingCredential
  proxy : Option String
  skipTlsVerify : Bool
  tlsServerName : Option String
  retry : RetryPolicy
  requestTimeout : Duration
deriving DecidableEq, Repr

namespace TransportSettings

def standard : TransportSettings :=
  { domain := defaultDomain
    baseUrl := none
    allowInsecureHttp := false
    credentials := none
    missing := .any
    proxy := none
    skipTlsVerify := false
    tlsServerName := none
    retry := .standard
    requestTimeout := .ofSecs 60 }

end TransportSettings

end TrafficTrace
