import TrafficTrace.Text.Quoted
import TrafficTrace.Transport.Error
import TrafficTrace.Transport.Settings
import TrafficTrace.Url.Reader

/-! The address of the service. It is `https` and ends in a slash; plain `http` has to be allowed. -/
namespace TrafficTrace

/-- The address in the settings, or the one of the domain. -/
def TransportSettings.addressText (s : TransportSettings) : Except TransportError String :=
  match s.baseUrl with
  | some url => .ok url
  | none =>
    let domain := Text.dropEndWhile (· = '/') (Text.trimChars s.domain.toList)
    if domain.isEmpty || domain.contains '/' then
      .error (.config ("invalid domain " ++ Text.quote s.domain))
    else .ok ("https://api." ++ String.ofList domain)

def TransportSettings.address (s : TransportSettings) : Except TransportError Url := do
  let text ← s.addressText
  match Url.read text with
  | .error e => .error (.config ("invalid base URL " ++ Text.quote text ++ ": " ++ e.message))
  | .ok url =>
    let url := url.asDirectory
    if url.scheme = "https" || (url.scheme = "http" && s.allowInsecureHttp) then .ok url
    else if url.scheme = "http" then
      .error (.config ("refusing plain HTTP base URL " ++ url.toText ++ " outside test mode"))
    else .error (.config ("unsupported URL scheme " ++ Text.quote url.scheme))

/-- A proxy is an address of a scheme that may be left out. -/
def isProxy (text : String) : Bool :=
  let hosted : Except UrlError Url → Option Url
    | .ok u => if u.host.isSome && u.host ≠ some (.name "") then some u else none
    | .error _ => none
  let served (u : Option Url) : Bool := u.any fun u => u.scheme = "http" || u.scheme = "https"
  match Url.read text with
  | .error .relativeWithoutBase => served (hosted (Url.read ("http://" ++ text)))
  | .error _ => false
  | .ok u => served ((hosted (.ok u)).orElse fun _ => hosted (Url.read ("http://" ++ text)))

end TrafficTrace
