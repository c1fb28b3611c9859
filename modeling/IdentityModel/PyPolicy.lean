import IdentityModel.PyModels
import IdentityModel.Url

/-!
# The URL checks of the discovery policy

`is_loopback` and `validate_url_scheme` of `core/discovery_policy.py`, which every
request for a discovery document or a key set passes before it is sent, and the
second look the asynchronous module takes at the address for its counters.
-/
namespace IdentityModel.Py

open Url

/-- The exceptions of a URL check: those of the library, of which
`DiscoveryHTTPSRequiredError` is a `ConfigurationException`, and `ValueError`. -/
inductive UrlError
  | configuration (message : String)
  | httpsRequired (message : String)
  | value (message : String)
  deriving DecidableEq, Repr

/-- `is_loopback`. -/
def isLoopback (host : List Char) : Bool :=
  host = "localhost".toList || host = "127.0.0.1".toList || host = "::1".toList ||
    (ipAddress host).any Ip.isLoopback

/-- The scheme of a parsed URL. -/
def schemeOf (parsed : Split) : String := String.ofList parsed.scheme

/-- HTTPS, or what the policy accepts in its place. -/
def secureEnough (p : Platform) (parsed : Split) (policy : DiscoveryPolicy) : Bool :=
  !policy.requireHttps || schemeOf parsed = "https" ||
    (schemeOf parsed = "http" && policy.allowHttpOnLoopback && isLoopback (parsed.hostname p))

/-- `validate_url_scheme`. -/
def validateUrlScheme (p : Platform) (url : String) (policy : DiscoveryPolicy) :
    Except UrlError Unit :=
  if url = "" then .error (.configuration "URL cannot be empty")
  else
    match urlparse p url with
    | .error e => .error (.value e)
    | .ok parsed =>
        if schemeOf parsed = "" then
          .error (.configuration ("URL must include a scheme: " ++ url))
        else if schemeOf parsed ≠ "http" ∧ schemeOf parsed ≠ "https" then
          .error (.configuration ("URL must use HTTP or HTTPS scheme, got: " ++ schemeOf parsed))
        else if secureEnough p parsed policy then .ok ()
        else
          .error (.httpsRequired ("HTTPS is required by discovery policy. Got: " ++ url ++
            ". Set require_https=False or use a loopback address."))

theorem validateUrlScheme_value {p : Platform} {url text : String} {policy : DiscoveryPolicy}
    (h : validateUrlScheme p url policy = .error (.value text)) : urlparse p url = .error text := by
  unfold validateUrlScheme at h
  split at h
  · cases h
  · split at h
    · rename_i text' hparse
      cases h
      exact hparse
    · split at h
      · cases h
      · split at h
        · cases h
        · split at h <;> cases h

/-- `_upstream_fetch_attempted`; only a `ConfigurationException` is caught. -/
def upstreamFetchAttempted (p : Platform) (address : String) (policy : DiscoveryPolicy) :
    Except String Bool :=
  match validateUrlScheme p address policy with
  | .ok () => .ok true
  | .error (.value e) => .error e
  | .error _ => .ok false

end IdentityModel.Py
