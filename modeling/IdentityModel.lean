import IdentityModel.Runs
import IdentityModel.Throttle
import IdentityModel.Dict
import IdentityModel.TtlCache
import IdentityModel.RustJwksCache
import IdentityModel.Tasks
import IdentityModel.Cooldown
import IdentityModel.RustJwksClient
import IdentityModel.RustSingleFlight
import IdentityModel.RustKnownGood
import IdentityModel.RustFreshness
import IdentityModel.RustThrottle
import IdentityModel.GoJwks
import IdentityModel.GoFreshness
import IdentityModel.GoThrottle
import IdentityModel.JwksRefresh
import IdentityModel.Binary64
import IdentityModel.Json
import IdentityModel.GoClaims
import IdentityModel.LruCache
import IdentityModel.PyModels
import IdentityModel.PyJwksCache
import IdentityModel.PyCacheInvariant
import IdentityModel.PyTokenLogic
import IdentityModel.PyValidateToken
import IdentityModel.PySidecar
import IdentityModel.PyRefreshGate
import IdentityModel.PyThrottle
import IdentityModel.PyFlood
import IdentityModel.PySoundness
import IdentityModel.Url
import IdentityModel.PyBadAnswers
import IdentityModel.PyLocks
import IdentityModel.PyKnownGood
import IdentityModel.Ledger
import IdentityModel.PyLoops
import IdentityModel.PyOverwrite
import IdentityModel.PySingleFlight
import IdentityModel.PyClear
import IdentityModel.GoClear
import IdentityModel.JwksClear
import IdentityModel.SharedFetch
import IdentityModel.GoDiscovery
import IdentityModel.GoHttps
import IdentityModel.PyDiscovery
import IdentityModel.PyDiscoveryCache
import IdentityModel.PyUpstream
import IdentityModel.PyPolicyGuard
import IdentityModel.Orbits
import IdentityModel.PyAgreement
import IdentityModel.Forms
import IdentityModel.PyAuthorize
import IdentityModel.PyRelyingParty
import IdentityModel.PyReturned
import IdentityModel.PyLogin
import IdentityModel.CacheHistory
import IdentityModel.JwksRecency
import IdentityModel.Policies
import IdentityModel.ClaimsCombinators
import IdentityModel.Results
import IdentityModel.RustClaims
import IdentityModel.Words
import IdentityModel.ClaimsScopes
import IdentityModel.ClaimsParity
import IdentityModel.GoKeySet
import IdentityModel.RustKeySet
import IdentityModel.KeySetParity
import IdentityModel.GoValidate
import IdentityModel.RustValidate
import IdentityModel.DeclaredAlg
import IdentityModel.Base64
import IdentityModel.IdTokens
import IdentityModel.IdTokenParity
import IdentityModel.PyDatetime
import IdentityModel.PyTokenManager
import IdentityModel.PyTokenSources
import IdentityModel.PyCoalescing
import IdentityModel.PyRaised
import IdentityModel.PyFlowUse
import IdentityModel.PyKeyChoice
import IdentityModel.PyExceptions
import IdentityModel.PyTypedErrors
import IdentityModel.PyMiddleware
import IdentityModel.PyRejections
import IdentityModel.RustDpop
import IdentityModel.RustDpopBinding
import IdentityModel.ReplayStore
import IdentityModel.RustReplay
import IdentityModel.PyDpop
import IdentityModel.PyProofReuse
import IdentityModel.PyNumbers
import IdentityModel.PyConfig
import IdentityModel.PyConfigBuild
import IdentityModel.PyConfigContained
import IdentityModel.PyConfigLayers
import IdentityModel.Percent
import IdentityModel.GoUrl
import IdentityModel.Whatwg
import IdentityModel.GoHtu
import IdentityModel.HtuPaths
import IdentityModel.HtuParity
import IdentityModel.PyKidChoice
import IdentityModel.PyDiscoverySafe
import IdentityModel.PyKeySet
import IdentityModel.PyEndSession
import IdentityModel.UrlParts
import IdentityModel.FormsRoundTrip
import IdentityModel.PyUrlBuilders
import IdentityModel.PyHtu
import IdentityModel.GoDpopProof
import IdentityModel.GoDpopPath
import IdentityModel.IntegerLiteral
import IdentityModel.GoDpopTransport
import IdentityModel.JsonValue
import IdentityModel.RustClaimValue
import IdentityModel.ClaimValues
import IdentityModel.PyDiscoveryUrl
import IdentityModel.PyJarm
import IdentityModel.Retries
import IdentityModel.PyRetry
import IdentityModel.PyTokenAtomic
import IdentityModel.PyConfigIntegers
import IdentityModel.PyConfigOrder
import IdentityModel.Values
import IdentityModel.GoToken
import IdentityModel.RustTimes
import IdentityModel.JsonStrings
import IdentityModel.JsonText
import IdentityModel.PyKeyCodec
import IdentityModel.Base64Padded
import IdentityModel.BasicCredentials
import IdentityModel.RustPem
import IdentityModel.PyEmailDates
import IdentityModel.PyRetryAfter
import IdentityModel.Exchanges
import IdentityModel.RustHttp
import IdentityModel.RustDiscovery
import IdentityModel.RustDiscoverySafe
import IdentityModel.Gathering
import IdentityModel.RustForms
import IdentityModel.RustFormGuards
import IdentityModel.GoForms
import IdentityModel.FormsParity
import IdentityModel.RustFormAnswers
import IdentityModel.StructDecoding
import IdentityModel.Introspections
import IdentityModel.IntrospectionParity
import IdentityModel.PyClients
import IdentityModel.PyClientsSafe
import IdentityModel.Pkce
import IdentityModel.PyForms
import IdentityModel.PyFormsParity
import IdentityModel.SerdeDecoding
import IdentityModel.TokenResponseParity
