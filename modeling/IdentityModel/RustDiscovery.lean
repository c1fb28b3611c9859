import IdentityModel.Json
import IdentityModel.RustHttp
import IdentityModel.RustJwksClient

/-!
# The Rust discovery client

`rust/src/discovery` (client.rs, cache.rs, metadata.rs) as a pool of tasks over one cache. A task is
a call of `discover`; what the wire brings to its request arrives as events, one redirect or chunk
at a time. `Cache::put` reads the clock before it waits for the lock. `serde` matches member names
exactly, refuses a repeated one that the struct has, and keeps the others in a map.

The shared state keeps three records that the code does not read: the requests sent, the bodies
received and the documents written to the cache. A call that returns a document keeps when it did
and whether the cache had it.
-/
namespace IdentityModel.RustDiscovery

open Exchanges RustHttp Runs Tasks TtlCache
open RustJwks (IdentityError)

/-- What the crate takes from its libraries: how hosts are parsed, the document a body denotes, and
the texts of errors. -/
structure Library where
  url : Whatwg.Setting
  document : List UInt8 → Option Json
  reason : List UInt8 → String
  urlError : String → String
  blocked : RedirectBlocked → String

/-- `ProviderMetadata`. -/
structure ProviderMetadata where
  issuer : String
  authorizationEndpoint : String
  tokenEndpoint : String
  jwksUri : String
  responseTypesSupported : List String
  subjectTypesSupported : List String
  idTokenSigningAlgValuesSupported : List String
  userinfoEndpoint : Option String
  registrationEndpoint : Option String
  introspectionEndpoint : Option String
  revocationEndpoint : Option String
  endSessionEndpoint : Option String
  scopesSupported : Option (List String)
  claimsSupported : Option (List String)
  grantTypesSupported : Option (List String)
  tokenEndpointAuthMethodsSupported : Option (List String)
  codeChallengeMethodsSupported : Option (List String)
  extra : Dict String Json

def modelledNames : List String :=
  ["issuer", "authorization_endpoint", "token_endpoint", "jwks_uri", "response_types_supported",
    "subject_types_supported", "id_token_signing_alg_values_supported", "userinfo_endpoint",
    "registration_endpoint", "introspection_endpoint", "revocation_endpoint",
    "end_session_endpoint", "scopes_supported", "claims_supported", "grant_types_supported",
    "token_endpoint_auth_methods_supported", "code_challenge_methods_supported"]

/-- The elements of an array of strings. -/
def strings : Json → Option (List String)
  | .arr elems => elems.mapM Json.str?
  | _ => none

/-- An `Option` takes a null for none. -/
def nullable {α : Type} (read : Json → Option α) : Json → Option (Option α)
  | .null => some none
  | j => (read j).map some

/-- A field of the struct: its default where the member is missing, an error where it is repeated. -/
def field {α : Type} (members : List (String × Json)) (name : String) (default : α)
    (read : Json → Option α) : Option α :=
  match members.filter fun m => m.1 = name with
  | [] => some default
  | [m] => read m.2
  | _ => none

/-- `serde_json::from_slice`, of the document; `none` is an error. -/
def fromDocument : Json → Option ProviderMetadata
  | .obj members => do
      let issuer ← field members "issuer" "" Json.str?
      let authorizationEndpoint ← field members "authorization_endpoint" "" Json.str?
      let tokenEndpoint ← field members "token_endpoint" "" Json.str?
      let jwksUri ← field members "jwks_uri" "" Json.str?
      let responseTypesSupported ← field members "response_types_supported" [] strings
      let subjectTypesSupported ← field members "subject_types_supported" [] strings
      let idTokenSigningAlgValuesSupported ←
        field members "id_token_signing_alg_values_supported" [] strings
      let userinfoEndpoint ← field members "userinfo_endpoint" none (nullable Json.str?)
      let registrationEndpoint ← field members "registration_endpoint" none (nullable Json.str?)
      let introspectionEndpoint ← field members "introspection_endpoint" none (nullable Json.str?)
      let revocationEndpoint ← field members "revocation_endpoint" none (nullable Json.str?)
      let endSessionEndpoint ← field members "end_session_endpoint" none (nullable Json.str?)
      let scopesSupported ← field members "scopes_supported" none (nullable strings)
      let claimsSupported ← field members "claims_supported" none (nullable strings)
      let grantTypesSupported ← field members "grant_types_supported" none (nullable strings)
      let tokenEndpointAuthMethodsSupported ←
        field members "token_endpoint_auth_methods_supported" none (nullable strings)
      let codeChallengeMethodsSupported ←
        field members "code_challenge_methods_supported" none (nullable strings)
      return {
        issuer, authorizationEndpoint, tokenEndpoint, jwksUri, responseTypesSupported,
        subjectTypesSupported, idTokenSigningAlgValuesSupported, userinfoEndpoint,
        registrationEndpoint, introspectionEndpoint, revocationEndpoint, endSessionEndpoint,
        scopesSupported, claimsSupported, grantTypesSupported, tokenEndpointAuthMethodsSupported,
        codeChallengeMethodsSupported
        extra := Dict.insertAll (members.filter fun m => m.1 ∉ modelledNames) ∅ }
  | _ => none

/-- The required fields, with what it takes for each to be there. -/
def requiredFields : List (String × (ProviderMetadata → Bool)) :=
  [("issuer", fun m => m.issuer ≠ ""),
   ("authorization_endpoint", fun m => m.authorizationEndpoint ≠ ""),
   ("token_endpoint", fun m => m.tokenEndpoint ≠ ""),
   ("jwks_uri", fun m => m.jwksUri ≠ ""),
   ("response_types_supported", fun m => m.responseTypesSupported ≠ []),
   ("subject_types_supported", fun m => m.subjectTypesSupported ≠ []),
   ("id_token_signing_alg_values_supported", fun m => m.idTokenSigningAlgValuesSupported ≠ [])]

def ProviderMetadata.missingRequiredFields (m : ProviderMetadata) : List String :=
  (requiredFields.filter fun f => !f.2 m).map Prod.fst

inductive DiscoveryError
  | unexpectedStatus (status : ℕ) (endpoint : String)
  | invalidJson (endpoint reason : String)
  | missingFields (fields : List String) (endpoint : String)
  | issuerMismatch (requested actual : String)
  | httpsRequired (issuer : String)
  | other (e : IdentityError)
  deriving DecidableEq

def wellKnownPath : String := "/.well-known/openid-configuration"

/-- The settings a client is built with; `policy` is the redirect policy of its HTTP client, and
`clockMax` the last instant the platform's clock can represent. -/
structure Config where
  maxEntries : ℕ := 64
  cacheTtl : ℕ := 24 * 60 * 60 * 1000000000
  allowHttp : Bool := false
  policy : Policy HttpUrl RedirectBlocked := noDowngradePolicy
  clockMax : ℕ := 2 ^ 63 * 1000000000

/-- `str::trim_end_matches('/')`. -/
def trimEndSlashes (s : String) : String :=
  String.ofList ((s.toList.reverse.dropWhile (· = '/')).reverse)

/-- The issuer `discover` works with, which is the cache key. -/
def requestedIssuer (issuerUrl : String) : String := trimEndSlashes (RustJwks.trim issuerUrl)

def endpointOf (issuer : String) : String := issuer ++ wellKnownPath

def isSuccess (status : ℕ) : Bool := 200 ≤ status && status < 300

/-- The end of `fetch_and_validate`, from the body on. -/
def validate (lib : Library) (issuer : String) (body : List UInt8) :
    Except DiscoveryError ProviderMetadata :=
  match (lib.document body).bind fromDocument with
  | none => .error (.invalidJson (endpointOf issuer) (lib.reason body))
  | some metadata =>
      if metadata.missingRequiredFields ≠ [] then
        .error (.missingFields metadata.missingRequiredFields (endpointOf issuer))
      else if trimEndSlashes metadata.issuer ≠ issuer then
        .error (.issuerMismatch issuer metadata.issuer)
      else .ok metadata

abbrev Cache := TtlCache.Cache String ProviderMetadata

/-- `Instant::checked_add`. -/
def checkedAdd (cfg : Config) (now : ℕ) : Option ℕ :=
  if now + cfg.cacheTtl ≤ cfg.clockMax then some (now + cfg.cacheTtl) else none

/-- A look-up that found nothing to serve: when it was made, and when the document last written for
the issuer, if any, was stamped. -/
structure Lookup where
  at_ : ℕ
  held : Option ℕ

/-- A document that a call returned, and when; from the cache, or else from its own request. -/
structure Returned where
  metadata : ProviderMetadata
  at_ : ℕ
  cached : Bool

/-- The next operation of a call: look up, send the request, go on with it, read the clock for the
cache, write to it. -/
inductive Pc
  | lookup
  | send (before : Lookup)
  | fetch (x : Exchange HttpUrl RedirectBlocked)
  | stamp (metadata : ProviderMetadata)
  | insert (metadata : ProviderMetadata) (at_ : ℕ)
  | done (r : Except DiscoveryError Returned)
  | cancelled

structure Task where
  issuerUrl : String
  pc : Pc

def Task.issuer (x : Task) : String := requestedIssuer x.issuerUrl

/-- A request: for which issuer, to which URL and when; after which look-up, unless a redirect led
there. -/
structure Request where
  issuer : String
  url : HttpUrl
  at_ : ℕ
  after : Option Lookup

/-- A body received for an issuer, and the URL that served it. -/
structure Served where
  issuer : String
  url : HttpUrl
  status : ℕ
  body : List UInt8

/-- A document written to the cache, with the instant its lifetime is counted from. -/
structure Written where
  issuer : String
  metadata : ProviderMetadata
  at_ : ℕ

structure Shared where
  cache : Cache
  now : ℕ
  requests : List Request
  served : List Served
  written : List Written

/-- A call runs, its request hears from the wire, it is dropped. -/
inductive Act
  | run
  | wire (w : Wire HttpUrl)
  | cancel

structure Event where
  now : ℕ
  act : Act

abbrev State := Pool Shared Task

abbrev Label := Tasks.Label String Event

/-- When the document last written for an issuer was stamped. -/
def Shared.lastWritten (w : Shared) (issuer : String) : Option ℕ :=
  (w.written.find? fun a => a.issuer = issuer).map Written.at_

def Shared.request (w : Shared) (issuer : String) (url : HttpUrl) (after : Option Lookup) : Shared :=
  { w with requests := ⟨issuer, url, w.now, after⟩ :: w.requests }

def Shared.serve (w : Shared) (issuer : String) (url : HttpUrl) (status : ℕ) (body : List UInt8) :
    Shared :=
  { w with served := ⟨issuer, url, status, body⟩ :: w.served }

/-- `Cache::put`, with the instant that was read before its lock. -/
def Shared.write (cfg : Config) (w : Shared) (issuer : String) (metadata : ProviderMetadata)
    (at_ : ℕ) : Shared :=
  { w with
    cache := w.cache.put cfg.maxEntries issuer metadata (checkedAdd cfg at_)
    written := ⟨issuer, metadata, at_⟩ :: w.written }

def failed (e : IdentityError) : Pc := .done (.error (.other e))

def afterBody (lib : Library) (issuer : String) (body : List UInt8) : Pc :=
  match validate lib issuer body with
  | .ok metadata => .stamp metadata
  | .error e => .done (.error e)

/-- `discover` up to its look-up. -/
def lookupStep (w : Shared) (issuer : String) : Shared × Pc :=
  if issuer = "" then (w, failed (.validation "issuer URL is empty"))
  else
    match w.cache.get issuer w.now with
    | (cache, some metadata) => ({ w with cache := cache }, .done (.ok ⟨metadata, w.now, true⟩))
    | (cache, none) => ({ w with cache := cache }, .send ⟨w.now, w.lastWritten issuer⟩)

/-- The check of the scheme, and the request. -/
def sendStep (lib : Library) (cfg : Config) (w : Shared) (issuer : String) (before : Lookup) :
    Shared × Pc :=
  if schemeOk cfg.allowHttp issuer.toList then
    match HttpUrl.parse lib.url (endpointOf issuer).toList with
    | some url => (w.request issuer url (some before), .fetch (.start url))
    | none =>
        (w, failed (.http ("fetch " ++ endpointOf issuer ++ ": " ++
          lib.urlError (endpointOf issuer))))
  else (w, .done (.error (.httpsRequired issuer)))

/-- What `fetch_and_validate` makes of the exchange after something came over the wire; `before`
tells an error of the request from one of its body. -/
def wireStep (lib : Library) (w : Shared) (issuer : String)
    (before x : Exchange HttpUrl RedirectBlocked) : Shared × Pc :=
  match x.phase with
  | .sent => (w.request issuer x.url none, .fetch x)
  | .reading status _ =>
      if isSuccess status then (w, .fetch x)
      else (w, .done (.error (.unexpectedStatus status (endpointOf issuer))))
  | .received status body => (w.serve issuer x.url status body, afterBody lib issuer body)
  | .refused why =>
      (w, failed (.http ("fetch " ++ endpointOf issuer ++ ": " ++ lib.blocked why)))
  | .oversized =>
      (w, failed (.deserialization ("discovery document from " ++ endpointOf issuer ++ " exceeds " ++
        toString maxBodyBytes ++ " bytes")))
  | .broken err =>
      match before.phase with
      | .sent => (w, failed (.http ("fetch " ++ endpointOf issuer ++ ": " ++ err)))
      | _ => (w, failed (.http ("read body from " ++ endpointOf issuer ++ ": " ++ err)))

/-- One operation of a call. -/
def advance (lib : Library) (cfg : Config) (w : Shared) (issuer : String) :
    Pc → Act → Option (Shared × Pc)
  | .lookup, .run => some (lookupStep w issuer)
  | .send before, .run => some (sendStep lib cfg w issuer before)
  | .fetch x, .wire wire =>
      (Exchanges.advance cfg.policy maxBodyBytes x wire).map (wireStep lib w issuer x)
  | .stamp metadata, .run => some (w, .insert metadata w.now)
  | .insert metadata at_, .run =>
      some (w.write cfg issuer metadata at_, .done (.ok ⟨metadata, w.now, false⟩))
  | .done _, .cancel => none
  | .cancelled, .cancel => none
  | _, .cancel => some (w, .cancelled)
  | _, _ => none

/-- The client: calls start at any time, and time never goes back. -/
def client (lib : Library) (cfg : Config) : Machine Shared Task String Event where
  spawn w issuerUrl := some (w, ⟨issuerUrl, .lookup⟩)
  move w x e :=
    if w.now ≤ e.now then
      (advance lib cfg { w with now := e.now } x.issuer x.pc e.act).map fun r =>
        (r.1, ⟨x.issuerUrl, r.2⟩)
    else none

theorem client_fork (lib : Library) (cfg : Config) (w : Shared) (x : Task) (e : Event) :
    (client lib cfg).fork w x e = none := rfl

/-- A new client. -/
def initial : State := ⟨⟨TtlCache.Cache.new, 0, [], [], []⟩, []⟩

abbrev run (lib : Library) (cfg : Config) : State → List Label → Option State :=
  exec (client lib cfg).step

/-- The operations of a call as a relation, one rule per outcome. -/
inductive Advance (lib : Library) (cfg : Config) (w : Shared) (issuer : String) :
    Pc → Act → Shared → Pc → Prop
  | noIssuer (e : DiscoveryError) : Advance lib cfg w issuer .lookup .run w (.done (.error e))
  | hit (metadata : ProviderMetadata) (hget : (w.cache.get issuer w.now).2 = some metadata) :
      Advance lib cfg w issuer .lookup .run { w with cache := (w.cache.get issuer w.now).1 }
        (.done (.ok ⟨metadata, w.now, true⟩))
  | miss (hget : (w.cache.get issuer w.now).2 = none) :
      Advance lib cfg w issuer .lookup .run { w with cache := (w.cache.get issuer w.now).1 }
        (.send ⟨w.now, w.lastWritten issuer⟩)
  | unsent (before : Lookup) (e : DiscoveryError) :
      Advance lib cfg w issuer (.send before) .run w (.done (.error e))
  | sent (before : Lookup) (url : HttpUrl) (hscheme : schemeOk cfg.allowHttp issuer.toList = true)
      (hurl : HttpUrl.parse lib.url (endpointOf issuer).toList = some url) :
      Advance lib cfg w issuer (.send before) .run (w.request issuer url (some before))
        (.fetch (.start url))
  | redirected (x x' : Exchange HttpUrl RedirectBlocked) (wire : Wire HttpUrl)
      (hx : Exchanges.advance cfg.policy maxBodyBytes x wire = some x') (hphase : x'.phase = .sent) :
      Advance lib cfg w issuer (.fetch x) (.wire wire) (w.request issuer x'.url none) (.fetch x')
  | reading (x x' : Exchange HttpUrl RedirectBlocked) (wire : Wire HttpUrl) (status : ℕ)
      (body : List UInt8) (hx : Exchanges.advance cfg.policy maxBodyBytes x wire = some x')
      (hphase : x'.phase = .reading status body) (hok : isSuccess status = true) :
      Advance lib cfg w issuer (.fetch x) (.wire wire) w (.fetch x')
  | received (x x' : Exchange HttpUrl RedirectBlocked) (wire : Wire HttpUrl) (status : ℕ)
      (body : List UInt8) (hx : Exchanges.advance cfg.policy maxBodyBytes x wire = some x')
      (hphase : x'.phase = .received status body) :
      Advance lib cfg w issuer (.fetch x) (.wire wire) (w.serve issuer x'.url status body)
        (afterBody lib issuer body)
  | gaveUp (x : Exchange HttpUrl RedirectBlocked) (wire : Wire HttpUrl) (e : DiscoveryError) :
      Advance lib cfg w issuer (.fetch x) (.wire wire) w (.done (.error e))
  | stamped (metadata : ProviderMetadata) :
      Advance lib cfg w issuer (.stamp metadata) .run w (.insert metadata w.now)
  | inserted (metadata : ProviderMetadata) (at_ : ℕ) :
      Advance lib cfg w issuer (.insert metadata at_) .run (w.write cfg issuer metadata at_)
        (.done (.ok ⟨metadata, w.now, false⟩))
  | cancelled (pc : Pc) : Advance lib cfg w issuer pc .cancel w .cancelled

variable {lib : Library} {cfg : Config} {w w' : Shared} {issuer : String} {pc pc' : Pc} {act : Act}

theorem lookupStep_advance (lib : Library) (cfg : Config) (w : Shared) (issuer : String) :
    Advance lib cfg w issuer .lookup .run (lookupStep w issuer).1 (lookupStep w issuer).2 := by
  unfold lookupStep
  split
  · exact .noIssuer _
  · cases hget : w.cache.get issuer w.now with
    | mk cache found =>
        have h1 : cache = (w.cache.get issuer w.now).1 := by rw [hget]
        have h2 : found = (w.cache.get issuer w.now).2 := by rw [hget]
        cases found with
        | some metadata => exact h1 ▸ .hit metadata h2.symm
        | none => exact h1 ▸ .miss h2.symm

theorem sendStep_advance (lib : Library) (cfg : Config) (w : Shared) (issuer : String)
    (before : Lookup) :
    Advance lib cfg w issuer (.send before) .run (sendStep lib cfg w issuer before).1
      (sendStep lib cfg w issuer before).2 := by
  unfold sendStep
  split
  · rename_i hscheme
    split
    · rename_i url hurl
      exact .sent before url hscheme hurl
    · exact .unsent before _
  · exact .unsent before _

theorem wireStep_advance {x x' : Exchange HttpUrl RedirectBlocked} {wire : Wire HttpUrl}
    (hx : Exchanges.advance cfg.policy maxBodyBytes x wire = some x') :
    Advance lib cfg w issuer (.fetch x) (.wire wire) (wireStep lib w issuer x x').1
      (wireStep lib w issuer x x').2 := by
  unfold wireStep
  split
  · rename_i hphase
    exact .redirected x x' wire hx hphase
  · rename_i status body hphase
    split
    · rename_i hok
      exact .reading x x' wire status body hx hphase hok
    · exact .gaveUp x wire _
  · rename_i status body hphase
    exact .received x x' wire status body hx hphase
  · exact .gaveUp x wire _
  · exact .gaveUp x wire _
  · split
    · exact .gaveUp x wire _
    · exact .gaveUp x wire _

theorem advance_cases (h : advance lib cfg w issuer pc act = some (w', pc')) :
    Advance lib cfg w issuer pc act w' pc' := by
  cases act with
  | run =>
      cases pc with
      | lookup =>
          have hr : lookupStep w issuer = (w', pc') := Option.some.inj h
          have hs := lookupStep_advance lib cfg w issuer
          rwa [hr] at hs
      | send before =>
          have hr : sendStep lib cfg w issuer before = (w', pc') := Option.some.inj h
          have hs := sendStep_advance lib cfg w issuer before
          rwa [hr] at hs
      | stamp metadata =>
          cases h
          exact .stamped metadata
      | insert metadata at_ =>
          cases h
          exact .inserted metadata at_
      | fetch x => cases h
      | done r => cases h
      | cancelled => cases h
  | wire wire =>
      cases pc with
      | fetch x =>
          obtain ⟨x', hx, hr⟩ := Option.map_eq_some_iff.mp h
          have hs : Advance lib cfg w issuer (.fetch x) (.wire wire) (wireStep lib w issuer x x').1
              (wireStep lib w issuer x x').2 := wireStep_advance hx
          rwa [hr] at hs
      | _ => cases h
  | cancel =>
      cases pc with
      | done r => cases h
      | cancelled => cases h
      | _ =>
          cases h
          exact .cancelled _

theorem client_spawn {issuerUrl : String} {x : Task}
    (h : (client lib cfg).spawn w issuerUrl = some (w', x)) : w' = w ∧ x = ⟨issuerUrl, .lookup⟩ := by
  cases h
  exact ⟨rfl, rfl⟩

theorem client_move {x x' : Task} {e : Event} (h : (client lib cfg).move w x e = some (w', x')) :
    w.now ≤ e.now ∧ ∃ pc', x' = ⟨x.issuerUrl, pc'⟩ ∧
      Advance lib cfg { w with now := e.now } x.issuer x.pc e.act w' pc' := by
  simp only [client] at h
  split at h
  · rename_i hle
    obtain ⟨⟨v, pc'⟩, hadv, hr⟩ := Option.map_eq_some_iff.mp h
    cases hr
    exact ⟨hle, pc', rfl, advance_cases hadv⟩
  · cases h

end IdentityModel.RustDiscovery
