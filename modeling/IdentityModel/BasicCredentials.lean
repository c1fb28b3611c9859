import IdentityModel.Base64Padded
import IdentityModel.FormsRoundTrip
import IdentityModel.GoToken
import IdentityModel.PyDpop

/-!
# Client credentials over HTTP Basic

Both clients escape the id and the secret before they are joined by a colon, `basic_auth_credentials`
by `quote` and `doTokenRequest` by `url.QueryEscape`. A server splits at the first colon and decodes
each part as a form.
-/
namespace IdentityModel.BasicCredentials

open Forms Url

/-- Who writes the credentials. -/
inductive Client
  | python | go
  deriving DecidableEq, Repr

/-- The user name and the password. -/
def Client.credentials : Client → String → String → String × String
  | .python, clientId, clientSecret => Py.Dpop.basicAuthCredentials clientId clientSecret
  | .go, clientId, clientSecret => (GoToken.queryEscape clientId, GoToken.queryEscape clientSecret)

/-- The pair as one text. -/
def userpass (credentials : String × String) : List Char :=
  credentials.1.toList ++ ':' :: credentials.2.toList

/-- `str.encode`, and a Go string as its bytes. -/
def octets (s : List Char) : List UInt8 := s.flatMap String.utf8EncodeChar

/-- The header that `SetBasicAuth` sets, and httpx for a pair. -/
def header (credentials : String × String) : List Char :=
  "Basic ".toList ++ Base64.Padded.encode (octets (userpass credentials))

/-- The id and the secret of a user name and a password. -/
def recovered (userpass : List Char) : Option (String × String) :=
  match partition ':' userpass with
  | (user, some password) => some (unquotePlus user, unquotePlus password)
  | (_, none) => none

/-- The id and the secret of a header. -/
def readHeader (header : List Char) : Option (String × String) :=
  if "Basic ".toList.isPrefixOf header then
    (Base64.Padded.decode? (header.drop 6)).bind fun bytes =>
      recovered (decodeUtf8 (bytes.map UInt8.toNat))
  else none

/-- What `quote` writes for a byte. -/
def percentByte (b : ℕ) : List Char :=
  if isAlwaysSafe b then [Char.ofNat b] else ['%', hexUpper (b / 16), hexUpper (b % 16)]

theorem percentByte_all : ((List.range 256).all fun b =>
    (percentByte b).all fun c => isAscii c && c ≠ ':') = true := by
  decide +kernel

theorem quoteByte_all : ((List.range 256).all fun b => (quoteByte b).all fun c => c ≠ ':') = true := by
  decide +kernel

theorem percentByte_spec {b : ℕ} (hb : b < 256) : ∀ c ∈ percentByte b, isAscii c = true ∧ c ≠ ':' := by
  intro c hc
  have hall := List.all_eq_true.mp percentByte_all b (List.mem_range.mpr hb)
  simpa only [Bool.and_eq_true, decide_eq_true_eq] using List.all_eq_true.mp hall c hc

theorem quoteByte_ne_colon {b : ℕ} (hb : b < 256) : ∀ c ∈ quoteByte b, c ≠ ':' := by
  intro c hc
  have hall := List.all_eq_true.mp quoteByte_all b (List.mem_range.mpr hb)
  exact of_decide_eq_true (List.all_eq_true.mp hall c hc)

theorem isEscaping_percentByte : IsEscaping percentByte where
  read := by
    intro b hb rest
    unfold percentByte
    split
    · rename_i hsafe
      exact unquoteToBytes_safe hb hsafe rest
    · exact unquoteToBytes_escaped hb rest
  ascii := fun _ hb c hc => (percentByte_spec hb c hc).1

/-- How a client writes a byte. -/
def Client.writeByte : Client → ℕ → List Char
  | .python => percentByte
  | .go => quoteByte

theorem Client.isEscaping (client : Client) : IsEscaping client.writeByte := by
  cases client with
  | python => exact isEscaping_percentByte
  | go => exact isEscaping_quoteByte

theorem Client.writeByte_ne_colon (client : Client) {b : ℕ} (hb : b < 256) :
    ∀ c ∈ client.writeByte b, c ≠ ':' := by
  cases client with
  | python => exact fun c hc => (percentByte_spec hb c hc).2
  | go => exact quoteByte_ne_colon hb

/-- How a client writes a text. -/
def Client.written (client : Client) (s : String) : List Char :=
  (encodeUtf8 s.toList).flatMap client.writeByte

theorem Client.userpass_credentials (client : Client) (clientId clientSecret : String) :
    userpass (client.credentials clientId clientSecret) =
      client.written clientId ++ ':' :: client.written clientSecret := by
  cases client <;>
    simp only [userpass, credentials, Py.Dpop.basicAuthCredentials, Py.Dpop.quote,
      GoToken.queryEscape, String.toList_ofList] <;>
    rfl

theorem Client.colon_not_mem (client : Client) (s : String) : ':' ∉ client.written s := by
  intro hcolon
  obtain ⟨b, hb, hc⟩ := List.mem_flatMap.mp hcolon
  exact client.writeByte_ne_colon (encodeUtf8_lt _ b hb) ':' hc rfl

theorem Client.unquotePlus_written (client : Client) (s : String) :
    unquotePlus (client.written s) = s := by
  have hread := client.isEscaping.unquotePlus [] s fun c hc => absurd hc List.not_mem_nil
  rwa [List.nil_append, List.nil_append, String.ofList_toList] at hread

/-- The credentials of a Go token request whose form has none. -/
theorem doTokenRequest_basicAuth {lib : GoToken.Library} {c : GoToken.Config}
    {endpoint clientId clientSecret : String} {form : Values} {grantReserved : List String}
    {visit : GoToken.Visit c.extraParams} {request : GoToken.Request}
    (h : GoToken.doTokenRequest lib c endpoint clientId clientSecret form grantReserved visit =
      .ok request) :
    ∀ credentials ∈ request.basicAuth, credentials = Client.go.credentials clientId clientSecret := by
  intro credentials hcredentials
  unfold GoToken.doTokenRequest at h
  obtain ⟨-, -, rfl⟩ := Results.map_eq_ok.mp h
  dsimp only at hcredentials
  split at hcredentials
  · exact (Option.some.inj hcredentials).symm
  · cases hcredentials

theorem recovered_userpass (client : Client) (clientId clientSecret : String) :
    recovered (userpass (client.credentials clientId clientSecret)) =
      some (clientId, clientSecret) := by
  rw [client.userpass_credentials, recovered, partition_of_not_mem (client.colon_not_mem clientId)]
  dsimp only
  rw [client.unquotePlus_written, client.unquotePlus_written]

theorem readHeader_header (credentials : String × String) :
    readHeader (header credentials) = recovered (userpass credentials) := by
  have hfront : "Basic ".toList.isPrefixOf (header credentials) = true :=
    List.isPrefixOf_iff_prefix.mpr (List.prefix_append _ _)
  have hrest : (header credentials).drop 6 =
      Base64.Padded.encode (octets (userpass credentials)) := rfl
  rw [readHeader, if_pos hfront, hrest, Base64.Padded.decode?_encode, Option.bind_some, octets,
    decodeUtf8_octets]

/-- Each client's id and secret are recovered from what it sends, so that other ones, sent by either
client, have another header. -/
theorem credentials_recoverable (client : Client) (clientId clientSecret : String) :
    recovered (userpass (client.credentials clientId clientSecret)) =
        some (clientId, clientSecret) ∧
      ∀ client' clientId' clientSecret', (clientId', clientSecret') ≠ (clientId, clientSecret) →
        header (Client.credentials client' clientId' clientSecret') ≠
          header (client.credentials clientId clientSecret) := by
  refine ⟨recovered_userpass client clientId clientSecret, ?_⟩
  intro client' clientId' clientSecret' hother hsame
  have hread := congrArg readHeader hsame
  rw [readHeader_header, readHeader_header, recovered_userpass, recovered_userpass] at hread
  exact hother (Option.some.inj hread)

theorem credentials_recoverable_sample :
    recovered (userpass (Client.python.credentials "a:b" "c d+")) = some ("a:b", "c d+") ∧
      header (Client.go.credentials "a" "b:c d+") ≠ header (Client.python.credentials "a:b" "c d+") :=
  have hrecovered := credentials_recoverable .python "a:b" "c d+"
  ⟨hrecovered.1, hrecovered.2 .go "a" "b:c d+" (by decide)⟩

end IdentityModel.BasicCredentials
