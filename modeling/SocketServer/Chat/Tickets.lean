import SocketServer.Library.Checks
import SocketServer.Library.GoJson
import SocketServer.Library.GoStrings

/-!
# Chat tickets

`internal/auth/jwt.go`: the secret the chat service verifies with, and the checks of a ticket.
-/

namespace SocketServer.Chat

open SocketServer.Text SocketServer.Go SocketServer.GoJson SocketServer.Checks

/-- What `internal/auth` takes from the standard library. -/
structure AuthRuntime where
  /-- `mac := hmac.New(sha256.New, secret)`, `mac.Write(message)`, `mac.Sum(nil)`. -/
  hmacSha256 : Bytes → Bytes → Bytes
  /-- The tree of a JSON text; `none` is a syntax error. -/
  parseJSON : Bytes → Option JsonTree

/-- `auth.Claims`. -/
structure Claims where
  userID : Bytes
  orgID : Bytes
  teamID : ℤ
  teamPublicID : Bytes
  expiresAt : ℤ

def Claims.zero : Claims := ⟨[], [], 0, [], 0⟩

def claimsFields : List (StructField Claims) :=
  [stringField "user_id" fun s c => { c with userID := s },
    stringField "org_id" fun s c => { c with orgID := s },
    int64Field "team_id" fun n c => { c with teamID := n },
    stringField "team_public_id" fun s c => { c with teamPublicID := s },
    int64Field "exp" fun n c => { c with expiresAt := n }]

structure TicketHeader where
  algorithm : Bytes
  type : Bytes

def TicketHeader.zero : TicketHeader := ⟨[], []⟩

def ticketHeaderFields : List (StructField TicketHeader) :=
  [stringField "alg" fun s h => { h with algorithm := s },
    stringField "typ" fun s h => { h with type := s }]

/-- A Go string literal. -/
def literal (s : String) : Bytes := utf8 s.toList

/-- `getenv` is `os.Getenv`, empty for a variable that is not set. -/
def jwtSecret (getenv : String → Bytes) : Bytes :=
  let secret := trimSpace (getenv "JWT_SECRET")
  if secret ≠ [] then secret else literal "development-socket-ticket-secret-change-me"

def validateHeader (runtime : AuthRuntime) (encoded : Bytes) : Except String Unit := do
  let data ← require (rawURLDecode encoded) "invalid header"
  let header ← require
    ((runtime.parseJSON data).bind (unmarshalStruct ticketHeaderFields .zero)) "invalid header"
  rejectIf (header.algorithm ≠ literal "HS256" ∨ header.type ≠ literal "JWT")
    "unexpected signing method"

/-- `hmac.Equal` compares the texts. -/
def validSignature (runtime : AuthRuntime) (header payload signature secret : Bytes) : Bool :=
  rawURLEncode (runtime.hmacSha256 secret (header ++ literal "." ++ payload)) = signature

/-- The three parts of a token, none of them empty. -/
def ticketParts (tokenString : Bytes) : Option (Bytes × Bytes × Bytes) :=
  match tokenString.splitOn 46 with
  | [header, payload, signature] =>
      if header = [] ∨ payload = [] ∨ signature = [] then none else some (header, payload, signature)
  | _ => none

/-- `ValidateToken`; `now` is in seconds. -/
def validateToken (runtime : AuthRuntime) (getenv : String → Bytes) (now : ℤ)
    (tokenString : Bytes) : Except String Claims := do
  let (header, payload, signature) ← require (ticketParts (trimSpace tokenString)) "invalid token"
  validateHeader runtime header
  rejectIf (validSignature runtime header payload signature (jwtSecret getenv) = false)
    "invalid signature"
  let data ← require (rawURLDecode payload) "invalid payload"
  let claims ← require ((runtime.parseJSON data).bind (unmarshalStruct claimsFields .zero))
    "invalid claims"
  rejectIf (claims.userID = [] ∨ claims.orgID = [] ∨ claims.teamID < 1 ∨ claims.teamPublicID = [])
    "missing claims"
  rejectIf (claims.expiresAt ≤ now) "expired token"
  return claims

/-- The payload of an accepted ticket is read without an error. -/
theorem payload_of_accepted {runtime : AuthRuntime} {getenv : String → Bytes} {now : ℤ}
    {tokenString : Bytes} {claims : Claims}
    (h : validateToken runtime getenv now tokenString = .ok claims) :
    ∃ header payload signature data tree,
      ticketParts (trimSpace tokenString) = some (header, payload, signature) ∧
      rawURLDecode payload = some data ∧ runtime.parseJSON data = some tree ∧
      unmarshalStruct claimsFields .zero tree = some claims := by
  simp only [validateToken, bind_eq_ok, require_eq_ok, rejectIf_eq_ok,
    Option.bind_eq_some_iff] at h
  obtain ⟨⟨header, payload, signature⟩, hparts, -, -, -, -, data, hdata, claims',
    ⟨tree, htree, hclaims⟩, -, -, -, -, hreturn⟩ := h
  cases hreturn
  exact ⟨header, payload, signature, data, tree, hparts, hdata, htree, hclaims⟩

/-- A string for the team is an error: the claim is an integer. -/
theorem team_id_rejects_text (s : List Char) :
    ∃ f, findField claimsFields "team_id".toList = some f ∧
      ∀ c, f.set (.string s) c = none :=
  ⟨_, rfl, fun _ => rfl⟩

end SocketServer.Chat
