import SocketServer.Collaboration.Config
import SocketServer.Collaboration.Runtime
import SocketServer.Library.Base64

/-!
# Document tickets

`validateDocumentTicket` and `validateOrigin` (`collaboration/src/auth.ts`).  A ticket is three
base64url texts, its signature is the HMAC of the first two, its payload names the document.
`validateDocumentTicket_eq` separates the signature check from the rest, and
`validateDocumentTicket_spec` collects what an accepted ticket satisfies.
-/

namespace SocketServer.Collaboration

open SocketServer.Text SocketServer.Js SocketServer.Checks

structure DocumentTicketClaims where
  documentId : JsString
  displayName : JsString
  expiresAt : ℤ
  organizationId : JsString
  teamId : JsString
  userId : JsString

/-- The room a session asks for; `none` is a query parameter that is not there. -/
structure RequestedDocumentRoom where
  documentId : JsString
  organizationId : Option JsString
  teamId : Option JsString

/-! ### UUIDs -/

def isHexUnit (u : UInt16) : Bool := (digitValue 16 u).isSome

def isDash (u : UInt16) : Bool := u = unit '-'

/-- `[1-5]`. -/
def isVersion (u : UInt16) : Bool := unit '1' ≤ u && u ≤ unit '5'

/-- `[89ab]`, in either case. -/
def isVariant (u : UInt16) : Bool := [unit '8', unit '9', unit 'a', unit 'b', unit 'A', unit 'B'].contains u

/-- The character classes of `uuidPattern`, one for each code unit. -/
def uuidPattern : List (UInt16 → Bool) :=
  List.replicate 8 isHexUnit ++ [isDash] ++ List.replicate 4 isHexUnit ++ [isDash] ++
    [isVersion] ++ List.replicate 3 isHexUnit ++ [isDash] ++
    [isVariant] ++ List.replicate 3 isHexUnit ++ [isDash] ++ List.replicate 12 isHexUnit

/-- `pattern.test(s)` for a pattern that is a sequence of classes between `^` and `$`. -/
def matchesClasses : List (UInt16 → Bool) → JsString → Bool
  | [], [] => true
  | p :: ps, u :: us => p u && matchesClasses ps us
  | _, _ => false

def validUUID (value : JsString) : Bool := matchesClasses uuidPattern value

/-! ### Validation -/

/-- The error that every failed validation of a ticket ends in. -/
def invalidTicket : String := "Invalid Document ticket"

def validateOrigin (origin : Option JsString) (allowedOrigins : List JsString) :
    Except String Unit :=
  rejectIf (∀ o, origin = some o → o ∉ allowedOrigins) "Invalid collaboration origin"

/-- `buffer.toString("base64url")`. -/
def toBase64url (bytes : Bytes) : JsString := utf16 (Base64.encode Base64.url [] bytes)

/-- `[A-Za-z0-9_-]`. -/
def isUrlAlphabet (code : UInt16) : Bool :=
  let n := code.toNat
  (65 ≤ n && n ≤ 90) || (97 ≤ n && n ≤ 122) || (48 ≤ n && n ≤ 57) || n = 95 || n = 45

def decodeCanonicalBase64URL (runtime : Runtime) (encoded : JsString) : Except String Bytes := do
  rejectIf (encoded = [] ∨ encoded.all isUrlAlphabet = false) invalidTicket
  let decoded := runtime.fromBase64url encoded
  rejectIf (toBase64url decoded ≠ encoded) invalidTicket
  return decoded

/-- The members of an object. -/
def record : Json → Option (List (JsString × Json))
  | .object members => some members
  | _ => none

def parseRecord (runtime : Runtime) (encoded : JsString) :
    Except String (List (JsString × Json)) := do
  let decoded ← decodeCanonicalBase64URL runtime encoded
  require ((runtime.jsonParse (utf8ToString decoded)).bind record) invalidTicket

/-- A string value of at most 200 code units, and not empty. -/
def readDisplayName : Option Json → Option JsString
  | some (.string s) => if s.length = 0 ∨ 200 < s.length then none else some s
  | _ => none

def readUUID : Option Json → Option JsString
  | some (.string s) => if validUUID s then some s else none
  | _ => none

/-- A value that passes `Number.isSafeInteger`. -/
def readSafeInteger : Option Json → Option ℤ
  | some (.number (.finite q)) => if (JsNumber.finite q).isSafeInteger then some q.num else none
  | _ => none

/-- `readClaims`; its checks have no effects and share one error, so their order does not show. -/
def readClaims (payload : List (JsString × Json)) : Option DocumentTicketClaims :=
  match property payload "purpose" with
  | some (.string purpose) =>
      if purpose = js "document" then do
        let displayName ← readDisplayName (property payload "display_name")
        let documentId ← readUUID (property payload "document_id")
        let organizationId ← readUUID (property payload "org_id")
        let teamId ← readUUID (property payload "team_id")
        let userId ← readUUID (property payload "user_id")
        let expiresAt ← readSafeInteger (property payload "exp")
        return { documentId, displayName, expiresAt, organizationId, teamId, userId }
      else none
  | _ => none

/-- The three parts of a token. -/
def tokenParts (token : JsString) : Option (JsString × JsString × JsString) :=
  match split '.' token with
  | [encodedHeader, encodedPayload, encodedSignature] =>
      some (encodedHeader, encodedPayload, encodedSignature)
  | _ => none

/-- Whether a parsed header announces an HS256 JWT. -/
def headerAccepted (header : List (JsString × Json)) : Bool :=
  match property header "alg", property header "typ" with
  | some (.string alg), some (.string typ) => alg = js "HS256" && typ = js "JWT"
  | _, _ => false

/-- `validateDocumentTicket`; `now` is in milliseconds. -/
def validateDocumentTicket (runtime : Runtime) (token : JsString)
    (requestedRoom : RequestedDocumentRoom) (secret : JsString) (now : ℤ) :
    Except String DocumentTicketClaims := do
  rejectIf (byteLength secret < 32) "Document ticket validation is not configured"
  let (encodedHeader, encodedPayload, encodedSignature) ← require (tokenParts token) invalidTicket
  let signature ← decodeCanonicalBase64URL runtime encodedSignature
  let expected := runtime.hmacSha256 (toBytes secret)
    (toBytes (encodedHeader ++ js "." ++ encodedPayload))
  rejectIf (signature ≠ expected) invalidTicket
  let header ← parseRecord runtime encodedHeader
  let payload ← parseRecord runtime encodedPayload
  rejectIf (headerAccepted header = false) invalidTicket
  let claims ← require (readClaims payload) invalidTicket
  rejectIf (claims.documentId ≠ requestedRoom.documentId ∨
      some claims.organizationId ≠ requestedRoom.organizationId ∨
      some claims.teamId ≠ requestedRoom.teamId ∨ claims.expiresAt ≤ now / 1000) invalidTicket
  return claims

/-! ### The signature check on its own -/

/-- The start of `validateDocumentTicket`: the parts with which it goes on. -/
def verifySignature (runtime : Runtime) (token secret : JsString) :
    Except String (JsString × JsString) := do
  rejectIf (byteLength secret < 32) "Document ticket validation is not configured"
  let (encodedHeader, encodedPayload, encodedSignature) ← require (tokenParts token) invalidTicket
  let signature ← decodeCanonicalBase64URL runtime encodedSignature
  let expected := runtime.hmacSha256 (toBytes secret)
    (toBytes (encodedHeader ++ js "." ++ encodedPayload))
  rejectIf (signature ≠ expected) invalidTicket
  return (encodedHeader, encodedPayload)

/-- The rest of it. -/
def validateClaims (runtime : Runtime) (requestedRoom : RequestedDocumentRoom) (now : ℤ)
    (parts : JsString × JsString) : Except String DocumentTicketClaims := do
  let header ← parseRecord runtime parts.1
  let payload ← parseRecord runtime parts.2
  rejectIf (headerAccepted header = false) invalidTicket
  let claims ← require (readClaims payload) invalidTicket
  rejectIf (claims.documentId ≠ requestedRoom.documentId ∨
      some claims.organizationId ≠ requestedRoom.organizationId ∨
      some claims.teamId ≠ requestedRoom.teamId ∨ claims.expiresAt ≤ now / 1000) invalidTicket
  return claims

theorem validateDocumentTicket_eq (runtime : Runtime) (token : JsString)
    (requestedRoom : RequestedDocumentRoom) (secret : JsString) (now : ℤ) :
    validateDocumentTicket runtime token requestedRoom secret now =
      verifySignature runtime token secret >>= validateClaims runtime requestedRoom now := by
  simp only [validateDocumentTicket, verifySignature, validateClaims, bind_assoc, pure_bind]

/-! ### What accepted claims satisfy -/

theorem readUUID_eq_some {value : Option Json} {s : JsString} (h : readUUID value = some s) :
    validUUID s = true := by
  unfold readUUID at h
  split at h
  · split at h
    · cases h
      assumption
    · cases h
  · cases h

theorem readClaims_uuids {payload : List (JsString × Json)} {claims : DocumentTicketClaims}
    (h : readClaims payload = some claims) :
    validUUID claims.organizationId = true ∧ validUUID claims.teamId = true ∧
      validUUID claims.documentId = true ∧ validUUID claims.userId = true := by
  unfold readClaims at h
  split at h
  · split at h
    · simp only [Option.bind_eq_bind, Option.bind_eq_some_iff] at h
      obtain ⟨displayName, -, documentId, hdocument, organizationId, horganization, teamId, hteam,
        userId, huser, expiresAt, -, hreturn⟩ := h
      cases hreturn
      exact ⟨readUUID_eq_some horganization, readUUID_eq_some hteam, readUUID_eq_some hdocument,
        readUUID_eq_some huser⟩
    · cases h
  · cases h

/-- **An accepted ticket** names the room that was asked for, by UUIDs. -/
theorem validateDocumentTicket_spec {runtime : Runtime} {token : JsString}
    {requestedRoom : RequestedDocumentRoom} {secret : JsString} {now : ℤ}
    {claims : DocumentTicketClaims}
    (h : validateDocumentTicket runtime token requestedRoom secret now = .ok claims) :
    claims.documentId = requestedRoom.documentId ∧
      some claims.organizationId = requestedRoom.organizationId ∧
      some claims.teamId = requestedRoom.teamId ∧
      validUUID claims.organizationId = true ∧ validUUID claims.teamId = true ∧
      validUUID claims.documentId = true := by
  unfold validateDocumentTicket at h
  simp only [bind_eq_ok, rejectIf_eq_ok, require_eq_ok, not_or, not_not] at h
  obtain ⟨_, -, parts, -, signature, -, _, -, header, -, payload, -, _, -, claims', hclaims, _,
    ⟨hdocument, horganization, hteam, -⟩, hreturn⟩ := h
  cases hreturn
  obtain ⟨huuid₁, huuid₂, huuid₃, -⟩ := readClaims_uuids hclaims
  exact ⟨hdocument, horganization, hteam, huuid₁, huuid₂, huuid₃⟩

end SocketServer.Collaboration
