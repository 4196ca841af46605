import SocketServer.Chat.Handlers

/-!
# Tickets from the issuer

`testTicket` and `encodePart` (`internal/auth/jwt_test.go`): a ticket as it is issued, with
`json.Marshal` and `base64.RawURLEncoding` on the one side of the wire, and `ValidateToken` on the
other.

* `claims_read`, `parts_of_testTicket`: the claims and the parts are read back;
* `validateToken_testTicket`: what `ValidateToken` says of an issued ticket, whatever the secrets
  of both sides are;
* `handleWS_testTicket`: what becomes of a request to `/ws` with one.
-/

namespace SocketServer.Chat

open SocketServer.Text SocketServer.Go SocketServer.GoJson SocketServer.Checks

/-- Claims to be signed.  `json.Marshal` writes strings of valid UTF-8 as they are. -/
structure IssuedClaims where
  userID : List Char
  orgID : List Char
  teamID : ℤ
  teamPublicID : List Char
  expiresAt : ℤ
  fits : IsInt64 teamID ∧ IsInt64 expiresAt

namespace IssuedClaims

def claims (c : IssuedClaims) : Claims where
  userID := utf8 c.userID
  orgID := utf8 c.orgID
  teamID := c.teamID
  teamPublicID := utf8 c.teamPublicID
  expiresAt := c.expiresAt

/-- What `json.Marshal` writes, the fields in the order of the struct. -/
def tree (c : IssuedClaims) : JsonTree :=
  .object [("user_id".toList, .string c.userID), ("org_id".toList, .string c.orgID),
    ("team_id".toList, .number (.int c.teamID)),
    ("team_public_id".toList, .string c.teamPublicID),
    ("exp".toList, .number (.int c.expiresAt))]

def Complete (c : IssuedClaims) : Prop :=
  c.userID ≠ [] ∧ c.orgID ≠ [] ∧ 1 ≤ c.teamID ∧ c.teamPublicID ≠ []

instance (c : IssuedClaims) : Decidable c.Complete := inferInstanceAs (Decidable (_ ∧ _ ∧ _ ∧ _))

end IssuedClaims

/-- `ticketHeader` with the values of a ticket. -/
def headerTree : JsonTree :=
  .object [("alg".toList, .string "HS256".toList), ("typ".toList, .string "JWT".toList)]

section Issuing

variable (marshal : JsonTree → Bytes)

def encodePart (tree : JsonTree) : Bytes := rawURLEncode (marshal tree)

def unsigned (c : IssuedClaims) : Bytes :=
  encodePart marshal headerTree ++ literal "." ++ encodePart marshal c.tree

def testTicket (runtime : AuthRuntime) (c : IssuedClaims) (secret : Bytes) : Bytes :=
  unsigned marshal c ++ literal "." ++ rawURLEncode (runtime.hmacSha256 secret (unsigned marshal c))

/-- What the issuer writes is read back; an empty text is a syntax error, and no digest is empty. -/
structure ReadsBack (runtime : AuthRuntime) (c : IssuedClaims) : Prop where
  header : runtime.parseJSON (marshal headerTree) = some headerTree
  payload : runtime.parseJSON (marshal c.tree) = some c.tree
  empty : runtime.parseJSON [] = none
  digest : ∀ secret message, runtime.hmacSha256 secret message ≠ []

end Issuing

/-! ### Reading back -/

theorem header_read : unmarshalStruct ticketHeaderFields .zero headerTree =
    some ⟨literal "HS256", literal "JWT"⟩ := rfl

theorem claims_read (c : IssuedClaims) :
    unmarshalStruct claimsFields .zero c.tree = some c.claims := by
  show setMembers claimsFields _ _ = _
  rw [setMembers_cons rfl, stringField_text, Option.bind_some, setMembers_cons rfl,
    stringField_text, Option.bind_some, setMembers_cons rfl, int64Field_int _ _ c.fits.1,
    Option.bind_some, setMembers_cons rfl, stringField_text, Option.bind_some,
    setMembers_cons rfl, int64Field_int _ _ c.fits.2, Option.bind_some]
  rfl

theorem rawURLEncode_injective : Function.Injective rawURLEncode := by
  intro a b h
  apply Option.some.inj
  rw [← rawURLDecode_encode a, ← rawURLDecode_encode b, h]

theorem rawURLEncode_ne_nil {bytes : Bytes} (h : bytes ≠ []) : rawURLEncode bytes ≠ [] := by
  intro hnil
  exact h (rawURLEncode_injective hnil)

/-- **The parts of a token** are found again when they are encodings of something. -/
theorem parts_of_encodings {a b c : Bytes} (ha : a ≠ []) (hb : b ≠ []) (hc : c ≠ []) :
    ticketParts (trimSpace (rawURLEncode a ++ literal "." ++ rawURLEncode b ++ literal "." ++
      rawURLEncode c)) = some (rawURLEncode a, rawURLEncode b, rawURLEncode c) := by
  have hdot : literal "." = [46] := by decide
  have hdots : ∀ part ∈ [rawURLEncode a, rawURLEncode b, rawURLEncode c], (46 : UInt8) ∉ part := by
    intro part hpart hmem
    simp only [List.mem_cons, List.not_mem_nil, or_false] at hpart
    obtain rfl | rfl | rfl := hpart <;> exact (mem_rawURLEncode hmem).1 rfl
  have htrim : trimSpace (rawURLEncode a ++ literal "." ++ rawURLEncode b ++ literal "." ++
      rawURLEncode c) = List.intercalate [46] [rawURLEncode a, rawURLEncode b, rawURLEncode c] := by
    have hspace : isSpaceByte 46 = false := by decide
    rw [trimSpace_of_ends, hdot]
    · simp [List.intercalate]
    · intro x hx
      rw [hdot] at hx
      simp only [List.mem_append, List.mem_singleton] at hx
      obtain (((hx | rfl) | hx) | rfl) | hx := hx
      · exact (mem_rawURLEncode hx).2
      · exact hspace
      · exact (mem_rawURLEncode hx).2
      · exact hspace
      · exact (mem_rawURLEncode hx).2
  rw [htrim, ticketParts, List.splitOn_intercalate _ hdots (List.cons_ne_nil _ _)]
  exact if_neg (not_or.mpr ⟨rawURLEncode_ne_nil ha,
    not_or.mpr ⟨rawURLEncode_ne_nil hb, rawURLEncode_ne_nil hc⟩⟩)

section Validation

variable {marshal : JsonTree → Bytes} {runtime : AuthRuntime} {c : IssuedClaims}

/-- A text that is read is not empty. -/
theorem ReadsBack.ne_nil (h : ReadsBack marshal runtime c) {text : Bytes} {tree : JsonTree}
    (hread : runtime.parseJSON text = some tree) : text ≠ [] := by
  intro hnil
  rw [hnil, h.empty] at hread
  cases hread

theorem parts_of_testTicket (h : ReadsBack marshal runtime c) (secret : Bytes) :
    ticketParts (trimSpace (testTicket marshal runtime c secret)) =
      some (encodePart marshal headerTree, encodePart marshal c.tree,
        rawURLEncode (runtime.hmacSha256 secret (unsigned marshal c))) :=
  parts_of_encodings (h.ne_nil h.header) (h.ne_nil h.payload) (h.digest _ _)

theorem validateHeader_encodePart (h : ReadsBack marshal runtime c) :
    validateHeader runtime (encodePart marshal headerTree) = .ok () := by
  have hdecoded : rawURLDecode (encodePart marshal headerTree) = some (marshal headerTree) :=
    rawURLDecode_encode _
  have hheader : (runtime.parseJSON (marshal headerTree)).bind
      (unmarshalStruct ticketHeaderFields .zero) = some ⟨literal "HS256", literal "JWT"⟩ := by
    rw [h.header]
    exact header_read
  unfold validateHeader
  rw [hdecoded]
  show (require ((runtime.parseJSON (marshal headerTree)).bind _) _ >>= _) = _
  rw [hheader]
  rfl

/-- The texts of two digests are the same when the digests are. -/
theorem validSignature_testTicket (issuer verifier : Bytes) :
    validSignature runtime (encodePart marshal headerTree) (encodePart marshal c.tree)
        (rawURLEncode (runtime.hmacSha256 issuer (unsigned marshal c))) verifier =
      decide (runtime.hmacSha256 verifier (unsigned marshal c) =
        runtime.hmacSha256 issuer (unsigned marshal c)) :=
  decide_eq_decide.mpr rawURLEncode_injective.eq_iff

theorem missing_iff : (c.claims.userID = [] ∨ c.claims.orgID = [] ∨ c.claims.teamID < 1 ∨
    c.claims.teamPublicID = []) ↔ ¬ c.Complete := by
  have hnil : ∀ s : List Char, utf8 s = [] ↔ s = [] := fun s => utf8_injective.eq_iff' utf8_nil
  have hteam : c.teamID < 1 ↔ ¬ 1 ≤ c.teamID := not_le.symm
  rw [IssuedClaims.Complete, not_and_or, not_and_or, not_and_or, not_not, not_not, not_not, ← hteam]
  exact or_congr (hnil _) (or_congr (hnil _) (or_congr Iff.rfl (hnil _)))

/-- **Issued tickets.**  The signature is checked first, then that nothing is missing, then the
time; a ticket that passes gives its claims back. -/
theorem validateToken_testTicket (h : ReadsBack marshal runtime c) (getenv : String → Bytes)
    (now : ℤ) (secret : Bytes) :
    validateToken runtime getenv now (testTicket marshal runtime c secret) =
      if runtime.hmacSha256 (jwtSecret getenv) (unsigned marshal c) ≠
          runtime.hmacSha256 secret (unsigned marshal c) then .error "invalid signature"
      else if ¬ c.Complete then .error "missing claims"
      else if c.expiresAt ≤ now then .error "expired token"
      else .ok c.claims := by
  have hpayload : rawURLDecode (encodePart marshal c.tree) = some (marshal c.tree) :=
    rawURLDecode_encode _
  have hclaims : (runtime.parseJSON (marshal c.tree)).bind
      (unmarshalStruct claimsFields .zero) = some c.claims := by
    rw [h.payload]
    exact claims_read c
  unfold validateToken
  rw [parts_of_testTicket h secret]
  show (validateHeader runtime (encodePart marshal headerTree) >>= _) = _
  rw [validateHeader_encodePart h]
  show (rejectIf (validSignature runtime (encodePart marshal headerTree)
    (encodePart marshal c.tree) _ (jwtSecret getenv) = false) "invalid signature" >>= _) = _
  rw [validSignature_testTicket]
  by_cases hsignature : runtime.hmacSha256 (jwtSecret getenv) (unsigned marshal c) =
      runtime.hmacSha256 secret (unsigned marshal c)
  · rw [if_neg (not_not.mpr hsignature), rejectIf_of_not (by simp [hsignature]), hpayload]
    show (require ((runtime.parseJSON (marshal c.tree)).bind _) "invalid claims" >>= _) = _
    rw [hclaims]
    show (rejectIf (c.claims.userID = [] ∨ c.claims.orgID = [] ∨ c.claims.teamID < 1 ∨
      c.claims.teamPublicID = []) "missing claims" >>= _) = _
    by_cases hcomplete : c.Complete
    · rw [if_neg (not_not.mpr hcomplete), rejectIf_of_not (mt missing_iff.mp (not_not.mpr hcomplete))]
      show (rejectIf (c.expiresAt ≤ now) "expired token" >>= _) = _
      by_cases hexpired : c.expiresAt ≤ now
      · rw [if_pos hexpired, rejectIf_of hexpired]
        rfl
      · rw [if_neg hexpired, rejectIf_of_not hexpired]
        rfl
    · rw [if_pos hcomplete, rejectIf_of (missing_iff.mpr hcomplete)]
      rfl
  · rw [if_pos hsignature, rejectIf_of (by simp [hsignature])]
    rfl

end Validation

/-- **A request to `/ws` with an issued ticket** joins the team of the ticket when the ticket is
signed with the secret of the service, complete and not expired, the request names the team's
public id, and it is a handshake from an allowed origin; in every other case it is refused, for the
first of these that fails.  A request that names no team at all is refused before its ticket is
looked at. -/
theorem handleWS_testTicket {δ : Type*} (runtime : ServerRuntime δ) {marshal : JsonTree → Bytes}
    {c : IssuedClaims} (h : ReadsBack marshal runtime.auth c) (getenv : String → Bytes) (now : ℤ)
    (secret : Bytes) {request : Request}
    (htoken : request.token = testTicket marshal runtime.auth c secret) :
    handleWS runtime getenv now request =
      if request.teamID = [] then httpError "token and team_id are required" 400
      else if runtime.auth.hmacSha256 (jwtSecret getenv) (unsigned marshal c) ≠
          runtime.auth.hmacSha256 secret (unsigned marshal c) ∨
          ¬ c.Complete ∨ c.expiresAt ≤ now then
        httpError "invalid or expired token" 401
      else if request.teamID ≠ utf8 c.teamPublicID then httpError "forbidden: wrong team" 403
      else if request.handshake = true ∧ allowsOrigin getenv request.origin = true then
        .join c.claims
      else .upgradeFailed := by
  have hdot : request.token ≠ [] := by
    rw [htoken, testTicket]
    simp [literal, utf8]
  unfold handleWS
  by_cases hteam : request.teamID = []
  · rw [if_pos (Or.inr hteam), if_pos hteam]
  rw [if_neg (not_or.mpr ⟨hdot, hteam⟩), if_neg hteam, htoken, validateToken_testTicket h]
  by_cases hsignature : runtime.auth.hmacSha256 (jwtSecret getenv) (unsigned marshal c) ≠
      runtime.auth.hmacSha256 secret (unsigned marshal c)
  · rw [if_pos hsignature, if_pos (Or.inl hsignature)]
  · by_cases hcomplete : ¬ c.Complete
    · rw [if_neg hsignature, if_pos hcomplete, if_pos (Or.inr (Or.inl hcomplete))]
    · by_cases hexpired : c.expiresAt ≤ now
      · rw [if_neg hsignature, if_neg hcomplete, if_pos hexpired,
          if_pos (Or.inr (Or.inr hexpired))]
      · rw [if_neg hsignature, if_neg hcomplete, if_neg hexpired,
          if_neg (not_or.mpr ⟨hsignature, not_or.mpr ⟨hcomplete, hexpired⟩⟩)]
        show (if request.teamID ≠ utf8 c.teamPublicID then _ else serveWS getenv request c.claims) = _
        simp only [serveWS, Bool.and_eq_true]

/-! ### A sample ticket -/

def sampleIssued : IssuedClaims where
  userID := "u".toList
  orgID := "o".toList
  teamID := 1
  teamPublicID := "t".toList
  expiresAt := 1800000000
  fits := by decide +kernel

/-- The texts of the header and of the sample claims. -/
def sampleMarshal : JsonTree → Bytes
  | .object [_, _] => literal "\x7b\"alg\":\"HS256\",\"typ\":\"JWT\"\x7d"
  | _ => literal ("\x7b\"user_id\":\"u\",\"org_id\":\"o\",\"team_id\":1," ++
      "\"team_public_id\":\"t\",\"exp\":1800000000\x7d")

/-- What Go does with the sample ticket. -/
def sampleIssuer : AuthRuntime where
  hmacSha256 _ _ :=
    [242, 198, 199, 83, 218, 169, 62, 118, 215, 12, 88, 22, 7, 86, 240, 125, 82, 30, 170, 83, 196,
      176, 66, 111, 149, 22, 172, 245, 204, 92, 142, 30]
  parseJSON text :=
    if text = sampleMarshal headerTree then some headerTree
    else if text = sampleMarshal sampleIssued.tree then some sampleIssued.tree
    else none

theorem sampleIssuer_parseJSON (text : Bytes) : sampleIssuer.parseJSON text =
    if text = sampleMarshal headerTree then some headerTree
    else if text = sampleMarshal sampleIssued.tree then some sampleIssued.tree
    else none := rfl

theorem sampleIssuer_readsBack : ReadsBack sampleMarshal sampleIssuer sampleIssued where
  header := by rw [sampleIssuer_parseJSON, if_pos rfl]
  payload := by
    have hother : sampleMarshal sampleIssued.tree ≠ sampleMarshal headerTree := by decide +kernel
    rw [sampleIssuer_parseJSON, if_neg hother, if_pos rfl]
  empty := by
    have hheader : [] ≠ sampleMarshal headerTree := by decide +kernel
    have hpayload : [] ≠ sampleMarshal sampleIssued.tree := by decide +kernel
    rw [sampleIssuer_parseJSON, if_neg hheader, if_neg hpayload]
  digest _ _ := List.cons_ne_nil _ _

/-- A handshake with the sample ticket. -/
def sampleHandshake : Request where
  method := "GET"
  path := "/ws"
  origin := literal "http://localhost:3000"
  internalKey := []
  token := testTicket sampleMarshal sampleIssuer sampleIssued
    (literal "development-socket-ticket-secret-change-me")
  teamID := literal "t"
  body := []
  handshake := true

theorem handleWS_testTicket_sample :
    handleWS (⟨⟨fun _ => none, fun _ => none⟩, fun _ => none, sampleIssuer⟩ : ServerRuntime Unit)
        (fun _ => []) 1700000000 sampleHandshake = .join sampleIssued.claims := by
  have hteam : sampleHandshake.teamID ≠ [] := by decide
  have horigin : allowsOrigin (fun _ => []) sampleHandshake.origin = true := by decide +kernel
  have hcomplete : sampleIssued.Complete := by decide
  rw [handleWS_testTicket _ sampleIssuer_readsBack (fun _ => []) 1700000000
    (literal "development-socket-ticket-secret-change-me") rfl, if_neg hteam]
  rw [if_neg, if_neg, if_pos ⟨rfl, horigin⟩]
  · exact not_not.mpr rfl
  · intro h
    obtain hdigest | hmissing | hexpired := h
    · exact hdigest rfl
    · exact hmissing hcomplete
    · exact absurd hexpired (by decide)

end SocketServer.Chat
