import SocketServer.Collaboration.RoomIdentity

/-!
# The form of an accepted ticket

`validateDocumentTicket` decodes three base64url texts, each through `decodeCanonicalBase64URL`, which
encodes its result again and compares.  Together with the signature over the first two texts this
leaves one spelling for a header and a payload.

* `decodeCanonicalBase64URL_eq_ok`: a part is accepted exactly when it encodes a byte sequence that
  is not empty;
* `readClaims_eq_some`: the claims that are read, field by field;
* `ticket_accepted_iff`: the tickets that are accepted, and that their bytes determine them.
-/

namespace SocketServer.Collaboration

open SocketServer.Text SocketServer.Js SocketServer.Checks

/-! ### One part of a token -/

/-- A base64url text is a list of letters of its alphabet. -/
theorem toBase64url_alphabet {bytes : Bytes} {u : UInt16} (h : u ∈ toBase64url bytes) :
    isUrlAlphabet u = true := by
  have hdigits : ∀ d < 64, (utf16Char (Base64.url d)).all isUrlAlphabet = true := by decide
  obtain ⟨c, hc, hu⟩ := List.mem_flatMap.mp h
  obtain ⟨d, hd, rfl⟩ | hpad := Base64.mem_encode hc
  · exact List.all_eq_true.mp (hdigits d hd) u hu
  · exact absurd hpad List.not_mem_nil

theorem dot_notMem_toBase64url (bytes : Bytes) : unit '.' ∉ toBase64url bytes := by
  intro h
  have hdot : isUrlAlphabet (unit '.') = false := by decide
  exact Bool.false_ne_true (hdot.symm.trans (toBase64url_alphabet h))

section Parts

variable {runtime : Runtime}

theorem record_eq_some {value : Json} {members : List (JsString × Json)} :
    record value = some members ↔ value = .object members := by
  constructor
  · intro h
    cases value <;> cases h
    rfl
  · rintro rfl
    rfl

/-- A part that is accepted encodes the bytes it is decoded to. -/
theorem encoded_of_decoded {encoded : JsString} {bytes : Bytes}
    (h : decodeCanonicalBase64URL runtime encoded = .ok bytes) :
    encoded = toBase64url bytes ∧ bytes ≠ [] := by
  have hempty : toBase64url [] = [] := rfl
  simp only [decodeCanonicalBase64URL, bind_eq_ok, rejectIf_eq_ok, not_or, Bool.not_eq_false,
    not_not] at h
  obtain ⟨-, ⟨hnonempty, -⟩, -, hsame, hreturn⟩ := h
  cases hreturn
  refine ⟨hsame.symm, fun hnil => hnonempty ?_⟩
  rw [← hsame, hnil, hempty]

theorem encoded_of_parsed {encoded : JsString} {members : List (JsString × Json)}
    (h : parseRecord runtime encoded = .ok members) : ∃ bytes, bytes ≠ [] ∧
      encoded = toBase64url bytes ∧
      runtime.jsonParse (utf8ToString bytes) = some (.object members) := by
  simp only [parseRecord, bind_eq_ok, require_eq_ok, Option.bind_eq_some_iff,
    record_eq_some] at h
  obtain ⟨bytes, hdecoded, value, hparse, rfl⟩ := h
  exact ⟨bytes, (encoded_of_decoded hdecoded).2, (encoded_of_decoded hdecoded).1, hparse⟩

variable (hdecode : ∀ bytes, runtime.fromBase64url (toBase64url bytes) = bytes)

include hdecode

theorem toBase64url_injective : Function.Injective toBase64url :=
  Function.LeftInverse.injective hdecode

/-- **One part** is accepted exactly when it is the text of a byte sequence that is not empty. -/
theorem decodeCanonicalBase64URL_eq_ok {encoded : JsString} {bytes : Bytes} :
    decodeCanonicalBase64URL runtime encoded = .ok bytes ↔
      encoded = toBase64url bytes ∧ bytes ≠ [] := by
  refine ⟨encoded_of_decoded, ?_⟩
  rintro ⟨rfl, hbytes⟩
  simp only [decodeCanonicalBase64URL, bind_eq_ok, rejectIf_eq_ok, not_or, Bool.not_eq_false,
    not_not]
  refine ⟨(), ⟨fun hnil => hbytes ?_, ?_⟩, (), ?_, ?_⟩
  · have hempty : toBase64url [] = [] := rfl
    exact toBase64url_injective hdecode (hnil.trans hempty.symm)
  · exact List.all_eq_true.mpr fun u hu => toBase64url_alphabet hu
  · rw [hdecode]
  · rw [hdecode]
    rfl

theorem parseRecord_eq_ok {encoded : JsString} {members : List (JsString × Json)} :
    parseRecord runtime encoded = .ok members ↔ ∃ bytes, bytes ≠ [] ∧
      encoded = toBase64url bytes ∧
      runtime.jsonParse (utf8ToString bytes) = some (.object members) := by
  refine ⟨encoded_of_parsed, ?_⟩
  rintro ⟨bytes, hbytes, hencoded, hparse⟩
  simp only [parseRecord, bind_eq_ok, decodeCanonicalBase64URL_eq_ok hdecode, require_eq_ok,
    Option.bind_eq_some_iff, record_eq_some]
  exact ⟨bytes, ⟨hencoded, hbytes⟩, _, hparse, rfl⟩

end Parts

/-! ### The three parts -/

/-- Three texts with dots between them. -/
def joinToken (encodedHeader encodedPayload encodedSignature : JsString) : JsString :=
  encodedHeader ++ js "." ++ encodedPayload ++ js "." ++ encodedSignature

theorem joinToken_eq_joinParts (h p s : JsString) : joinToken h p s = joinParts '.' [h, p, s] := by
  simp [joinToken, joinParts, js, utf16, utf16Char, unit]

/-- The parts of a token, joined, are the token. -/
theorem tokenParts_eq_some {token h p s : JsString} (hparts : tokenParts token = some (h, p, s)) :
    token = joinToken h p s := by
  unfold tokenParts at hparts
  split at hparts
  · rename_i h' p' s' hsplit
    cases hparts
    rw [joinToken_eq_joinParts, ← hsplit, joinParts, split, List.intercalate_splitOn]
  · cases hparts

/-- Parts without dots are found again. -/
theorem tokenParts_joinToken {h p s : JsString} (hdots : ∀ part ∈ [h, p, s], unit '.' ∉ part) :
    tokenParts (joinToken h p s) = some (h, p, s) := by
  have hsplit : split '.' (joinToken h p s) = [h, p, s] := by
    rw [joinToken_eq_joinParts]
    exact List.splitOn_intercalate _ hdots (List.cons_ne_nil _ _)
  rw [tokenParts, hsplit]

/-! ### The claims -/

/-- The payload has the claims, each under its name and in the form that is asked for. -/
structure WellFormedClaims (payload : List (JsString × Json)) (claims : DocumentTicketClaims) :
    Prop where
  purpose : property payload "purpose" = some (.string (js "document"))
  displayName : property payload "display_name" = some (.string claims.displayName)
  displayNameLength : 0 < claims.displayName.length ∧ claims.displayName.length ≤ 200
  documentId : property payload "document_id" = some (.string claims.documentId)
  organizationId : property payload "org_id" = some (.string claims.organizationId)
  teamId : property payload "team_id" = some (.string claims.teamId)
  userId : property payload "user_id" = some (.string claims.userId)
  uuids : ∀ id ∈ [claims.documentId, claims.organizationId, claims.teamId, claims.userId],
    validUUID id = true
  expiresAt : property payload "exp" = some (.number (.finite claims.expiresAt))
  safe : claims.expiresAt.natAbs ≤ 2 ^ 53 - 1

theorem readDisplayName_eq_some {value : Option Json} {s : JsString} :
    readDisplayName value = some s ↔
      value = some (.string s) ∧ 0 < s.length ∧ s.length ≤ 200 := by
  unfold readDisplayName
  split
  · rename_i s'
    split
    · rename_i hlength
      constructor
      · exact nofun
      · rintro ⟨hsome, hlength'⟩
        cases hsome
        omega
    · rename_i hlength
      constructor
      · intro h
        cases h
        exact ⟨rfl, by omega⟩
      · rintro ⟨hsome, -⟩
        cases hsome
        rfl
  · rename_i hother
    exact ⟨nofun, fun h => absurd h.1 (hother s)⟩

theorem readUUID_eq_some_iff {value : Option Json} {s : JsString} :
    readUUID value = some s ↔ value = some (.string s) ∧ validUUID s = true := by
  constructor
  · intro h
    refine ⟨?_, readUUID_eq_some h⟩
    unfold readUUID at h
    split at h
    · split at h <;> cases h
      rfl
    · cases h
  · rintro ⟨rfl, hvalid⟩
    exact if_pos hvalid

theorem readSafeInteger_eq_some {value : Option Json} {n : ℤ} :
    readSafeInteger value = some n ↔
      value = some (.number (.finite n)) ∧ n.natAbs ≤ 2 ^ 53 - 1 := by
  constructor
  · intro h
    unfold readSafeInteger at h
    split at h
    · rename_i q
      split at h
      · rename_i hsafe
        cases h
        simp only [JsNumber.isSafeInteger, Bool.and_eq_true, decide_eq_true_eq] at hsafe
        have hq : (q.num : ℚ) = q := Rat.coe_int_num_of_den_eq_one hsafe.1
        exact ⟨by rw [hq], hsafe.2⟩
      · cases h
    · cases h
  · rintro ⟨rfl, hsafe⟩
    have hinteger : (JsNumber.finite (n : ℚ)).isSafeInteger = true := by
      rw [JsNumber.isSafeInteger, Rat.den_intCast, Rat.num_intCast]
      exact decide_eq_true hsafe
    rw [readSafeInteger, if_pos hinteger, Rat.num_intCast]

/-- **The claims that are read.** -/
theorem readClaims_eq_some {payload : List (JsString × Json)} {claims : DocumentTicketClaims} :
    readClaims payload = some claims ↔ WellFormedClaims payload claims := by
  constructor
  · intro h
    unfold readClaims at h
    split at h
    · rename_i purpose hpurpose
      split at h
      · rename_i hdocument
        subst hdocument
        simp only [Option.bind_eq_bind, Option.bind_eq_some_iff] at h
        obtain ⟨displayName, hname, documentId, hdocument, organizationId, horganization, teamId,
          hteam, userId, huser, expiresAt, hexpires, hreturn⟩ := h
        cases hreturn
        obtain ⟨hname, hlength⟩ := readDisplayName_eq_some.mp hname
        obtain ⟨hdocument, huuid₁⟩ := readUUID_eq_some_iff.mp hdocument
        obtain ⟨horganization, huuid₂⟩ := readUUID_eq_some_iff.mp horganization
        obtain ⟨hteam, huuid₃⟩ := readUUID_eq_some_iff.mp hteam
        obtain ⟨huser, huuid₄⟩ := readUUID_eq_some_iff.mp huser
        obtain ⟨hexpires, hsafe⟩ := readSafeInteger_eq_some.mp hexpires
        exact {
          purpose := hpurpose
          displayName := hname
          displayNameLength := hlength
          documentId := hdocument
          organizationId := horganization
          teamId := hteam
          userId := huser
          uuids := by simp [huuid₁, huuid₂, huuid₃, huuid₄]
          expiresAt := hexpires
          safe := hsafe }
      · cases h
    · cases h
  · intro h
    have huuids := h.uuids
    simp only [List.mem_cons, List.not_mem_nil, or_false, forall_eq_or_imp, forall_eq] at huuids
    obtain ⟨huuid₁, huuid₂, huuid₃, huuid₄⟩ := huuids
    rw [readClaims, h.purpose]
    simp only [if_true, readDisplayName_eq_some.mpr ⟨h.displayName, h.displayNameLength⟩,
      readUUID_eq_some_iff.mpr ⟨h.documentId, huuid₁⟩,
      readUUID_eq_some_iff.mpr ⟨h.organizationId, huuid₂⟩,
      readUUID_eq_some_iff.mpr ⟨h.teamId, huuid₃⟩, readUUID_eq_some_iff.mpr ⟨h.userId, huuid₄⟩,
      readSafeInteger_eq_some.mpr ⟨h.expiresAt, h.safe⟩]
    rfl

/-! ### Accepted tickets -/

/-- The text over which a header and a payload are signed. -/
def unsignedToken (header payload : Bytes) : JsString :=
  toBase64url header ++ js "." ++ toBase64url payload

theorem tokenParts_unsignedToken (header payload signature : Bytes) :
    tokenParts (unsignedToken header payload ++ js "." ++ toBase64url signature) =
      some (toBase64url header, toBase64url payload, toBase64url signature) := by
  refine tokenParts_joinToken fun part hpart => ?_
  simp only [List.mem_cons, List.not_mem_nil, or_false] at hpart
  obtain rfl | rfl | rfl := hpart <;> exact dot_notMem_toBase64url _

/-- A ticket in canonical form, for a room at a time. -/
structure CanonicalTicket (runtime : Runtime) (secret : JsString)
    (requestedRoom : RequestedDocumentRoom) (now : ℤ) (claims : DocumentTicketClaims)
    (header payload : Bytes) (token : JsString) : Prop where
  spelled : token = unsignedToken header payload ++ js "." ++
    toBase64url (runtime.hmacSha256 (toBytes secret) (toBytes (unsignedToken header payload)))
  header : ∃ members, runtime.jsonParse (utf8ToString header) = some (.object members) ∧
    property members "alg" = some (.string (js "HS256")) ∧
    property members "typ" = some (.string (js "JWT"))
  payload : ∃ members, runtime.jsonParse (utf8ToString payload) = some (.object members) ∧
    WellFormedClaims members claims
  documentId : claims.documentId = requestedRoom.documentId
  organizationId : some claims.organizationId = requestedRoom.organizationId
  teamId : some claims.teamId = requestedRoom.teamId
  unexpired : now / 1000 < claims.expiresAt

theorem headerAccepted_iff {header : List (JsString × Json)} :
    headerAccepted header = true ↔ property header "alg" = some (.string (js "HS256")) ∧
      property header "typ" = some (.string (js "JWT")) := by
  unfold headerAccepted
  split
  · rename_i alg typ halg htyp
    simp [halg, htyp]
  · rename_i hother
    exact ⟨nofun, fun h => absurd h.2 (hother _ _ h.1)⟩

section Validation

variable {runtime : Runtime} {secret : JsString} {requestedRoom : RequestedDocumentRoom} {now : ℤ}

/-- **An accepted ticket is in canonical form.** -/
theorem canonical_of_accepted {token : JsString} {claims : DocumentTicketClaims}
    (h : validateDocumentTicket runtime token requestedRoom secret now = .ok claims) :
    ∃ header payload,
      CanonicalTicket runtime secret requestedRoom now claims header payload token := by
  unfold validateDocumentTicket at h
  simp only [bind_eq_ok, rejectIf_eq_ok, require_eq_ok, not_or, not_not, Bool.not_eq_false] at h
  obtain ⟨-, -, ⟨h', p', s'⟩, hparts, signature, hsignature, -, hsame, headerMembers, hheader,
    payloadMembers, hpayload, -, haccepted, claims', hclaims, -,
    ⟨hdocument, horganization, hteam, hexpires⟩, hreturn⟩ := h
  cases hreturn
  obtain ⟨hsigned, -⟩ := encoded_of_decoded hsignature
  obtain ⟨header, -, hheader, hheaderJson⟩ := encoded_of_parsed hheader
  obtain ⟨payload, -, hpayload, hpayloadJson⟩ := encoded_of_parsed hpayload
  subst hheader hpayload hsigned
  refine ⟨header, payload, {
    spelled := ?_
    header := ⟨headerMembers, hheaderJson, headerAccepted_iff.mp haccepted⟩
    payload := ⟨payloadMembers, hpayloadJson, readClaims_eq_some.mp hclaims⟩
    documentId := hdocument
    organizationId := horganization
    teamId := hteam
    unexpired := not_le.mp hexpires }⟩
  rw [tokenParts_eq_some hparts, hsame]
  rfl

variable (hdecode : ∀ bytes, runtime.fromBase64url (toBase64url bytes) = bytes)

include hdecode

/-- **A ticket in canonical form is accepted.** -/
theorem accepted_of_canonical
    (hmac : ∀ key message, runtime.hmacSha256 key message ≠ [])
    (hempty : runtime.jsonParse [] = none) (hsecret : 32 ≤ byteLength secret) {token : JsString}
    {claims : DocumentTicketClaims} {header payload : Bytes}
    (h : CanonicalTicket runtime secret requestedRoom now claims header payload token) :
    validateDocumentTicket runtime token requestedRoom secret now = .ok claims := by
  obtain ⟨headerMembers, hheaderJson, haccepted⟩ := h.header
  obtain ⟨payloadMembers, hpayloadJson, hclaims⟩ := h.payload
  -- a text that parses is not empty
  have hnonempty : ∀ {bytes value}, runtime.jsonParse (utf8ToString bytes) = some value →
      bytes ≠ [] := by
    rintro bytes value hparse rfl
    have hnone : none = some value := hempty.symm.trans hparse
    cases hnone
  have hparts := h.spelled ▸ tokenParts_unsignedToken header payload
    (runtime.hmacSha256 (toBytes secret) (toBytes (unsignedToken header payload)))
  unfold validateDocumentTicket
  simp only [bind_eq_ok, rejectIf_eq_ok, require_eq_ok, not_or, not_not, Bool.not_eq_false,
    decodeCanonicalBase64URL_eq_ok hdecode, parseRecord_eq_ok hdecode]
  exact ⟨(), not_lt.mpr hsecret, _, hparts, _, ⟨rfl, hmac _ _⟩, (), rfl, headerMembers,
    ⟨header, hnonempty hheaderJson, rfl, hheaderJson⟩, payloadMembers,
    ⟨payload, hnonempty hpayloadJson, rfl, hpayloadJson⟩, (), headerAccepted_iff.mpr haccepted,
    claims, readClaims_eq_some.mpr hclaims, (),
    ⟨h.documentId, h.organizationId, h.teamId, not_le.mpr h.unexpired⟩, rfl⟩

end Validation

/-- **Tickets are accepted exactly in canonical form**, and an accepted ticket is determined by the
bytes of its header and of its payload. -/
theorem ticket_accepted_iff (runtime : Runtime)
    (hdecode : ∀ bytes, runtime.fromBase64url (toBase64url bytes) = bytes)
    (hmac : ∀ key message, runtime.hmacSha256 key message ≠ [])
    (hempty : runtime.jsonParse [] = none) {secret : JsString} (hsecret : 32 ≤ byteLength secret) :
    (∀ requestedRoom now token claims,
      validateDocumentTicket runtime token requestedRoom secret now = .ok claims ↔
        ∃ header payload,
          CanonicalTicket runtime secret requestedRoom now claims header payload token) ∧
    (∀ room room' now now' token token' claims claims',
      validateDocumentTicket runtime token room secret now = .ok claims →
      validateDocumentTicket runtime token' room' secret now' = .ok claims' →
      ∀ h p s h' p' s', tokenParts token = some (h, p, s) → tokenParts token' = some (h', p', s') →
        runtime.fromBase64url h = runtime.fromBase64url h' →
        runtime.fromBase64url p = runtime.fromBase64url p' → token = token') := by
  constructor
  · intro requestedRoom now token claims
    constructor
    · exact canonical_of_accepted
    · rintro ⟨header, payload, h⟩
      exact accepted_of_canonical hdecode hmac hempty hsecret h
  · intro room room' now now' token token' claims claims' haccepted haccepted' h p s h' p' s'
      hparts hparts' hheader hpayload
    -- the decoded parts of an accepted ticket are the bytes of its canonical form
    have hspelled : ∀ {room now token claims h p s},
        validateDocumentTicket runtime token room secret now = .ok claims →
        tokenParts token = some (h, p, s) →
        token = unsignedToken (runtime.fromBase64url h) (runtime.fromBase64url p) ++ js "." ++
          toBase64url (runtime.hmacSha256 (toBytes secret) (toBytes
            (unsignedToken (runtime.fromBase64url h) (runtime.fromBase64url p)))) := by
      intro room now token claims h p s haccepted hparts
      obtain ⟨header, payload, hcanonical⟩ := canonical_of_accepted haccepted
      rw [hcanonical.spelled, tokenParts_unsignedToken] at hparts
      cases hparts
      rw [hdecode, hdecode]
      exact hcanonical.spelled
    rw [hspelled haccepted hparts, hspelled haccepted' hparts', hheader, hpayload]

/-! ### The sample ticket -/

/-- Node, with a digest for every message. -/
def sampleNode : Runtime where
  jsonParse := sampleRuntime.jsonParse
  fromBase64 := Base64.decode
  fromBase64url := Base64.decode
  hmacSha256 secret message :=
    if secret = toBytes defaultTicketSecret ∧ message = toBytes sampleUnsigned then sampleSignature
    else List.replicate 32 0
  parseURL := sampleRuntime.parseURL
  acceptsUpdate := sampleRuntime.acceptsUpdate

/-- The texts of the sample ticket survive the way through its bytes. -/
theorem sample_texts : utf8ToString (toBytes sampleHeaderText) = sampleHeaderText ∧
    utf8ToString (toBytes samplePayloadText) = samplePayloadText := by
  constructor <;> decide +kernel

theorem ticket_accepted_iff_sample :
    validateDocumentTicket sampleNode sampleRequest.token
      ⟨sampleRoom.documentId, some sampleRoom.organizationId, some sampleRoom.teamId⟩
      defaultTicketSecret 1700000000000 = .ok sampleClaims := by
  have hdigest : ∀ key message, sampleNode.hmacSha256 key message ≠ [] := by
    intro key message
    show (if _ then sampleSignature else List.replicate 32 0) ≠ []
    split <;> exact List.cons_ne_nil _ _
  have hsecret : 32 ≤ byteLength defaultTicketSecret := by decide +kernel
  have hnothing : sampleNode.jsonParse [] = none := by
    have hneither : [] ≠ sampleHeaderText ∧ [] ≠ samplePayloadText := by decide +kernel
    simp only [sampleNode, sampleRuntime, if_neg hneither.1, if_neg hneither.2]
  refine ((ticket_accepted_iff sampleNode (Base64.decode_encode Base64.readable_url) hdigest
    hnothing hsecret).1 _ _ _ _).mpr
      ⟨toBytes sampleHeaderText, toBytes samplePayloadText, ?_⟩
  have hunsigned : unsignedToken (toBytes sampleHeaderText) (toBytes samplePayloadText)
      = sampleUnsigned := rfl
  have hsigned : sampleNode.hmacSha256 (toBytes defaultTicketSecret) (toBytes
      (unsignedToken (toBytes sampleHeaderText) (toBytes samplePayloadText)))
        = sampleSignature := by
    simp only [sampleNode, hunsigned, and_self, if_true]
  have hother : samplePayloadText ≠ sampleHeaderText := by decide +kernel
  have hheader : sampleNode.jsonParse (utf8ToString (toBytes sampleHeaderText)) =
      some (.object [(js "alg", .string (js "HS256")), (js "typ", .string (js "JWT"))]) := by
    simp only [sampleNode, sampleRuntime, sample_texts.1, if_true]
  have hpayload : sampleNode.jsonParse (utf8ToString (toBytes samplePayloadText)) =
      some (.object sampleTicketPayload) := by
    simp only [sampleNode, sampleRuntime, sample_texts.2, if_neg hother, if_true]
  exact {
    spelled := by rw [hsigned]; rfl
    header := ⟨_, hheader, rfl, rfl⟩
    payload := ⟨sampleTicketPayload, hpayload, {
        purpose := rfl
        displayName := rfl
        displayNameLength := by decide
        documentId := rfl
        organizationId := rfl
        teamId := rfl
        userId := rfl
        uuids := by decide +kernel
        expiresAt := rfl
        safe := by decide }⟩
    documentId := rfl
    organizationId := rfl
    teamId := rfl
    unexpired := by decide }

end SocketServer.Collaboration
