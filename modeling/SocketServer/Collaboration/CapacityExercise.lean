import Mathlib.Data.List.Nodup
import SocketServer.Collaboration.TicketForm
import SocketServer.Library.JsonText

/-!
# The tickets of the capacity exercise

`collaboration/scripts/capacity-exercise.ts` signs document tickets of its own and connects editors
with them, through the public seams of the server.

* `validUUID_uuid`, `uuid_injective`: its ids are UUIDs as far as they fit, and never collide;
* `exercise_admitted_iff`: exactly when an editor is admitted, and with which claims;
* `roomBatches_flatten`: the batches of connections cover every room once;
* `validateOptions_readTargets`: the exercise accepts what `main` reads;
* `exercise_rooms`: all connections are admitted, to as many rooms as the exercise is to open.
-/

namespace SocketServer.Collaboration.Capacity

open SocketServer.Text SocketServer.Js SocketServer.Checks

/-! ### The ids -/

def ticketSecret : JsString := js "capacity-document-ticket-secret-value"

def trustedOrigin : JsString := js "https://capacity.example"

def organizationId : JsString := js "11111111-1111-4111-8111-111111111111"

def teamId : JsString := js "22222222-2222-4222-8222-222222222222"

/-- `index.toString(16).padStart(12, "0")`. -/
def paddedHex (index : ℕ) : List Char := (Nat.toDigits 16 index).leftpad 12 '0'

def uuid (index : ℕ) : JsString := js "00000000-0000-4000-8000-" ++ utf16 (paddedHex index)

/-- The room of a document. -/
def exerciseRoom (documentId : JsString) : DocumentRoom := ⟨organizationId, teamId, documentId⟩

def room (documentId : JsString) : JsString := documentRoomName (exerciseRoom documentId)

/-- A hexadecimal digit, with its value. -/
theorem mem_toDigits {n : ℕ} {c : Char} (hc : c ∈ Nat.toDigits 16 n) :
    ∃ d < 16, c = Nat.digitChar d := by
  induction n using Nat.strongRecOn with
  | ind n ih =>
      rw [Nat.toDigits_eq_if (by decide)] at hc
      split at hc
      · rename_i hlt
        exact ⟨n, hlt, List.mem_singleton.mp hc⟩
      · rename_i hge
        obtain hhigh | hlow := List.mem_append.mp hc
        · exact ih (n / 16) (Nat.div_lt_self (by omega) (by decide)) hhigh
        · exact ⟨n % 16, Nat.mod_lt n (by decide), List.mem_singleton.mp hlow⟩

theorem mem_paddedHex {n : ℕ} {c : Char} (hc : c ∈ paddedHex n) :
    ∃ d < 16, c = Nat.digitChar d := by
  obtain hpad | hdigit := List.mem_append.mp hc
  · exact ⟨0, by decide, (List.mem_replicate.mp hpad).2⟩
  · exact mem_toDigits hdigit

/-- The number of a hexadecimal text. -/
def hexNumber (text : List Char) : ℕ :=
  text.foldl (fun value c => value * 16 + (hexValue c).getD 0) 0

theorem hexNumber_toDigits (n : ℕ) : hexNumber (Nat.toDigits 16 n) = n := by
  have hdigit : ∀ d < 16, (hexValue (Nat.digitChar d)).getD 0 = d := by decide
  induction n using Nat.strongRecOn with
  | ind n ih =>
      rw [Nat.toDigits_eq_if (by decide)]
      split
      · rename_i hlt
        show 0 * 16 + _ = n
        rw [hdigit n hlt, Nat.zero_mul, Nat.zero_add]
      · rename_i hge
        have hhigh := ih (n / 16) (Nat.div_lt_self (by omega) (by decide))
        rw [hexNumber] at hhigh ⊢
        rw [List.foldl_append, hhigh, List.foldl_cons, List.foldl_nil,
          hdigit (n % 16) (Nat.mod_lt n (by decide))]
        omega

/-- Zeros in front do not change the number. -/
theorem hexNumber_paddedHex (n : ℕ) : hexNumber (paddedHex n) = n := by
  have hzeros : ∀ k : ℕ, (List.replicate k '0').foldl
      (fun value c => value * 16 + (hexValue c).getD 0) 0 = 0 := by
    intro k
    induction k with
    | zero => rfl
    | succ k ih => exact ih
  rw [paddedHex, List.leftpad, hexNumber, List.foldl_append, hzeros]
  exact hexNumber_toDigits n

/-- **The ids never collide.** -/
theorem uuid_injective {m n : ℕ} (h : uuid m = uuid n) : m = n := by
  have htext := congrArg toUSV (List.append_cancel_left h)
  rw [toUSV_utf16, toUSV_utf16] at htext
  rw [← hexNumber_paddedHex m, htext, hexNumber_paddedHex]

/-! ### The ids are UUIDs -/

theorem matchesClasses_append {ps qs : List (UInt16 → Bool)} {us vs : JsString}
    (h : ps.length = us.length) :
    matchesClasses (ps ++ qs) (us ++ vs) = (matchesClasses ps us && matchesClasses qs vs) := by
  induction ps generalizing us with
  | nil =>
      obtain rfl := List.length_eq_zero_iff.mp h.symm
      rfl
  | cons p ps ih =>
      cases us with
      | nil => cases h
      | cons u us =>
          simp only [List.cons_append, matchesClasses, ih (Nat.succ.inj h), Bool.and_assoc]

/-- As many units of one class as the pattern has. -/
theorem matchesClasses_replicate {n : ℕ} {p : UInt16 → Bool} {us : JsString}
    (h : ∀ u ∈ us, p u = true) :
    matchesClasses (List.replicate n p) us = true ↔ us.length = n := by
  induction n generalizing us with
  | zero =>
      cases us with
      | nil => exact ⟨fun _ => rfl, fun _ => rfl⟩
      | cons u us => exact ⟨nofun, nofun⟩
  | succ n ih =>
      cases us with
      | nil => exact ⟨nofun, nofun⟩
      | cons u us =>
          have htail := ih fun v hv => h v (List.mem_cons_of_mem u hv)
          rw [List.replicate_succ, matchesClasses, h u List.mem_cons_self, Bool.true_and, htail,
            List.length_cons, Nat.succ_inj]

/-- The units of a padded number, each of them a hexadecimal digit. -/
theorem utf16_paddedHex (n : ℕ) :
    (utf16 (paddedHex n)).length = (paddedHex n).length ∧
      ∀ u ∈ utf16 (paddedHex n), isHexUnit u = true := by
  have hdigit : ∀ d < 16, isPlain (Nat.digitChar d) = true ∧
      ∀ u ∈ utf16Char (Nat.digitChar d), isHexUnit u = true := by
    have hall : ∀ d < 16, isPlain (Nat.digitChar d) = true ∧
        (utf16Char (Nat.digitChar d)).all isHexUnit = true := by decide
    intro d hd
    exact ⟨(hall d hd).1, List.all_eq_true.mp (hall d hd).2⟩
  constructor
  · refine utf16_length_plain _ fun c hc => ?_
    obtain ⟨d, hd, rfl⟩ := mem_paddedHex hc
    exact (hdigit d hd).1
  · intro u hu
    obtain ⟨c, hc, hmem⟩ := List.mem_flatMap.mp hu
    obtain ⟨d, hd, rfl⟩ := mem_paddedHex hc
    exact (hdigit d hd).2 u hmem

/-- **An id is a UUID exactly when its number fits into twelve digits.** -/
theorem validUUID_uuid (index : ℕ) : validUUID (uuid index) = true ↔ index < 16 ^ 12 := by
  obtain ⟨hlength, hhex⟩ := utf16_paddedHex index
  have hsplit : uuidPattern = uuidPattern.take 24 ++ List.replicate 12 isHexUnit := by rfl
  have hstart : matchesClasses (uuidPattern.take 24) (js "00000000-0000-4000-8000-") = true := by
    decide
  rw [validUUID, uuid, hsplit, matchesClasses_append (by rfl), hstart, Bool.true_and,
    matchesClasses_replicate hhex, hlength, paddedHex, List.length_leftpad,
    ← Nat.length_toDigits_le_iff (by decide) (by decide)]
  omega

/-! ### Signing -/

/-- The claims of an editor, signed at a time in milliseconds. -/
def exerciseClaims (documentId : JsString) (editorIndex now : ℕ) : DocumentTicketClaims where
  documentId
  displayName := js "Capacity Editor " ++ utf16 (Nat.toDigits 10 (editorIndex + 1))
  expiresAt := (now / 1000 + 15 * 60 : ℕ)
  organizationId
  teamId
  userId := uuid (10000 + editorIndex)

def headerFields : List (JsString × Scalar) :=
  [(js "alg", .string (js "HS256")), (js "typ", .string (js "JWT"))]

/-- The object that is the payload of the ticket. -/
def claimFields (documentId : JsString) (editorIndex now : ℕ) : List (JsString × Scalar) :=
  let claims := exerciseClaims documentId editorIndex now
  [(js "document_id", .string claims.documentId), (js "display_name", .string claims.displayName),
    (js "exp", .natural (now / 1000 + 15 * 60)), (js "org_id", .string claims.organizationId),
    (js "purpose", .string (js "document")), (js "team_id", .string claims.teamId),
    (js "user_id", .string claims.userId)]

/-- `Buffer.from(JSON.stringify(fields))`. -/
def jsonBytes (fields : List (JsString × Scalar)) : Bytes := toBytes (utf16 (stringifyFields fields))

def signedTicket (runtime : Runtime) (documentId : JsString) (editorIndex now : ℕ) : JsString :=
  let header := toBase64url (jsonBytes headerFields)
  let payload := toBase64url (jsonBytes (claimFields documentId editorIndex now))
  let unsigned := header ++ js "." ++ payload
  unsigned ++ js "." ++
    toBase64url (runtime.hmacSha256 (toBytes ticketSecret) (toBytes unsigned))

/-- What `createCollaborationServer` is given for the authentication. -/
def exerciseConfig : AuthenticationConfig := ⟨some [trustedOrigin], some ticketSecret⟩

/-- The request of `connectProvider`, with a ticket signed at a time. -/
def connection (runtime : Runtime) (documentId : JsString) (editorIndex now : ℕ) :
    AuthenticationRequest where
  documentName := room documentId
  origin := some trustedOrigin
  requestParameters := [(js "org_id", organizationId), (js "team_id", teamId)]
  token := signedTicket runtime documentId editorIndex now

/-- What the results rely on: `JSON.parse` reads back what `JSON.stringify` wrote and nothing that
is empty, the base64url decoder inverts the encoder, and digests are not empty. -/
structure Laws (runtime : Runtime) : Prop where
  jsonParse : ∀ fields, (∀ f ∈ fields, ∀ n, f.2 = .natural n → n < 2 ^ 53) →
    runtime.jsonParse (utf16 (stringifyFields fields)) =
      some (.object (fields.map fun f => (f.1, f.2.value)))
  empty : runtime.jsonParse [] = none
  fromBase64url : ∀ bytes, runtime.fromBase64url (toBase64url bytes) = bytes
  hmacSha256 : ∀ key message, runtime.hmacSha256 key message ≠ []

/-! ### Admission -/

/-- A name without colons in its parts is parsed to its room. -/
theorem parseDocumentRoomName_of_colonFree {r : DocumentRoom} (h : r.ColonFree) :
    parseDocumentRoomName (documentRoomName r) = .ok r := by
  have hsplit : split ':' (documentRoomName r) = [r.organizationId, r.teamId, r.documentId] := by
    rw [documentRoomName_eq_joinParts]
    exact List.splitOn_intercalate _ h (List.cons_ne_nil _ _)
  rw [parseDocumentRoomName, hsplit]

section

variable {runtime : Runtime} {documentId : JsString} {editorIndex signedAt : ℕ} {now : ℤ}
  {claims : DocumentTicketClaims}

/-- The time of a ticket is one that a `Date` has. -/
def IsTime (time : ℕ) : Prop := time ≤ 8640000000000000

instance (time : ℕ) : Decidable (IsTime time) := inferInstanceAs (Decidable (time ≤ _))

/-- The payload, parsed. -/
def payloadMembers (documentId : JsString) (editorIndex now : ℕ) : List (JsString × Json) :=
  (claimFields documentId editorIndex now).map fun f => (f.1, f.2.value)

theorem jsonParse_header (hlaws : Laws runtime) :
    runtime.jsonParse (utf8ToString (jsonBytes headerFields)) =
      some (.object (headerFields.map fun f => (f.1, f.2.value))) := by
  rw [jsonBytes, toBytes_utf16, utf8ToString_utf8]
  refine hlaws.jsonParse _ fun f hf n hn => ?_
  simp only [headerFields, List.mem_cons, List.not_mem_nil, or_false] at hf
  obtain rfl | rfl := hf <;> cases hn

theorem jsonParse_payload (hlaws : Laws runtime) (htime : IsTime signedAt) :
    runtime.jsonParse (utf8ToString (jsonBytes (claimFields documentId editorIndex signedAt))) =
      some (.object (payloadMembers documentId editorIndex signedAt)) := by
  rw [jsonBytes, toBytes_utf16, utf8ToString_utf8]
  refine hlaws.jsonParse _ fun f hf n hn => ?_
  have hsmall : signedAt / 1000 + 15 * 60 < 2 ^ 53 := by
    rw [IsTime] at htime
    omega
  simp only [claimFields, List.mem_cons, List.not_mem_nil, or_false] at hf
  obtain rfl | rfl | rfl | rfl | rfl | rfl | rfl := hf <;> cases hn
  exact hsmall

/-- **The payload says what the ticket was signed for.** -/
theorem wellFormedClaims_iff (htime : IsTime signedAt) :
    WellFormedClaims (payloadMembers documentId editorIndex signedAt) claims ↔
      claims = exerciseClaims documentId editorIndex signedAt ∧ validUUID documentId = true ∧
        10000 + editorIndex < 16 ^ 12 := by
  constructor
  · intro h
    have hstring : ∀ {key : String} {s t : JsString},
        property (payloadMembers documentId editorIndex signedAt) key = some (.string s) →
        property (payloadMembers documentId editorIndex signedAt) key = some (.string t) →
        s = t := by
      intro key s t hs ht
      cases hs.symm.trans ht
      rfl
    have hname := hstring h.displayName rfl
    have hdocument := hstring h.documentId rfl
    have horganization := hstring h.organizationId rfl
    have hteam := hstring h.teamId rfl
    have huser := hstring h.userId rfl
    have hexpires : (claims.expiresAt : ℚ) = ((signedAt / 1000 + 15 * 60 : ℕ) : ℚ) := by
      have hnumber : property (payloadMembers documentId editorIndex signedAt) "exp" =
          some (.number (.finite ((signedAt / 1000 + 15 * 60 : ℕ) : ℚ))) := rfl
      exact JsNumber.finite.inj (Json.number.inj (Option.some.inj
        (h.expiresAt.symm.trans hnumber)))
    have huuids := h.uuids
    simp only [List.mem_cons, List.not_mem_nil, or_false, forall_eq_or_imp, forall_eq] at huuids
    obtain ⟨hdocumentId, -, -, huserId⟩ := huuids
    rw [hdocument] at hdocumentId
    rw [huser] at huserId
    refine ⟨?_, hdocumentId, (validUUID_uuid _).mp huserId⟩
    obtain ⟨d, n, e, o, t, u⟩ := claims
    simp only at hname hdocument horganization hteam huser hexpires
    subst hname hdocument horganization hteam huser
    rw [exerciseClaims, DocumentTicketClaims.mk.injEq]
    exact ⟨rfl, rfl, Int.cast_injective (hexpires.trans (Int.cast_natCast _).symm), rfl, rfl, rfl⟩
  · rintro ⟨rfl, hdocument, hindex⟩
    have hdigits : (Nat.toDigits 10 (editorIndex + 1)).length ≤ 15 :=
      (Nat.length_toDigits_le_iff (by decide) (by decide)).mpr (by omega)
    have hlength : (exerciseClaims documentId editorIndex signedAt).displayName.length =
        16 + (Nat.toDigits 10 (editorIndex + 1)).length := by
      have hplain : ∀ c ∈ Nat.toDigits 10 (editorIndex + 1), isPlain c = true := by
        intro c hc
        have hrange : 48 ≤ c.toNat ∧ c.toNat ≤ 57 := Char.isDigit_iff_toNat.mp
          (Nat.isDigit_of_mem_toDigits (by decide) (by decide) hc)
        have hne : ∀ d : Char, ¬(48 ≤ d.toNat ∧ d.toNat ≤ 57) → c ≠ d := by
          rintro d hd rfl
          exact hd hrange
        have hquote := hne '"' (by decide)
        have hback := hne '\\' (by decide)
        simp only [isPlain, Bool.and_eq_true, decide_eq_true_eq]
        exact ⟨⟨⟨by omega, by omega⟩, hquote⟩, hback⟩
      rw [exerciseClaims, List.length_append, utf16_length_plain _ hplain]
      rfl
    exact {
      purpose := rfl
      displayName := rfl
      displayNameLength := by omega
      documentId := rfl
      organizationId := rfl
      teamId := rfl
      userId := rfl
      uuids := by
        have horganization : validUUID organizationId = true := by decide +kernel
        have hteam : validUUID teamId = true := by decide +kernel
        intro id hid
        simp only [exerciseClaims, List.mem_cons, List.not_mem_nil, or_false] at hid
        obtain rfl | rfl | rfl | rfl := hid
        · exact hdocument
        · exact horganization
        · exact hteam
        · exact (validUUID_uuid _).mpr hindex
      expiresAt := rfl
      safe := by
        rw [IsTime] at htime
        show ((signedAt / 1000 + 15 * 60 : ℕ) : ℤ).natAbs ≤ _
        rw [Int.natAbs_natCast]
        omega }

/-- The signed ticket is canonical for claims exactly when its payload says them. -/
theorem canonical_signedTicket_iff (hlaws : Laws runtime) (htime : IsTime signedAt)
    {requestedRoom : RequestedDocumentRoom} :
    (∃ header payload, CanonicalTicket runtime ticketSecret requestedRoom now claims header payload
      (signedTicket runtime documentId editorIndex signedAt)) ↔
      WellFormedClaims (payloadMembers documentId editorIndex signedAt) claims ∧
        claims.documentId = requestedRoom.documentId ∧
        some claims.organizationId = requestedRoom.organizationId ∧
        some claims.teamId = requestedRoom.teamId ∧ now / 1000 < claims.expiresAt := by
  constructor
  · rintro ⟨header, payload, h⟩
    -- the parts of the token are those that were signed
    have hparts := tokenParts_unsignedToken (jsonBytes headerFields)
      (jsonBytes (claimFields documentId editorIndex signedAt))
      (runtime.hmacSha256 (toBytes ticketSecret) (toBytes (unsignedToken (jsonBytes headerFields)
        (jsonBytes (claimFields documentId editorIndex signedAt)))))
    have hspelled := tokenParts_unsignedToken header payload
      (runtime.hmacSha256 (toBytes ticketSecret) (toBytes (unsignedToken header payload)))
    rw [← h.spelled] at hspelled
    have hsame := hparts.symm.trans hspelled
    simp only [Option.some.injEq, Prod.mk.injEq] at hsame
    obtain rfl := toBase64url_injective hlaws.fromBase64url hsame.2.1
    obtain ⟨members, hparsed, hclaims⟩ := h.payload
    cases (jsonParse_payload hlaws htime).symm.trans hparsed
    exact ⟨hclaims, h.documentId, h.organizationId, h.teamId, h.unexpired⟩
  · rintro ⟨hclaims, hdocument, horganization, hteam, hexpires⟩
    exact ⟨jsonBytes headerFields, jsonBytes (claimFields documentId editorIndex signedAt), {
      spelled := rfl
      header := ⟨_, jsonParse_header hlaws, rfl, rfl⟩
      payload := ⟨_, jsonParse_payload hlaws htime, hclaims⟩
      documentId := hdocument
      organizationId := horganization
      teamId := hteam
      unexpired := hexpires }⟩

/-- The room of a UUID has no colons in its parts. -/
theorem exerciseRoom_colonFree (h : validUUID documentId = true) :
    (exerciseRoom documentId).ColonFree := by
  have horganization : validUUID organizationId = true := by decide +kernel
  have hteam : validUUID teamId = true := by decide +kernel
  intro part hpart
  simp only [exerciseRoom, List.mem_cons, List.not_mem_nil, or_false] at hpart
  obtain rfl | rfl | rfl := hpart
  · exact (validUUID_spec horganization).2.1
  · exact (validUUID_spec hteam).2.1
  · exact (validUUID_spec h).2.1

/-- **When an editor of the exercise is admitted.**  Whatever the document id is, whoever the editor
is and whenever the ticket was signed: the connection is admitted exactly when the document id and
the editor's id are UUIDs and the quarter of an hour of the ticket is not over, and then with the
claims it was signed for. -/
theorem exercise_admitted_iff (hlaws : Laws runtime) (htime : IsTime signedAt) :
    onAuthenticate runtime exerciseConfig (some false) now
        (connection runtime documentId editorIndex signedAt) = .ok claims ↔
      claims = exerciseClaims documentId editorIndex signedAt ∧ validUUID documentId = true ∧
        10000 + editorIndex < 16 ^ 12 ∧ now / 1000 < signedAt / 1000 + 15 * 60 := by
  have hexpiry : (exerciseClaims documentId editorIndex signedAt).expiresAt =
      signedAt / 1000 + 15 * 60 := by
    rw [exerciseClaims]
    push_cast
    rfl
  constructor
  · intro h
    obtain ⟨r, -, -, -, hticket⟩ := ticket_of_admitted h
    obtain ⟨hclaims, -, -, -, hexpires⟩ :=
      (canonical_signedTicket_iff hlaws htime).mp (canonical_of_accepted hticket)
    obtain ⟨rfl, hdocument, hindex⟩ := (wellFormedClaims_iff htime).mp hclaims
    exact ⟨rfl, hdocument, hindex, hexpiry ▸ hexpires⟩
  · rintro ⟨rfl, hdocument, hindex, hexpires⟩
    have hclaims := (wellFormedClaims_iff htime).mpr
      ⟨rfl, hdocument, hindex⟩
    have hexists : ∃ header payload, CanonicalTicket runtime ticketSecret
        ⟨documentId, some organizationId, some teamId⟩ now
        (exerciseClaims documentId editorIndex signedAt) header payload
        (signedTicket runtime documentId editorIndex signedAt) :=
      (canonical_signedTicket_iff hlaws htime).mpr
        ⟨hclaims, rfl, rfl, rfl, hexpiry ▸ hexpires⟩
    obtain ⟨header, payload, hcanonical⟩ := hexists
    have hsecret : 32 ≤ byteLength ticketSecret := by decide +kernel
    have hticket := accepted_of_canonical hlaws.fromBase64url hlaws.hmacSha256 hlaws.empty hsecret
      hcanonical
    have hparse := parseDocumentRoomName_of_colonFree (exerciseRoom_colonFree hdocument)
    have hauth : authenticate runtime exerciseConfig (some false) now
        (connection runtime documentId editorIndex signedAt) =
          .ok (exerciseClaims documentId editorIndex signedAt) := by
      unfold authenticate
      simp only [bind_eq_ok, require_eq_ok, rejectIf_eq_ok]
      refine ⟨false, rfl, (), Bool.false_ne_true, _, hparse, (), ?_, (), ?_, hticket⟩
      · rintro (hne | hne) <;> exact hne rfl
      · simp only [validateOrigin, rejectIf_eq_ok]
        intro hall
        exact hall trustedOrigin rfl List.mem_cons_self
    rw [onAuthenticate, hauth]

end

/-- Node, with the digest of the first ticket of the sample. -/
def exerciseNode : Runtime where
  jsonParse := parseFlat
  fromBase64 := Base64.decode
  fromBase64url := Base64.decode
  hmacSha256 _ _ :=
    [109, 192, 249, 62, 212, 54, 219, 226, 132, 20, 75, 148, 39, 103, 92, 192, 152, 154, 232, 53,
     85, 250, 80, 199, 179, 131, 137, 37, 35, 19, 119, 97]
  parseURL _ _ := none
  acceptsUpdate _ := true

theorem exerciseNode_laws : Laws exerciseNode where
  jsonParse fields _ := parseFlat_stringify fields
  empty := rfl
  fromBase64url := Base64.decode_encode Base64.readable_url
  hmacSha256 _ _ := List.cons_ne_nil _ _

/-! ### Targets -/

structure CapacityExerciseOptions (N : Type) where
  activeRooms : N
  documentBytes : N
  editorsPerDocument : N
  timeoutMs : N

def exerciseMaximums : CapacityExerciseOptions ℕ :=
  { activeRooms := 2000, documentBytes := 16 * 1024 * 1024, editorsPerDocument := 250,
    timeoutMs := 10 * 60000 }

def positiveInteger (name : String) (value : JsNumber) (maximum : ℕ) : Except String ℕ :=
  match value with
  | .finite value => do
      rejectIf (¬ (JsNumber.finite value).isSafeInteger ∨ value ≤ 0)
        (name ++ " must be a positive integer")
      rejectIf ((maximum : ℚ) < value)
        (name ++ " must not exceed the exercise safety maximum " ++ toString maximum)
      return value.num.toNat
  | _ => .error (name ++ " must be a positive integer")

/-- `validateOptions`, with the integers that valid options are. -/
def validateOptions (options : CapacityExerciseOptions JsNumber) :
    Except String (CapacityExerciseOptions ℕ) := do
  let activeRooms ← positiveInteger "activeRooms" options.activeRooms exerciseMaximums.activeRooms
  let documentBytes ←
    positiveInteger "documentBytes" options.documentBytes exerciseMaximums.documentBytes
  let editorsPerDocument ← positiveInteger "editorsPerDocument" options.editorsPerDocument
    exerciseMaximums.editorsPerDocument
  let timeoutMs ← positiveInteger "timeoutMs" options.timeoutMs exerciseMaximums.timeoutMs
  return { activeRooms, documentBytes, editorsPerDocument, timeoutMs }

def readTarget (environment : String → Option JsString) (name : String) (fallback maximum : ℕ) :
    Except String ℕ :=
  match environment name with
  | none => .ok fallback
  | some value => positiveInteger name (number value) maximum

/-- The targets of `main`. -/
def readTargets (environment : String → Option JsString) :
    Except String (CapacityExerciseOptions ℕ) := do
  let activeRooms ←
    readTarget environment "CAPACITY_ACTIVE_ROOMS" 500 exerciseMaximums.activeRooms
  let documentBytes ← readTarget environment "CAPACITY_DOCUMENT_BYTES" (5 * (1024 * 1024))
    exerciseMaximums.documentBytes
  let editorsPerDocument ← readTarget environment "CAPACITY_EDITORS_PER_DOCUMENT" 25
    exerciseMaximums.editorsPerDocument
  let timeoutMs ← readTarget environment "CAPACITY_TIMEOUT_MS" 120000 exerciseMaximums.timeoutMs
  return { activeRooms, documentBytes, editorsPerDocument, timeoutMs }

/-- What is accepted: the integers from one to the maximum. -/
theorem positiveInteger_eq_ok {name : String} {value : JsNumber} {maximum n : ℕ}
    (hmaximum : maximum < 2 ^ 53) :
    positiveInteger name value maximum = .ok n ↔ value = .finite n ∧ 0 < n ∧ n ≤ maximum := by
  constructor
  · intro h
    unfold positiveInteger at h
    split at h
    · rename_i value
      simp only [bind_eq_ok, rejectIf_eq_ok] at h
      obtain ⟨-, hsafe, -, hle, hreturn⟩ := h
      cases hreturn
      obtain ⟨hinteger, hpos⟩ := not_or.mp hsafe
      obtain ⟨hvalue, hnum⟩ :=
        eq_natCast_of_isInteger (isSafeInteger_iff.mp (not_not.mp hinteger)).1 (not_le.mp hpos)
      rw [hvalue] at hle
      exact ⟨congrArg JsNumber.finite hvalue, hnum, Nat.cast_le.mp (not_lt.mp hle)⟩
    · cases h
  · rintro ⟨rfl, hpos, hle⟩
    have hsafe : (JsNumber.finite (n : ℚ)).isSafeInteger = true :=
      isSafeInteger_natCast.mpr (hle.trans_lt hmaximum)
    unfold positiveInteger
    simp only [bind_eq_ok, rejectIf_eq_ok]
    refine ⟨(), not_or.mpr ⟨not_not.mpr hsafe, not_le.mpr (Nat.cast_pos.mpr hpos)⟩, (),
      not_lt.mpr (Nat.cast_le.mpr hle), ?_⟩
    rw [Rat.num_natCast, Int.toNat_natCast]
    rfl

theorem validateOptions_eq_ok {options : CapacityExerciseOptions JsNumber}
    {targets : CapacityExerciseOptions ℕ} (h : validateOptions options = .ok targets) :
    targets.activeRooms ≤ 2000 ∧ targets.editorsPerDocument ≤ 250 := by
  simp only [validateOptions, bind_eq_ok] at h
  obtain ⟨activeRooms, hrooms, documentBytes, -, editorsPerDocument, heditors, timeoutMs, -,
    hreturn⟩ := h
  cases hreturn
  exact ⟨((positiveInteger_eq_ok (by decide)).mp hrooms).2.2,
    ((positiveInteger_eq_ok (by decide)).mp heditors).2.2⟩

/-- Every default passes the check of its variable. -/
theorem readTarget_bounds {environment : String → Option JsString} {name : String}
    {fallback maximum n : ℕ} (hfallback : 0 < fallback ∧ fallback ≤ maximum)
    (hmaximum : maximum < 2 ^ 53) (h : readTarget environment name fallback maximum = .ok n) :
    0 < n ∧ n ≤ maximum := by
  unfold readTarget at h
  split at h
  · cases h
    exact hfallback
  · exact ((positiveInteger_eq_ok hmaximum).mp h).2

/-- **What `main` reads is valid**: the exercise accepts it and runs with it. -/
theorem validateOptions_readTargets {environment : String → Option JsString}
    {targets : CapacityExerciseOptions ℕ} (h : readTargets environment = .ok targets) :
    validateOptions ⟨.finite targets.activeRooms, .finite targets.documentBytes,
      .finite targets.editorsPerDocument, .finite targets.timeoutMs⟩ = .ok targets := by
  simp only [readTargets, bind_eq_ok] at h
  obtain ⟨activeRooms, hrooms, documentBytes, hbytes, editorsPerDocument, heditors, timeoutMs,
    htimeout, hreturn⟩ := h
  cases hreturn
  have hread : ∀ {name : String} {n maximum : ℕ}, maximum < 2 ^ 53 → 0 < n ∧ n ≤ maximum →
      positiveInteger name (.finite n) maximum = .ok n :=
    fun hmaximum hn => (positiveInteger_eq_ok hmaximum).mpr ⟨rfl, hn⟩
  simp only [validateOptions, bind_eq_ok]
  exact ⟨_, hread (by decide) (readTarget_bounds (by decide) (by decide) hrooms),
    _, hread (by decide) (readTarget_bounds (by decide) (by decide) hbytes),
    _, hread (by decide) (readTarget_bounds (by decide) (by decide) heditors),
    _, hread (by decide) (readTarget_bounds (by decide) (by decide) htimeout), rfl⟩

/-! ### Connections -/

/-- The loop of `exerciseRoomObservability`: the room indices of its batches, from an offset on. -/
def batchesFrom (activeRooms offset : ℕ) : List (List ℕ) :=
  if offset < activeRooms then
    let batchSize := min 25 activeRooms
    (List.range (min batchSize (activeRooms - offset))).map (fun index => offset + index + 100) ::
      batchesFrom activeRooms (offset + batchSize)
  else []
termination_by activeRooms - offset
decreasing_by omega

def roomBatches (activeRooms : ℕ) : List (List ℕ) := batchesFrom activeRooms 0

/-- From an offset on, the batches have every index that is left, once and in order. -/
theorem batchesFrom_flatten (activeRooms offset : ℕ) :
    (batchesFrom activeRooms offset).flatten =
      (List.range (activeRooms - offset)).map fun index => offset + index + 100 := by
  induction h : activeRooms - offset using Nat.strongRecOn generalizing offset with
  | ind left ih =>
      rw [batchesFrom]
      split
      · rename_i hlt
        have hsplit : left = min (min 25 activeRooms) left + (left - min 25 activeRooms) := by omega
        have hrest := ih (left - min 25 activeRooms) (by omega) (offset + min 25 activeRooms)
          (by omega)
        have hfirst : min (min 25 activeRooms) left = min 25 activeRooms ∨
            left - min 25 activeRooms = 0 := by omega
        rw [List.flatten_cons, h, hrest]
        conv_rhs => rw [hsplit, List.range_add, List.map_append, List.map_map]
        obtain hfull | hlast := hfirst
        · rw [hfull]
          congr 1
          refine List.map_congr_left fun index _ => ?_
          show offset + min 25 activeRooms + index + 100 = offset + (min 25 activeRooms + index) + 100
          omega
        · rw [hlast]
          rfl
      · rename_i hge
        have hzero : left = 0 := by omega
        rw [hzero]
        rfl

/-- **The batches cover every room once**, in order. -/
theorem roomBatches_flatten (activeRooms : ℕ) :
    (roomBatches activeRooms).flatten = (List.range activeRooms).map (· + 100) := by
  rw [roomBatches, batchesFrom_flatten]
  refine List.map_congr_left fun index _ => ?_
  omega

theorem length_of_mem_batches {activeRooms offset : ℕ} {batch : List ℕ}
    (h : batch ∈ batchesFrom activeRooms offset) : 0 < batch.length ∧ batch.length ≤ 25 := by
  induction hleft : activeRooms - offset using Nat.strongRecOn generalizing offset with
  | ind left ih =>
      rw [batchesFrom] at h
      split at h
      · obtain rfl | hlater := List.mem_cons.mp h
        · rw [List.length_map, List.length_range]
          omega
        · exact ih (activeRooms - (offset + min 25 activeRooms)) (by omega) hlater rfl
      · cases h

/-- **The exercise opens what it says.**  The options are valid and the tickets last.  Every editor
of the shared document is admitted to its one room, and no two of them are one user; so are the two
connections to the large document, before and after it was persisted.  The batches hold at most 25
connections each; all of them are admitted, each to a room of its own, and there are as many as
rooms were to be opened. -/
theorem exercise_rooms {runtime : Runtime} (hlaws : Laws runtime)
    {options : CapacityExerciseOptions JsNumber} {targets : CapacityExerciseOptions ℕ}
    (hvalid : validateOptions options = .ok targets) {signedAt : ℕ} (htime : IsTime signedAt)
    {now : ℤ} (hnow : now / 1000 < signedAt / 1000 + 15 * 60) :
    (∀ index < targets.editorsPerDocument,
      onAuthenticate runtime exerciseConfig (some false) now
        (connection runtime (uuid 1) index signedAt) =
          .ok (exerciseClaims (uuid 1) index signedAt)) ∧
    ((List.range targets.editorsPerDocument).map fun index =>
      (exerciseClaims (uuid 1) index signedAt).userId).Nodup ∧
    (∀ index < 2, onAuthenticate runtime exerciseConfig (some false) now
      (connection runtime (uuid 2) index signedAt) =
        .ok (exerciseClaims (uuid 2) index signedAt)) ∧
    (∀ batch ∈ roomBatches targets.activeRooms, 0 < batch.length ∧ batch.length ≤ 25) ∧
    (∀ index ∈ (roomBatches targets.activeRooms).flatten,
      onAuthenticate runtime exerciseConfig (some false) now
        (connection runtime (uuid index) index signedAt) =
          .ok (exerciseClaims (uuid index) index signedAt)) ∧
    ((roomBatches targets.activeRooms).flatten.map fun index => room (uuid index)).Nodup ∧
    (roomBatches targets.activeRooms).flatten.length = targets.activeRooms := by
  obtain ⟨hrooms, heditors⟩ := validateOptions_eq_ok hvalid
  have hadmitted : ∀ documentIndex editorIndex, documentIndex < 16 ^ 12 →
      10000 + editorIndex < 16 ^ 12 → onAuthenticate runtime exerciseConfig (some false) now
        (connection runtime (uuid documentIndex) editorIndex signedAt) =
          .ok (exerciseClaims (uuid documentIndex) editorIndex signedAt) :=
    fun documentIndex _ hdocument heditor => (exercise_admitted_iff hlaws htime).mpr
      ⟨rfl, (validUUID_uuid documentIndex).mpr hdocument, heditor, hnow⟩
  have hmem : ∀ index ∈ (roomBatches targets.activeRooms).flatten, index < 2100 := by
    intro index hindex
    rw [roomBatches_flatten] at hindex
    obtain ⟨i, hi, rfl⟩ := List.mem_map.mp hindex
    have hlt := List.mem_range.mp hi
    omega
  have hnodup : (roomBatches targets.activeRooms).flatten.Nodup := by
    rw [roomBatches_flatten]
    exact List.Nodup.map (fun a b hab => by simpa using hab) List.nodup_range
  refine ⟨fun index hindex => hadmitted 1 index (by decide) (by omega), ?_,
    fun index hindex => hadmitted 2 index (by decide) (by omega),
    fun batch hbatch => length_of_mem_batches hbatch, fun index hindex => ?_, ?_, ?_⟩
  · refine List.Nodup.map (fun a b hab => ?_) List.nodup_range
    have hindex := uuid_injective hab
    omega
  · have hlt := hmem index hindex
    exact hadmitted index index (by omega) (by omega)
  · refine List.Nodup.map (fun a b hab => uuid_injective ?_) hnodup
    exact List.append_cancel_left hab
  · rw [roomBatches_flatten, List.length_map, List.length_range]

/-- The exercise with its defaults. -/
theorem exercise_rooms_default :
    (roomBatches 500).flatten.length = 500 ∧
    (∀ index < 2, onAuthenticate exerciseNode exerciseConfig (some false) 1700000000000
      (connection exerciseNode (uuid 2) index 1700000000000) =
        .ok (exerciseClaims (uuid 2) index 1700000000000)) ∧
    ∀ index ∈ (roomBatches 500).flatten,
      onAuthenticate exerciseNode exerciseConfig (some false) 1700000000000
        (connection exerciseNode (uuid index) index 1700000000000) =
          .ok (exerciseClaims (uuid index) index 1700000000000) := by
  have hread : readTargets (fun _ => none) = .ok ⟨500, 5 * (1024 * 1024), 25, 120000⟩ := rfl
  have hresult := @exercise_rooms exerciseNode exerciseNode_laws _ _
    (validateOptions_readTargets hread) 1700000000000 (by decide) 1700000000000 (by decide)
  obtain ⟨-, -, hlarge, -, hadmitted, -, hlength⟩ := hresult
  exact ⟨hlength, hlarge, hadmitted⟩

end SocketServer.Collaboration.Capacity
