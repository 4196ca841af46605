import SocketServer.Collaboration.RoomIdentity
import SocketServer.Collaboration.RoomLifecycle

/-!
# Rooms whose identifiers differ in letter case

`uuidPattern` has the flag `i`: a UUID is admitted in upper and in lower case.  The comparisons of
`validateDocumentTicket` and `documentRoomName` take the identifiers as they are spelled, so one
document has a room for every spelling that tickets are issued for.

`same_room_iff_same_case`: two sessions of one document are in one room exactly when their
identifiers have the same letters in upper case.
-/

namespace SocketServer.Collaboration

open SocketServer.Text SocketServer.Js SocketServer.Checks

/-! ### Letter case -/

/-- `A` to `F`. -/
def isUpperHex (u : UInt16) : Bool := unit 'A' ≤ u && u ≤ unit 'F'

/-- A hexadecimal digit in lower case; everything else as it is. -/
def foldCase (u : UInt16) : UInt16 := if isUpperHex u then u + 32 else u

/-- The same text but for the case of hexadecimal digits. -/
def SameUUID (s t : JsString) : Prop := s.map foldCase = t.map foldCase

/-- The same positions hold hexadecimal digits in upper case. -/
def SameCase (s t : JsString) : Prop := s.map isUpperHex = t.map isUpperHex

theorem foldCase_injective {u v : UInt16} (hfold : foldCase u = foldCase v)
    (hcase : isUpperHex u = isUpperHex v) : u = v := by
  unfold foldCase at hfold
  rw [hcase] at hfold
  split at hfold
  · exact UInt16.add_left_inj 32 |>.mp hfold
  · exact hfold

/-- **A text is its letters and their case.** -/
theorem eq_iff_sameCase {s t : JsString} (h : SameUUID s t) : s = t ↔ SameCase s t := by
  constructor
  · rintro rfl
    rfl
  · intro hcase
    induction s generalizing t with
    | nil =>
        cases t with
        | nil => rfl
        | cons v t => cases h
    | cons u s ih =>
        cases t with
        | nil => cases h
        | cons v t =>
            obtain ⟨hfold, hfolds⟩ := List.cons.inj h
            obtain ⟨hupper, huppers⟩ := List.cons.inj hcase
            rw [foldCase_injective hfold hupper, ih hfolds huppers]

/-! ### Rooms -/

/-- The identifiers denote the same UUIDs. -/
structure DocumentRoom.SameUUIDs (room other : DocumentRoom) : Prop where
  organizationId : SameUUID room.organizationId other.organizationId
  teamId : SameUUID room.teamId other.teamId
  documentId : SameUUID room.documentId other.documentId

/-- The identifiers are written with the same letters in upper case. -/
structure DocumentRoom.SameCases (room other : DocumentRoom) : Prop where
  organizationId : SameCase room.organizationId other.organizationId
  teamId : SameCase room.teamId other.teamId
  documentId : SameCase room.documentId other.documentId

theorem DocumentRoom.eq_iff_sameCases {room other : DocumentRoom} (h : room.SameUUIDs other) :
    room = other ↔ room.SameCases other := by
  constructor
  · rintro rfl
    exact ⟨rfl, rfl, rfl⟩
  · intro hcase
    obtain ⟨o, t, d⟩ := room
    obtain ⟨o', t', d'⟩ := other
    rw [DocumentRoom.mk.injEq]
    exact ⟨(eq_iff_sameCase h.organizationId).mpr hcase.organizationId,
      (eq_iff_sameCase h.teamId).mpr hcase.teamId,
      (eq_iff_sameCase h.documentId).mpr hcase.documentId⟩

/-- **One document, one room?**  Two admitted sessions whose identifiers denote the same UUIDs have
one document name, and so one tombstone, exactly when the identifiers are in the same letter
case. -/
theorem same_room_iff_same_case (runtime : Runtime) {config config' : AuthenticationConfig}
    {isDeleted isDeleted' : Option Bool} {now now' : ℤ} {request request' : AuthenticationRequest}
    {claims claims' : DocumentTicketClaims}
    (h : onAuthenticate runtime config isDeleted now request = .ok claims)
    (h' : onAuthenticate runtime config' isDeleted' now' request' = .ok claims')
    (hsame : claims.room.SameUUIDs claims'.room) :
    (request.documentName = request'.documentName ∧
        deletionKey request.documentName = deletionKey request'.documentName) ↔
      claims.room.SameCases claims'.room := by
  obtain ⟨hname, -, -, -⟩ := onAuthenticate_eq_ok h
  obtain ⟨hname', -, -, huuids'⟩ := onAuthenticate_eq_ok h'
  have hroom : request.documentName = request'.documentName ↔ claims.room = claims'.room := by
    rw [← hname, ← hname']
    exact documentRoomName_eq_iff (separatorFree huuids').1
  rw [← DocumentRoom.eq_iff_sameCases hsame, ← hroom]
  exact ⟨fun hboth => hboth.1, fun hsame => ⟨hsame, congrArg deletionKey hsame⟩⟩

/-! ### One document in two rooms -/

/-- The identifier of a document, in lower case and in upper case. -/
def lowerId : JsString := js "cccccccc-cccc-4ccc-8ccc-cccccccccccc"

def upperId : JsString := js "CCCCCCCC-CCCC-4CCC-8CCC-CCCCCCCCCCCC"

/-- The sample room, with another document. -/
def spelledRoom (documentId : JsString) : DocumentRoom := { sampleRoom with documentId }

/-- The payload of a ticket for the document. -/
def spelledPayload (documentId : JsString) : List (JsString × Json) :=
  [(js "display_name", .string (js "Ada")), (js "document_id", .string documentId),
    (js "exp", .number (.finite 1800000000)), (js "org_id", .string sampleRoom.organizationId),
    (js "purpose", .string (js "document")), (js "team_id", .string sampleRoom.teamId),
    (js "user_id", .string sampleClaims.userId)]

/-- Its JSON text. -/
def spelledPayloadText (documentId : JsString) : JsString :=
  js "\x7b\"display_name\":\"Ada\",\"document_id\":\"" ++ documentId ++
    js "\",\"exp\":1800000000,\"org_id\":\"" ++ sampleRoom.organizationId ++
    js "\",\"purpose\":\"document\",\"team_id\":\"" ++ sampleRoom.teamId ++
    js "\",\"user_id\":\"" ++ sampleClaims.userId ++ js "\"\x7d"

/-- What is signed. -/
def spelledUnsigned (documentId : JsString) : JsString :=
  toBase64url (toBytes sampleHeaderText) ++ js "." ++
    toBase64url (toBytes (spelledPayloadText documentId))

/-- The signatures of the two tickets under the default secret. -/
def lowerSignature : Bytes :=
  [209, 224, 194, 207, 184, 96, 14, 71, 215, 184, 116, 202, 16, 109, 83, 207, 91, 146, 248, 115,
    57, 30, 243, 31, 123, 92, 212, 216, 91, 80, 0, 101]

def upperSignature : Bytes :=
  [182, 153, 230, 72, 188, 84, 124, 106, 214, 104, 78, 193, 227, 141, 192, 248, 100, 135, 244, 219,
    236, 123, 32, 77, 134, 158, 124, 140, 199, 207, 25, 239]

/-- What Node does with the two tickets. -/
def spelledRuntime : Runtime where
  jsonParse text :=
    if text = sampleHeaderText then
      some (.object [(js "alg", .string (js "HS256")), (js "typ", .string (js "JWT"))])
    else if text = spelledPayloadText lowerId then some (.object (spelledPayload lowerId))
    else if text = spelledPayloadText upperId then some (.object (spelledPayload upperId))
    else none
  fromBase64 := Base64.decode
  fromBase64url := Base64.decode
  hmacSha256 secret message :=
    if secret = toBytes defaultTicketSecret ∧ message = toBytes (spelledUnsigned lowerId) then
      lowerSignature
    else if secret = toBytes defaultTicketSecret ∧ message = toBytes (spelledUnsigned upperId) then
      upperSignature
    else List.replicate 32 0
  parseURL _ _ := none
  acceptsUpdate _ := true

/-- A request for a session in the document, with a ticket for it. -/
def spelledRequest (documentId : JsString) (signature : Bytes) : AuthenticationRequest where
  documentName := documentRoomName (spelledRoom documentId)
  origin := some (js "http://localhost:3000")
  requestParameters := [(js "org_id", sampleRoom.organizationId), (js "team_id", sampleRoom.teamId)]
  token := spelledUnsigned documentId ++ js "." ++ toBase64url signature

/-- The room of an answer of `onAuthenticate`. -/
def answeredRoom (runtime : Runtime) (request : AuthenticationRequest) :
    Except String DocumentRoom :=
  (onAuthenticate runtime ⟨none, none⟩ (some false) 1700000000000 request).map (·.room)

theorem admitted_of_answeredRoom {runtime : Runtime} {request : AuthenticationRequest}
    {room : DocumentRoom} (h : answeredRoom runtime request = .ok room) :
    ∃ claims, onAuthenticate runtime ⟨none, none⟩ (some false) 1700000000000 request = .ok claims ∧
      claims.room = room :=
  map_eq_ok.mp h

/-- Both sessions are admitted. -/
theorem spelled_admitted :
    answeredRoom spelledRuntime (spelledRequest lowerId lowerSignature) =
        .ok (spelledRoom lowerId) ∧
      answeredRoom spelledRuntime (spelledRequest upperId upperSignature) =
        .ok (spelledRoom upperId) := by
  constructor <;> decide +kernel

theorem spelled_sameUUIDs : (spelledRoom lowerId).SameUUIDs (spelledRoom upperId) :=
  ⟨Eq.refl (sampleRoom.organizationId.map foldCase), Eq.refl (sampleRoom.teamId.map foldCase),
    show lowerId.map foldCase = upperId.map foldCase by decide +kernel⟩

/-- **One document in two rooms.** -/
theorem one_document_two_rooms :
    ∃ claims claims' : DocumentTicketClaims,
      onAuthenticate spelledRuntime ⟨none, none⟩ (some false) 1700000000000
        (spelledRequest lowerId lowerSignature) = .ok claims ∧
      onAuthenticate spelledRuntime ⟨none, none⟩ (some false) 1700000000000
        (spelledRequest upperId upperSignature) = .ok claims' ∧
      claims.room.SameUUIDs claims'.room ∧
      (spelledRequest lowerId lowerSignature).documentName ≠
        (spelledRequest upperId upperSignature).documentName := by
  obtain ⟨claims, hclaims, hroom⟩ := admitted_of_answeredRoom spelled_admitted.1
  obtain ⟨claims', hclaims', hroom'⟩ := admitted_of_answeredRoom spelled_admitted.2
  refine ⟨claims, claims', hclaims, hclaims', ?_, by decide +kernel⟩
  rw [hroom, hroom']
  exact spelled_sameUUIDs

theorem same_room_iff_same_case_sample :
    ∃ claims claims' : DocumentTicketClaims,
      (claims.room = spelledRoom lowerId ∧ claims'.room = spelledRoom upperId) ∧
      ((spelledRequest lowerId lowerSignature).documentName =
          (spelledRequest upperId upperSignature).documentName ∧
        deletionKey (spelledRequest lowerId lowerSignature).documentName =
          deletionKey (spelledRequest upperId upperSignature).documentName ↔
        claims.room.SameCases claims'.room) := by
  obtain ⟨claims, hclaims, hroom⟩ := admitted_of_answeredRoom spelled_admitted.1
  obtain ⟨claims', hclaims', hroom'⟩ := admitted_of_answeredRoom spelled_admitted.2
  have hsame : claims.room.SameUUIDs claims'.room := by
    rw [hroom, hroom']
    exact spelled_sameUUIDs
  exact ⟨claims, claims', ⟨hroom, hroom'⟩,
    same_room_iff_same_case spelledRuntime hclaims hclaims' hsame⟩

end SocketServer.Collaboration
