import SocketServer.Collaboration.Server

/-!
# One identity in four spellings

A document is named in four ways: by the room a session joins (`o:t:d`), by the claims of its
ticket, by the path its state is loaded from and stored to, and by the path of a request that
deletes the room.  Admission ties them together, because the identifiers of a ticket are UUIDs:

* `joinParts_injective`: parts without the separator are recovered from the joined text;
* `documentRoomName_eq_iff`: a room name equals that of a room without colons only if the rooms
  are the same, whatever the other room's parts contain;
* `matchRoomPath_eq_some`: the paths that delete a room, and which room each of them deletes;
* `rooms_agree`: for admitted sessions the room name, the claims, the storage path and the deleted
  room all name the same document.
-/

namespace SocketServer.Collaboration

open SocketServer.Text SocketServer.Js SocketServer.Checks

/-! ### Joining and splitting -/

/-- `parts.join(c)`. -/
def joinParts (c : Char) (parts : List JsString) : JsString := List.intercalate [unit c] parts

/-- **Parts without the separator are recovered from the joined text.** -/
theorem joinParts_injective {c : Char} {xs ys : List JsString} (hx : ∀ x ∈ xs, unit c ∉ x)
    (hy : ∀ y ∈ ys, unit c ∉ y) (hxs : xs ≠ []) (hys : ys ≠ [])
    (h : joinParts c xs = joinParts c ys) : xs = ys := by
  have hsplit := congrArg (List.splitOn (unit c)) h
  rwa [joinParts, joinParts, List.splitOn_intercalate _ hx hxs,
    List.splitOn_intercalate _ hy hys] at hsplit

theorem documentRoomName_eq_joinParts (room : DocumentRoom) :
    documentRoomName room = joinParts ':' [room.organizationId, room.teamId, room.documentId] := by
  simp [documentRoomName, joinParts, js, utf16, utf16Char, unit]

/-! ### UUIDs -/

theorem matchesClasses_mem {classes : List (UInt16 → Bool)} {s : JsString}
    (h : matchesClasses classes s = true) : ∀ u ∈ s, ∃ p ∈ classes, p u = true := by
  induction classes generalizing s with
  | nil =>
      cases s with
      | nil => exact fun u hu => absurd hu List.not_mem_nil
      | cons v s => cases h
  | cons p classes ih =>
      cases s with
      | nil => exact fun u hu => absurd hu List.not_mem_nil
      | cons v s =>
          rw [matchesClasses, Bool.and_eq_true] at h
          intro u hu
          rcases List.mem_cons.mp hu with rfl | hrest
          · exact ⟨p, List.mem_cons_self, h.1⟩
          · obtain ⟨q, hq, hqu⟩ := ih h.2 u hrest
            exact ⟨q, List.mem_cons_of_mem p hq, hqu⟩

/-- The classes of the pattern admit hexadecimal digits and dashes only. -/
theorem uuidPattern_unit {p : UInt16 → Bool} (hp : p ∈ uuidPattern) {u : UInt16}
    (hu : p u = true) : isUnreservedUnit u = true ∧ u ≠ unit ':' ∧ u ≠ unit '/' := by
  have hall : ∀ n < 128, (isHexUnit (UInt16.ofNat n) = true ∨ isDash (UInt16.ofNat n) = true ∨
      isVersion (UInt16.ofNat n) = true ∨ isVariant (UInt16.ofNat n) = true) →
        isUnreservedUnit (UInt16.ofNat n) = true ∧ UInt16.ofNat n ≠ unit ':' ∧
          UInt16.ofNat n ≠ unit '/' := by decide +kernel
  have hclass : isHexUnit u = true ∨ isDash u = true ∨ isVersion u = true ∨
      isVariant u = true := by
    simp only [uuidPattern, List.mem_append, List.mem_replicate, List.mem_singleton] at hp
    rcases hp with (((((((((⟨-, rfl⟩ | rfl) | ⟨-, rfl⟩) | rfl) | rfl) | ⟨-, rfl⟩) | rfl) | rfl) |
      ⟨-, rfl⟩) | rfl) | ⟨-, rfl⟩ <;> simp [hu]
  have hlt : u.toNat < 128 := by
    rcases hclass with h | h | h | h
    · by_contra hge
      have hdigit : digitValue 16 u = none := by
        rw [digitValue, if_neg (show ¬(48 ≤ u.toNat ∧ u.toNat ≤ 57) from by omega),
          if_neg (show ¬(65 ≤ u.toNat ∧ u.toNat ≤ 70) from by omega),
          if_neg (show ¬(97 ≤ u.toNat ∧ u.toNat ≤ 102) from by omega)]
        exact if_neg (Nat.lt_irrefl 16)
      rw [isHexUnit, hdigit] at h
      cases h
    · simp only [isDash, decide_eq_true_eq] at h
      subst h
      decide
    · simp only [isVersion, Bool.and_eq_true, decide_eq_true_eq] at h
      exact Nat.lt_of_le_of_lt (UInt16.le_iff_toNat_le.mp h.2) (by decide)
    · simp only [isVariant, List.contains_iff_mem, List.mem_cons, List.not_mem_nil, or_false] at h
      rcases h with rfl | rfl | rfl | rfl | rfl | rfl <;> decide
  have hspec := hall u.toNat hlt
  rw [UInt16.ofNat_toNat] at hspec
  exact hspec hclass

/-- What matters here about a UUID: it needs no encoding and holds no separator. -/
theorem validUUID_spec {s : JsString} (h : validUUID s = true) :
    encodeURIComponent s = some s ∧ unit ':' ∉ s ∧ unit '/' ∉ s := by
  have hunit : ∀ u ∈ s, isUnreservedUnit u = true ∧ u ≠ unit ':' ∧ u ≠ unit '/' := by
    intro u hu
    obtain ⟨p, hp, hpu⟩ := matchesClasses_mem h u hu
    exact uuidPattern_unit hp hpu
  refine ⟨encodeURIComponent_unreserved fun u hu => (hunit u hu).1, fun hc => ?_, fun hs => ?_⟩
  · exact (hunit _ hc).2.1 rfl
  · exact (hunit _ hs).2.2 rfl

/-! ### Room names -/

/-- A room whose identifiers hold no colon. -/
def DocumentRoom.ColonFree (room : DocumentRoom) : Prop :=
  ∀ part ∈ [room.organizationId, room.teamId, room.documentId], unit ':' ∉ part

/-- The colons of a room name: two, and those of the identifiers. -/
theorem count_documentRoomName (room : DocumentRoom) :
    (documentRoomName room).count (unit ':') = 2 + room.organizationId.count (unit ':') +
      room.teamId.count (unit ':') + room.documentId.count (unit ':') := by
  have hcolon : js ":" = [unit ':'] := by decide
  simp only [documentRoomName, hcolon, List.count_append, List.count_singleton_self]
  omega

/-- **Room names do not collide.**  The name of a room without colons is the name of no other
room, not even of one whose identifiers contain colons. -/
theorem documentRoomName_eq_iff {room other : DocumentRoom} (h : room.ColonFree) :
    documentRoomName other = documentRoomName room ↔ other = room := by
  constructor
  · intro heq
    have hzero : ∀ part ∈ [room.organizationId, room.teamId, room.documentId],
        part.count (unit ':') = 0 := fun part hpart => List.count_eq_zero.mpr (h part hpart)
    simp only [List.mem_cons, List.not_mem_nil, or_false, forall_eq_or_imp, forall_eq] at hzero
    have hcount := congrArg (List.count (unit ':')) heq
    rw [count_documentRoomName, count_documentRoomName] at hcount
    have hother : other.ColonFree := by
      intro part hpart
      refine List.count_eq_zero.mp ?_
      simp only [List.mem_cons, List.not_mem_nil, or_false] at hpart
      rcases hpart with rfl | rfl | rfl <;> omega
    rw [documentRoomName_eq_joinParts, documentRoomName_eq_joinParts] at heq
    have hparts := joinParts_injective hother h (by simp) (by simp) heq
    obtain ⟨o, t, d⟩ := other
    simp only [List.cons.injEq, and_true] at hparts
    obtain ⟨rfl, rfl, rfl⟩ := hparts
    rfl
  · rintro rfl
    rfl

/-- A parsed name is the name of the room it is parsed to. -/
theorem parseDocumentRoomName_eq_ok {name : JsString} {room : DocumentRoom}
    (h : parseDocumentRoomName name = .ok room) : documentRoomName room = name := by
  unfold parseDocumentRoomName at h
  split at h
  · rename_i o t d hsplit
    cases h
    rw [documentRoomName_eq_joinParts]
    show joinParts ':' [o, t, d] = name
    rw [← hsplit, joinParts, split, List.intercalate_splitOn]
  · cases h

/-! ### Storage paths -/

/-- The segments of a document's path. -/
def pathSegments (room : DocumentRoom) : List JsString :=
  [js "internal", js "v1", js "orgs", room.organizationId, js "teams", room.teamId,
    js "documents", room.documentId, js "state"]

/-- The path of a document named by UUIDs. -/
theorem statePath_eq_some {claims : DocumentTicketClaims}
    (horganization : validUUID claims.organizationId = true)
    (hteam : validUUID claims.teamId = true) (hdocument : validUUID claims.documentId = true) :
    statePath (documentScope claims) = some (joinParts '/' (pathSegments claims.room)) := by
  have hparts : js "internal/v1/orgs/" ++ claims.organizationId ++ js "/teams/" ++ claims.teamId ++
      js "/documents/" ++ claims.documentId ++ js "/state"
        = joinParts '/' (pathSegments claims.room) := by
    simp [joinParts, pathSegments, DocumentTicketClaims.room, js, utf16, utf16Char, unit]
  simp only [statePath, documentScope, (validUUID_spec horganization).1, (validUUID_spec hteam).1,
    (validUUID_spec hdocument).1, Option.bind_eq_bind, Option.bind_some]
  exact congrArg some hparts

/-- Paths of documents named by UUIDs do not collide. -/
theorem pathSegments_injective {room other : DocumentRoom}
    (hroom : ∀ part ∈ [room.organizationId, room.teamId, room.documentId], unit '/' ∉ part)
    (hother : ∀ part ∈ [other.organizationId, other.teamId, other.documentId], unit '/' ∉ part) :
    joinParts '/' (pathSegments room) = joinParts '/' (pathSegments other) ↔ room = other := by
  have hslash : ∀ r : DocumentRoom,
      (∀ part ∈ [r.organizationId, r.teamId, r.documentId], unit '/' ∉ part) →
        ∀ part ∈ pathSegments r, unit '/' ∉ part := by
    intro r hr part hpart
    have hfixed : ∀ part ∈ [js "internal", js "v1", js "orgs", js "teams", js "documents",
        js "state"], unit '/' ∉ part := by decide
    simp only [pathSegments, List.mem_cons, List.not_mem_nil, or_false] at hpart hr hfixed
    grind
  constructor
  · intro h
    have hsegments := joinParts_injective (hslash room hroom) (hslash other hother)
      (List.cons_ne_nil _ _) (List.cons_ne_nil _ _) h
    obtain ⟨o, t, d⟩ := room
    simp only [pathSegments, List.cons.injEq, and_true, true_and] at hsegments
    obtain ⟨rfl, rfl, rfl⟩ := hsegments
    rfl
  · rintro rfl
    rfl

/-! ### Deletion paths -/

/-- A segment of a path: any text without a slash but the empty one. -/
def IsSegment (s : JsString) : Prop := s ≠ [] ∧ unit '/' ∉ s

/-- The path with three segments that the pattern of a deletion describes. -/
def deletionPath (organization team document : JsString) : JsString :=
  js "/internal/v1/orgs/" ++ organization ++ js "/teams/" ++ team ++ js "/documents/" ++ document ++
    js "/room"

theorem deletionPath_eq_joinParts (organization team document : JsString) :
    deletionPath organization team document = joinParts '/' [[], js "internal", js "v1", js "orgs",
      organization, js "teams", team, js "documents", document, js "room"] := by
  simp [deletionPath, joinParts, js, utf16, utf16Char, unit]

theorem split_deletionPath {organization team document : JsString} (ho : unit '/' ∉ organization)
    (ht : unit '/' ∉ team) (hd : unit '/' ∉ document) :
    split '/' (deletionPath organization team document) = [[], js "internal", js "v1", js "orgs",
      organization, js "teams", team, js "documents", document, js "room"] := by
  rw [deletionPath_eq_joinParts]
  refine List.splitOn_intercalate _ ?_ (List.cons_ne_nil _ _)
  have hfixed : ∀ part ∈ [[], js "internal", js "v1", js "orgs", js "teams", js "documents",
      js "room"], unit '/' ∉ part := by decide
  intro part hpart
  simp only [List.mem_cons, List.not_mem_nil, or_false] at hpart hfixed
  grind

/-- **The paths that delete a room**: three segments, in this order, are its organisation, team and
document. -/
theorem matchRoomPath_eq_some {pathname : JsString} {room : DocumentRoom} :
    matchRoomPath pathname = some room ↔
      pathname = deletionPath room.organizationId room.teamId room.documentId ∧
        IsSegment room.organizationId ∧ IsSegment room.teamId ∧ IsSegment room.documentId := by
  constructor
  · intro h
    unfold matchRoomPath at h
    split at h
    · rename_i start internal v1 orgs o teams t documents d last hsplit
      split at h
      · rename_i hfixed
        obtain ⟨rfl, rfl, rfl, rfl, rfl, rfl, rfl, ho, ht, hd⟩ := hfixed
        cases h
        have hslash : ∀ part ∈ split '/' pathname, unit '/' ∉ part := fun part hpart =>
          separator_not_mem hpart
        rw [hsplit] at hslash
        simp only [List.mem_cons, List.not_mem_nil, or_false, forall_eq_or_imp, forall_eq] at hslash
        refine ⟨?_, ⟨ho, by tauto⟩, ⟨ht, by tauto⟩, ⟨hd, by tauto⟩⟩
        show pathname = deletionPath o t d
        rw [deletionPath_eq_joinParts, ← hsplit, joinParts, split, List.intercalate_splitOn]
      · cases h
    · cases h
  · rintro ⟨rfl, ⟨ho, ho'⟩, ⟨ht, ht'⟩, ⟨hd, hd'⟩⟩
    unfold matchRoomPath
    rw [split_deletionPath ho' ht' hd']
    exact if_pos ⟨rfl, rfl, rfl, rfl, rfl, rfl, rfl, ho, ht, hd⟩

/-- What a request with the method DELETE deletes depends on the path of its URL. -/
theorem privateRoomFromRequest_delete {runtime : Runtime} {url : JsString} {room : DocumentRoom} :
    privateRoomFromRequest runtime (some (js "DELETE")) (some url) = .ok (some room) ↔
      ∃ parsed, runtime.parseURL url (some (js "http://collaboration.internal")) = some parsed ∧
        matchRoomPath parsed.pathname = some room := by
  rw [privateRoomFromRequest, if_neg (not_not.mpr rfl), bind_eq_ok]
  constructor
  · rintro ⟨parsed, hparsed, hreturn⟩
    exact ⟨parsed, require_eq_ok.mp hparsed, Except.ok.inj hreturn⟩
  · rintro ⟨parsed, hparsed, hmatch⟩
    exact ⟨parsed, require_eq_ok.mpr hparsed, congrArg Except.ok hmatch⟩

/-! ### The theorem -/

/-- What the checks of an admitted session went through. -/
theorem ticket_of_admitted {runtime : Runtime} {config : AuthenticationConfig}
    {isDeleted : Option Bool} {now : ℤ} {request : AuthenticationRequest}
    {claims : DocumentTicketClaims}
    (h : onAuthenticate runtime config isDeleted now request = .ok claims) :
    ∃ room, parseDocumentRoomName request.documentName = .ok room ∧
      some room.organizationId = parameter request.requestParameters "org_id" ∧
      some room.teamId = parameter request.requestParameters "team_id" ∧
      validateDocumentTicket runtime request.token
        ⟨room.documentId, some room.organizationId, some room.teamId⟩
        (config.ticketSecret.getD defaultTicketSecret) now = .ok claims := by
  have hauth : authenticate runtime config isDeleted now request = .ok claims := by
    unfold onAuthenticate at h
    split at h
    · rename_i c hc
      cases h
      exact hc
    · cases h
  unfold authenticate at hauth
  simp only [bind_eq_ok, rejectIf_eq_ok, require_eq_ok, not_or, not_not] at hauth
  obtain ⟨deleted, -, _, -, room, hroom, _, ⟨horganization, hteam⟩, _, -, hticket⟩ := hauth
  exact ⟨room, hroom, horganization, hteam, hticket⟩

theorem onAuthenticate_eq_ok {runtime : Runtime} {config : AuthenticationConfig}
    {isDeleted : Option Bool} {now : ℤ} {request : AuthenticationRequest}
    {claims : DocumentTicketClaims}
    (h : onAuthenticate runtime config isDeleted now request = .ok claims) :
    documentRoomName claims.room = request.documentName ∧
      some claims.organizationId = parameter request.requestParameters "org_id" ∧
      some claims.teamId = parameter request.requestParameters "team_id" ∧
      validUUID claims.organizationId = true ∧ validUUID claims.teamId = true ∧
      validUUID claims.documentId = true := by
  obtain ⟨room, hroom, horganization, hteam, hticket⟩ := ticket_of_admitted h
  obtain ⟨hdocument, horg, hteamID, huuids⟩ := validateDocumentTicket_spec hticket
  have hsame : claims.room = room := by
    rw [Option.some.injEq] at horg hteamID
    simp only [DocumentTicketClaims.room, hdocument, horg, hteamID]
  refine ⟨?_, horg.trans horganization, hteamID.trans hteam, huuids⟩
  rw [hsame]
  exact parseDocumentRoomName_eq_ok hroom

/-- Admitted claims name a room without separators in its identifiers. -/
theorem separatorFree {claims : DocumentTicketClaims}
    (h : validUUID claims.organizationId = true ∧ validUUID claims.teamId = true ∧
      validUUID claims.documentId = true) :
    claims.room.ColonFree ∧ ∀ part ∈ [claims.room.organizationId, claims.room.teamId,
      claims.room.documentId], unit '/' ∉ part := by
  obtain ⟨horganization, hteam, hdocument⟩ := h
  have hspec : ∀ part ∈ [claims.room.organizationId, claims.room.teamId, claims.room.documentId],
      unit ':' ∉ part ∧ unit '/' ∉ part := by
    intro part hpart
    simp only [List.mem_cons, List.not_mem_nil, or_false] at hpart
    rcases hpart with rfl | rfl | rfl
    · exact (validUUID_spec horganization).2
    · exact (validUUID_spec hteam).2
    · exact (validUUID_spec hdocument).2
  exact ⟨fun part hpart => (hspec part hpart).1, fun part hpart => (hspec part hpart).2⟩

/-- **Joining, loading, storing and deleting agree on the document.**  The claims of an admitted
session spell its document name and its query parameters; two admitted sessions share a room, or a
storage path, exactly when their claims name the same strings; and a request whose path has three
segments in the places of the pattern deletes the room of these three, which is that of the session
exactly when they are the identifiers of the claims.  No other request deletes a room. -/
theorem rooms_agree (runtime : Runtime) {config : AuthenticationConfig}
    {isDeleted : Option Bool} {now : ℤ} {request : AuthenticationRequest}
    {claims : DocumentTicketClaims}
    (h : onAuthenticate runtime config isDeleted now request = .ok claims) :
    documentRoomName claims.room = request.documentName ∧
    some claims.organizationId = parameter request.requestParameters "org_id" ∧
    some claims.teamId = parameter request.requestParameters "team_id" ∧
    (∀ config' isDeleted' now' request' claims',
      onAuthenticate runtime config' isDeleted' now' request' = .ok claims' →
        (request.documentName = request'.documentName ↔ claims.room = claims'.room) ∧
        (statePath (documentScope claims) = statePath (documentScope claims') ↔
          claims.room = claims'.room)) ∧
    (∀ url parsed organization team document,
      runtime.parseURL url (some (js "http://collaboration.internal")) = some parsed →
      parsed.pathname = deletionPath organization team document →
      IsSegment organization → IsSegment team → IsSegment document →
        ∃ room, privateRoomFromRequest runtime (some (js "DELETE")) (some url) = .ok (some room) ∧
          room.organizationId = organization ∧ room.teamId = team ∧ room.documentId = document ∧
          (documentRoomName room = request.documentName ↔ organization = claims.organizationId ∧
            team = claims.teamId ∧ document = claims.documentId)) ∧
    (∀ url room, privateRoomFromRequest runtime (some (js "DELETE")) (some url) = .ok (some room) →
      (∃ parsed, runtime.parseURL url (some (js "http://collaboration.internal")) = some parsed ∧
        parsed.pathname = deletionPath room.organizationId room.teamId room.documentId) ∧
      (documentRoomName room = request.documentName ↔ room = claims.room)) := by
  obtain ⟨hname, horganization, hteam, huuids⟩ := onAuthenticate_eq_ok h
  obtain ⟨hcolon, hslash⟩ := separatorFree huuids
  have hdeleted : ∀ room, documentRoomName room = request.documentName ↔ room = claims.room := by
    intro room
    rw [← hname]
    exact documentRoomName_eq_iff hcolon
  refine ⟨hname, horganization, hteam, ?_, ?_, ?_⟩
  · intro config' isDeleted' now' request' claims' h'
    obtain ⟨hname', -, -, huuids'⟩ := onAuthenticate_eq_ok h'
    obtain ⟨hcolon', hslash'⟩ := separatorFree huuids'
    constructor
    · rw [← hname, ← hname']
      exact documentRoomName_eq_iff hcolon'
    · rw [statePath_eq_some huuids.1 huuids.2.1 huuids.2.2,
        statePath_eq_some huuids'.1 huuids'.2.1 huuids'.2.2, Option.some.injEq]
      exact pathSegments_injective hslash hslash'
  · intro url parsed o t d hparsed hpath ho ht hd
    have hmatch : matchRoomPath parsed.pathname = some ⟨o, t, d⟩ :=
      matchRoomPath_eq_some.mpr ⟨hpath, ho, ht, hd⟩
    refine ⟨⟨o, t, d⟩, privateRoomFromRequest_delete.mpr ⟨parsed, hparsed, hmatch⟩, rfl, rfl, rfl,
      ?_⟩
    rw [hdeleted, DocumentTicketClaims.room, DocumentRoom.mk.injEq]
  · intro url room hroom
    obtain ⟨parsed, hparsed, hmatch⟩ := privateRoomFromRequest_delete.mp hroom
    exact ⟨⟨parsed, hparsed, (matchRoomPath_eq_some.mp hmatch).1⟩, hdeleted room⟩

/-! ### A sample session -/

/-- The JSON text of the header of a ticket. -/
def sampleHeaderText : JsString := js "\x7b\"alg\":\"HS256\",\"typ\":\"JWT\"\x7d"

/-- The JSON text of its payload. -/
def samplePayloadText : JsString :=
  js "\x7b\"display_name\":\"Ada\",\"document_id\":\"" ++ sampleRoom.documentId ++
    js "\",\"exp\":1800000000,\"org_id\":\"" ++ sampleRoom.organizationId ++
    js "\",\"purpose\":\"document\",\"team_id\":\"" ++ sampleRoom.teamId ++
    js "\",\"user_id\":\"" ++ sampleClaims.userId ++ js "\"\x7d"

/-- The members of the payload. -/
def sampleTicketPayload : List (JsString × Json) :=
  [(js "display_name", .string (js "Ada")), (js "document_id", .string sampleRoom.documentId),
    (js "exp", .number (.finite 1800000000)), (js "org_id", .string sampleRoom.organizationId),
    (js "purpose", .string (js "document")), (js "team_id", .string sampleRoom.teamId),
    (js "user_id", .string sampleClaims.userId)]

/-- What is signed. -/
def sampleUnsigned : JsString :=
  toBase64url (toBytes sampleHeaderText) ++ js "." ++ toBase64url (toBytes samplePayloadText)

/-- Its signature under the default secret. -/
def sampleSignature : Bytes :=
  [13, 34, 255, 200, 230, 69, 66, 6, 237, 154, 181, 152, 157, 9, 51, 8, 44, 140, 252, 187, 251,
    52, 72, 187, 201, 165, 173, 22, 24, 121, 63, 3]

/-- What Node does with the sample ticket and the URL of its room. -/
def sampleRuntime : Runtime where
  jsonParse text :=
    if text = sampleHeaderText then
      some (.object [(js "alg", .string (js "HS256")), (js "typ", .string (js "JWT"))])
    else if text = samplePayloadText then
      some (.object sampleTicketPayload)
    else none
  fromBase64 := Base64.decode
  fromBase64url := Base64.decode
  hmacSha256 secret message :=
    if secret = toBytes defaultTicketSecret ∧
        message = toBytes sampleUnsigned then sampleSignature
    else []
  parseURL _ _ := none
  acceptsUpdate _ := true

def sampleRequest : AuthenticationRequest where
  documentName := documentRoomName sampleRoom
  origin := some (js "http://localhost:3000")
  requestParameters := [(js "org_id", sampleRoom.organizationId), (js "team_id", sampleRoom.teamId)]
  token := sampleUnsigned ++ js "." ++ toBase64url sampleSignature

theorem sampleRequest_accepted :
    ∃ claims, onAuthenticate sampleRuntime ⟨none, none⟩ (some false) 1700000000000 sampleRequest
      = .ok claims := by
  have hrun : (onAuthenticate sampleRuntime ⟨none, none⟩ (some false) 1700000000000
      sampleRequest).isOk = true := by decide +kernel
  exact isOk_iff.mp hrun

/-- The same, with the URLs of requests parsed: here their paths are all there is. -/
def pathRuntime : Runtime :=
  { sampleRuntime with parseURL := fun url _ => some ⟨url, [], [], [], url, [], []⟩ }

/-- The request for the path of the room deletes it; a request with a colon in a segment deletes
another one. -/
theorem rooms_agree_sample :
    ∃ claims, onAuthenticate pathRuntime ⟨none, none⟩ (some false) 1700000000000 sampleRequest
        = .ok claims ∧
      (∃ room, privateRoomFromRequest pathRuntime (some (js "DELETE")) (some (deletionPath
          claims.organizationId claims.teamId claims.documentId)) = .ok (some room) ∧
        documentRoomName room = sampleRequest.documentName) ∧
      ∃ room, privateRoomFromRequest pathRuntime (some (js "DELETE")) (some (deletionPath
          (claims.organizationId ++ js ":" ++ claims.teamId) claims.teamId claims.documentId)) =
            .ok (some room) ∧
        documentRoomName room ≠ sampleRequest.documentName := by
  have hrun : (onAuthenticate pathRuntime ⟨none, none⟩ (some false) 1700000000000
      sampleRequest).map (·.room) = .ok sampleRoom := by decide +kernel
  obtain ⟨claims, hclaims, hroom⟩ := map_eq_ok.mp hrun
  obtain ⟨-, -, -, -, hdelete, -⟩ := rooms_agree pathRuntime hclaims
  have hsegments : IsSegment sampleRoom.organizationId ∧ IsSegment sampleRoom.teamId ∧
      IsSegment sampleRoom.documentId ∧
      IsSegment (sampleRoom.organizationId ++ js ":" ++ sampleRoom.teamId) := by
    refine ⟨⟨by decide, by decide⟩, ⟨by decide, by decide⟩, ⟨by decide, by decide⟩,
      ⟨by decide, by decide⟩⟩
  rw [← hroom] at hsegments
  obtain ⟨ho, ht, hd, hcolon⟩ := hsegments
  obtain ⟨room, hsame, -, -, -, hiff⟩ := hdelete _ _ _ _ _ rfl rfl ho ht hd
  obtain ⟨other, hother, -, -, -, hiff'⟩ := hdelete _ _ _ _ _ rfl rfl hcolon ht hd
  refine ⟨claims, hclaims, ⟨room, hsame, hiff.mpr ⟨rfl, rfl, rfl⟩⟩, other, hother, ?_⟩
  intro hname
  have hlength : (claims.organizationId ++ js ":" ++ claims.teamId).length =
      claims.organizationId.length := congrArg List.length (hiff'.mp hname).1
  rw [List.length_append, List.length_append] at hlength
  have hone : (js ":").length = 1 := by decide
  omega

end SocketServer.Collaboration
