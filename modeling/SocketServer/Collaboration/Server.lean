import SocketServer.Collaboration.Auth
import SocketServer.Collaboration.Storage

/-!
# Rooms and their names

The parts of `collaboration/src/server.ts` that say which document a room is: the name a room is
joined under, the scope its state is loaded and stored with, and the room that an internal request
deletes.
-/

namespace SocketServer.Collaboration

open SocketServer.Text SocketServer.Js SocketServer.Checks

/-- The three identifiers of a document. -/
structure DocumentRoom where
  organizationId : JsString
  teamId : JsString
  documentId : JsString
  deriving DecidableEq

def documentRoomName (room : DocumentRoom) : JsString :=
  room.organizationId ++ js ":" ++ room.teamId ++ js ":" ++ room.documentId

/-- `const [organizationId, teamId, documentId, extra] = name.split(":")`, with a missing or an
extra part rejected. -/
def parseDocumentRoomName (name : JsString) : Except String DocumentRoom :=
  match split ':' name with
  | [organizationId, teamId, documentId] => .ok { organizationId, teamId, documentId }
  | _ => .error invalidTicket

def documentScope (claims : DocumentTicketClaims) : DocumentScope where
  documentId := claims.documentId
  editorId := claims.userId
  organizationId := claims.organizationId
  teamId := claims.teamId

/-- The room that claims name. -/
def DocumentTicketClaims.room (claims : DocumentTicketClaims) : DocumentRoom where
  organizationId := claims.organizationId
  teamId := claims.teamId
  documentId := claims.documentId

/-! ### Joining -/

/-- What `onAuthenticate` reads of the configuration; absent values have defaults. -/
structure AuthenticationConfig where
  allowedOrigins : Option (List JsString)
  ticketSecret : Option JsString

/-- What `onAuthenticate` reads of a request for a session. -/
structure AuthenticationRequest where
  documentName : JsString
  origin : Option JsString
  requestParameters : List (JsString × JsString)
  token : JsString

/-- `requestParameters.get(name)`: the first value, or `null`. -/
def parameter (requestParameters : List (JsString × JsString)) (name : String) :
    Option JsString :=
  (requestParameters.find? fun p => p.1 = js name).map (·.2)

/-- The checks of `onAuthenticate`; `isDeleted` is what the room lifecycle answers, `none` when
it rejects. -/
def authenticate (runtime : Runtime) (config : AuthenticationConfig) (isDeleted : Option Bool)
    (now : ℤ) (request : AuthenticationRequest) : Except String DocumentTicketClaims := do
  let deleted ← require isDeleted "Redis error"
  rejectIf (deleted = true) invalidTicket
  let room ← parseDocumentRoomName request.documentName
  rejectIf (some room.organizationId ≠ parameter request.requestParameters "org_id" ∨
    some room.teamId ≠ parameter request.requestParameters "team_id") invalidTicket
  validateOrigin request.origin (config.allowedOrigins.getD defaultAllowedOrigins)
  validateDocumentTicket runtime request.token
    ⟨room.documentId, some room.organizationId, some room.teamId⟩
    (config.ticketSecret.getD defaultTicketSecret) now

/-- `onAuthenticate`: whatever fails, the client sees one error. -/
def onAuthenticate (runtime : Runtime) (config : AuthenticationConfig) (isDeleted : Option Bool)
    (now : ℤ) (request : AuthenticationRequest) : Except String DocumentTicketClaims :=
  match authenticate runtime config isDeleted now request with
  | .ok claims => .ok claims
  | .error _ => .error invalidTicket

/-! ### Deleting -/

/-- The pattern `^\/internal\/v1\/orgs\/([^/]+)\/teams\/([^/]+)\/documents\/([^/]+)\/room$`, whose
slashes are exactly those of the path. -/
def matchRoomPath (pathname : JsString) : Option DocumentRoom :=
  match split '/' pathname with
  | [start, internal, v1, orgs, organizationId, teams, teamId, documents, documentId, room] =>
      if start = [] ∧ internal = js "internal" ∧ v1 = js "v1" ∧ orgs = js "orgs" ∧
          teams = js "teams" ∧ documents = js "documents" ∧ room = js "room" ∧
          organizationId ≠ [] ∧ teamId ≠ [] ∧ documentId ≠ [] then
        some { organizationId, teamId, documentId }
      else none
  | _ => none

/-- `privateRoomFromRequest`: the room to delete, or nothing, or the `TypeError` of an URL that
does not parse. -/
def privateRoomFromRequest (runtime : Runtime) (method requestURL : Option JsString) :
    Except String (Option DocumentRoom) :=
  match requestURL with
  | none => .ok none
  | some url =>
      if method ≠ some (js "DELETE") then .ok none
      else do
        let parsed ← require (runtime.parseURL url (some (js "http://collaboration.internal")))
          "Invalid URL"
        return matchRoomPath parsed.pathname

/-! ### A sample session -/

def sampleRoom : DocumentRoom :=
  ⟨js "11111111-1111-4111-8111-111111111111", js "22222222-2222-4222-8222-222222222222",
    js "33333333-3333-4333-8333-333333333333"⟩

/-- The claims of a session in the sample room. -/
def sampleClaims : DocumentTicketClaims where
  documentId := sampleRoom.documentId
  displayName := js "Ada"
  expiresAt := 1800000000
  organizationId := sampleRoom.organizationId
  teamId := sampleRoom.teamId
  userId := js "44444444-4444-4444-8444-444444444444"

end SocketServer.Collaboration
