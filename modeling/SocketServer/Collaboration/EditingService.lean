import SocketServer.Collaboration.RoomIdentity
import SocketServer.Collaboration.WriteBack

/-!
# A collaboration server at work

One server process with any number of rooms and editing sessions: the hooks of
`createCollaborationServer` (`collaboration/src/server.ts`) in the order in which Hocuspocus may run
them, and core-api, which keeps the fields of a document's state by the URL of the state.

A step is one run of a hook, or what happens between two of them: a message that passed its check is
applied, a session leaves, a room is unloaded.  What the network does is part of the step: the
answer to a GET is any failure, or a success with the fields core-api has.  A store takes three
steps.  It encodes the document and issues the PUT; core-api records the PUT at some time, or never,
also after the server has given it up; and the request ends, with a success only if the PUT was
recorded.  Nothing keeps two stores of a room from overlapping, nor a room from being unloaded
meanwhile: `Orderly` says what Hocuspocus and core-api do about that.
-/

namespace SocketServer.Collaboration

open SocketServer.Text SocketServer.Js SocketServer.Checks

variable {D : Type}

/-! ### Sessions -/

/-- An editing session: its document name, its socket and the context that `onAuthenticate` gave
it.  The context names the room the session is in. -/
structure AdmittedSession where
  documentName : JsString
  socketId : JsString
  context : DocumentTicketClaims
  named : documentRoomName context.room = documentName
  organization : validUUID context.organizationId = true
  team : validUUID context.teamId = true
  document : validUUID context.documentId = true

/-- The session of a connection that `onAuthenticate` admits. -/
def newSession (runtime : Runtime) (config : AuthenticationConfig) (isDeleted : Option Bool) (now : ℤ)
    (socketId : JsString) (request : AuthenticationRequest) : Option AdmittedSession :=
  match h : onAuthenticate runtime config isDeleted now request with
  | .error _ => none
  | .ok context =>
      have hadmitted := onAuthenticate_eq_ok h
      some {
        documentName := request.documentName
        socketId
        context
        named := hadmitted.1
        organization := hadmitted.2.2.2.1
        team := hadmitted.2.2.2.2.1
        document := hadmitted.2.2.2.2.2 }

theorem newSession_eq_some {runtime : Runtime} {config : AuthenticationConfig}
    {isDeleted : Option Bool} {now : ℤ} {socketId : JsString} {request : AuthenticationRequest}
    {session : AdmittedSession}
    (h : newSession runtime config isDeleted now socketId request = some session) :
    onAuthenticate runtime config isDeleted now request = .ok session.context ∧
      session.documentName = request.documentName ∧ session.socketId = socketId := by
  unfold newSession at h
  split at h
  · cases h
  · rename_i context hcontext
    cases h
    exact ⟨hcontext, rfl, rfl⟩

/-! ### Presence -/

def presenceColors : List JsString :=
  [js "#2563eb", js "#7c3aed", js "#c026d3", js "#db2777", js "#ea580c", js "#0d9488"]

/-- The first code units of the characters of a string, as `for (const character of s)` gives
them. -/
def characterCodes : JsString → List UInt16
  | [] => []
  | [u] => [u]
  | u :: v :: rest =>
      if isHighSurrogate u && isLowSurrogate v then u :: characterCodes rest
      else u :: characterCodes (v :: rest)

/-- The loop of `presenceColor`; `>>> 0` is the remainder modulo 2^32. -/
def presenceHash (userId : JsString) : ℕ :=
  (characterCodes userId).foldl (fun hash code => (hash * 31 + code.toNat) % 2 ^ 32) 0

/-- `presenceColors[hash % presenceColors.length]!`. -/
def presenceColor (userId : JsString) : Option JsString :=
  presenceColors[presenceHash userId % presenceColors.length]?

/-- The value of a property that is left out when it is `undefined`. -/
def member (key : String) (value : Option JsString) : List (JsString × Json) :=
  match value with
  | some s => [(js key, .string s)]
  | none => []

def authenticatedPresence (claims : DocumentTicketClaims) (sessionId : JsString) : Json :=
  .object (member "color" (presenceColor claims.userId) ++ member "id" (some claims.userId) ++
    member "name" (some claims.displayName) ++ member "sessionId" (some sessionId))

/-- `state.user = user`.  A property of an array is not part of its JSON; anything else that is no
object is a `TypeError`. -/
def setUser (user : Json) : Json → Except String Json
  | .object members =>
      if members.any fun m => m.1 = js "user" then
        .ok (.object (members.map fun m => if m.1 = js "user" then (m.1, user) else m))
      else .ok (.object (members ++ [(js "user", user)]))
  | .array values => .ok (.array values)
  | _ => .error "TypeError"

/-- `beforeHandleAwareness`: the states of a message, by client id. -/
def beforeHandleAwareness (context : Option DocumentTicketClaims) (socketId : JsString)
    (states : List (ℕ × Json)) : Except String (List (ℕ × Json)) :=
  match context with
  | none => .ok states
  | some claims =>
      states.mapM fun state =>
        (setUser (authenticatedPresence claims socketId) state.2).map fun value => (state.1, value)

/-! ### The state -/

/-- A document in memory, with the awareness states of the clients that show themselves in it. -/
structure OpenRoom (D : Type) where
  document : D
  awareness : ℕ → Option Json

/-- A sync message that has passed `beforeSync` and is to be applied. -/
structure CheckedSync where
  session : AdmittedSession
  payload : Bytes
  type : ℕ

/-- What core-api keeps of a document. -/
structure StateFields where
  bodyHTML : JsString
  canonicalState : JsString
  title : JsString
  deriving DecidableEq

/-- The PUT of a store with the document it encoded: whether core-api has recorded it, and whether
its request has ended for the server. -/
structure Put (D : Type) where
  session : AdmittedSession
  document : D
  request : Request
  recorded : Bool
  ended : Bool

structure EditingState (D : Type) where
  sessions : ℕ → Option AdmittedSession
  /-- Every session so far: `lastContext` may be the context of one that has left. -/
  admitted : List AdmittedSession
  rooms : JsString → Option (OpenRoom D)
  checked : ℕ → Option CheckedSync
  puts : List (Put D)
  stored : JsString → Option StateFields

/-- The server has started; core-api has what it has. -/
def EditingState.initial (stored : JsString → Option StateFields) : EditingState D :=
  ⟨fun _ => none, [], fun _ => none, fun _ => none, [], stored⟩

def EditingState.setRoom (s : EditingState D) (name : JsString) (room : Option (OpenRoom D)) :
    EditingState D :=
  { s with rooms := Function.update s.rooms name room }

def EditingState.setSession (s : EditingState D) (i : ℕ) (session : Option AdmittedSession) :
    EditingState D :=
  { s with sessions := Function.update s.sessions i session }

def EditingState.setChecked (s : EditingState D) (k : ℕ) (sync : Option CheckedSync) :
    EditingState D :=
  { s with checked := Function.update s.checked k sync }

theorem EditingState.setRoom_self (s : EditingState D) (name : JsString) (room : Option (OpenRoom D)) :
    (s.setRoom name room).rooms name = room :=
  Function.update_self _ _ _

theorem EditingState.setRoom_of_ne {other name : JsString} (h : other ≠ name) (s : EditingState D)
    (room : Option (OpenRoom D)) : (s.setRoom name room).rooms other = s.rooms other :=
  Function.update_of_ne h _ _

theorem EditingState.setSession_self (s : EditingState D) (i : ℕ) (session : Option AdmittedSession) :
    (s.setSession i session).sessions i = session :=
  Function.update_self _ _ _

theorem EditingState.setSession_of_ne {j i : ℕ} (h : j ≠ i) (s : EditingState D)
    (session : Option AdmittedSession) : (s.setSession i session).sessions j = s.sessions j :=
  Function.update_of_ne h _ _

/-- What the hooks use, with the document that `new Doc()` is. -/
structure EditingServices (D : Type) extends StoreServices D where
  new : D

/-! ### core-api -/

/-- The fields of a JSON text. -/
def fieldsOf (runtime : Runtime) (text : JsString) : Option StateFields :=
  ((runtime.jsonParse text).bind documentStateResponse).map fun f => ⟨f.1, f.2.1, f.2.2⟩

/-- What core-api may answer to a GET: a failure, or a success with the fields it has. -/
def answers (runtime : Runtime) (fields : Option StateFields) : Except String Response → Bool
  | .error _ => true
  | .ok response =>
      if response.status < 200 ∨ 299 < response.status then true
      else
        match response.body, fields with
        | some chunks, some f => fieldsOf runtime (utf8ToString chunks.flatten) = some f
        | _, _ => false

/-- Whether a PUT was answered with a success. -/
def succeeded (reply : Except String Response) (request : Request) : Bool :=
  (send (fun _ => reply) request).isOk

/-- core-api keeps the fields of a PUT. -/
def EditingState.keep (s : EditingState D) (url : JsString) (fields : StateFields) :
    EditingState D :=
  { s with stored := Function.update s.stored url (some fields) }

def EditingState.setPut (s : EditingState D) (k : ℕ) (put : Put D) : EditingState D :=
  { s with puts := s.puts.set k put }

/-- The URL of the state of a room that is named by UUIDs. -/
def stateURL (storage : CoreAPIStorage) (room : DocumentRoom) : JsString :=
  storage.baseURL ++ js "/" ++ joinParts '/' (pathSegments room)

/-! ### The hooks of a document -/

def onLoadDocument (services : EditingServices D) (titleClient bodyClient : ℕ)
    (context : DocumentTicketClaims) (fetch : Fetch) : Except String (Option (D ⊕ Bytes)) :=
  (loadDocumentState services.runtime services.yjs services.tiptap services.storage titleClient
    bodyClient context services.maxDocumentBytes fetch).mapError fun _ =>
      "Document state load failed"

/-- `onStoreDocument`; `isDeleted` is what the room lifecycle answers, `none` when it rejects. -/
def onStoreDocument (services : EditingServices D) (isDeleted : Option Bool)
    (lastContext : DocumentTicketClaims) (document : D) (fetch : Fetch) : Except String Unit :=
  match isDeleted with
  | none => .error "Document state persistence failed"
  | some true => .ok ()
  | some false =>
      (storeDocumentState services.runtime services.yjs services.tiptap services.storage lastContext
        document services.maxDocumentBytes fetch).mapError fun _ =>
          "Document state persistence failed"

/-! ### Steps -/

inductive EditingAction where
  | join (i : ℕ) (socketId : JsString) (isDeleted : Option Bool) (now : ℤ)
      (request : AuthenticationRequest)
  | load (i titleClient bodyClient : ℕ) (reply : Except String Response)
  | check (k i : ℕ) (payload : Bytes) (type : ℕ)
  | apply (k : ℕ)
  | awareness (i : ℕ) (states : List (ℕ × Json)) (newer : ℕ → Bool)
  | forget (name : JsString) (client : ℕ)
  | store (n : ℕ) (isDeleted : Option Bool)
  | record (k : ℕ)
  | reply (k : ℕ) (reply : Except String Response)
  | leave (i : ℕ)
  | terminate (name : JsString)
  | unload (name : JsString)

/-- What `onLoadDocument` returned is put into a new document. -/
def received (services : EditingServices D) : Option (D ⊕ Bytes) → D
  | none => services.new
  | some (.inl document) =>
      services.yjs.applyUpdate services.new (services.yjs.encodeStateAsUpdate document)
  | some (.inr state) => services.yjs.applyUpdate services.new state

/-- A connection is admitted or refused. -/
def EditingState.join (services : EditingServices D) (s : EditingState D) (i : ℕ)
    (socketId : JsString) (isDeleted : Option Bool) (now : ℤ) (request : AuthenticationRequest) :
    Option (EditingState D) :=
  match s.sessions i with
  | some _ => none
  | none =>
      match newSession services.runtime services.authentication isDeleted now socketId request with
      | some session =>
          some { s.setSession i (some session) with admitted := s.admitted ++ [session] }
      | none => some s

/-- `onLoadDocument`, for a session whose room is not open; when it fails the session is closed. -/
def EditingState.load (services : EditingServices D) (s : EditingState D)
    (i titleClient bodyClient : ℕ) (reply : Except String Response) : Option (EditingState D) :=
  match s.sessions i with
  | none => none
  | some session =>
      match s.rooms session.documentName with
      | some _ => none
      | none =>
          let fields := services.storage.bind fun storage =>
            s.stored (stateURL storage session.context.room)
          if answers services.runtime fields reply then
            match onLoadDocument services titleClient bodyClient session.context
                (fun _ => reply) with
            | .ok loaded => some (s.setRoom session.documentName
                (some ⟨received services loaded, fun _ => none⟩))
            | .error _ => some (s.setSession i none)
          else none

/-- `beforeSync`; when it fails the session is closed. -/
def EditingState.check (services : EditingServices D) (s : EditingState D) (k i : ℕ)
    (payload : Bytes) (type : ℕ) : Option (EditingState D) :=
  match s.sessions i, s.checked k with
  | some session, none =>
      match s.rooms session.documentName with
      | none => none
      | some room =>
          match enforceSyncLimit services.yjs room.document payload type
              services.maxDocumentBytes with
          | .ok _ => some (s.setChecked k (some ⟨session, payload, type⟩))
          | .error _ => some (s.setSession i none)
  | _, _ => none

/-- A checked message is applied; one that only asks for changes changes nothing. -/
def EditingState.apply (services : EditingServices D) (s : EditingState D) (k : ℕ) :
    Option (EditingState D) :=
  match s.checked k with
  | none => none
  | some sync =>
      match s.rooms sync.session.documentName with
      | none => some (s.setChecked k none)
      | some room =>
          if isMutating sync.type then
            some ((s.setChecked k none).setRoom sync.session.documentName
              (some { room with
                document := services.yjs.applyUpdate room.document sync.payload }))
          else some (s.setChecked k none)

/-- The states of a message replace those of the clients for which they are newer. -/
def showStates (awareness : ℕ → Option Json) (newer : ℕ → Bool) :
    List (ℕ × Json) → ℕ → Option Json
  | [] => awareness
  | (client, state) :: rest =>
      showStates (if newer client then Function.update awareness client (some state) else awareness)
        newer rest

/-- An awareness message; when `beforeHandleAwareness` throws it is not applied. -/
def EditingState.awareness (s : EditingState D) (i : ℕ) (states : List (ℕ × Json))
    (newer : ℕ → Bool) : Option (EditingState D) :=
  match s.sessions i with
  | none => none
  | some session =>
      match s.rooms session.documentName with
      | none => none
      | some room =>
          match beforeHandleAwareness (some session.context) session.socketId states with
          | .ok states => some (s.setRoom session.documentName
              (some { room with awareness := showStates room.awareness newer states }))
          | .error _ => some s

/-- The state of a client that has gone is removed. -/
def EditingState.forget (s : EditingState D) (name : JsString) (client : ℕ) :
    Option (EditingState D) :=
  (s.rooms name).map fun room =>
    s.setRoom name (some { room with awareness := Function.update room.awareness client none })

/-- `onStoreDocument`, with the context of the `n`th session: without a tombstone and with a store,
the document is encoded and its PUT issued. -/
def EditingState.store (services : EditingServices D) (s : EditingState D) (n : ℕ)
    (isDeleted : Option Bool) : Option (EditingState D) :=
  match s.admitted[n]? with
  | none => none
  | some session =>
      match s.rooms session.documentName with
      | none => none
      | some room =>
          match isDeleted, services.storage with
          | some false, some storage =>
              match storeDocumentRequest services.runtime services.yjs services.tiptap storage
                  session.context room.document services.maxDocumentBytes with
              | .error _ => some s
              | .ok request =>
                  some { s with puts := s.puts ++ [⟨session, room.document, request, false, false⟩] }
          | _, _ => some s

/-- core-api records a PUT, once. -/
def EditingState.record (services : EditingServices D) (s : EditingState D) (k : ℕ) :
    Option (EditingState D) :=
  match s.puts[k]? with
  | none => none
  | some put =>
      if put.recorded then none
      else (put.request.body.bind (fieldsOf services.runtime)).map fun fields =>
        (s.keep put.request.url fields).setPut k { put with recorded := true }

/-- The request of a PUT ends for the server: with core-api's answer, a failure, or a timeout. -/
def EditingState.reply (s : EditingState D) (k : ℕ) (reply : Except String Response) :
    Option (EditingState D) :=
  match s.puts[k]? with
  | none => none
  | some put =>
      if put.ended then none
      else if succeeded reply put.request && !put.recorded then none
      else some (s.setPut k { put with ended := true })

/-- `terminateRoom` closes the sessions of a room. -/
def EditingState.terminate (s : EditingState D) (name : JsString) : EditingState D :=
  { s with sessions := fun i => (s.sessions i).filter fun session => session.documentName ≠ name }

def editingStep (services : EditingServices D) (s : EditingState D) :
    EditingAction → Option (EditingState D)
  | .join i socketId isDeleted now request => s.join services i socketId isDeleted now request
  | .load i titleClient bodyClient reply => s.load services i titleClient bodyClient reply
  | .check k i payload type => s.check services k i payload type
  | .apply k => s.apply services k
  | .awareness i states newer => s.awareness i states newer
  | .forget name client => s.forget name client
  | .store n isDeleted => s.store services n isDeleted
  | .record k => s.record services k
  | .reply k reply => s.reply k reply
  | .leave i => some (s.setSession i none)
  | .terminate name => some (s.terminate name)
  | .unload name => some (s.setRoom name none)

/-- No store of a room is under way. -/
def EditingState.Settled (s : EditingState D) (name : JsString) : Prop :=
  ∀ put ∈ s.puts, put.session.documentName = name → put.ended = true

instance (s : EditingState D) (name : JsString) : Decidable (s.Settled name) :=
  inferInstanceAs (Decidable (∀ put ∈ s.puts, put.session.documentName = name → put.ended = true))

/-- Hocuspocus stores a room once at a time and does not unload it meanwhile, and core-api records a
PUT before its request has ended, or never. -/
def Orderly (s : EditingState D) : EditingAction → Prop
  | .store n _ => ∀ session ∈ s.admitted[n]?, s.Settled session.documentName
  | .record k => ∀ put ∈ s.puts[k]?, put.ended = false
  | .unload name => s.Settled name
  | _ => True

instance (s : EditingState D) : (a : EditingAction) → Decidable (Orderly s a)
  | .store n _ =>
      inferInstanceAs (Decidable (∀ session ∈ s.admitted[n]?, s.Settled session.documentName))
  | .record k => inferInstanceAs (Decidable (∀ put ∈ s.puts[k]?, put.ended = false))
  | .unload name => inferInstanceAs (Decidable (s.Settled name))
  | .join .. | .load .. | .check .. | .apply .. | .awareness .. | .forget .. | .reply ..
  | .leave .. | .terminate .. => inferInstanceAs (Decidable True)

/-! ### What a step does -/

/-- The steps of the server with what they have checked. -/
inductive EditingMove (services : EditingServices D) (s : EditingState D) :
    EditingAction → EditingState D → Prop where
  | joined {i : ℕ} {socketId : JsString} {isDeleted : Option Bool} {now : ℤ}
      {request : AuthenticationRequest} {session : AdmittedSession}
      (h : newSession services.runtime services.authentication isDeleted now socketId request =
        some session) :
      EditingMove services s (.join i socketId isDeleted now request)
        { s.setSession i (some session) with admitted := s.admitted ++ [session] }
  | loaded {i titleClient bodyClient : ℕ} {reply : Except String Response}
      {session : AdmittedSession} {loaded : Option (D ⊕ Bytes)} (hi : s.sessions i = some session)
      (hroom : s.rooms session.documentName = none)
      (hanswers : answers services.runtime (services.storage.bind fun storage =>
        s.stored (stateURL storage session.context.room)) reply = true)
      (h : loadDocumentState services.runtime services.yjs services.tiptap services.storage
        titleClient bodyClient session.context services.maxDocumentBytes (fun _ => reply) =
          .ok loaded) :
      EditingMove services s (.load i titleClient bodyClient reply)
        (s.setRoom session.documentName (some ⟨received services loaded, fun _ => none⟩))
  | checked {k i : ℕ} {payload : Bytes} {type : ℕ} {session : AdmittedSession}
      (hi : s.sessions i = some session) :
      EditingMove services s (.check k i payload type)
        (s.setChecked k (some ⟨session, payload, type⟩))
  | applied {k : ℕ} {sync : CheckedSync} {room : OpenRoom D} (hk : s.checked k = some sync)
      (hroom : s.rooms sync.session.documentName = some room) (htype : isMutating sync.type) :
      EditingMove services s (.apply k) ((s.setChecked k none).setRoom sync.session.documentName
        (some { room with document := services.yjs.applyUpdate room.document sync.payload }))
  | taken {k : ℕ} : EditingMove services s (.apply k) (s.setChecked k none)
  | shown {i : ℕ} {states states' : List (ℕ × Json)} {newer : ℕ → Bool}
      {session : AdmittedSession} {room : OpenRoom D} (hi : s.sessions i = some session)
      (hroom : s.rooms session.documentName = some room)
      (h : beforeHandleAwareness (some session.context) session.socketId states = .ok states') :
      EditingMove services s (.awareness i states newer) (s.setRoom session.documentName
        (some { room with awareness := showStates room.awareness newer states' }))
  | forgotten {name : JsString} {client : ℕ} {room : OpenRoom D} (hroom : s.rooms name = some room) :
      EditingMove services s (.forget name client) (s.setRoom name
        (some { room with awareness := Function.update room.awareness client none }))
  | issued {n : ℕ} {session : AdmittedSession} {room : OpenRoom D} {storage : CoreAPIStorage}
      {request : Request} (hn : s.admitted[n]? = some session)
      (hroom : s.rooms session.documentName = some room)
      (hstorage : services.storage = some storage)
      (hrequest : storeDocumentRequest services.runtime services.yjs services.tiptap storage
        session.context room.document services.maxDocumentBytes = .ok request) :
      EditingMove services s (.store n (some false))
        { s with puts := s.puts ++ [⟨session, room.document, request, false, false⟩] }
  | recorded {k : ℕ} {put : Put D} {fields : StateFields} (hk : s.puts[k]? = some put)
      (hfields : put.request.body.bind (fieldsOf services.runtime) = some fields) :
      EditingMove services s (.record k)
        ((s.keep put.request.url fields).setPut k { put with recorded := true })
  | replied {k : ℕ} {reply : Except String Response} {put : Put D} (hk : s.puts[k]? = some put)
      (hreply : succeeded reply put.request = true → put.recorded = true) :
      EditingMove services s (.reply k reply) (s.setPut k { put with ended := true })
  | closed {a : EditingAction} (i : ℕ) : EditingMove services s a (s.setSession i none)
  | terminated {name : JsString} : EditingMove services s (.terminate name) (s.terminate name)
  | unloaded {name : JsString} : EditingMove services s (.unload name) (s.setRoom name none)
  | unchanged {a : EditingAction} : EditingMove services s a s

theorem editingMove {services : EditingServices D} {s t : EditingState D} {a : EditingAction}
    (h : editingStep services s a = some t) : EditingMove services s a t := by
  cases a with
  | join i socketId isDeleted now request =>
      simp only [editingStep, EditingState.join] at h
      split at h
      · cases h
      · split at h
        · rename_i session hsession
          cases h
          exact .joined hsession
        · cases h
          exact .unchanged
  | load i titleClient bodyClient reply =>
      simp only [editingStep, EditingState.load] at h
      split at h
      · cases h
      · rename_i session hi
        split at h
        · cases h
        · rename_i hroom
          split at h
          · rename_i hanswers
            split at h
            · rename_i loaded hload
              cases h
              exact .loaded hi hroom hanswers (mapError_eq_ok.mp hload)
            · cases h
              exact .closed i
          · cases h
  | check k i payload type =>
      simp only [editingStep, EditingState.check] at h
      split at h
      · rename_i session hi _
        split at h
        · cases h
        · split at h
          · cases h
            exact .checked hi
          · cases h
            exact .closed i
      · cases h
  | apply k =>
      simp only [editingStep, EditingState.apply] at h
      split at h
      · cases h
      · rename_i sync hk
        split at h
        · cases h
          exact .taken
        · rename_i room hroom
          split at h
          · rename_i htype
            cases h
            exact .applied hk hroom htype
          · cases h
            exact .taken
  | awareness i states newer =>
      simp only [editingStep, EditingState.awareness] at h
      split at h
      · cases h
      · rename_i session hi
        split at h
        · cases h
        · rename_i room hroom
          split at h
          · rename_i states' hstates
            cases h
            exact .shown hi hroom hstates
          · cases h
            exact .unchanged
  | forget name client =>
      obtain ⟨room, hroom, rfl⟩ := Option.map_eq_some_iff.mp h
      exact .forgotten hroom
  | store n isDeleted =>
      simp only [editingStep, EditingState.store] at h
      split at h
      · cases h
      · rename_i session hn
        split at h
        · cases h
        · rename_i room hroom
          split at h
          · rename_i storage hstorage
            split at h
            · cases h
              exact .unchanged
            · rename_i request hrequest
              cases h
              exact .issued hn hroom hstorage hrequest
          · cases h
            exact .unchanged
  | record k =>
      simp only [editingStep, EditingState.record] at h
      split at h
      · cases h
      · rename_i put hk
        split at h
        · cases h
        · obtain ⟨fields, hfields, rfl⟩ := Option.map_eq_some_iff.mp h
          exact .recorded hk hfields
  | reply k reply =>
      simp only [editingStep, EditingState.reply] at h
      split at h
      · cases h
      · rename_i put hk
        split at h
        · cases h
        · split at h
          · cases h
          · rename_i hreply
            cases h
            exact .replied hk (by simpa using hreply)
  | leave i =>
      cases h
      exact .closed i
  | terminate name =>
      cases h
      exact .terminated
  | unload name =>
      cases h
      exact .unloaded

end SocketServer.Collaboration
