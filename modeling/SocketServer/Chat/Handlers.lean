import SocketServer.Chat.Hub
import SocketServer.Chat.Tickets
import SocketServer.Chat.Origins

/-!
# The HTTP handlers of the chat service

`cmd/server/main.go` and `ServeWS`: what becomes of a request before it reaches the hub.  The
router sees a request after `corsMiddleware`, which answers every `OPTIONS` request itself.

`admitted_of_join` and `authorised_of_publish` say what a request has shown when it gets through:
a handshake on `/ws` with a ticket for the team it names and an allowed origin, or the internal key
on `/internal/publish`.
-/

namespace SocketServer.Chat

open SocketServer.Text SocketServer.Checks

/-- What the handlers read of an `*http.Request`.  `handshake` is whether the upgrader takes it for
a WebSocket handshake, its origin apart. -/
structure Request where
  method : String
  path : String
  origin : Bytes
  internalKey : Bytes
  token : Bytes
  teamID : Bytes
  body : Bytes
  handshake : Bool

/-- `publishRequest`. -/
structure PublishRequest (δ : Type*) where
  teamID : ℤ
  type : Bytes
  data : δ

/-- What the service takes from elsewhere: `encoding/json` for events and for the body of an
internal request (a `Decoder`, which stops after the first value), and what `internal/auth` uses. -/
structure ServerRuntime (δ : Type*) where
  codec : EventCodec δ
  decode : Bytes → Option (PublishRequest δ)
  auth : AuthRuntime

/-- An answer, with the headers that `corsMiddleware` set; the handlers' own, such as
`Content-Type`, are left out. -/
structure Response where
  status : ℕ
  headers : List (String × Bytes)
  body : Bytes

/-- What a handler comes to: an answer, a failed upgrade (the upgrader answers), a client to
register, or an event to publish. -/
inductive Outcome (δ : Type*) where
  | respond (status : ℕ) (body : Bytes)
  | upgradeFailed
  | join (claims : Claims)
  | publish (teamID : ℤ) (event : Event δ)

/-- `http.Error`. -/
def httpError {δ : Type*} (message : String) (status : ℕ) : Outcome δ :=
  .respond status (literal message ++ [10])

/-- `internalKey` of `main`. -/
def internalKey (getenv : String → Bytes) : Bytes :=
  let key := getenv "INTERNAL_API_KEY"
  if key = [] then literal "dev-internal-key-change-me" else key

/-- The headers that `corsMiddleware` sets. -/
def corsHeaders (getenv : String → Bytes) (origin : Bytes) : List (String × Bytes) :=
  if allowsOrigin getenv origin then
    [("Access-Control-Allow-Origin", origin),
      ("Access-Control-Allow-Credentials", literal "true"),
      ("Access-Control-Allow-Headers", literal "Content-Type, Authorization"),
      ("Access-Control-Allow-Methods", literal "GET, POST, OPTIONS")]
  else []

section Handlers

variable {δ : Type*} (runtime : ServerRuntime δ) (getenv : String → Bytes)

def handleHealth : Outcome δ := .respond 200 (literal "\x7b\"ok\":true,\"bus\":\"redis\"\x7d")

/-- The upgrade of `ServeWS`, whose `CheckOrigin` is `AllowsOrigin`. -/
def serveWS (request : Request) (claims : Claims) : Outcome δ :=
  if request.handshake && allowsOrigin getenv request.origin then .join claims else .upgradeFailed

/-- The handler of `/ws`; `now` is the time in seconds at which the ticket is checked. -/
def handleWS (now : ℤ) (request : Request) : Outcome δ :=
  if request.token = [] ∨ request.teamID = [] then httpError "token and team_id are required" 400
  else match validateToken runtime.auth getenv now request.token with
    | .error _ => httpError "invalid or expired token" 401
    | .ok claims =>
        if request.teamID ≠ claims.teamPublicID then httpError "forbidden: wrong team" 403
        else serveWS getenv request claims

/-- The handler of `/internal/publish`. -/
def handlePublish (request : Request) : Outcome δ :=
  if request.internalKey ≠ internalKey getenv then httpError "invalid internal key" 401
  else match runtime.decode request.body with
    | none => httpError "invalid payload" 400
    | some body =>
        if body.teamID < 1 ∨ body.type = [] then httpError "team_id and type are required" 400
        else .publish body.teamID { type := body.type, data := body.data }

/-- The routes of `main`; a route asked with another method is answered 405. -/
def route (now : ℤ) (request : Request) : Outcome δ :=
  if request.path = "/health" then
    if request.method = "GET" then handleHealth else .respond 405 []
  else if request.path = "/ws" then
    if request.method = "GET" then handleWS runtime getenv now request else .respond 405 []
  else if request.path = "/internal/publish" then
    if request.method = "POST" then handlePublish runtime getenv request else .respond 405 []
  else httpError "404 page not found" 404

/-- `corsMiddleware` around the router. -/
def serveHTTP (now : ℤ) (request : Request) : Outcome δ :=
  if request.method = "OPTIONS" then .respond 204 [] else route runtime getenv now request

/-! ### What a request has shown -/

/-- A request for which a client is registered. -/
structure Admitted (now : ℤ) (request : Request) (claims : Claims) : Prop where
  method : request.method = "GET"
  path : request.path = "/ws"
  handshake : request.handshake = true
  ticket : validateToken runtime.auth getenv now request.token = .ok claims
  team : request.teamID = claims.teamPublicID
  origin : allowsOrigin getenv request.origin = true

/-- A request whose event is published. -/
structure Authorised (request : Request) (teamID : ℤ) (event : Event δ) : Prop where
  method : request.method = "POST"
  path : request.path = "/internal/publish"
  key : request.internalKey = internalKey getenv
  body : ∃ body, runtime.decode request.body = some body ∧ body.teamID = teamID ∧
    event = { type := body.type, data := body.data }
  team : 1 ≤ teamID
  type : event.type ≠ []

variable {runtime getenv} {now : ℤ} {request : Request}

/-- The ways through the handler of `/ws`. -/
theorem handleWS_cases (runtime : ServerRuntime δ) (getenv : String → Bytes) (now : ℤ)
    {request : Request} (hmethod : request.method = "GET") (hpath : request.path = "/ws") :
    (∃ status body, handleWS runtime getenv now request = .respond status body) ∨
    handleWS runtime getenv now request = .upgradeFailed ∨
    ∃ claims, Admitted runtime getenv now request claims ∧
      handleWS runtime getenv now request = .join claims := by
  unfold handleWS httpError
  split
  · exact Or.inl ⟨_, _, rfl⟩
  · split
    · exact Or.inl ⟨_, _, rfl⟩
    · rename_i claims hticket
      split
      · exact Or.inl ⟨_, _, rfl⟩
      · rename_i hteam
        unfold serveWS
        split
        · rename_i hup
          obtain ⟨hhandshake, horigin⟩ := Bool.and_eq_true_iff.mp hup
          exact Or.inr (Or.inr ⟨claims,
            ⟨hmethod, hpath, hhandshake, hticket, not_not.mp hteam, horigin⟩, rfl⟩)
        · exact Or.inr (Or.inl rfl)

/-- The ways through the handler of `/internal/publish`. -/
theorem handlePublish_cases (runtime : ServerRuntime δ) (getenv : String → Bytes)
    {request : Request} (hmethod : request.method = "POST")
    (hpath : request.path = "/internal/publish") :
    (∃ status body, handlePublish runtime getenv request = .respond status body) ∨
    ∃ teamID event, Authorised runtime getenv request teamID event ∧
      handlePublish runtime getenv request = .publish teamID event := by
  unfold handlePublish httpError
  split
  · exact Or.inl ⟨_, _, rfl⟩
  · rename_i hkey
    split
    · exact Or.inl ⟨_, _, rfl⟩
    · rename_i body hbody
      split
      · exact Or.inl ⟨_, _, rfl⟩
      · rename_i hvalid
        obtain ⟨hteam, htype⟩ := not_or.mp hvalid
        have hbodies : ∃ b, runtime.decode request.body = some b ∧ b.teamID = body.teamID ∧
            ({ type := body.type, data := body.data } : Event δ) =
              { type := b.type, data := b.data } :=
          ⟨body, hbody, rfl, rfl⟩
        exact Or.inr ⟨_, _, ⟨hmethod, hpath, not_not.mp hkey, hbodies, by omega, htype⟩, rfl⟩

/-- Only these two handlers do more than answer. -/
theorem serveHTTP_cases (runtime : ServerRuntime δ) (getenv : String → Bytes) (now : ℤ)
    (request : Request) :
    (∃ status body, serveHTTP runtime getenv now request = .respond status body) ∨
    (request.method = "GET" ∧ request.path = "/ws" ∧
      serveHTTP runtime getenv now request = handleWS runtime getenv now request) ∨
    (request.method = "POST" ∧ request.path = "/internal/publish" ∧
      serveHTTP runtime getenv now request = handlePublish runtime getenv request) := by
  unfold serveHTTP route handleHealth httpError
  split
  · exact Or.inl ⟨_, _, rfl⟩
  · split
    · split <;> exact Or.inl ⟨_, _, rfl⟩
    · split
      · rename_i hpath
        split
        · rename_i hmethod
          exact Or.inr (Or.inl ⟨hmethod, hpath, rfl⟩)
        · exact Or.inl ⟨_, _, rfl⟩
      · split
        · rename_i hpath
          split
          · rename_i hmethod
            exact Or.inr (Or.inr ⟨hmethod, hpath, rfl⟩)
          · exact Or.inl ⟨_, _, rfl⟩
        · exact Or.inl ⟨_, _, rfl⟩

/-- **A client is registered for a ticket of its team only.** -/
theorem admitted_of_join {claims : Claims}
    (h : serveHTTP runtime getenv now request = .join claims) :
    Admitted runtime getenv now request claims := by
  rcases serveHTTP_cases runtime getenv now request with
    ⟨status, body, hr⟩ | ⟨hmethod, hpath, hw⟩ | ⟨hmethod, hpath, hp⟩
  · rw [hr] at h
    cases h
  · rcases handleWS_cases runtime getenv now hmethod hpath with
      ⟨status, body, hr⟩ | hf | ⟨c, hc, hj⟩
    · rw [hw, hr] at h
      cases h
    · rw [hw, hf] at h
      cases h
    · rw [hw, hj] at h
      cases h
      exact hc
  · rcases handlePublish_cases runtime getenv hmethod hpath with ⟨status, body, hr⟩ | ⟨k, e, -, he⟩
    · rw [hp, hr] at h
      cases h
    · rw [hp, he] at h
      cases h

/-- **An event is published for the internal key only.** -/
theorem authorised_of_publish {teamID : ℤ} {event : Event δ}
    (h : serveHTTP runtime getenv now request = .publish teamID event) :
    Authorised runtime getenv request teamID event := by
  rcases serveHTTP_cases runtime getenv now request with
    ⟨status, body, hr⟩ | ⟨hmethod, hpath, hw⟩ | ⟨hmethod, hpath, hp⟩
  · rw [hr] at h
    cases h
  · rcases handleWS_cases runtime getenv now hmethod hpath with ⟨status, body, hr⟩ | hf | ⟨c, -, hj⟩
    · rw [hw, hr] at h
      cases h
    · rw [hw, hf] at h
      cases h
    · rw [hw, hj] at h
      cases h
  · rcases handlePublish_cases runtime getenv hmethod hpath with ⟨status, body, hr⟩ | ⟨k, e, ha, he⟩
    · rw [hp, hr] at h
      cases h
    · rw [hp, he] at h
      cases h
      exact ha

/-- A request that may publish does. -/
theorem publish_of_authorised (now : ℤ) {teamID : ℤ} {event : Event δ}
    (h : Authorised runtime getenv request teamID event) :
    serveHTTP runtime getenv now request = .publish teamID event := by
  obtain ⟨body, hbody, hteam, hevent⟩ := h.body
  have hvalid : ¬(body.teamID < 1 ∨ body.type = []) := by
    rw [not_or, hteam]
    refine ⟨by have := h.team; omega, ?_⟩
    have htype := h.type
    rw [hevent] at htype
    exact htype
  have hoptions : request.method ≠ "OPTIONS" := by
    rw [h.method]
    decide
  rw [serveHTTP, if_neg hoptions, route, h.path, if_neg (by decide), if_neg (by decide),
    if_pos rfl, if_pos h.method, handlePublish, if_neg (not_not.mpr h.key), hbody]
  show (if body.teamID < 1 ∨ body.type = [] then _ else _) = _
  rw [if_neg hvalid, hteam, hevent]

end Handlers

end SocketServer.Chat
