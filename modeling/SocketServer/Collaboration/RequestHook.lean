import SocketServer.Collaboration.Config
import SocketServer.Collaboration.Observability
import SocketServer.Collaboration.RoomIdentity

/-!
# The HTTP hook

`onRequest` of `collaboration/src/server.ts` with `failedDependencies`, `within` and
`hasServiceAuthentication`: `/health`, `/metrics` and the internal request that closes a room.
Every other request is left to Hocuspocus.

The hook ends by returning, by rejecting with `undefined`, which tells Hocuspocus that the response
has been written, or by rejecting with an error.
-/

namespace SocketServer.Collaboration

open SocketServer.Text SocketServer.Js SocketServer.Checks

/-! ### Dependencies -/

/-- What becomes of a promise, times in milliseconds from the call that made it. -/
inductive Operation (α : Type) where
  | resolves (after : ℕ) (value : α)
  | rejects (after : ℕ) (reason : String)
  | hangs

/-- The delay of a timer that `setTimeout` is asked for; what it does not hold becomes 1 ms. -/
def timerDelay (ms : ℕ) : ℕ := if 1 ≤ ms ∧ ms ≤ 2 ^ 31 - 1 then ms else 1

theorem timerDelay_pos (ms : ℕ) : 0 < timerDelay ms := by
  unfold timerDelay
  split <;> omega

/-- The race of an operation with a timer.  One that ends at the very instant at which the timer is
due loses here; in Node the order of the two events decides. -/
def within {α : Type} (timeoutMs : ℕ) : Operation α → Except String α
  | .resolves after value =>
      if after < timerDelay timeoutMs then .ok value else .error "dependency timed out"
  | .rejects after reason =>
      if after < timerDelay timeoutMs then .error reason else .error "dependency timed out"
  | .hangs => .error "dependency timed out"

structure HealthDependency where
  health : Operation Bool
  name : String

/-- `statuses.filter(({ healthy }) => !healthy).map(({ name }) => name)`. -/
def failedNames (statuses : List (Bool × String)) : List String :=
  (statuses.filter fun status => !status.1).map (·.2)

/-- `failedDependencies`: the names of those that were not reported healthy in time. -/
def failedDependencies (dependencies : List HealthDependency) (timeoutMs : ℕ) : List String :=
  failedNames <| dependencies.map fun dependency =>
    match within timeoutMs dependency.health with
    | .ok healthy => (healthy, dependency.name)
    | .error _ => (false, dependency.name)

/-- How the room lifecycle and the storage, if there is one, behave during a request. -/
structure Dependencies where
  lifecycleHealth : Operation Bool
  storageHealth : Option (Operation Bool)
  /-- `roomLifecycle.delete(roomName)`. -/
  delete : JsString → Except String Unit

def healthDependencies (dependencies : Dependencies) : List HealthDependency :=
  ⟨dependencies.lifecycleHealth, "room_lifecycle"⟩ ::
    (dependencies.storageHealth.map fun health => ⟨health, "core_api"⟩).toList

/-! ### Requests and responses -/

/-- What the hook reads of the configuration; absent values have defaults. -/
structure RequestConfig where
  collaborationServiceSecret : Option JsString
  dependencyTimeout : Option ℕ

/-- What the hook reads of a request.  Node reads the bytes of a header as Latin-1. -/
structure IncomingMessage where
  method : Option JsString
  url : Option JsString
  authorization : Option Bytes

/-- The calls that write a response. -/
inductive ResponseCall where
  /-- `response.writeHead(status, { "Content-Type": contentType })`. -/
  | writeHead (status : ℕ) (contentType : Option String)
  /-- `response.end(body)`. -/
  | finish (body : Option (List Char))

inductive Outcome where
  | returned
  /-- `Promise.reject()`. -/
  | rejected
  /-- A rejection with an `Error`. -/
  | rejectedWith (message : String)
  deriving DecidableEq

/-- A request that the hook is done with. -/
structure Handled where
  outcome : Outcome
  response : List ResponseCall
  /-- The rooms that `roomLifecycle.delete` was called with. -/
  deleted : List JsString
  observability : CollaborationObservability

/-! ### The hook -/

/-- The comparison of `node:crypto`, which throws when the lengths differ. -/
def timingSafeEqual (a b : Bytes) : Except String Bool := do
  rejectIf (a.length ≠ b.length) "Input buffers must have the same byte length"
  return a = b

def hasServiceAuthentication (header : Option JsString) (secret : JsString) : Except String Bool :=
  match header with
  | none => .ok false
  | some header =>
      let supplied := toBytes header
      let expected := toBytes (js "Bearer " ++ secret)
      if supplied.length = expected.length then timingSafeEqual supplied expected else .ok false

/-- `refreshHealth`. -/
def refreshHealth (config : RequestConfig) (dependencies : Dependencies)
    (o : CollaborationObservability) : List String × CollaborationObservability :=
  let failed := failedDependencies (healthDependencies dependencies)
    (config.dependencyTimeout.getD 2000)
  (failed, o.healthResult failed.isEmpty)

/-- The body of `/health`. -/
def healthBody (failed : List String) : List Char :=
  if failed = [] then "\x7b\"ok\":true,\"service\":\"collaboration-server\"\x7d".toList
  else
    "\x7b\"dependencies\":".toList ++
      stringifyObject (failed.map fun name => (js name, js "unavailable")) ++
      ",\"ok\":false,\"service\":\"collaboration-server\"\x7d".toList

def onRequest (runtime : Runtime) (config : RequestConfig) (dependencies : Dependencies)
    (inst : Instance) (request : IncomingMessage) (o : CollaborationObservability) : Handled :=
  if request.method = some (js "GET") ∧ request.url = some (js "/health") then
    let (failed, o) := refreshHealth config dependencies o
    { outcome := .rejected
      response := [.writeHead (if failed = [] then 200 else 503) (some "application/json"),
        .finish (some (healthBody failed))]
      deleted := []
      observability := o }
  else if request.method = some (js "GET") ∧ request.url = some (js "/metrics") then
    let (_, o) := refreshHealth config dependencies o
    { outcome := .rejected
      response := [.writeHead 200 (some "text/plain; version=0.0.4; charset=utf-8"),
        .finish (some (o.render inst))]
      deleted := []
      observability := o }
  else
    match privateRoomFromRequest runtime request.method request.url with
    | .error message => ⟨.rejectedWith message, [], [], o⟩
    | .ok none => ⟨.returned, [], [], o⟩
    | .ok (some room) =>
        match hasServiceAuthentication (request.authorization.map latin1)
            (config.collaborationServiceSecret.getD defaultCollaborationServiceSecret) with
        | .error message => ⟨.rejectedWith message, [], [], o⟩
        | .ok false => ⟨.rejected, [.writeHead 401 none, .finish none], [], o⟩
        | .ok true =>
            let roomName := documentRoomName room
            match dependencies.delete roomName with
            | .error _ =>
                { outcome := .rejected
                  response := [.writeHead 503 (some "application/json"),
                    .finish (some (stringifyObject
                      [(js "error", js "Document Room lifecycle unavailable")]))]
                  deleted := [roomName]
                  observability := o }
            | .ok () => ⟨.rejected, [.writeHead 204 none, .finish none], [roomName], o⟩

/-! ### The helpers do not throw -/

/-- The `Authorization` header that the hook accepts. -/
def serviceCredential (config : RequestConfig) : JsString :=
  js "Bearer " ++ config.collaborationServiceSecret.getD defaultCollaborationServiceSecret

theorem hasServiceAuthentication_of_eq {header : Option JsString} {secret : JsString}
    (h : header = some (js "Bearer " ++ secret)) :
    hasServiceAuthentication header secret = .ok true := by
  rw [h, hasServiceAuthentication, if_pos rfl, timingSafeEqual, rejectIf_of_not (not_not.mpr rfl)]
  exact congrArg Except.ok (decide_eq_true rfl)

/-- The lengths are compared first, so that `timingSafeEqual` does not throw. -/
theorem hasServiceAuthentication_of_ne {header : Option Bytes} {secret : JsString}
    (h : header.map latin1 ≠ some (js "Bearer " ++ secret)) :
    hasServiceAuthentication (header.map latin1) secret = .ok false := by
  cases header with
  | none => rfl
  | some bytes =>
      have hbytes : toBytes (latin1 bytes) ≠ toBytes (js "Bearer " ++ secret) :=
        fun hsame => h (congrArg some (eq_latin1_of_toBytes hsame))
      rw [Option.map_some, hasServiceAuthentication]
      split
      · rename_i hlength
        rw [timingSafeEqual, rejectIf_of_not (not_not.mpr hlength)]
        exact congrArg Except.ok (decide_eq_false hbytes)
      · rfl

/-- The request names a room to delete by a target that is no URL. -/
def IncomingMessage.TargetUnresolved (runtime : Runtime) (request : IncomingMessage) : Prop :=
  request.method = some (js "DELETE") ∧ ∃ url, request.url = some url ∧
    runtime.parseURL url (some (js "http://collaboration.internal")) = none

theorem privateRoomFromRequest_of_unresolved {runtime : Runtime} {request : IncomingMessage}
    (h : request.TargetUnresolved runtime) :
    privateRoomFromRequest runtime request.method request.url = .error "Invalid URL" := by
  obtain ⟨hmethod, url, hurl, hparse⟩ := h
  rw [hmethod, hurl, privateRoomFromRequest, if_neg (not_not.mpr rfl), hparse]
  rfl

theorem privateRoomFromRequest_of_resolved {runtime : Runtime} {request : IncomingMessage}
    (h : ¬ request.TargetUnresolved runtime) :
    ∃ room, privateRoomFromRequest runtime request.method request.url = .ok room := by
  cases hurl : request.url with
  | none => exact ⟨none, rfl⟩
  | some url =>
      by_cases hmethod : request.method = some (js "DELETE")
      · cases hparse : runtime.parseURL url (some (js "http://collaboration.internal")) with
        | none => exact absurd ⟨hmethod, url, hurl, hparse⟩ h
        | some parsed =>
            refine ⟨matchRoomPath parsed.pathname, ?_⟩
            rw [privateRoomFromRequest, if_neg (not_not.mpr hmethod), hparse]
            rfl
      · exact ⟨none, if_pos hmethod⟩

/-! ### How the hook ends -/

/-- One response: a head and an end. -/
def OneResponse (calls : List ResponseCall) : Prop :=
  ∃ status contentType body, calls = [.writeHead status contentType, .finish body]

/-- The hook returned and wrote nothing, or wrote one response and rejected with `undefined`. -/
def Handled.EndsWell (handled : Handled) : Prop :=
  (handled.outcome = .returned ∧ handled.response = []) ∨
    (handled.outcome = .rejected ∧ OneResponse handled.response)

/-- The hook ended well and deleted a room only under the service credential. -/
def Handled.Answered (handled : Handled) (config : RequestConfig) (request : IncomingMessage) :
    Prop :=
  handled.EndsWell ∧
    (handled.deleted ≠ [] → request.authorization.map latin1 = some (serviceCredential config))

theorem answered_of_response {config : RequestConfig} {request : IncomingMessage}
    {o : CollaborationObservability} {status : ℕ} {contentType : Option String}
    {body : Option (List Char)} {deleted : List JsString}
    (h : deleted ≠ [] → request.authorization.map latin1 = some (serviceCredential config)) :
    Handled.Answered ⟨.rejected, [.writeHead status contentType, .finish body], deleted, o⟩
      config request :=
  ⟨Or.inr ⟨rfl, status, contentType, body, rfl⟩, h⟩

variable {runtime : Runtime} {config : RequestConfig} {dependencies : Dependencies}
  {inst : Instance} {request : IncomingMessage} {o : CollaborationObservability}

/-- A request whose target is a URL, or is not read as one, is answered; one case for each exit of
the hook. -/
theorem onRequest_answered (h : ¬ request.TargetUnresolved runtime) :
    (onRequest runtime config dependencies inst request o).Answered config request := by
  obtain ⟨room, hroom⟩ := privateRoomFromRequest_of_resolved h
  unfold onRequest
  split
  · exact answered_of_response fun h => absurd rfl h
  split
  · exact answered_of_response fun h => absurd rfl h
  rw [hroom]
  cases room with
  | none => exact ⟨Or.inl ⟨rfl, rfl⟩, fun h => absurd rfl h⟩
  | some room =>
      by_cases hheader : request.authorization.map latin1 = some (serviceCredential config)
      · dsimp only
        rw [hasServiceAuthentication_of_eq hheader]
        dsimp only
        split
        · exact answered_of_response fun _ => hheader
        · exact answered_of_response fun _ => hheader
      · dsimp only
        rw [hasServiceAuthentication_of_ne hheader]
        exact answered_of_response fun h => absurd rfl h

/-- A target that is no URL makes the hook reject with the error of the URL parser, before the
credential is looked at. -/
theorem onRequest_of_unresolved (h : request.TargetUnresolved runtime) :
    onRequest runtime config dependencies inst request o =
      ⟨.rejectedWith "Invalid URL", [], [], o⟩ := by
  have hmethod : request.method ≠ some (js "GET") := by
    rw [h.1]
    decide
  rw [onRequest, if_neg fun hget => hmethod hget.1, if_neg fun hget => hmethod hget.1,
    privateRoomFromRequest_of_unresolved h]

/-- **The hook ends without an error**, and deletes a room only under the service credential,
unless it is asked to delete by a target that is no URL. -/
theorem request_answered_iff (runtime : Runtime) (config : RequestConfig)
    (dependencies : Dependencies) (inst : Instance) (request : IncomingMessage)
    (o : CollaborationObservability) :
    (onRequest runtime config dependencies inst request o).Answered config request ↔
      ¬ request.TargetUnresolved runtime := by
  refine ⟨fun hanswered h => ?_, onRequest_answered⟩
  rw [onRequest_of_unresolved h] at hanswered
  rcases hanswered.1 with ⟨hreturned, -⟩ | ⟨hrejected, -⟩
  · cases hreturned
  · cases hrejected

/-! ### A target with an empty host -/

/-- Anyone may send it. -/
def emptyHostRequest : IncomingMessage := ⟨some (js "DELETE"), some (js "//"), none⟩

def healthyDependencies : Dependencies := ⟨.resolves 1 true, some (.resolves 1 true), fun _ => .ok ()⟩

/-- **An unauthenticated request makes the hook fail.** -/
theorem empty_host_rejects :
    (onRequest sampleRuntime ⟨none, none⟩ healthyDependencies ⟨0, 0⟩ emptyHostRequest
        .initial).outcome = .rejectedWith "Invalid URL" ∧
      ¬ (onRequest sampleRuntime ⟨none, none⟩ healthyDependencies ⟨0, 0⟩ emptyHostRequest
        .initial).EndsWell := by
  have hunresolved : emptyHostRequest.TargetUnresolved sampleRuntime := ⟨rfl, js "//", rfl, rfl⟩
  rw [onRequest_of_unresolved hunresolved]
  refine ⟨rfl, ?_⟩
  rintro (⟨hreturned, -⟩ | ⟨hrejected, -⟩)
  · cases hreturned
  · cases hrejected

end SocketServer.Collaboration
