import SocketServer.Chat.Tickets

/-!
# The origins of the chat service

`AllowsOrigin` (`internal/hub/client.go`), the check that the WebSocket upgrader makes.  The list is
split and trimmed again for every request; `allowsOrigin_iff` says what the loop decides.
-/

namespace SocketServer.Chat

open SocketServer.Text SocketServer.Go

/-- The variable `raw` of `AllowsOrigin`, after the default. -/
def rawOrigins (getenv : String → Bytes) : Bytes :=
  let raw := getenv "SOCKET_ALLOWED_ORIGINS"
  if raw = [] then
    literal
      "http://localhost:10000,http://127.0.0.1:10000,http://localhost:3000,http://127.0.0.1:3000"
  else raw

/-- `AllowsOrigin`; a request without the header passes. -/
def allowsOrigin (getenv : String → Bytes) (origin : Bytes) : Bool :=
  if origin = [] then true
  else ((rawOrigins getenv).splitOn 44).any fun allowed => trimSpace allowed = origin

theorem allowsOrigin_iff {getenv : String → Bytes} {origin : Bytes} (horigin : origin ≠ []) :
    allowsOrigin getenv origin = true ↔
      origin ∈ ((rawOrigins getenv).splitOn 44).map trimSpace := by
  rw [allowsOrigin, if_neg horigin, List.any_eq_true, List.mem_map]
  simp only [decide_eq_true_eq]

end SocketServer.Chat
