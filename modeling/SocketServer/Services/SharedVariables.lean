import SocketServer.Library.Ascii
import SocketServer.Chat.Origins
import SocketServer.Collaboration.Auth

/-!
# Variables that both services read

The two services are configured by one environment.  A Go program gets the bytes of a variable,
empty when it is not set; a Node program gets the string they decode to, `undefined` when it is not
set.  Here is the list of origins: the chat service goes through the text for every request, the
collaboration server makes a list of it once.

* `pieces`: the trimmed pieces of a text, which are the chat service's list;
* `readOrigins_ascii`: the other list has the same pieces without the empty ones;
* `origins_agree`: so a request that names its origin passes both checks or none.
-/

namespace SocketServer.Services

open SocketServer.Text SocketServer.Js SocketServer.Go SocketServer.Checks
open SocketServer.Chat SocketServer.Collaboration

/-- The environment of both processes. -/
abbrev Variables := String → Option Bytes

/-- `os.Getenv`. -/
def goEnvironment (shared : Variables) (name : String) : Bytes := (shared name).getD []

/-- `process.env`. -/
def nodeEnvironment (shared : Variables) : Environment :=
  fun name => (shared name).map utf8ToString

/-! ### The list of origins -/

/-- The trimmed pieces of a text. -/
def pieces (raw : Bytes) : List Bytes := (raw.splitOn 44).map trimSpace

/-- The list of the collaboration server, when it starts. -/
theorem readOrigins_ascii {raw : Bytes} (h : Ascii raw) {origins : List JsString}
    (hread : readOrigins (some (utf8ToString raw)) = .ok origins) :
    origins = ((pieces raw).filter (· ≠ [])).map latin1 := by
  have htrimmed : (split ',' (utf8ToString raw)).map trim = (pieces raw).map latin1 := by
    rw [utf8ToString_ascii h, split_latin1, pieces, List.map_map, List.map_map]
    exact List.map_congr_left fun piece hpiece => trim_latin1 (h.of_piece hpiece)
  have hempty : (fun piece => decide (latin1 piece ≠ [])) = fun piece => decide (piece ≠ []) :=
    funext fun piece => decide_eq_decide.mpr (not_congr List.map_eq_nil_iff)
  have hfiltered : ((split ',' (utf8ToString raw)).map trim).filter (· ≠ [])
      = ((pieces raw).filter (· ≠ [])).map latin1 := by
    rw [htrimmed, List.filter_map]
    exact congrArg (fun p => ((pieces raw).filter p).map latin1) hempty
  unfold readOrigins at hread
  dsimp only at hread
  split at hread
  · cases hread
  · cases hread
    exact hfiltered

theorem mem_origins {raw : Bytes} (h : Ascii raw) {origins : List JsString}
    (hread : readOrigins (some (utf8ToString raw)) = .ok origins) {origin : Bytes}
    (horigin : origin ≠ []) : latin1 origin ∈ origins ↔ origin ∈ pieces raw := by
  rw [readOrigins_ascii h hread, List.mem_map_of_injective latin1_injective, List.mem_filter]
  simp [horigin]

theorem validateOrigin_eq_ok {origin : JsString} {allowedOrigins : List JsString} :
    validateOrigin (some origin) allowedOrigins = .ok () ↔ origin ∈ allowedOrigins := by
  rw [validateOrigin, rejectIf_eq_ok]
  simp

/-- The text that stands for the default list of the one service is the list of the other. -/
theorem default_origins_agree : readOrigins (some (utf8ToString (rawOrigins fun _ => []))) =
    .ok defaultAllowedOrigins := by
  decide +kernel

/-- **The two services enforce the same list of origins.** -/
theorem origins_agree {shared : Variables} {origins : List JsString}
    (hascii : ∀ raw, shared "SOCKET_ALLOWED_ORIGINS" = some raw → Ascii raw)
    (hread : readOrigins (nodeEnvironment shared "SOCKET_ALLOWED_ORIGINS") = .ok origins)
    {origin : Bytes} (horigin : origin ≠ []) :
    allowsOrigin (goEnvironment shared) origin = true ↔
      validateOrigin (some (latin1 origin)) origins = .ok () := by
  -- the text that the chat service reads is one that the other service reads the same list from
  obtain ⟨hraw, htext⟩ : Ascii (rawOrigins (goEnvironment shared)) ∧
      readOrigins (some (utf8ToString (rawOrigins (goEnvironment shared)))) = .ok origins := by
    cases hset : shared "SOCKET_ALLOWED_ORIGINS" with
    | none =>
        have hunset : rawOrigins (goEnvironment shared) = rawOrigins fun _ => [] := by
          rw [rawOrigins, goEnvironment, hset]
          rfl
        rw [nodeEnvironment, hset] at hread
        have hdefault : Ascii (rawOrigins fun _ => []) := by
          unfold Ascii
          decide +kernel
        rw [hunset, default_origins_agree]
        exact ⟨hdefault, hread⟩
    | some raw =>
        rw [nodeEnvironment, hset] at hread
        have hnonempty : raw ≠ [] := by
          intro hempty
          subst hempty
          cases hread
        have hset' : rawOrigins (goEnvironment shared) = raw := by
          rw [rawOrigins, goEnvironment, hset]
          exact if_neg hnonempty
        rw [hset']
        exact ⟨hascii raw hset, hread⟩
  rw [allowsOrigin_iff horigin, validateOrigin_eq_ok, mem_origins hraw htext horigin]
  rfl

/-- A list with blanks around its entries, and entries that are blank. -/
def sampleOrigins : Variables := fun name =>
  if name = "SOCKET_ALLOWED_ORIGINS" then
    some (literal " https://app.example ,\t,,http://localhost:3000\n")
  else none

theorem origins_agree_sample :
    validateOrigin (some (latin1 (literal "https://app.example")))
      [js "https://app.example", js "http://localhost:3000"] = .ok () := by
  have hascii : ∀ raw, sampleOrigins "SOCKET_ALLOWED_ORIGINS" = some raw → Ascii raw := by
    intro raw hraw
    cases hraw
    unfold Ascii
    decide +kernel
  have hread : readOrigins (nodeEnvironment sampleOrigins "SOCKET_ALLOWED_ORIGINS")
      = .ok [js "https://app.example", js "http://localhost:3000"] := by decide +kernel
  exact (origins_agree hascii hread (by decide)).mp (by decide +kernel)

end SocketServer.Services
