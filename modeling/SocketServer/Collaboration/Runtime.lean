import SocketServer.Library.Json

/-!
# What the collaboration server takes from Node and from its packages

The functions whose code is not part of the repository: the JSON parser, the lenient base64
decoders of `Buffer`, HMAC, the URL parser and Yjs.  They are fields of one structure, and a result
that relies on the behaviour of one of them says so in a hypothesis.
-/

namespace SocketServer.Collaboration

open SocketServer.Text SocketServer.Js

/-- The parts of a `URL` that the server reads. -/
structure URL where
  href : JsString
  protocol : JsString
  username : JsString
  password : JsString
  pathname : JsString
  search : JsString
  hash : JsString

structure Runtime where
  /-- `JSON.parse`; `none` is the `SyntaxError`. -/
  jsonParse : JsString → Option Json
  /-- `Buffer.from(s, "base64")`. -/
  fromBase64 : JsString → Bytes
  /-- `Buffer.from(s, "base64url")`. -/
  fromBase64url : JsString → Bytes
  /-- `createHmac("sha256", secret).update(message).digest()`. -/
  hmacSha256 : Bytes → Bytes → Bytes
  /-- `new URL(url, base)`; `none` is the `TypeError`. -/
  parseURL : JsString → Option JsString → Option URL
  /-- Whether `applyUpdate(new Doc(), state)` returns. -/
  acceptsUpdate : Bytes → Bool

end SocketServer.Collaboration
