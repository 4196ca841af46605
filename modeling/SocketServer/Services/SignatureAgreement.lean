import SocketServer.Services.SharedVariables
import SocketServer.Collaboration.TicketForm

/-!
# One secret, two keys

Both services take their key from `JWT_SECRET`.  The chat service trims the bytes of the variable
(`jwtSecret`); the collaboration server takes the string that Node decodes them to, as it is
(`loadConfig`), and `createHmac` encodes that string again.

* `goVerifies_iff` and `nodeVerifies_iff`: on a token of three parts the one service compares texts
  and the other compares bytes, and each asks that the last part be the text of the digest under its
  own key;
* `keys_eq_iff`: the two keys are the same when the secret is well-formed text without white space
  at its ends;
* `signatures_agree_iff`: so that is when the services verify alike.
-/

namespace SocketServer.Services

open SocketServer.Text SocketServer.Js SocketServer.Go SocketServer.Checks
open SocketServer.Chat SocketServer.Collaboration

/-! ### The two checks -/

/-- What the two standard libraries share: one HMAC, with digests of 32 bytes, and base64url. -/
structure SameFunctions (node : Runtime) (go : AuthRuntime) : Prop where
  hmac : node.hmacSha256 = go.hmacSha256
  digest : ∀ key message, (go.hmacSha256 key message).length = 32
  base64url : ∀ bytes, node.fromBase64url (toBase64url bytes) = bytes

/-- The check of the chat service, under its own secret. -/
def goVerifies (go : AuthRuntime) (getenv : String → Bytes) (token : Bytes) : Bool :=
  match ticketParts token with
  | some (header, payload, signature) =>
      validSignature go header payload signature (jwtSecret getenv)
  | none => false

/-- The check of the collaboration server. -/
def nodeVerifies (node : Runtime) (token secret : JsString) : Bool :=
  (verifySignature node token secret).isOk

/-- A part of a token. -/
structure IsPart (part : JsString) : Prop where
  nonempty : part ≠ []
  dotFree : unit '.' ∉ part
  noSpace : ∀ u ∈ part, isSpace u = false

/-- The bytes that are signed. -/
def message (header payload : JsString) : Bytes := toBytes (header ++ js "." ++ payload)

/-- The services agree on every token of three parts. -/
def VerifyAlike (node : Runtime) (go : AuthRuntime) (shared : Variables)
    (config : CollaborationConfig) : Prop :=
  ∀ header payload signature, IsPart header → IsPart payload → IsPart signature →
    (goVerifies go (goEnvironment shared) (toBytes (joinToken header payload signature)) = true ↔
      nodeVerifies node (joinToken header payload signature) config.ticketSecret = true)

theorem SameFunctions.digest_ne_nil {node : Runtime} {go : AuthRuntime}
    (hsame : SameFunctions node go) (key message : Bytes) : go.hmacSha256 key message ≠ [] := by
  intro hnil
  have hlength := hsame.digest key message
  rw [hnil] at hlength
  cases hlength

/-! ### What each of them asks -/

/-- A string with the bytes of a base64url text is that text. -/
theorem toBytes_eq_rawURLEncode {s : JsString} {bytes : Bytes} :
    toBytes s = rawURLEncode bytes ↔ s = toBase64url bytes := by
  have hplain : ∀ d < 64, Base64.url d ≠ '\uFFFD' := by decide
  refine toBytes_eq_utf8 fun hmem => ?_
  obtain ⟨d, hd, heq⟩ | hpad := Base64.mem_encode hmem
  · exact hplain d hd heq.symm
  · exact absurd hpad List.not_mem_nil

/-- A base64url text can be a part. -/
theorem isPart_toBase64url {bytes : Bytes} (h : bytes ≠ []) : IsPart (toBase64url bytes) where
  nonempty := by
    intro hnil
    have hback := Base64.decode_encode Base64.readable_url bytes
    exact h (hback.symm.trans (congrArg Base64.decode hnil))
  dotFree := dot_notMem_toBase64url bytes
  noSpace := by
    intro u hu
    have halphabet := toBase64url_alphabet hu
    simp only [isUrlAlphabet, Bool.or_eq_true, Bool.and_eq_true, decide_eq_true_eq] at halphabet
    simp only [isSpace, Bool.or_eq_false_iff, Bool.and_eq_false_iff, decide_eq_false_iff_not]
    omega

/-- The text of an empty object. -/
theorem isPart_e30 : IsPart (js "e30") := @isPart_toBase64url [123, 125] (by decide)

section Parts

variable {header payload signature : JsString} (hheader : IsPart header) (hpayload : IsPart payload)
  (hsignature : IsPart signature)

include hheader hpayload hsignature

/-- The chat service finds the parts in the bytes. -/
theorem ticketParts_toBytes : ticketParts (toBytes (joinToken header payload signature)) =
    some (toBytes header, toBytes payload, toBytes signature) := by
  have hdots : ∀ part ∈ [toBytes header, toBytes payload, toBytes signature],
      (46 : UInt8) ∉ part := by
    intro part hpart hmem
    simp only [List.mem_cons, List.not_mem_nil, or_false] at hpart
    obtain rfl | rfl | rfl := hpart
    · exact hheader.dotFree (mem_of_mem_toBytes (by decide) hmem)
    · exact hpayload.dotFree (mem_of_mem_toBytes (by decide) hmem)
    · exact hsignature.dotFree (mem_of_mem_toBytes (by decide) hmem)
  have hjoined : toBytes (joinToken header payload signature) =
      List.intercalate [46] [toBytes header, toBytes payload, toBytes signature] := by
    rw [joinToken, toBytes_dot, toBytes_dot]
    simp [List.intercalate]
  have hnonempty : ¬ (toBytes header = [] ∨ toBytes payload = [] ∨ toBytes signature = []) := by
    intro hempty
    obtain hnil | hnil | hnil := hempty
    · exact toBytes_ne_nil hheader.nonempty hnil
    · exact toBytes_ne_nil hpayload.nonempty hnil
    · exact toBytes_ne_nil hsignature.nonempty hnil
  rw [ticketParts, hjoined, List.splitOn_intercalate _ hdots (List.cons_ne_nil _ _)]
  exact if_neg hnonempty

/-- **The chat service** asks for the text of the digest. -/
theorem goVerifies_iff {go : AuthRuntime} {getenv : String → Bytes} :
    goVerifies go getenv (toBytes (joinToken header payload signature)) = true ↔
      signature = toBase64url (go.hmacSha256 (jwtSecret getenv) (message header payload)) := by
  have hmessage : toBytes header ++ literal "." ++ toBytes payload = message header payload := by
    have hdot : literal "." = [46] := by decide
    rw [message, toBytes_dot, hdot, List.append_assoc]
    rfl
  rw [goVerifies, ticketParts_toBytes hheader hpayload hsignature]
  show validSignature go _ _ _ _ = true ↔ _
  rw [validSignature, hmessage, decide_eq_true_eq, eq_comm, toBytes_eq_rawURLEncode]

/-- **The collaboration server** asks for the same of its own key, which has to be long enough. -/
theorem nodeVerifies_iff {node : Runtime} {go : AuthRuntime} (hsame : SameFunctions node go)
    {secret : JsString} :
    nodeVerifies node (joinToken header payload signature) secret = true ↔
      32 ≤ byteLength secret ∧
        signature = toBase64url (go.hmacSha256 (toBytes secret) (message header payload)) := by
  have hdots : ∀ part ∈ [header, payload, signature], unit '.' ∉ part := by
    intro part hpart
    simp only [List.mem_cons, List.not_mem_nil, or_false] at hpart
    obtain rfl | rfl | rfl := hpart
    · exact hheader.dotFree
    · exact hpayload.dotFree
    · exact hsignature.dotFree
  have hdigest := hsame.digest_ne_nil (toBytes secret) (message header payload)
  rw [nodeVerifies, isOk_iff]
  simp only [verifySignature, bind_eq_ok, rejectIf_eq_ok, require_eq_ok, not_lt, not_not,
    tokenParts_joinToken hdots, decodeCanonicalBase64URL_eq_ok hsame.base64url, hsame.hmac]
  constructor
  · intro h
    obtain ⟨-, -, hlong, parts, hparts, digest, ⟨hsigned, -⟩, -, hdigest, -⟩ := h
    cases hparts
    exact ⟨hlong, hdigest ▸ hsigned⟩
  · intro h
    obtain ⟨hlong, hsigned⟩ := h
    exact ⟨_, (), hlong, _, rfl, _, ⟨hsigned, hdigest⟩, (), rfl, rfl⟩

end Parts

/-! ### The two keys -/

/-- The key of the chat service. -/
theorem jwtSecret_eq {shared : Variables} {secret : Bytes}
    (hset : shared "JWT_SECRET" = some secret) (hblank : trimSpace secret ≠ []) : jwtSecret (goEnvironment shared) = trimSpace secret := by
  have hread : goEnvironment shared "JWT_SECRET" = secret := by
    rw [goEnvironment, hset]
    rfl
  rw [jwtSecret, hread]
  exact if_pos hblank

/-- The key of the collaboration server: the bytes of the decoded string. -/
theorem ticketSecret_eq {shared : Variables} {secret : Bytes} {config : CollaborationConfig}
    (hset : shared "JWT_SECRET" = some secret)
    (hload : loadConfig (nodeEnvironment shared) = .ok config) :
    toBytes config.ticketSecret = utf8 (decodeUtf8 secret) := by
  have hread := (loadConfig_reads hload).2.2.2
  rw [nodeEnvironment, hset] at hread
  rw [hread]
  exact toBytes_utf8ToString secret

/-- **When the keys are the same.**  Trimming removes text, and decoding keeps text, so that a key
from which something was removed is too short. -/
theorem keys_eq_iff {secret : Bytes} : trimSpace secret = utf8 (decodeUtf8 secret) ↔
    trimSpace secret = secret ∧ ∃ text, secret = utf8 text := by
  constructor
  · intro heq
    obtain ⟨before, after, hsplit⟩ := trimSpace_split secret
    have htext : secret = utf8 (before ++ decodeUtf8 secret ++ after) := by
      rw [utf8_append, utf8_append, ← heq]
      exact hsplit
    have hdecoded : decodeUtf8 secret = before ++ decodeUtf8 secret ++ after := by
      rw [← decodeUtf8_utf8 (before ++ decodeUtf8 secret ++ after), ← htext]
    have hlength := congrArg List.length hdecoded
    rw [List.length_append, List.length_append] at hlength
    have hbefore : before = [] := List.eq_nil_of_length_eq_zero (by omega)
    have hafter : after = [] := List.eq_nil_of_length_eq_zero (by omega)
    rw [hbefore, hafter, List.nil_append, List.append_nil] at htext
    exact ⟨heq.trans htext.symm, _, htext⟩
  · intro h
    obtain ⟨htrimmed, text, rfl⟩ := h
    rw [htrimmed, decodeUtf8_utf8]

/-! ### Agreement -/

/-- **With one HMAC** the services verify alike when the keys have the same digests. -/
theorem verifyAlike_iff {node : Runtime} {go : AuthRuntime} (hsame : SameFunctions node go)
    {shared : Variables} {config : CollaborationConfig} :
    VerifyAlike node go shared config ↔ 32 ≤ byteLength config.ticketSecret ∧
      ∀ header payload, IsPart header → IsPart payload →
        go.hmacSha256 (jwtSecret (goEnvironment shared)) (message header payload) =
          go.hmacSha256 (toBytes config.ticketSecret) (message header payload) := by
  constructor
  · intro halike
    -- the chat service accepts what it signs, so the collaboration server does
    have hsigned : ∀ header payload, IsPart header → IsPart payload →
        32 ≤ byteLength config.ticketSecret ∧
          toBase64url (go.hmacSha256 (jwtSecret (goEnvironment shared)) (message header payload)) =
            toBase64url (go.hmacSha256 (toBytes config.ticketSecret) (message header payload)) := by
      intro header payload hheader hpayload
      have hsignature := isPart_toBase64url (hsame.digest_ne_nil
        (jwtSecret (goEnvironment shared)) (message header payload))
      have hgo := (goVerifies_iff hheader hpayload hsignature).mpr rfl
      have hnode := (halike _ _ _ hheader hpayload hsignature).mp hgo
      exact (nodeVerifies_iff hheader hpayload hsignature hsame).mp hnode
    refine ⟨(hsigned _ _ isPart_e30 isPart_e30).1, fun header payload hheader hpayload => ?_⟩
    exact toBase64url_injective hsame.base64url (hsigned header payload hheader hpayload).2
  · intro h header payload signature hheader hpayload hsignature
    obtain ⟨hlong, hdigests⟩ := h
    rw [goVerifies_iff hheader hpayload hsignature,
      nodeVerifies_iff hheader hpayload hsignature hsame, hdigests header payload hheader hpayload]
    exact ⟨fun hsigned => ⟨hlong, hsigned⟩, And.right⟩

/-- The libraries with a given HMAC. -/
def nodeWith (hmac : Bytes → Bytes → Bytes) : Runtime := { sampleNode with hmacSha256 := hmac }

def goWith (hmac : Bytes → Bytes → Bytes) : AuthRuntime := ⟨hmac, fun _ => none⟩

theorem sameFunctions_with (hmac : Bytes → Bytes → Bytes)
    (hdigest : ∀ key message, (hmac key message).length = 32) :
    SameFunctions (nodeWith hmac) (goWith hmac) where
  hmac := rfl
  digest := hdigest
  base64url := Base64.decode_encode Base64.readable_url

/-- A function that tells one key from all others. -/
def tellApart (key : Bytes) : Bytes → Bytes → Bytes := fun other _ =>
  if other = key then List.replicate 32 0 else List.replicate 32 1

theorem length_tellApart (key other message : Bytes) :
    (tellApart key other message).length = 32 := by
  unfold tellApart
  split <;> rfl

/-- **The services verify alike**, whatever the HMAC is, exactly when the secret is well-formed text
without white space at its ends.  For one HMAC they do when its digests under the two keys agree. -/
theorem signatures_agree_iff {shared : Variables} {secret : Bytes} {config : CollaborationConfig}
    (hset : shared "JWT_SECRET" = some secret) (hlong : 32 ≤ secret.length)
    (hblank : trimSpace secret ≠ []) (hload : loadConfig (nodeEnvironment shared) = .ok config) :
    ((∀ node go, SameFunctions node go → VerifyAlike node go shared config) ↔
      trimSpace secret = secret ∧ ∃ text, secret = utf8 text) ∧
    ∀ node go, SameFunctions node go → (VerifyAlike node go shared config ↔
      32 ≤ byteLength config.ticketSecret ∧ ∀ header payload, IsPart header → IsPart payload →
        go.hmacSha256 (trimSpace secret) (message header payload) =
          go.hmacSha256 (utf8 (decodeUtf8 secret)) (message header payload)) := by
  have hgo := jwtSecret_eq hset hblank
  have hnode := ticketSecret_eq hset hload
  have hone : ∀ node go, SameFunctions node go → (VerifyAlike node go shared config ↔
      32 ≤ byteLength config.ticketSecret ∧ ∀ header payload, IsPart header → IsPart payload →
        go.hmacSha256 (trimSpace secret) (message header payload) =
          go.hmacSha256 (utf8 (decodeUtf8 secret)) (message header payload)) := by
    intro node go hsame
    rw [verifyAlike_iff hsame, hgo, hnode]
  refine ⟨?_, hone⟩
  rw [← keys_eq_iff]
  constructor
  · intro halike
    by_contra hother
    have hsame := sameFunctions_with (tellApart (trimSpace secret)) (length_tellApart _)
    have hdigests := ((hone _ _ hsame).mp (halike _ _ hsame)).2 _ _ isPart_e30 isPart_e30
    simp only [goWith, tellApart, if_neg (Ne.symm hother)] at hdigests
    exact absurd hdigests (by decide)
  · intro heq node go hsame
    refine (hone node go hsame).mpr ⟨?_, fun header payload _ _ => by rw [heq]⟩
    obtain ⟨htrimmed, -⟩ := keys_eq_iff.mp heq
    rw [byteLength, hnode, ← heq, htrimmed]
    exact hlong

/-! ### Two secrets -/

/-- An environment with nothing but a secret. -/
def withSecret (secret : Bytes) : Variables := fun name =>
  if name = "JWT_SECRET" then some secret else none

/-- The secret of `.env.example`. -/
def exampleSecret : Bytes := literal "development-socket-ticket-secret-change-me"

theorem signatures_agree_iff_default :
    ∃ config, loadConfig (nodeEnvironment (withSecret exampleSecret)) = .ok config ∧
      ∀ node go, SameFunctions node go → VerifyAlike node go (withSecret exampleSecret) config := by
  have hloaded : (loadConfig (nodeEnvironment (withSecret exampleSecret))).isOk = true := by
    decide +kernel
  obtain ⟨config, hload⟩ := isOk_iff.mp hloaded
  have htrimmed : trimSpace exampleSecret = exampleSecret := by decide +kernel
  have hlong : 32 ≤ exampleSecret.length := by decide +kernel
  have hblank : trimSpace exampleSecret ≠ [] := by decide +kernel
  exact ⟨config, hload, (signatures_agree_iff rfl hlong hblank hload).1.mpr ⟨htrimmed, _, rfl⟩⟩

/-- The same secret as a file gives it, with the line break at its end. -/
def newlineSecret : Bytes := exampleSecret ++ [10]

/-- HMAC-SHA256 of `e30.e30` under the secret without the line break and with it. -/
def newlineHmac (key signed : Bytes) : Bytes :=
  if signed ≠ literal "e30.e30" then List.replicate 32 0
  else if key = exampleSecret then
    [38, 203, 21, 72, 220, 48, 150, 149, 97, 130, 204, 171, 224, 123, 1, 156, 245, 67, 105, 253, 20,
      206, 55, 145, 63, 133, 27, 25, 131, 23, 83, 199]
  else if key = newlineSecret then
    [157, 47, 42, 237, 76, 215, 151, 143, 90, 199, 55, 3, 1, 64, 17, 76, 146, 90, 143, 210, 27, 124,
      139, 125, 186, 113, 35, 100, 181, 22, 133, 139]
  else List.replicate 32 0

theorem length_newlineHmac (key signed : Bytes) : (newlineHmac key signed).length = 32 := by
  unfold newlineHmac
  split_ifs <;> rfl

/-- The signature of `e30.e30` under the secret without the line break. -/
def newlineSignature : JsString := js "JssVSNwwlpVhgsyr4HsBnPVDaf0UzjeRP4UbGYMXU8c"

/-- The chat service works with the secret, and the collaboration server refuses what it accepts. -/
theorem newline_secret_disagrees :
    32 ≤ newlineSecret.length ∧ trimSpace newlineSecret ≠ [] ∧
    SameFunctions (nodeWith newlineHmac) (goWith newlineHmac) ∧
    IsPart (js "e30") ∧ IsPart newlineSignature ∧
    ∃ config, loadConfig (nodeEnvironment (withSecret newlineSecret)) = .ok config ∧
      goVerifies (goWith newlineHmac) (goEnvironment (withSecret newlineSecret))
        (toBytes (joinToken (js "e30") (js "e30") newlineSignature)) = true ∧
      nodeVerifies (nodeWith newlineHmac) (joinToken (js "e30") (js "e30") newlineSignature)
        config.ticketSecret = false := by
  have hloaded : (loadConfig (nodeEnvironment (withSecret newlineSecret))).isOk = true := by
    decide +kernel
  obtain ⟨config, hload⟩ := isOk_iff.mp hloaded
  have hsecret : config.ticketSecret = utf8ToString newlineSecret := (loadConfig_reads hload).2.2.2
  have htext : newlineSignature = toBase64url
      ((goWith newlineHmac).hmacSha256 exampleSecret (literal "e30.e30")) := by decide +kernel
  have hsame := sameFunctions_with _ length_newlineHmac
  have hpart : IsPart newlineSignature := by
    rw [htext]
    exact isPart_toBase64url (hsame.digest_ne_nil _ _)
  refine ⟨by decide +kernel, by decide +kernel, hsame, isPart_e30, hpart, config, hload,
    by decide +kernel, ?_⟩
  rw [hsecret]
  decide +kernel

end SocketServer.Services
