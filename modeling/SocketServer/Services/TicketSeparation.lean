import SocketServer.Chat.Tickets
import SocketServer.Collaboration.TicketForm

/-!
# Chat tickets are no document tickets

Both services verify their tickets with the same secret, and neither asks what a ticket is for in a
way that the other's tickets would fail: the chat service does not read `purpose`.  What separates
them is the claim `team_id`, an integer for the one service and a UUID for the other.

* `parts_of_token`: a token in canonical form reaches the chat service in the same three parts;
* `team_id_of_accepted`: the payload of an accepted document ticket has a string under `team_id`;
* `tickets_not_confused`: such a payload is an error for the chat service, which visits every
  member, whatever else the payload has.
-/

namespace SocketServer.Services

open SocketServer.Text SocketServer.Js SocketServer.Go SocketServer.GoJson SocketServer.Checks
open SocketServer.Chat SocketServer.Collaboration

/-! ### One token for both services -/

/-- The bytes of a token in canonical form. -/
theorem toBytes_token (header payload signature : Bytes) :
    toBytes (unsignedToken header payload ++ js "." ++ toBase64url signature) =
      rawURLEncode header ++ [46] ++ rawURLEncode payload ++ [46] ++ rawURLEncode signature := by
  have hdot : utf8 ".".toList = [46] := by decide
  rw [unsignedToken, toBase64url, toBase64url, toBase64url, js, ← utf16_append, ← utf16_append,
    ← utf16_append, ← utf16_append, toBytes_utf16, utf8_append, utf8_append, utf8_append,
    utf8_append, rawURLEncode, rawURLEncode, rawURLEncode, ← hdot]

/-- The chat service finds the parts of such a token. -/
theorem parts_of_token {header payload signature h p s : Bytes}
    (hparts : ticketParts (trimSpace (toBytes
      (unsignedToken header payload ++ js "." ++ toBase64url signature))) = some (h, p, s)) :
    h = rawURLEncode header ∧ p = rawURLEncode payload ∧ s = rawURLEncode signature := by
  have hdots : ∀ part ∈ [rawURLEncode header, rawURLEncode payload, rawURLEncode signature],
      (46 : UInt8) ∉ part := by
    intro part hpart hmem
    simp only [List.mem_cons, List.not_mem_nil, or_false] at hpart
    obtain rfl | rfl | rfl := hpart <;> exact (mem_rawURLEncode hmem).1 rfl
  have hjoined : rawURLEncode header ++ [46] ++ rawURLEncode payload ++ [46] ++
      rawURLEncode signature = List.intercalate [46]
        [rawURLEncode header, rawURLEncode payload, rawURLEncode signature] := by
    simp [List.intercalate]
  have htrim : trimSpace (rawURLEncode header ++ [46] ++ rawURLEncode payload ++ [46] ++
      rawURLEncode signature) = rawURLEncode header ++ [46] ++ rawURLEncode payload ++ [46] ++
        rawURLEncode signature := by
    refine trimSpace_of_ends fun b hb => ?_
    have hdot : isSpaceByte 46 = false := by decide
    simp only [List.mem_append, List.mem_singleton] at hb
    obtain (((hb | rfl) | hb) | rfl) | hb := hb
    · exact (mem_rawURLEncode hb).2
    · exact hdot
    · exact (mem_rawURLEncode hb).2
    · exact hdot
    · exact (mem_rawURLEncode hb).2
  rw [toBytes_token, htrim, ticketParts, hjoined,
    List.splitOn_intercalate _ hdots (List.cons_ne_nil _ _)] at hparts
  dsimp only at hparts
  split at hparts
  · cases hparts
  · cases hparts
    exact ⟨rfl, rfl, rfl⟩

/-! ### The team of a ticket -/

/-- An accepted document ticket names its team by a string. -/
theorem team_id_of_accepted {node : Runtime} {token : JsString} {room : RequestedDocumentRoom}
    {secret : JsString} {now : ℤ} {claims : DocumentTicketClaims}
    (h : validateDocumentTicket node token room secret now = .ok claims) :
    ∃ header payload signature members,
      token = unsignedToken header payload ++ js "." ++ toBase64url signature ∧
      node.jsonParse (utf8ToString payload) = some (.object members) ∧
      (js "team_id", Json.string claims.teamId) ∈ members := by
  obtain ⟨header, payload, hcanonical⟩ := canonical_of_accepted h
  obtain ⟨members, hparse, hclaims⟩ := hcanonical.payload
  exact ⟨header, payload, _, members, hcanonical.spelled, hparse, mem_of_property hclaims.teamId⟩

/-- A payload with a string under `team_id` is an error for the chat service. -/
theorem claims_of_text {tree : JsonTree} {members : List (JsString × Json)} {team : JsString}
    (hread : tree.ReadAs (.object members)) (hteam : (js "team_id", Json.string team) ∈ members) :
    unmarshalStruct claimsFields .zero tree = none := by
  cases hread with
  | @object ms _ hkeys h =>
      have hname : toUSV (js "team_id") = "team_id".toList := toUSV_utf16 _
      have hmem : ("team_id".toList, JsonTree.string (toUSV team)) ∈ ms :=
        hname ▸ JsonTree.ReadAs.mem_string hkeys h hteam
      obtain ⟨f, hfind, hreject⟩ := team_id_rejects_text (toUSV team)
      rw [unmarshalStruct]
      by_contra hsome
      obtain ⟨claims, hclaims⟩ := Option.ne_none_iff_exists'.mp hsome
      obtain ⟨u, v, hset⟩ := fits_of_setMembers hclaims hmem hfind
      rw [hreject] at hset
      cases hset

/-- **No token is accepted by both services**, whatever the secrets, the room and the times are, as
long as the two readers of JSON agree on its payload. -/
theorem tickets_not_confused (node : Runtime) (go : AuthRuntime) (getenv : String → Bytes)
    (secret : JsString) (room : RequestedDocumentRoom) (chatNow documentNow : ℤ) (token : JsString)
    (hread : ∀ header payload signature tree value,
      token = unsignedToken header payload ++ js "." ++ toBase64url signature →
      go.parseJSON payload = some tree → node.jsonParse (utf8ToString payload) = some value →
      tree.ReadAs value) :
    ¬ ((∃ claims, validateToken go getenv chatNow (toBytes token) = .ok claims) ∧
      ∃ claims, validateDocumentTicket node token room secret documentNow = .ok claims) := by
  intro h
  obtain ⟨⟨claims, hchat⟩, ticket, hdocument⟩ := h
  obtain ⟨header, payload, signature, members, rfl, hparse, hteam⟩ :=
    team_id_of_accepted hdocument
  obtain ⟨h, p, s, data, tree, hparts, hdata, htree, hclaims⟩ := payload_of_accepted hchat
  obtain ⟨-, rfl, -⟩ := parts_of_token hparts
  rw [rawURLDecode_encode] at hdata
  cases hdata
  rw [claims_of_text (hread header payload signature tree _ rfl htree hparse) hteam] at hclaims
  cases hclaims

/-! ### The sample ticket -/

/-- The payload of the sample ticket as a tree. -/
def sampleTree : JsonTree :=
  .object [("display_name".toList, .string "Ada".toList),
    ("document_id".toList, .string (toUSV sampleRoom.documentId)),
    ("exp".toList, .number (.int 1800000000)),
    ("org_id".toList, .string (toUSV sampleRoom.organizationId)),
    ("purpose".toList, .string "document".toList),
    ("team_id".toList, .string (toUSV sampleRoom.teamId)),
    ("user_id".toList, .string (toUSV sampleClaims.userId))]

def sampleHeaderTree : JsonTree :=
  .object [("alg".toList, .string "HS256".toList), ("typ".toList, .string "JWT".toList)]

/-- What Go does with the sample ticket. -/
def sampleGo : AuthRuntime where
  hmacSha256 := sampleRuntime.hmacSha256
  parseJSON data :=
    if data = toBytes sampleHeaderText then some sampleHeaderTree
    else if data = toBytes samplePayloadText then some sampleTree
    else none

theorem sampleTree_readAs : sampleTree.ReadAs (.object sampleTicketPayload) := by
  have hexp : toDouble ((1800000000 : ℤ) : ℚ) = .finite 1800000000 := by decide +kernel
  refine .object (by decide +kernel) ?_
  simp only [sampleTicketPayload, List.map_cons, List.map_nil]
  refine .cons (.string (js "Ada")) (.cons (.string _) (.cons ?_ (.cons (.string _)
    (.cons (.string (js "document")) (.cons (.string _) (.cons (.string _) .nil))))))
  exact hexp ▸ .number (.int 1800000000)

theorem sampleHeaderTree_readAs : sampleHeaderTree.ReadAs
    (.object [(js "alg", .string (js "HS256")), (js "typ", .string (js "JWT"))]) :=
  .object (by decide) (.cons (.string (js "HS256")) (.cons (.string (js "JWT")) .nil))

/-- The two read the payload of every token alike. -/
theorem sample_read (bytes : Bytes) (tree : JsonTree) (value : Json)
    (htree : sampleGo.parseJSON bytes = some tree)
    (hvalue : sampleRuntime.jsonParse (utf8ToString bytes) = some value) : tree.ReadAs value := by
  have hother : samplePayloadText ≠ sampleHeaderText := by decide +kernel
  simp only [sampleGo] at htree
  split at htree
  · rename_i hheader
    cases htree
    subst hheader
    simp only [sampleRuntime, sample_texts.1, if_true, Option.some.injEq] at hvalue
    exact hvalue ▸ sampleHeaderTree_readAs
  split at htree
  · rename_i hpayload
    cases htree
    subst hpayload
    simp only [sampleRuntime, sample_texts.2, if_neg hother, if_true, Option.some.injEq] at hvalue
    exact hvalue ▸ sampleTree_readAs
  · cases htree

/-- The document service admits the sample ticket, so the chat service does not. -/
theorem tickets_not_confused_sample :
    (∃ claims, onAuthenticate sampleRuntime ⟨none, none⟩ (some false) 1700000000000 sampleRequest
      = .ok claims) ∧
    ∀ claims, validateToken sampleGo (fun _ => []) 1700000000 (toBytes sampleRequest.token)
      ≠ .ok claims := by
  obtain ⟨claims, hadmitted⟩ := sampleRequest_accepted
  refine ⟨⟨claims, hadmitted⟩, fun c hchat => ?_⟩
  obtain ⟨room, -, -, -, hticket⟩ := ticket_of_admitted hadmitted
  exact tickets_not_confused sampleRuntime sampleGo (fun _ => []) _ _ 1700000000 1700000000000
    sampleRequest.token (fun _ payload _ tree value _ => sample_read payload tree value)
    ⟨⟨c, hchat⟩, claims, hticket⟩

end SocketServer.Services
