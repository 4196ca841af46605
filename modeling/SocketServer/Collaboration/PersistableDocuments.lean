import SocketServer.Collaboration.Documents
import SocketServer.Collaboration.StorageRoundTrip
import Mathlib.Algebra.Order.BigOperators.Group.List

/-!
# Storing a document that the sync limit admitted

Sync messages are processed one at a time: each is checked (`enforceSyncLimit`) and then applied.
The document keeps within the limit, and so does its title, but the HTML of its body is bounded by
neither: the markup has no counterpart in the Yjs encoding, and a character that HTML escapes is one
or two bytes there and four to six in the HTML.

`store_not_rejected_iff` says exactly when the store that follows passes every size check.  What it
needs of Yjs and of Tiptap is in four conditions: the updates of the sequence grow the encoding by
at most their length, text runs cost their UTF-8 bytes and a constant each, `generateText` returns
the text with white space between the blocks, and `generateHTML` escapes `&`, `<`, `>` and the
no-break space.
-/

namespace SocketServer.Collaboration

open SocketServer.Text SocketServer.Js SocketServer.Checks

variable {D : Type}

/-! ### What the result needs of Yjs and of Tiptap -/

/-- The text runs of a field cost their UTF-8 bytes and `overhead` bytes each in the encoding. -/
def Tiptap.CostsText (tiptap : Tiptap D) (yjs : Yjs D) (overhead : ℕ) : Prop :=
  ∀ document field content, tiptap.fromYdoc document field = some content →
    (content.textRuns.map fun run => byteLength run + overhead).sum ≤ yjs.encodedLength document

/-- `generateText` returns the text runs, with white space between them where blocks meet. -/
structure Tiptap.ReturnsText (tiptap : Tiptap D) (pieces : JSONContent → List Piece) : Prop where
  generateText : ∀ content, tiptap.generateText content = plain (pieces content)
  textRuns : ∀ content, runs (pieces content) = content.textRuns
  separators : ∀ content s, .added s ∈ pieces content → ∀ u ∈ s, isSpace u = true

/-- U+00A0. -/
def noBreakSpace : UInt16 := 0xA0

/-- The escaping of a character of text in HTML. -/
def escapeHTML (u : UInt16) : JsString :=
  if u = unit '&' then js "&amp;"
  else if u = unit '<' then js "&lt;"
  else if u = unit '>' then js "&gt;"
  else if u = noBreakSpace then js "&nbsp;"
  else [u]

/-- `generateHTML` puts markup around the text runs, and escapes them. -/
structure Tiptap.EscapesHTML (tiptap : Tiptap D) (pieces : JSONContent → List Piece) : Prop where
  generateHTML : ∀ content, tiptap.generateHTML content = escaped escapeHTML (pieces content)
  textRuns : ∀ content, runs (pieces content) = content.textRuns

/-- The bytes of the HTML of a document: those of its markup and its text, four more for each `&`
and each no-break space of the text, and three more for each `<` and `>`. -/
def htmlBytes (pieces : JSONContent → List Piece) (content : JSONContent) : ℕ :=
  let text := content.textRuns.flatten
  byteLength (plain (pieces content)) + 4 * (text.count (unit '&') + text.count noBreakSpace) +
    3 * (text.count (unit '<') + text.count (unit '>'))

/-- The content of the field "body". -/
def Tiptap.body (tiptap : Tiptap D) (document : D) : JSONContent :=
  (tiptap.fromYdoc document "body").getD emptyDocument

theorem isEscape_escapeHTML : IsEscape escapeHTML := by
  intro u
  unfold escapeHTML
  split_ifs with hamp hlt hgt hnbsp
  · subst hamp
    exact Or.inr ⟨by decide, by decide, List.all_eq_true.mp (by decide)⟩
  · subst hlt
    exact Or.inr ⟨by decide, by decide, List.all_eq_true.mp (by decide)⟩
  · subst hgt
    exact Or.inr ⟨by decide, by decide, List.all_eq_true.mp (by decide)⟩
  · subst hnbsp
    exact Or.inr ⟨by decide, by decide, List.all_eq_true.mp (by decide)⟩
  · exact Or.inl rfl

/-- What escaping one code unit adds. -/
theorem escapeHTML_extra (u : UInt16) :
    (escapeHTML u).length - byteLength [u] =
      4 * ((if u = unit '&' then 1 else 0) + if u = noBreakSpace then 1 else 0) +
        3 * ((if u = unit '<' then 1 else 0) + if u = unit '>' then 1 else 0) := by
  unfold escapeHTML
  by_cases hamp : u = unit '&'
  · subst hamp
    decide
  by_cases hlt : u = unit '<'
  · subst hlt
    decide
  by_cases hgt : u = unit '>'
  · subst hgt
    decide
  by_cases hnbsp : u = noBreakSpace
  · subst hnbsp
    decide
  · have hone := one_le_byteLength_singleton u
    simp only [hamp, hlt, hgt, hnbsp, if_false, List.length_singleton]
    omega

theorem escapeHTML_extras (text : JsString) :
    (text.map fun u => (escapeHTML u).length - byteLength [u]).sum =
      4 * (text.count (unit '&') + text.count noBreakSpace) +
        3 * (text.count (unit '<') + text.count (unit '>')) := by
  induction text with
  | nil => rfl
  | cons u text ih =>
      rw [List.map_cons, List.sum_cons, ih, escapeHTML_extra, List.count_cons, List.count_cons,
        List.count_cons, List.count_cons]
      simp only [beq_iff_eq]
      omega

/-! ### Processing messages one at a time -/

/-- The document after an admitted message. -/
def edited (yjs : Yjs D) (document : D) (message : ℕ × Bytes) : D :=
  if isMutating message.1 then yjs.applyUpdate document message.2 else document

/-- A sync message: it is checked, and applied when it changes the document. -/
def processMessage (yjs : Yjs D) (maxBytes : ℕ) (document : D) (message : ℕ × Bytes) :
    Except ResourceLimitError D := do
  enforceSyncLimit yjs document message.2 message.1 maxBytes
  return edited yjs document message

/-- Messages that are all admitted. -/
def processMessages (yjs : Yjs D) (maxBytes : ℕ) :
    D → List (ℕ × Bytes) → Except ResourceLimitError D
  | document, [] => .ok document
  | document, message :: rest => do
      let next ← processMessage yjs maxBytes document message
      processMessages yjs maxBytes next rest

/-- Each message of a sequence adds at most its own length to the encoding. -/
def Yjs.GrowsAlong (yjs : Yjs D) : D → List (ℕ × Bytes) → Prop
  | _, [] => True
  | document, message :: rest =>
      yjs.encodedLength (edited yjs document message)
          ≤ yjs.encodedLength document + message.2.length ∧
        yjs.GrowsAlong (edited yjs document message) rest

section

variable {yjs : Yjs D} {tiptap : Tiptap D} {maxBytes overhead : ℕ}
  {textPieces htmlPieces : JSONContent → List Piece}

theorem processMessage_eq_ok {document next : D} {message : ℕ × Bytes}
    (h : processMessage yjs maxBytes document message = .ok next) :
    next = edited yjs document message ∧
      (isMutating message.1 → yjs.encodedLength document + message.2.length ≤ maxBytes) := by
  simp only [processMessage, bind_eq_ok] at h
  obtain ⟨_, hadmitted, hreturn⟩ := h
  cases hreturn
  exact ⟨rfl, enforceSyncLimit_eq_ok.mp hadmitted⟩

/-- **One message.** -/
theorem processMessage_within {document next : D} {message : ℕ × Bytes}
    (hgrows : yjs.encodedLength (edited yjs document message)
      ≤ yjs.encodedLength document + message.2.length)
    (hdocument : yjs.encodedLength document ≤ maxBytes)
    (h : processMessage yjs maxBytes document message = .ok next) :
    yjs.encodedLength next ≤ maxBytes := by
  obtain ⟨rfl, hadmitted⟩ := processMessage_eq_ok h
  by_cases hmutating : isMutating message.1
  · exact hgrows.trans (hadmitted hmutating)
  · rw [edited, if_neg hmutating]
    exact hdocument

/-- **Any number of messages.** -/
theorem processMessages_within {document last : D} {messages : List (ℕ × Bytes)}
    (hgrows : yjs.GrowsAlong document messages) (hdocument : yjs.encodedLength document ≤ maxBytes)
    (h : processMessages yjs maxBytes document messages = .ok last) :
    yjs.encodedLength last ≤ maxBytes := by
  induction messages generalizing document with
  | nil =>
      cases h
      exact hdocument
  | cons message rest ih =>
      simp only [processMessages, bind_eq_ok] at h
      obtain ⟨next, hnext, hrest⟩ := h
      have hwithin := processMessage_within hgrows.1 hdocument hnext
      obtain ⟨rfl, -⟩ := processMessage_eq_ok hnext
      exact ih hgrows.2 hwithin hrest

/-- A document above the limit admits no message that changes it. -/
theorem processMessages_above {document last : D} {messages : List (ℕ × Bytes)}
    (hdocument : maxBytes < yjs.encodedLength document)
    (h : processMessages yjs maxBytes document messages = .ok last) : last = document := by
  induction messages with
  | nil =>
      cases h
      rfl
  | cons message rest ih =>
      simp only [processMessages, bind_eq_ok] at h
      obtain ⟨next, hnext, hrest⟩ := h
      obtain ⟨rfl, hadmitted⟩ := processMessage_eq_ok hnext
      have hother : ¬ isMutating message.1 := by
        intro hmutating
        have hfits := hadmitted hmutating
        omega
      rw [edited, if_neg hother] at hrest
      exact ih hrest

/-! ### The projections -/

/-- **The title is no longer than the encoded document.** -/
theorem title_le (htext : tiptap.ReturnsText textPieces) (hcosts : tiptap.CostsText yjs overhead)
    (hoverhead : 1 ≤ overhead) (document : D) :
    byteLength (materializeDocument tiptap document).title ≤ yjs.encodedLength document := by
  have hruns : ∀ content : JSONContent,
      byteLength (trim (collapseSpaces false (tiptap.generateText content))) ≤
        (content.textRuns.map fun run => byteLength run + 1).sum := by
    intro content
    rw [htext.generateText, ← htext.textRuns content]
    exact byteLength_collapsed_le (htext.separators content)
  show byteLength (trim (collapseSpaces false
    (tiptap.generateText ((tiptap.fromYdoc document "title").getD emptyDocument)))) ≤ _
  cases hfield : tiptap.fromYdoc document "title" with
  | none => exact Nat.le_trans (hruns emptyDocument) (Nat.zero_le _)
  | some content =>
      have hconstant : (content.textRuns.map fun run => byteLength run + 1).sum ≤
          (content.textRuns.map fun run => byteLength run + overhead).sum :=
        List.sum_le_sum fun run _ => Nat.add_le_add_left hoverhead _
      exact ((hruns content).trans hconstant).trans (hcosts document "title" content hfield)

/-- **The size of the body's HTML.** -/
theorem bodyHTML_eq (hhtml : tiptap.EscapesHTML htmlPieces) (document : D) :
    byteLength (materializeDocument tiptap document).bodyHTML =
      htmlBytes htmlPieces (tiptap.body document) := by
  show byteLength (tiptap.generateHTML (tiptap.body document)) = _
  rw [hhtml.generateHTML, byteLength_escaped isEscape_escapeHTML, hhtml.textRuns,
    escapeHTML_extras, htmlBytes, Nat.add_assoc]

/-! ### Storing -/

/-- The text of every size check. -/
def sizeError : String := "Document resource limit exceeded"

theorem request_ne_sizeError {storage : CoreAPIStorage} {scope : DocumentScope} {method : Method}
    {contentType body : Option JsString} :
    storage.request scope method contentType body ≠ .error sizeError := by
  unfold CoreAPIStorage.request
  cases statePath scope with
  | none =>
      intro h
      exact absurd (Except.error.inj h) (by decide)
  | some path =>
      intro h
      cases h

theorem send_ne_sizeError {fetch : Fetch} {request : Request}
    (hfetch : fetch request ≠ .error sizeError) : send fetch request ≠ .error sizeError := by
  intro h
  simp only [send, bind_eq_error] at h
  obtain hfailed | ⟨response, -, hstatus | ⟨_, -, hreturn⟩⟩ := h
  · exact hfetch hfailed
  · unfold rejectIf at hstatus
    split at hstatus
    · have htext := congrArg String.toList (Except.error.inj hstatus)
      rw [String.toList_append, sizeError] at htext
      simp at htext
    · cases hstatus
  · cases hreturn

/-- **The size checks of a store**, for a document within the limit: what is left to decide is the
size of the HTML. -/
theorem storeDocumentRequest_sizeError {runtime : Runtime} {storage : CoreAPIStorage}
    {claims : DocumentTicketClaims} {document : D}
    (hvalid : runtime.acceptsUpdate (yjs.encodeStateAsUpdate document) = true)
    (hlimit : storage.maxDocumentBytes = maxBytes)
    (hwithin : yjs.encodedLength document ≤ maxBytes)
    (htitle : byteLength (materializeDocument tiptap document).title ≤ maxBytes) :
    storeDocumentRequest runtime yjs tiptap storage claims document maxBytes = .error sizeError ↔
      maxBytes < byteLength (materializeDocument tiptap document).bodyHTML := by
  have hstate : enforceDocumentLimit yjs (.inr (yjs.encodeStateAsUpdate document)) maxBytes =
      .ok () := rejectIf_of_not (Nat.not_lt.mpr hwithin)
  have hencoded : validateYjsState runtime (yjs.encodeStateAsUpdate document) = .ok () := by
    refine rejectIf_of_not ?_
    rintro ⟨-, hinvalid⟩
    rw [hvalid] at hinvalid
    cases hinvalid
  have hsize : rejectIf (storage.maxDocumentBytes < (yjs.encodeStateAsUpdate document).length)
      sizeError = .ok () := rejectIf_of_not (Nat.not_lt.mpr (hlimit ▸ hwithin))
  have hput : storeDocumentRequest runtime yjs tiptap storage claims document maxBytes =
      (validateProjectionSize (materializeDocument tiptap document).title
        (materializeDocument tiptap document).bodyHTML maxBytes >>= fun _ =>
      storage.request (documentScope claims) .put (some (js "application/json"))
        (some (utf16 (stringifyObject (storedMembers (yjs.encodeStateAsUpdate document)
          (materializeDocument tiptap document)))))) := by
    unfold storeDocumentRequest CoreAPIStorage.put
    rw [hstate, hencoded]
    show (rejectIf _ sizeError >>= _) = _
    rw [hsize, hlimit]
    rfl
  rw [hput, bind_eq_error]
  constructor
  · rintro (hchecked | ⟨_, -, hrequest⟩)
    · unfold validateProjectionSize rejectIf at hchecked
      split at hchecked
      · rename_i hlarge
        exact hlarge.resolve_left (Nat.not_lt.mpr htitle)
      · cases hchecked
    · exact absurd hrequest request_ne_sizeError
  · intro hlarge
    exact Or.inl (rejectIf_of (Or.inr hlarge))

/-- A document above the limit is not stored. -/
theorem storeDocumentRequest_above {runtime : Runtime} {storage : CoreAPIStorage}
    {claims : DocumentTicketClaims} {document : D}
    (habove : maxBytes < yjs.encodedLength document) :
    storeDocumentRequest runtime yjs tiptap storage claims document maxBytes =
      .error sizeError := by
  have hstate : enforceDocumentLimit yjs (.inr (yjs.encodeStateAsUpdate document)) maxBytes =
      .error (resourceLimitError sizeError) := rejectIf_of habove
  unfold storeDocumentRequest
  rw [hstate]
  rfl

theorem storeDocumentState_sizeError {runtime : Runtime} {storage : CoreAPIStorage}
    {claims : DocumentTicketClaims} {document : D} {fetch : Fetch}
    (hfetch : ∀ request, fetch request ≠ .error sizeError) :
    storeDocumentState runtime yjs tiptap (some storage) claims document maxBytes fetch =
        .error sizeError ↔
      storeDocumentRequest runtime yjs tiptap storage claims document maxBytes =
        .error sizeError := by
  show (_ >>= _) = _ ↔ _
  rw [bind_eq_error]
  constructor
  · rintro (hrejected | ⟨request, -, hsend⟩)
    · exact hrejected
    · obtain hsend | ⟨_, -, hreturn⟩ := bind_eq_error.mp hsend
      · exact absurd hsend (send_ne_sizeError (hfetch request))
      · cases hreturn
  · intro hrejected
    exact Or.inl hrejected

/-! ### From the load to the store -/

/-- The update that a room's new document is given for what `loadDocumentState` returned. -/
def loadedBytes (yjs : Yjs D) : D ⊕ Bytes → Bytes
  | .inl document => yjs.encodeStateAsUpdate document
  | .inr state => state

theorem new_maxDocumentBytes {runtime : Runtime} {config : CoreAPIStorageConfig}
    {storage : CoreAPIStorage} (hnew : CoreAPIStorage.new runtime config = .ok storage)
    (hmax : config.maxDocumentBytes = some maxBytes) : storage.maxDocumentBytes = maxBytes := by
  unfold CoreAPIStorage.new at hnew
  simp only [bind_eq_ok, rejectIf_eq_ok] at hnew
  obtain ⟨_, -, _, -, _, -, hreturn⟩ := hnew
  cases hreturn
  show config.maxDocumentBytes.getD _ = maxBytes
  rw [hmax, Option.getD_some]

/-- **When an admitted document can be stored.**  From whatever was loaded, through any messages
that were admitted and applied one at a time: the store that follows passes its size checks exactly
when the room started within the limit and the HTML of the body (its markup, its text, and what
escaping adds) is within it too. -/
theorem store_not_rejected_iff {runtime : Runtime} {config : CoreAPIStorageConfig}
    {storage : CoreAPIStorage} {claims : DocumentTicketClaims} {storeFetch : Fetch}
    {new document : D} {loaded : D ⊕ Bytes} {messages : List (ℕ × Bytes)}
    (hgrows : yjs.GrowsAlong (yjs.applyUpdate new (loadedBytes yjs loaded)) messages)
    (hvalid : ∀ document, runtime.acceptsUpdate (yjs.encodeStateAsUpdate document) = true)
    (hcosts : tiptap.CostsText yjs overhead) (hoverhead : 1 ≤ overhead)
    (htext : tiptap.ReturnsText textPieces) (hhtml : tiptap.EscapesHTML htmlPieces)
    (hnew : CoreAPIStorage.new runtime config = .ok storage)
    (hmax : config.maxDocumentBytes = some maxBytes)
    (hmessages : processMessages yjs maxBytes (yjs.applyUpdate new (loadedBytes yjs loaded))
      messages = .ok document)
    (hfetch : ∀ request, storeFetch request ≠ .error sizeError) :
    storeDocumentState runtime yjs tiptap (some storage) claims document maxBytes storeFetch ≠
        .error sizeError ↔
      yjs.encodedLength (yjs.applyUpdate new (loadedBytes yjs loaded)) ≤ maxBytes ∧
        htmlBytes htmlPieces (tiptap.body document) ≤ maxBytes := by
  rw [Ne, storeDocumentState_sizeError hfetch]
  rcases Nat.lt_or_ge maxBytes (yjs.encodedLength (yjs.applyUpdate new (loadedBytes yjs loaded)))
    with habove | hstart
  · rw [processMessages_above habove hmessages]
    exact iff_of_false (not_not.mpr (storeDocumentRequest_above habove))
      fun h => Nat.not_le.mpr habove h.1
  · have hwithin : yjs.encodedLength document ≤ maxBytes :=
      processMessages_within hgrows hstart hmessages
    have htitle : byteLength (materializeDocument tiptap document).title ≤ maxBytes :=
      Nat.le_trans (title_le htext hcosts hoverhead document) hwithin
    rw [storeDocumentRequest_sizeError (hvalid document) (new_maxDocumentBytes hnew hmax) hwithin
      htitle, bodyHTML_eq hhtml, Nat.not_lt, and_iff_right hstart]

end

/-! ### A paragraph of ampersands -/

/-- An ASCII character as a code unit. -/
def asciiUnit (b : UInt8) : UInt16 := UInt16.ofNat (b.toNat % 128)

/-- Documents with one paragraph in their body: a document is its text, which one client wrote. -/
def paragraphYjs : Yjs Bytes where
  encodeStateAsUpdate text :=
    if text = [] then [0, 0]
    else
      -- three structs: the element "paragraph" below "body", its text node, and the text in it
      [1, 3, 1, 0, 7, 1, 4, 98, 111, 100, 121, 3, 9, 112, 97, 114, 97, 103, 114, 97, 112, 104,
        7, 0, 1, 0, 6, 4, 0, 1, 1, UInt8.ofNat text.length] ++ text ++ [0]
  applyUpdate text update := if text = [] then (update.drop 32).dropLast else text

/-- The pieces of the HTML: one paragraph, or nothing. -/
def paragraphPieces : JSONContent → List Piece
  | .node "doc" _ _ [.node "paragraph" _ _ [.text s _]] =>
      [.added (js "<p>"), .text s, .added (js "</p>")]
  | content => content.textRuns.map .text

def paragraphTiptap : Tiptap Bytes where
  toYdoc _ _ _ := []
  fromYdoc text field :=
    some (.bare "doc" (if field = "body" ∧ text ≠ [] then
      [.bare "paragraph" [.text (text.map asciiUnit) []]] else []))
  generateJSON _ := emptyDocument
  generateText content := plain (content.textRuns.map .text)
  generateHTML content := escaped escapeHTML (paragraphPieces content)

theorem paragraphYjs_encodedLength (text : Bytes) :
    paragraphYjs.encodedLength text = if text = [] then 2 else text.length + 33 := by
  unfold Yjs.encodedLength paragraphYjs
  by_cases htext : text = []
  · simp [htext]
  · simp [htext]

theorem runs_map_text (texts : List JsString) : runs (texts.map .text) = texts := by
  induction texts with
  | nil => rfl
  | cons s rest ih => exact congrArg (s :: ·) ih

theorem paragraphTiptap_escapes : paragraphTiptap.EscapesHTML paragraphPieces where
  generateHTML _ := rfl
  textRuns content := by
    unfold paragraphPieces
    split
    · rfl
    · exact runs_map_text _

theorem paragraphTiptap_returns :
    paragraphTiptap.ReturnsText fun content => content.textRuns.map .text where
  generateText _ := rfl
  textRuns content := runs_map_text content.textRuns
  separators content s hs := by simp at hs

theorem paragraphTiptap_costs : paragraphTiptap.CostsText paragraphYjs 1 := by
  intro text field content hfield
  cases hfield
  by_cases hbody : field = "body" ∧ text ≠ []
  · have hascii : ∀ u ∈ text.map asciiUnit, isAscii u = true := by
      intro u hu
      obtain ⟨b, -, rfl⟩ := List.mem_map.mp hu
      simp only [isAscii, asciiUnit]
      simp
      omega
    have hlength := byteLength_ascii_append hascii []
    rw [List.append_nil, List.length_map, byteLength_nil, Nat.add_zero] at hlength
    rw [if_pos hbody, paragraphYjs_encodedLength, if_neg hbody.2]
    simp [JSONContent.textRuns, JSONContent.textRuns.runs, hlength]
  · rw [if_neg hbody]
    exact Nat.zero_le _

/-- The empty document has been stored; core-api returns it. -/
def storedEmpty : List (JsString × JsString) := storedMembers [0, 0] ⟨[], []⟩

def paragraphRuntime : Runtime :=
  { storageRuntime with
    jsonParse := fun text =>
      if text = utf16 (stringifyObject storedEmpty) then some (storedValue [0, 0] ⟨[], []⟩)
      else none
    acceptsUpdate := fun update => decide (2 ≤ update.length) }

def paragraphFetch : Fetch := fun _ =>
  .ok ⟨200, none, some [utf8 (stringifyObject storedEmpty)]⟩

def paragraphConfig : CoreAPIStorageConfig where
  baseURL := js "http://127.0.0.1:8080"
  maxDocumentBytes := some 200
  maxResponseBytes := none
  requestTimeout := none
  serviceSecret := List.replicate 32 (unit 's')

/-- core-api accepts the PUT. -/
def acceptingFetch : Fetch := fun _ => .ok ⟨204, none, none⟩

def ampersands : Bytes := List.replicate 100 38

/-- One message: a client inserts the paragraph. -/
def ampersandMessages : List (ℕ × Bytes) := [(2, paragraphYjs.encodeStateAsUpdate ampersands)]

/-- Load, process the message, and store: what was loaded, the document at the end, and what the
store returned. -/
def loadEditStore (storage : CoreAPIStorage) :
    Except String (Option (Bytes ⊕ Bytes) × Bytes × Except String Unit) := do
  let loaded ← loadDocumentState paragraphRuntime paragraphYjs paragraphTiptap (some storage) 1 2
    sampleClaims 200 paragraphFetch
  let document ← (processMessages paragraphYjs 200 (paragraphYjs.applyUpdate [] [0, 0])
    ampersandMessages).mapError (·.reason)
  return (loaded, document, storeDocumentState paragraphRuntime paragraphYjs paragraphTiptap
    (some storage) sampleClaims document 200 acceptingFetch)

theorem loadEditStore_eq : ∃ storage,
    CoreAPIStorage.new paragraphRuntime paragraphConfig = .ok storage ∧
      loadEditStore storage = .ok (some (.inr [0, 0]), ampersands, .error sizeError) := by
  have hrun : (CoreAPIStorage.new paragraphRuntime paragraphConfig).bind loadEditStore =
      .ok (some (.inr [0, 0]), ampersands, .error sizeError) := by
    decide +kernel
  exact bind_eq_ok.mp hrun

theorem store_not_rejected_iff_ampersands : ∃ storage,
    CoreAPIStorage.new paragraphRuntime paragraphConfig = .ok storage ∧
      (storeDocumentState paragraphRuntime paragraphYjs paragraphTiptap (some storage)
          sampleClaims ampersands 200 acceptingFetch ≠ .error sizeError ↔
        paragraphYjs.encodedLength (paragraphYjs.applyUpdate []
            (loadedBytes paragraphYjs (.inr [0, 0]))) ≤ 200 ∧
          htmlBytes paragraphPieces (paragraphTiptap.body ampersands) ≤ 200) := by
  obtain ⟨storage, hnew, hrun⟩ := loadEditStore_eq
  simp only [loadEditStore, bind_eq_ok, mapError_eq_ok] at hrun
  obtain ⟨loaded, hload, document, hmessages, hreturn⟩ := hrun
  injection hreturn with hreturn
  simp only [Prod.mk.injEq] at hreturn
  obtain ⟨rfl, rfl, -⟩ := hreturn
  have hgrows : paragraphYjs.GrowsAlong (paragraphYjs.applyUpdate []
      (loadedBytes paragraphYjs (.inr [0, 0]))) ampersandMessages := by
    refine ⟨?_, trivial⟩
    decide +kernel
  have hvalid : ∀ text, paragraphRuntime.acceptsUpdate (paragraphYjs.encodeStateAsUpdate text)
      = true := by
    intro text
    have hlength := paragraphYjs_encodedLength text
    refine decide_eq_true ?_
    show 2 ≤ paragraphYjs.encodedLength text
    split at hlength <;> omega
  exact ⟨storage, hnew, store_not_rejected_iff hgrows hvalid paragraphTiptap_costs
    (Nat.le_refl 1) paragraphTiptap_returns paragraphTiptap_escapes hnew rfl hmessages
    fun request h => nomatch h⟩

/-- **An admitted document that cannot be stored.**  It encodes to 133 bytes of at most 200; its
HTML takes 507. -/
theorem admitted_but_not_stored : ∃ storage,
    CoreAPIStorage.new paragraphRuntime paragraphConfig = .ok storage ∧
      loadDocumentState paragraphRuntime paragraphYjs paragraphTiptap (some storage) 1 2
        sampleClaims 200 paragraphFetch = .ok (some (.inr [0, 0])) ∧
      processMessages paragraphYjs 200 (paragraphYjs.applyUpdate [] [0, 0]) ampersandMessages =
        .ok ampersands ∧
      paragraphYjs.encodedLength ampersands = 133 ∧
      storeDocumentState paragraphRuntime paragraphYjs paragraphTiptap (some storage)
        sampleClaims ampersands 200 acceptingFetch = .error sizeError := by
  obtain ⟨storage, hnew, hrun⟩ := loadEditStore_eq
  simp only [loadEditStore, bind_eq_ok, mapError_eq_ok] at hrun
  obtain ⟨loaded, hload, document, hmessages, hreturn⟩ := hrun
  injection hreturn with hreturn
  simp only [Prod.mk.injEq] at hreturn
  obtain ⟨rfl, rfl, hstore⟩ := hreturn
  exact ⟨storage, hnew, hload, hmessages, by decide +kernel, hstore⟩

end SocketServer.Collaboration
