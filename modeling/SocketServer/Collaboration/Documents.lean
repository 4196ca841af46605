import SocketServer.Collaboration.ResourceLimits
import SocketServer.Collaboration.Server
import SocketServer.Library.Rendering

/-!
# Initialising, loading and storing a document

`initializeDocument` (`collaboration/src/initial-state.ts`), `materializeDocument`
(`collaboration/src/projections.ts`), and `loadDocumentState` and `storeDocumentState`
(`collaboration/src/server.ts`), over the operations of Yjs and of Tiptap.

A new Yjs document draws a client id of its own; the two ids that an initialisation draws are
arguments.
-/

namespace SocketServer.Collaboration

open SocketServer.Text SocketServer.Js SocketServer.Checks

/-- A mark of a text: bold, a link, with its attributes. -/
structure Mark where
  type : String
  attrs : List (String × Json)

/-- The JSON form of an editor document. -/
inductive JSONContent where
  | text (s : JsString) (marks : List Mark)
  | node (type : String) (attrs : List (String × Json)) (marks : List Mark)
      (content : List JSONContent)

/-- A node without attributes and marks. -/
@[match_pattern] abbrev JSONContent.bare (type : String) (content : List JSONContent) :
    JSONContent := .node type [] [] content

/-- The text runs of a document, in order. -/
def JSONContent.textRuns : JSONContent → List JsString
  | .text s _ => [s]
  | .node _ _ _ content => runs content
where
  /-- The text runs of a list of nodes. -/
  runs : List JSONContent → List JsString
    | [] => []
    | child :: rest => child.textRuns ++ runs rest

/-- The use the server makes of Tiptap, with the extensions of `StarterKit`. -/
structure Tiptap (D : Type) where
  /-- `TiptapTransformer.toYdoc(content, field)`, in a new document with the given client id. -/
  toYdoc : ℕ → JSONContent → String → D
  /-- `TiptapTransformer.fromYdoc(document, [field])[field]`. -/
  fromYdoc : D → String → Option JSONContent
  /-- `generateJSON(html)`. -/
  generateJSON : JsString → JSONContent
  /-- `generateText(content)`. -/
  generateText : JSONContent → JsString
  /-- `generateHTML(content)`. -/
  generateHTML : JSONContent → JsString

variable {D : Type}

/-! ### Initialisation and projections -/

/-- The document that holds a title: one paragraph, empty for an empty title. -/
def titleContent (title : JsString) : JSONContent :=
  .bare "doc" [.bare "paragraph" (if title = [] then [] else [.text title []])]

/-- `initializeDocument`; the title's document has the client id `titleClient`, that of the body
`bodyClient`. -/
def initializeDocument (yjs : Yjs D) (tiptap : Tiptap D) (titleClient bodyClient : ℕ)
    (title bodyHTML : JsString) : D :=
  let document := tiptap.toYdoc titleClient (titleContent title) "title"
  if bodyHTML ≠ [] then
    let body := tiptap.toYdoc bodyClient (tiptap.generateJSON bodyHTML) "body"
    yjs.applyUpdate document (yjs.encodeStateAsUpdate body)
  else document

def emptyDocument : JSONContent := .bare "doc" []

def materializeDocument (tiptap : Tiptap D) (document : D) : DocumentProjections where
  bodyHTML := tiptap.generateHTML ((tiptap.fromYdoc document "body").getD emptyDocument)
  title := trim (collapseSpaces false
    (tiptap.generateText ((tiptap.fromYdoc document "title").getD emptyDocument)))

/-! ### Loading and storing -/

/-- `loadDocumentState`: nothing without a store, the canonical state if there is one, else the
document initialised from the projections. -/
def loadDocumentState (runtime : Runtime) (yjs : Yjs D) (tiptap : Tiptap D)
    (storage : Option CoreAPIStorage) (titleClient bodyClient : ℕ)
    (claims : DocumentTicketClaims) (maxDocumentBytes : ℕ) (fetch : Fetch) :
    Except String (Option (D ⊕ Bytes)) :=
  match storage with
  | none => .ok none
  | some storage => do
      let state ← storage.load runtime (documentScope claims) fetch
      (enforceDocumentLimit yjs (.inr state.canonicalState) maxDocumentBytes).mapError (·.reason)
      if 0 < state.canonicalState.length then return some (.inr state.canonicalState)
      else do
        let initialized :=
          initializeDocument yjs tiptap titleClient bodyClient state.title state.bodyHTML
        (enforceDocumentLimit yjs (.inl initialized) maxDocumentBytes).mapError (·.reason)
        return some (.inl initialized)

/-- `storeDocumentState` up to the `fetch` of its PUT. -/
def storeDocumentRequest (runtime : Runtime) (yjs : Yjs D) (tiptap : Tiptap D)
    (storage : CoreAPIStorage) (claims : DocumentTicketClaims) (document : D)
    (maxDocumentBytes : ℕ) : Except String Request := do
  (enforceDocumentLimit yjs (.inr (yjs.encodeStateAsUpdate document)) maxDocumentBytes).mapError
    (·.reason)
  storage.put runtime (documentScope claims) (yjs.encodeStateAsUpdate document)
    (materializeDocument tiptap document)

def storeDocumentState (runtime : Runtime) (yjs : Yjs D) (tiptap : Tiptap D)
    (storage : Option CoreAPIStorage) (claims : DocumentTicketClaims) (document : D)
    (maxDocumentBytes : ℕ) (fetch : Fetch) : Except String Unit :=
  match storage with
  | none => .ok ()
  | some storage => do
      let request ←
        storeDocumentRequest runtime yjs tiptap storage claims document maxDocumentBytes
      let _ ← send fetch request
      return ()

end SocketServer.Collaboration
