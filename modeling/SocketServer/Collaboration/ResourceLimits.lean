import SocketServer.Library.Checks
import SocketServer.Library.Text

/-!
# Resource limits of a document

`enforceDocumentLimit` and `enforceSyncLimit` (`collaboration/src/resource-limits.ts`), over the use
the server makes of Yjs: a document is encoded, and an update is applied to it.  Sockets, which the
other two limits of the same file guard, are closed by a `CloseEvent`.
-/

namespace SocketServer.Collaboration

open SocketServer.Text SocketServer.Checks

/-- The operations of Yjs on documents of type `D`. -/
structure Yjs (D : Type*) where
  encodeStateAsUpdate : D → Bytes
  applyUpdate : D → Bytes → D

variable {D : Type*}

/-- `encodeStateAsUpdate(document).byteLength`. -/
def Yjs.encodedLength (yjs : Yjs D) (document : D) : ℕ :=
  (yjs.encodeStateAsUpdate document).length

/-- A call `socket.close(code, reason)`. -/
structure CloseEvent where
  code : ℕ
  reason : String
  deriving DecidableEq

/-- `ResourceLimitError`: the close code of the WebSocket and the reason sent with it. -/
structure ResourceLimitError where
  code : ℕ
  reason : String
  deriving DecidableEq

/-- `new ResourceLimitError(reason)`. -/
def resourceLimitError (reason : String) : ResourceLimitError := { code := 1009, reason }

/-- `enforceDocumentLimit` of a document or of its encoded form. -/
def enforceDocumentLimit (yjs : Yjs D) (document : D ⊕ Bytes) (maxBytes : ℕ) :
    Except ResourceLimitError Unit :=
  let bytes := match document with
    | .inl document => yjs.encodedLength document
    | .inr state => state.length
  rejectIf (maxBytes < bytes) (resourceLimitError "Document resource limit exceeded")

/-- The sync messages that change the document: step 2 and update. -/
def isMutating (type : ℕ) : Prop := type = 1 ∨ type = 2

instance (type : ℕ) : Decidable (isMutating type) := inferInstanceAs (Decidable (_ ∨ _))

def enforceSyncLimit (yjs : Yjs D) (document : D) (payload : Bytes) (type : ℕ) (maxBytes : ℕ) :
    Except ResourceLimitError Unit :=
  rejectIf (isMutating type ∧ maxBytes < yjs.encodedLength document + payload.length)
    (resourceLimitError "Document resource limit exceeded")

theorem enforceDocumentLimit_doc {yjs : Yjs D} {document : D} {maxBytes : ℕ} :
    enforceDocumentLimit yjs (.inl document) maxBytes = .ok () ↔
      yjs.encodedLength document ≤ maxBytes := by
  simp only [enforceDocumentLimit, rejectIf_eq_ok, not_lt]

/-- What an admitted message satisfies. -/
theorem enforceSyncLimit_eq_ok {yjs : Yjs D} {document : D} {payload : Bytes} {type maxBytes : ℕ} :
    enforceSyncLimit yjs document payload type maxBytes = .ok () ↔
      (isMutating type → yjs.encodedLength document + payload.length ≤ maxBytes) := by
  simp only [enforceSyncLimit, rejectIf_eq_ok, not_and, not_lt]

end SocketServer.Collaboration
