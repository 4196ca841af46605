import SocketServer.Collaboration.Documents
import SocketServer.Collaboration.StorageRoundTrip
import SocketServer.Library.ItemSet

/-!
# Initialising a document twice

A document that has no canonical state yet is built from its title and its HTML whenever its room is
loaded.  Each build writes its items under client ids of its own, so two builds share no items, and
merging them, as happens when a client that kept its copy of the first meets the second, sets their
contents side by side: `initialised_twice_differs`.

Loads of a document with a canonical state return the same bytes every time, and merging the
documents they start changes nothing: `canonical_reload_same`.
-/

namespace SocketServer.Collaboration

open SocketServer.Text SocketServer.Js SocketServer.Checks SocketServer.ItemSet

variable {D : Type} {ν : Type} [DecidableEq ν]

/-- Applying the encoding of a document merges their items. -/
def Yjs.MergesItems (yjs : Yjs D) (items : D → ItemDoc ν) : Prop :=
  ∀ document other, items (yjs.applyUpdate document (yjs.encodeStateAsUpdate other)) =
    merge (items document) (items other)

/-- `toYdoc` writes the items of a content, which depend on the content alone, one after the other
under the client id of the new document; a document with a block has an item. -/
structure Tiptap.WritesItems (tiptap : Tiptap D) (items : D → ItemDoc ν)
    (values : JSONContent → List ν) : Prop where
  toYdoc : ∀ client content field, field = "title" ∨ field = "body" →
    items (tiptap.toYdoc client content field) = written client field (values content)
  block : ∀ type attrs marks blockType blockAttrs blockMarks content rest,
    values (.node type attrs marks (.node blockType blockAttrs blockMarks content :: rest)) ≠ []

/-- Two documents show the same title and the same body. -/
def SameContent (order : Arrangement ν) (items : D → ItemDoc ν) (a b : D) : Prop :=
  content order (items a) "title" = content order (items b) "title" ∧
    content order (items a) "body" = content order (items b) "body"

section

variable {runtime : Runtime} {yjs : Yjs D} {tiptap : Tiptap D} {storage : CoreAPIStorage}
  {items : D → ItemDoc ν} {values : JSONContent → List ν} {maxBytes : ℕ}

/-- What a load without canonical state returns. -/
theorem loadDocumentState_initialized {titleClient bodyClient : ℕ} {claims : DocumentTicketClaims}
    {fetch : Fetch} {title bodyHTML : JsString} {loaded : D ⊕ Bytes}
    (hstate : storage.load runtime (documentScope claims) fetch = .ok ⟨bodyHTML, [], title⟩)
    (h : loadDocumentState runtime yjs tiptap (some storage) titleClient bodyClient claims maxBytes
      fetch = .ok (some loaded)) :
    loaded = .inl (initializeDocument yjs tiptap titleClient bodyClient title bodyHTML) := by
  simp only [loadDocumentState, bind_eq_ok] at h
  obtain ⟨state, hload, _, -, hrest⟩ := h
  obtain rfl := Except.ok.inj (hstate.symm.trans hload)
  simp only [List.length_nil, Nat.lt_irrefl, if_false, bind_eq_ok] at hrest
  obtain ⟨_, -, hreturn⟩ := hrest
  cases hreturn
  rfl

/-- **The items of an initialised document**: nothing is deleted, and the title is what one client
wrote. -/
theorem initializeDocument_items (hmerges : yjs.MergesItems items)
    (hwrites : tiptap.WritesItems items values) (titleClient bodyClient : ℕ)
    (title bodyHTML : JsString) :
    (items (initializeDocument yjs tiptap titleClient bodyClient title bodyHTML)).deleted = ∅ ∧
      visible (items (initializeDocument yjs tiptap titleClient bodyClient title bodyHTML)) "title"
        = (written titleClient "title" (values (titleContent title))).items := by
  have htitle := hwrites.toYdoc titleClient (titleContent title) "title" (Or.inl rfl)
  by_cases hbody : bodyHTML = []
  · rw [initializeDocument, if_neg (not_not.mpr hbody), htitle]
    exact ⟨rfl, visible_written titleClient "title" _⟩
  · have hother := hwrites.toYdoc bodyClient (tiptap.generateJSON bodyHTML) "body" (Or.inr rfl)
    rw [initializeDocument, if_pos hbody, hmerges, htitle, hother]
    refine ⟨Finset.union_self _, ?_⟩
    rw [visible_merge rfl rfl, visible_written, visible_written_of_ne (by decide),
      Finset.union_empty]

/-- **Twice the title.**  Two initialised documents, merged, show every item of the title twice. -/
theorem merged_title_length (hmerges : yjs.MergesItems items)
    (hwrites : tiptap.WritesItems items values) (order : Arrangement ν)
    {titleClient titleClient' : ℕ} (hfresh : titleClient ≠ titleClient') (bodyClient bodyClient' : ℕ)
    (title bodyHTML : JsString) :
    (content order (merge
        (items (initializeDocument yjs tiptap titleClient bodyClient title bodyHTML))
        (items (initializeDocument yjs tiptap titleClient' bodyClient' title bodyHTML)))
        "title").length =
      2 * (values (titleContent title)).length := by
  obtain ⟨hdeleted, hvisible⟩ :=
    initializeDocument_items hmerges hwrites titleClient bodyClient title bodyHTML
  obtain ⟨hdeleted', hvisible'⟩ :=
    initializeDocument_items hmerges hwrites titleClient' bodyClient' title bodyHTML
  have hclients : ∀ x ∈ (written titleClient "title" (values (titleContent title))).items,
      ∀ y ∈ (written titleClient' "title" (values (titleContent title))).items,
        x.id.client ≠ y.id.client := by
    intro x hx y hy hsame
    rw [(mem_itemsFrom (List.mem_toFinset.mp hx)).1,
      (mem_itemsFrom (List.mem_toFinset.mp hy)).1] at hsame
    exact hfresh hsame
  rw [length_content, card_visible_merge hdeleted hdeleted' (by rwa [hvisible, hvisible']),
    hvisible, hvisible', card_written, card_written, Nat.two_mul]

theorem title_length (hmerges : yjs.MergesItems items) (hwrites : tiptap.WritesItems items values)
    (order : Arrangement ν) (titleClient bodyClient : ℕ) (title bodyHTML : JsString) :
    (content order (items (initializeDocument yjs tiptap titleClient bodyClient title bodyHTML))
      "title").length = (values (titleContent title)).length := by
  rw [length_content, (initializeDocument_items hmerges hwrites titleClient bodyClient title
    bodyHTML).2, card_written]

/-- **Two initialisations never agree.**  Whatever the stored title and HTML: merging the documents
of two loads without canonical state shows neither the content of the first nor that of the
second. -/
theorem initialised_twice_differs {titleClient bodyClient titleClient' bodyClient' : ℕ}
    {claims claims' : DocumentTicketClaims} {fetch fetch' : Fetch} {title bodyHTML : JsString}
    {first second : D} (order : Arrangement ν) (hmerges : yjs.MergesItems items)
    (hwrites : tiptap.WritesItems items values) (hfresh : titleClient ≠ titleClient')
    (hstate : storage.load runtime (documentScope claims) fetch = .ok ⟨bodyHTML, [], title⟩)
    (hstate' : storage.load runtime (documentScope claims') fetch' = .ok ⟨bodyHTML, [], title⟩)
    (hfirst : loadDocumentState runtime yjs tiptap (some storage) titleClient bodyClient claims
      maxBytes fetch = .ok (some (.inl first)))
    (hsecond : loadDocumentState runtime yjs tiptap (some storage) titleClient' bodyClient' claims'
      maxBytes fetch' = .ok (some (.inl second))) :
    ¬ SameContent order items (yjs.applyUpdate first (yjs.encodeStateAsUpdate second)) first ∧
      ¬ SameContent order items (yjs.applyUpdate first (yjs.encodeStateAsUpdate second)) second := by
  obtain rfl := Sum.inl.inj (loadDocumentState_initialized hstate hfirst)
  obtain rfl := Sum.inl.inj (loadDocumentState_initialized hstate' hsecond)
  have htwice := merged_title_length hmerges hwrites order hfresh bodyClient bodyClient' title
    bodyHTML
  have hpos : 0 < (values (titleContent title)).length :=
    List.length_pos_of_ne_nil (hwrites.block "doc" [] [] "paragraph" [] [] _ [])
  constructor
  · rintro ⟨hsame, -⟩
    have hlength := congrArg List.length hsame
    rw [hmerges, htwice, title_length hmerges hwrites] at hlength
    omega
  · rintro ⟨hsame, -⟩
    have hlength := congrArg List.length hsame
    rw [hmerges, htwice, title_length hmerges hwrites] at hlength
    omega

/-- **A canonical state is loaded the same every time.**  The documents that two loads start, from
one new document, agree and merge to themselves. -/
theorem canonical_reload_same {titleClient bodyClient titleClient' bodyClient' : ℕ}
    {claims claims' : DocumentTicketClaims} {fetch fetch' : Fetch} {state : StoredDocumentState}
    {first second : Bytes} (order : Arrangement ν) (hmerges : yjs.MergesItems items) (new : D)
    (hstate : storage.load runtime (documentScope claims) fetch = .ok state)
    (hstate' : storage.load runtime (documentScope claims') fetch' = .ok state)
    (hfirst : loadDocumentState runtime yjs tiptap (some storage) titleClient bodyClient claims
      maxBytes fetch = .ok (some (.inr first)))
    (hsecond : loadDocumentState runtime yjs tiptap (some storage) titleClient' bodyClient' claims'
      maxBytes fetch' = .ok (some (.inr second))) :
    first = second ∧
      SameContent order items (yjs.applyUpdate (yjs.applyUpdate new first)
        (yjs.encodeStateAsUpdate (yjs.applyUpdate new second))) (yjs.applyUpdate new first) := by
  have hcanonical : ∀ {t b : ℕ} {claims : DocumentTicketClaims} {fetch : Fetch} {bytes : Bytes},
      storage.load runtime (documentScope claims) fetch = .ok state →
      loadDocumentState runtime yjs tiptap (some storage) t b claims maxBytes fetch =
        .ok (some (.inr bytes)) → bytes = state.canonicalState := by
    intro t b claims fetch bytes hstate h
    simp only [loadDocumentState, bind_eq_ok] at h
    obtain ⟨state', hload, _, -, hrest⟩ := h
    obtain rfl := Except.ok.inj (hstate.symm.trans hload)
    split at hrest
    · cases hrest
      rfl
    · simp only [bind_eq_ok] at hrest
      obtain ⟨_, -, hreturn⟩ := hrest
      cases hreturn
  obtain rfl := hcanonical hstate hfirst
  obtain rfl := hcanonical hstate' hsecond
  refine ⟨rfl, ?_⟩
  rw [SameContent, hmerges, merge_self]
  exact ⟨rfl, rfl⟩

end

/-! ### The title "A" -/

/-- An item of a sample document. -/
structure SampleItem where
  client : ℕ
  clock : ℕ
  inTitle : Bool
  value : ℕ
  deriving DecidableEq

def SampleItem.item (i : SampleItem) : Item ℕ :=
  ⟨⟨i.client, i.clock⟩, if i.inTitle then "title" else "body", i.value⟩

def sampleItems (document : List SampleItem) : ItemDoc ℕ :=
  ⟨(document.map SampleItem.item).toFinset, ∅⟩

/-- A number in unary, ended by a zero. -/
def encodeNumber (n : ℕ) : Bytes := List.replicate n 1 ++ [0]

/-- The numbers of an encoding; `n` has been read of the next one. -/
def decodeNumbers (n : ℕ) : Bytes → List ℕ
  | [] => []
  | b :: rest => if b = 0 then n :: decodeNumbers 0 rest else decodeNumbers (n + 1) rest

def SampleItem.encode (i : SampleItem) : Bytes :=
  encodeNumber i.client ++ encodeNumber i.clock ++ encodeNumber (if i.inTitle then 1 else 0) ++
    encodeNumber i.value

def groupItems : List ℕ → List SampleItem
  | client :: clock :: title :: value :: rest =>
      ⟨client, clock, decide (title = 1), value⟩ :: groupItems rest
  | _ => []

def sampleYjs : Yjs (List SampleItem) where
  encodeStateAsUpdate document := document.flatMap SampleItem.encode
  applyUpdate document update := document ++ groupItems (decodeNumbers 0 update)

/-- The items of a node: an element or a text node is one item, and so is each code unit of a
text. -/
def nodeValues : JSONContent → List ℕ
  | .text s _ => 1 :: s.map fun u => u.toNat + 2
  | .node _ _ _ content => 0 :: below content
where
  below : List JSONContent → List ℕ
    | [] => []
    | child :: rest => nodeValues child ++ below rest

/-- The items of a content: those of its nodes below the root. -/
def sampleValues : JSONContent → List ℕ
  | .text s marks => nodeValues (.text s marks)
  | .node _ _ _ content => nodeValues.below content

def sampleWrite (client : ℕ) (inTitle : Bool) : ℕ → List ℕ → List SampleItem
  | _, [] => []
  | clock, v :: rest => ⟨client, clock, inTitle, v⟩ :: sampleWrite client inTitle (clock + 1) rest

def sampleTiptap : Tiptap (List SampleItem) where
  toYdoc client content field :=
    sampleWrite client (decide (field = "title")) 0 (sampleValues content)
  fromYdoc _ _ := none
  generateJSON html :=
    if html = js "<p>B</p>" then .bare "doc" [.bare "paragraph" [.text (js "B") []]]
    else emptyDocument
  generateText _ := []
  generateHTML _ := []

theorem decodeNumbers_encode (n k : ℕ) (rest : Bytes) :
    decodeNumbers k (encodeNumber n ++ rest) = (k + n) :: decodeNumbers 0 rest := by
  induction n generalizing k with
  | zero => rfl
  | succ n ih =>
      have hone : ¬ ((1 : UInt8) = 0) := by decide
      show decodeNumbers k (1 :: (encodeNumber n ++ rest)) = _
      rw [decodeNumbers, if_neg hone, ih]
      congr 1
      omega

theorem decode_sample (document : List SampleItem) :
    groupItems (decodeNumbers 0 (sampleYjs.encodeStateAsUpdate document)) = document := by
  show groupItems (decodeNumbers 0 (document.flatMap SampleItem.encode)) = document
  induction document with
  | nil => rfl
  | cons i rest ih =>
      obtain ⟨client, clock, inTitle, value⟩ := i
      simp only [List.flatMap_cons, SampleItem.encode, List.append_assoc, decodeNumbers_encode,
        Nat.zero_add, groupItems, ih]
      cases inTitle <;> rfl

theorem sampleYjs_merges : sampleYjs.MergesItems sampleItems := by
  intro document other
  show sampleItems (document ++ groupItems _) = _
  rw [decode_sample]
  simp [sampleItems, merge, List.toFinset_append]

theorem sampleTiptap_writes : sampleTiptap.WritesItems sampleItems sampleValues where
  toYdoc client content field hfield := by
    have hwrite : ∀ clock values,
        (sampleWrite client (decide (field = "title")) clock values).map SampleItem.item =
          itemsFrom client field clock values := by
      intro clock values
      induction values generalizing clock with
      | nil => rfl
      | cons v rest ih =>
          rw [sampleWrite, List.map_cons, ih, itemsFrom]
          rcases hfield with rfl | rfl <;> rfl
    show sampleItems (sampleWrite client _ 0 (sampleValues content)) = _
    rw [sampleItems, hwrite, written]
  block _ _ _ _ _ _ content rest := by
    simp [sampleValues, nodeValues.below, nodeValues]

/-- The document has been created with a title and some HTML, and nobody has edited it. -/
def createdMembers : List (JsString × JsString) := storedMembers [] ⟨js "<p>B</p>", js "A"⟩

def createdRuntime : Runtime :=
  { storageRuntime with
    jsonParse := fun text =>
      if text = utf16 (stringifyObject createdMembers) then
        some (storedValue [] ⟨js "<p>B</p>", js "A"⟩)
      else none }

def createdFetch : Fetch := fun _ =>
  .ok ⟨200, none, some [utf8 (stringifyObject createdMembers)]⟩

/-- Two loads of the sample document, under the default configuration. -/
def loadTwice : Except String (CoreAPIStorage × StoredDocumentState ×
    Option (List SampleItem ⊕ Bytes) × Option (List SampleItem ⊕ Bytes)) := do
  let config ← loadConfig fun _ => none
  let storage ← CoreAPIStorage.new createdRuntime (storageConfig config)
  let state ← storage.load createdRuntime (documentScope sampleClaims) createdFetch
  let first ← loadDocumentState createdRuntime sampleYjs sampleTiptap (some storage) 1 2
    sampleClaims 1000 createdFetch
  let second ← loadDocumentState createdRuntime sampleYjs sampleTiptap (some storage) 3 4
    sampleClaims 1000 createdFetch
  return (storage, state, first, second)

/-- The sample document as the clients `titleClient` and `bodyClient` build it. -/
def builtBy (titleClient bodyClient : ℕ) : List SampleItem :=
  [⟨titleClient, 0, true, 0⟩, ⟨titleClient, 1, true, 1⟩, ⟨titleClient, 2, true, 67⟩,
    ⟨bodyClient, 0, false, 0⟩, ⟨bodyClient, 1, false, 1⟩, ⟨bodyClient, 2, false, 68⟩]

theorem loadTwice_state :
    loadTwice.map (·.2.1) = .ok ⟨js "<p>B</p>", [], js "A"⟩ := by
  decide +kernel

theorem loadTwice_documents :
    loadTwice.map (·.2.2) = .ok (some (.inl (builtBy 1 2)), some (.inl (builtBy 3 4))) := by
  decide +kernel

/-- What the two loads return. -/
theorem loadTwice_eq : ∃ storage : CoreAPIStorage,
    storage.load createdRuntime (documentScope sampleClaims) createdFetch =
        .ok ⟨js "<p>B</p>", [], js "A"⟩ ∧
      loadDocumentState createdRuntime sampleYjs sampleTiptap (some storage) 1 2 sampleClaims 1000
        createdFetch = .ok (some (.inl (builtBy 1 2))) ∧
      loadDocumentState createdRuntime sampleYjs sampleTiptap (some storage) 3 4 sampleClaims 1000
        createdFetch = .ok (some (.inl (builtBy 3 4))) := by
  obtain ⟨⟨storage, state, first, second⟩, hrun, hstate⟩ := map_eq_ok.mp loadTwice_state
  have hdocuments := loadTwice_documents
  rw [hrun] at hdocuments
  simp only [loadTwice, bind_eq_ok] at hrun
  obtain ⟨config, -, storage', -, state', hload, first', hfirst, second', hsecond, hreturn⟩ := hrun
  cases hreturn
  cases hstate
  cases hdocuments
  exact ⟨storage, hload, hfirst, hsecond⟩

theorem initialised_twice_differs_sample : ∃ storage : CoreAPIStorage,
    storage.load createdRuntime (documentScope sampleClaims) createdFetch =
        .ok ⟨js "<p>B</p>", [], js "A"⟩ ∧
      ¬ SameContent (byId ℕ) sampleItems (sampleYjs.applyUpdate (builtBy 1 2)
        (sampleYjs.encodeStateAsUpdate (builtBy 3 4))) (builtBy 1 2) := by
  obtain ⟨storage, hstate, hfirst, hsecond⟩ := loadTwice_eq
  exact ⟨storage, hstate, (initialised_twice_differs (byId ℕ) sampleYjs_merges
    sampleTiptap_writes (by decide) hstate hstate hfirst hsecond).1⟩

/-- **The title "A" is shown twice.** -/
theorem title_duplicated : ∃ storage : CoreAPIStorage,
    storage.load createdRuntime (documentScope sampleClaims) createdFetch =
        .ok ⟨js "<p>B</p>", [], js "A"⟩ ∧
      loadDocumentState createdRuntime sampleYjs sampleTiptap (some storage) 1 2 sampleClaims 1000
        createdFetch = .ok (some (.inl (builtBy 1 2))) ∧
      loadDocumentState createdRuntime sampleYjs sampleTiptap (some storage) 3 4 sampleClaims 1000
        createdFetch = .ok (some (.inl (builtBy 3 4))) ∧
      ¬ SameContent (byId ℕ) sampleItems (sampleYjs.applyUpdate (builtBy 1 2)
        (sampleYjs.encodeStateAsUpdate (builtBy 3 4))) (builtBy 1 2) ∧
      ¬ SameContent (byId ℕ) sampleItems (sampleYjs.applyUpdate (builtBy 1 2)
        (sampleYjs.encodeStateAsUpdate (builtBy 3 4))) (builtBy 3 4) := by
  obtain ⟨storage, hstate, hfirst, hsecond⟩ := loadTwice_eq
  have hmerged : (content (byId ℕ) (sampleItems (sampleYjs.applyUpdate (builtBy 1 2)
      (sampleYjs.encodeStateAsUpdate (builtBy 3 4)))) "title").length = 6 := by
    rw [length_content]
    decide +kernel
  have halone : ∀ document ∈ [builtBy 1 2, builtBy 3 4],
      (content (byId ℕ) (sampleItems document) "title").length = 3 := by
    intro document hmem
    rw [length_content]
    revert document
    decide +kernel
  refine ⟨storage, hstate, hfirst, hsecond, ?_, ?_⟩
  · rintro ⟨hsame, -⟩
    rw [hsame, halone _ (by simp)] at hmerged
    cases hmerged
  · rintro ⟨hsame, -⟩
    rw [hsame, halone _ (by simp)] at hmerged
    cases hmerged

end SocketServer.Collaboration
