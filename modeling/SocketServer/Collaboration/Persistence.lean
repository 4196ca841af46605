import SocketServer.Collaboration.Presence
import SocketServer.Collaboration.StorageRoundTrip
import SocketServer.Library.LiveCopies
import SocketServer.Library.Refinement

/-!
# What is stored stays stored

A document is the set of the changes made to it.  The server keeps a live copy of a document while
its room is open, and core-api the saved one: with the JSON, the base64 and the URLs in between, the
server is a store with live copies (`LiveCopies`), keyed by document name.

* `received_changes`: a room is opened with exactly what was saved, or with what was initialised;
* `keep_saved`: a PUT that is recorded saves the changes it carries, of its room only;
* `copies_move`: every step is a run of the store with live copies;
* `stored_changes_survive`: no orderly run takes back a change that was stored;
* `changes_traced`: no change comes from another document's sessions, in any run.
-/

namespace SocketServer.Collaboration

open SocketServer.Text SocketServer.Js SocketServer.Checks SocketServer.LiveCopies

variable {D : Type} {μ : Type*}

/-! ### Documents as sets of changes -/

/-- An update adds the changes it carries, and a document's encoding, which is never empty, carries
all of the document's. -/
structure Yjs.Accumulates (yjs : Yjs D) (new : D) (changes : D → Set μ)
    (carried : Bytes → Set μ) : Prop where
  new : changes new = ∅
  apply : ∀ document update,
    changes (yjs.applyUpdate document update) = changes document ∪ carried update
  encode : ∀ document, carried (yjs.encodeStateAsUpdate document) = changes document
  nonempty : ∀ document, yjs.encodeStateAsUpdate document ≠ []

/-- What the results rely on: Yjs accumulates changes, and `JSON.parse` reads back what
`JSON.stringify` wrote. -/
structure EditingServices.Lawful (services : EditingServices D) (changes : D → Set μ)
    (carried : Bytes → Set μ) : Prop where
  yjs : services.yjs.Accumulates services.new changes carried
  jsonParse : ∀ state projections,
    services.runtime.jsonParse (utf16 (stringifyObject (storedMembers state projections))) =
      some (storedValue state projections)

theorem toBase64_injective : Function.Injective toBase64 := by
  intro a b h
  have hdecoded := congrArg Base64.decode h
  rwa [toBase64, toBase64, Base64.decode_encode Base64.readable_standard,
    Base64.decode_encode Base64.readable_standard] at hdecoded

/-! ### Names and URLs -/

/-- A room is named by UUIDs and has the given document name. -/
structure DocumentRoom.Named (room : DocumentRoom) (name : JsString) : Prop where
  organization : validUUID room.organizationId = true
  team : validUUID room.teamId = true
  document : validUUID room.documentId = true
  name : documentRoomName room = name

theorem AdmittedSession.room_named (session : AdmittedSession) :
    session.context.room.Named session.documentName :=
  ⟨session.organization, session.team, session.document, session.named⟩

/-- The identifiers of such a room hold no separator. -/
theorem DocumentRoom.Named.separatorFree {room : DocumentRoom} {name : JsString}
    (h : room.Named name) : room.ColonFree ∧
      ∀ part ∈ [room.organizationId, room.teamId, room.documentId], unit '/' ∉ part := by
  have hspec : ∀ part ∈ [room.organizationId, room.teamId, room.documentId],
      unit ':' ∉ part ∧ unit '/' ∉ part := by
    intro part hpart
    simp only [List.mem_cons, List.not_mem_nil, or_false] at hpart
    rcases hpart with rfl | rfl | rfl
    · exact (validUUID_spec h.organization).2
    · exact (validUUID_spec h.team).2
    · exact (validUUID_spec h.document).2
  exact ⟨fun part hpart => (hspec part hpart).1, fun part hpart => (hspec part hpart).2⟩

/-- A name is that of one room. -/
theorem DocumentRoom.Named.eq {room other : DocumentRoom} {name : JsString} (h : room.Named name)
    (hother : other.Named name) : other = room :=
  (documentRoomName_eq_iff h.separatorFree.1).mp (hother.name.trans h.name.symm)

/-- A URL is that of one name. -/
theorem DocumentRoom.Named.name_of_url {storage : CoreAPIStorage} {room other : DocumentRoom}
    {name name' : JsString} (h : room.Named name) (hother : other.Named name')
    (hurl : stateURL storage room = stateURL storage other) : name = name' := by
  obtain rfl := (pathSegments_injective h.separatorFree.2 hother.separatorFree.2).mp
    (List.append_cancel_left hurl)
  exact h.name.symm.trans hother.name

/-- The URL of the requests for a session's document. -/
theorem request_url {storage : CoreAPIStorage} {session : AdmittedSession} {method : Method}
    {contentType body : Option JsString} {request : Request}
    (h : storage.request (documentScope session.context) method contentType body = .ok request) :
    request.url = stateURL storage session.context.room ∧ request.body = body := by
  unfold CoreAPIStorage.request at h
  rw [statePath_eq_some session.organization session.team session.document] at h
  cases h
  exact ⟨rfl, rfl⟩

/-! ### What is saved -/

section

variable (services : EditingServices D) (changes : D → Set μ) (carried : Bytes → Set μ)

/-- The changes of a canonical state. -/
def savedChanges (fields : StateFields) : Set μ :=
  {x | ∃ state, state ≠ [] ∧ fields.canonicalState = toBase64 state ∧ x ∈ carried state}

/-- The changes that core-api has of the document of a name. -/
def EditingState.saved (s : EditingState D) (name : JsString) : Set μ :=
  {x | ∃ storage room fields, services.storage = some storage ∧ room.Named name ∧
    s.stored (stateURL storage room) = some fields ∧ x ∈ savedChanges carried fields}

/-- The write that a PUT is. -/
def Put.write (put : Put D) : Write JsString μ :=
  ⟨put.session.documentName, changes put.document, put.recorded, put.ended⟩

/-- The server as a store with live copies. -/
def EditingState.copies (s : EditingState D) : Copies JsString μ where
  saved := s.saved services carried
  live name := (s.rooms name).map fun room => changes room.document
  writes := s.puts.map (Put.write changes)

/-- A PUT carries the document that its store encoded. -/
def EditingState.Issued (s : EditingState D) : Prop :=
  ∀ put ∈ s.puts, ∃ storage, services.storage = some storage ∧
    storeDocumentRequest services.runtime services.yjs services.tiptap storage
      put.session.context put.document services.maxDocumentBytes = .ok put.request

/-- What is initialised for a room that has no canonical state. -/
def initialised : Option (D ⊕ Bytes) → Set μ
  | none => ∅
  | some (.inl document) => changes document
  | some (.inr _) => ∅

/-- The steps that an operation on a document comes from. -/
def Emits (s : EditingState D) (a : EditingAction) : Op JsString μ → Prop
  | .make name seed => ∃ i titleClient bodyClient reply session loaded,
      a = .load i titleClient bodyClient reply ∧ s.sessions i = some session ∧
      session.documentName = name ∧
      loadDocumentState services.runtime services.yjs services.tiptap services.storage titleClient
        bodyClient session.context services.maxDocumentBytes (fun _ => reply) = .ok loaded ∧
      seed = initialised changes loaded
  | .join name more => ∃ k sync, a = .apply k ∧ s.checked k = some sync ∧
      sync.session.documentName = name ∧ isMutating sync.type ∧ more = carried sync.payload
  | .drop name => a = .unload name
  | .write name => ∃ n session, a = .store n (some false) ∧ s.admitted[n]? = some session ∧
      session.documentName = name
  | .land k => a = .record k
  | .finish k => ∃ reply, a = .reply k reply

end

section

variable {services : EditingServices D} {changes : D → Set μ} {carried : Bytes → Set μ}
  {s t : EditingState D}

theorem mem_savedChanges {fields : StateFields} {state : Bytes}
    (h : fields.canonicalState = toBase64 state) {x : μ} :
    x ∈ savedChanges carried fields ↔ state ≠ [] ∧ x ∈ carried state := by
  constructor
  · rintro ⟨other, hne, hother, hx⟩
    obtain rfl := toBase64_injective (hother.symm.trans h)
    exact ⟨hne, hx⟩
  · rintro ⟨hne, hx⟩
    exact ⟨state, hne, h, hx⟩

/-- What is saved under the name of a room is what is stored at its URL. -/
theorem mem_saved {storage : CoreAPIStorage} (hstorage : services.storage = some storage)
    {room : DocumentRoom} {name : JsString} (hroom : room.Named name) {x : μ} :
    x ∈ s.saved services carried name ↔
      ∃ fields, s.stored (stateURL storage room) = some fields ∧
        x ∈ savedChanges carried fields := by
  constructor
  · rintro ⟨storage', room', fields, hstorage', hroom', hstored, hx⟩
    obtain rfl := Option.some.inj (hstorage.symm.trans hstorage')
    obtain rfl := hroom.eq hroom'
    exact ⟨fields, hstored, hx⟩
  · rintro ⟨fields, hstored, hx⟩
    exact ⟨storage, room, fields, hstorage, hroom, hstored, hx⟩

/-- A success with a JSON body is what core-api has. -/
theorem answers_ok {runtime : Runtime} {fields : Option StateFields}
    {reply : Except String Response} (h : answers runtime fields reply = true)
    {request : Request} {response : Response} (hsend : send (fun _ => reply) request = .ok response)
    {maxBytes : ℕ} {payload : Json} (hread : readBoundedJSON runtime response maxBytes = .ok payload)
    {read : JsString × JsString × JsString} (hpayload : documentStateResponse payload = some read) :
    fields = some ⟨read.1, read.2.1, read.2.2⟩ := by
  simp only [send, bind_eq_ok, rejectIf_eq_ok] at hsend
  obtain ⟨response', hreply, _, hstatus, hreturn⟩ := hsend
  cases hreturn
  rw [hreply] at h
  simp only [answers, if_neg hstatus] at h
  split at h
  · rename_i chunks f hbody
    rw [readBoundedJSON_eq runtime hbody, readWhole_eq_ok] at hread
    rw [decide_eq_true_eq, fieldsOf, hread.2.2, Option.bind_some, hpayload] at h
    rw [← Option.some.inj h]
  · cases h

/-- **A room is opened with what was saved**, or with what was initialised. -/
theorem received_changes (hlaw : services.Lawful changes carried) {session : AdmittedSession}
    {titleClient bodyClient : ℕ} {reply : Except String Response} {loaded : Option (D ⊕ Bytes)}
    (hanswers : answers services.runtime (services.storage.bind fun storage =>
      s.stored (stateURL storage session.context.room)) reply = true)
    (h : loadDocumentState services.runtime services.yjs services.tiptap services.storage
      titleClient bodyClient session.context services.maxDocumentBytes (fun _ => reply) =
        .ok loaded) :
    changes (received services loaded) =
      s.saved services carried session.documentName ∪ initialised changes loaded := by
  cases hstorage : services.storage with
  | none =>
      rw [hstorage] at h
      cases h
      have hsaved : s.saved services carried session.documentName = ∅ := by
        refine Set.eq_empty_iff_forall_notMem.mpr ?_
        rintro x ⟨storage, -, -, hsome, -⟩
        rw [hstorage] at hsome
        cases hsome
      rw [received, hlaw.yjs.new, hsaved, initialised, Set.union_self]
  | some storage =>
      rw [hstorage] at h hanswers
      simp only [loadDocumentState, bind_eq_ok] at h
      obtain ⟨state, hload, _, -, hrest⟩ := h
      unfold CoreAPIStorage.load at hload
      simp only [bind_eq_ok, require_eq_ok] at hload
      obtain ⟨request, -, response, hsend, payload, hread, ⟨bodyHTML, canonical, title⟩, hpayload, _,
        -, bytes, hbytes, _, -, hstate⟩ := hload
      cases hstate
      have hfields := answers_ok hanswers hsend hread hpayload
      have hcanonical := (decodeCanonicalBase64_eq_ok hbytes).1
      have hsaved : ∀ x, x ∈ s.saved services carried session.documentName ↔
          bytes ≠ [] ∧ x ∈ carried bytes := by
        intro x
        rw [mem_saved hstorage session.room_named]
        constructor
        · rintro ⟨fields, hstored, hx⟩
          obtain rfl := Option.some.inj (hfields.symm.trans hstored)
          exact (mem_savedChanges hcanonical).mp hx
        · intro hx
          exact ⟨_, hfields, (mem_savedChanges hcanonical).mpr hx⟩
      ext x
      rw [Set.mem_union, hsaved]
      split at hrest
      · -- there is a canonical state
        rename_i hpos
        cases hrest
        have hne : bytes ≠ [] := List.ne_nil_of_length_pos hpos
        rw [received, hlaw.yjs.apply, hlaw.yjs.new, Set.empty_union, initialised]
        simp [hne]
      · -- the document is built from the projections
        rename_i hzero
        obtain ⟨_, -, hreturn⟩ := bind_eq_ok.mp hrest
        cases hreturn
        have hnil : bytes = [] := by
          by_contra hne
          exact hzero (List.length_pos_of_ne_nil hne)
        rw [received, hlaw.yjs.apply, hlaw.yjs.new, hlaw.yjs.encode, Set.empty_union, initialised]
        simp [hnil]

/-- **A PUT that is recorded saves the changes it carries**, and touches no other document. -/
theorem keep_saved (hlaw : services.Lawful changes carried) {storage : CoreAPIStorage}
    (hstorage : services.storage = some storage) {session : AdmittedSession} {document : D}
    {request : Request} {fields : StateFields}
    (hrequest : storeDocumentRequest services.runtime services.yjs services.tiptap storage
      session.context document services.maxDocumentBytes = .ok request)
    (hfields : request.body.bind (fieldsOf services.runtime) = some fields) :
    (s.keep request.url fields).saved services carried =
      Function.update (s.saved services carried) session.documentName (changes document) := by
  simp only [storeDocumentRequest, CoreAPIStorage.put, bind_eq_ok] at hrequest
  obtain ⟨_, -, _, -, _, -, _, -, hput⟩ := hrequest
  obtain ⟨hurl, hbody⟩ := request_url hput
  rw [hbody, Option.bind_some, fieldsOf, hlaw.jsonParse, Option.bind_some,
    documentStateResponse_storedValue] at hfields
  have hcanonical : fields.canonicalState =
      toBase64 (services.yjs.encodeStateAsUpdate document) := by
    rw [← Option.some.inj hfields]
  funext name
  by_cases hname : name = session.documentName
  · subst hname
    rw [Function.update_self]
    ext x
    rw [mem_saved hstorage session.room_named]
    simp only [EditingState.keep, hurl, Function.update_self]
    constructor
    · rintro ⟨_, ⟨⟩, hx⟩
      exact hlaw.yjs.encode document ▸ ((mem_savedChanges hcanonical).mp hx).2
    · intro hx
      refine ⟨fields, rfl, (mem_savedChanges hcanonical).mpr ⟨hlaw.yjs.nonempty document, ?_⟩⟩
      rwa [hlaw.yjs.encode document]
  · rw [Function.update_of_ne hname]
    ext x
    constructor
    · rintro ⟨storage', room, fields, hstorage', hroom, hstored, hx⟩
      obtain rfl := Option.some.inj (hstorage.symm.trans hstorage')
      have hne : stateURL storage room ≠ request.url := fun heq =>
        hname (hroom.name_of_url session.room_named (heq.trans hurl))
      exact ⟨storage, room, fields, hstorage, hroom,
        (Function.update_of_ne hne _ _).symm.trans hstored, hx⟩
    · rintro ⟨storage', room, fields, hstorage', hroom, hstored, hx⟩
      obtain rfl := Option.some.inj (hstorage.symm.trans hstorage')
      have hne : stateURL storage room ≠ request.url := fun heq =>
        hname (hroom.name_of_url session.room_named (heq.trans hurl))
      exact ⟨storage, room, fields, hstorage, hroom,
        (Function.update_of_ne hne _ _).trans hstored, hx⟩

/-! ### The refinement -/

theorem copies_setRoom (name : JsString) (room : Option (OpenRoom D)) :
    (s.setRoom name room).copies services changes carried =
      (s.copies services changes carried).setLive name (room.map fun room => changes room.document) := by
  refine congrArg (Copies.mk _ · _) (funext fun other => ?_)
  by_cases hother : other = name
  · subst hother
    rw [EditingState.setRoom_self, Function.update_self]
  · rw [EditingState.setRoom_of_ne hother, Function.update_of_ne hother]
    rfl

/-- A room whose document is as it was. -/
theorem copies_setRoom_same {name : JsString} {room new : OpenRoom D}
    (hroom : s.rooms name = some room) (hsame : new.document = room.document) :
    (s.setRoom name (some new)).copies services changes carried =
      s.copies services changes carried := by
  rw [copies_setRoom, Option.map_some, hsame]
  refine congrArg (Copies.mk _ · _) (Function.update_eq_self_iff.mpr ?_)
  show some (changes room.document) = (s.rooms name).map _
  rw [hroom, Option.map_some]

theorem copies_setPut (k : ℕ) (put : Put D) :
    (s.setPut k put).copies services changes carried =
      (s.copies services changes carried).setWrite k (put.write changes) :=
  congrArg (Copies.mk _ _) List.map_set

theorem copies_write {k : ℕ} {put : Put D} (hk : s.puts[k]? = some put) :
    (s.copies services changes carried).writes[k]? = some (put.write changes) := by
  show (s.puts.map _)[k]? = _
  rw [List.getElem?_map, hk, Option.map_some]

theorem EditingState.Settled.quiet {name : JsString} (h : s.Settled name) :
    (s.copies services changes carried).Quiet name := by
  intro w hw hkey
  obtain ⟨put, hput, rfl⟩ := List.mem_map.mp hw
  exact h put hput hkey

/-- The copy of an open room. -/
theorem copies_live {name : JsString} {room : OpenRoom D} (hroom : s.rooms name = some room) :
    (s.copies services changes carried).live name = some (changes room.document) := by
  show (s.rooms name).map _ = _
  rw [hroom, Option.map_some]

/-- **Every step is a run of the store with live copies.** -/
theorem copies_move (hlaw : services.Lawful changes carried) (hissued : s.Issued services)
    {a : EditingAction} (h : EditingMove services s a t) :
    Runs.StepRefined LiveCopies.step (EditingState.copies services changes carried)
      (Emits services changes carried) Orderly LiveCopies.Orderly s a t := by
  cases h with
  | @loaded i titleClient bodyClient reply session loaded hi hroom hanswers hload =>
      refine Runs.StepRefined.one (.make session.documentName (initialised changes loaded)) ?_
        ⟨i, titleClient, bodyClient, reply, session, loaded, rfl, hi, rfl, hload, rfl⟩
        fun _ => trivial
      have hnone : (s.copies services changes carried).live session.documentName = none := by
        show (s.rooms session.documentName).map _ = none
        rw [hroom, Option.map_none]
      rw [copies_setRoom, Option.map_some, received_changes hlaw hanswers hload, LiveCopies.step,
        hnone]
      rfl
  | @applied k sync room hk hroom htype =>
      refine Runs.StepRefined.one (.join sync.session.documentName (carried sync.payload)) ?_
        ⟨k, sync, rfl, hk, rfl, htype, rfl⟩ fun _ => trivial
      rw [copies_setRoom, Option.map_some, hlaw.yjs.apply, LiveCopies.step, copies_live hroom,
        Option.map_some]
      rfl
  | @shown i states states' newer session room hi hroom hstates =>
      exact Runs.StepRefined.none (copies_setRoom_same hroom rfl)
  | @forgotten name client room hroom => exact Runs.StepRefined.none (copies_setRoom_same hroom rfl)
  | @issued n session room storage request hn hroom hstorage hrequest =>
      refine Runs.StepRefined.one (.write session.documentName) ?_ ⟨n, session, rfl, hn, rfl⟩
        fun horderly => (horderly session hn).quiet
      rw [LiveCopies.step, copies_live hroom, Option.map_some]
      refine congrArg some (congrArg (Copies.mk _ _) ?_)
      show s.puts.map _ ++ [_] = (s.puts ++ [_]).map _
      rw [List.map_append]
      rfl
  | @recorded k put fields hk hfields =>
      refine Runs.StepRefined.one (.land k) ?_ rfl fun horderly w hw => ?_
      · obtain ⟨storage, hstorage, hrequest⟩ := hissued put (List.mem_of_getElem? hk)
        have hkept : (s.keep put.request.url fields).copies services changes carried =
            (s.copies services changes carried).setSaved put.session.documentName
              (changes put.document) :=
          congrArg (Copies.mk · _ _) (keep_saved hlaw hstorage hrequest hfields)
        rw [LiveCopies.step, copies_write hk, Option.map_some, copies_setPut, hkept]
        rfl
      · rw [copies_write hk] at hw
        cases hw
        exact horderly put hk
  | @replied k reply put hk hreply =>
      refine Runs.StepRefined.one (.finish k) ?_ ⟨reply, rfl⟩ fun _ => trivial
      rw [LiveCopies.step, copies_write hk, Option.map_some, copies_setPut]
      rfl
  | @unloaded name =>
      refine Runs.StepRefined.one (.drop name) ?_ rfl fun horderly =>
        EditingState.Settled.quiet horderly
      rw [copies_setRoom, Option.map_none]
      rfl
  | joined hsession => exact Runs.StepRefined.none rfl
  | checked hi => exact Runs.StepRefined.none rfl
  | taken => exact Runs.StepRefined.none rfl
  | closed i => exact Runs.StepRefined.none rfl
  | terminated => exact Runs.StepRefined.none rfl
  | unchanged => exact Runs.StepRefined.none rfl

/-- PUTs are issued by stores only. -/
theorem issued_move {a : EditingAction} (h : s.Issued services)
    (hmove : EditingMove services s a t) : t.Issued services := by
  have hset : ∀ {k : ℕ} {put put' : Put D}, s.puts[k]? = some put →
      put'.session = put.session → put'.document = put.document → put'.request = put.request →
      (s.setPut k put').Issued services := by
    intro k put put' hk hsession hdocument hrequest other hother
    obtain hold | rfl := List.mem_or_eq_of_mem_set hother
    · exact h other hold
    · rw [hsession, hdocument, hrequest]
      exact h put (List.mem_of_getElem? hk)
  cases hmove with
  | issued hn hroom hstorage hrequest =>
      intro put hput
      obtain hold | hnew := List.mem_append.mp hput
      · exact h put hold
      · obtain rfl := List.mem_singleton.mp hnew
        exact ⟨_, hstorage, hrequest⟩
  | recorded hk hfields => exact hset hk rfl rfl rfl
  | replied hk hreply => exact hset hk rfl rfl rfl
  | _ => exact h

theorem issued_initial (stored : JsString → Option StateFields) :
    (EditingState.initial stored : EditingState D).Issued services :=
  fun _ hput => absurd hput List.not_mem_nil

theorem issued_run {stored : JsString → Option StateFields} {as : List EditingAction}
    (h : Runs.run (editingStep services) (.initial stored) as = some s) : s.Issued services :=
  Runs.invariant_run (editingStep services)
    (fun _ _ _ hs hstep => issued_move hs (editingMove hstep))
    (issued_initial stored) h

/-- **A run of the server is a run of the store with live copies.** -/
theorem copies_run (hlaw : services.Lawful changes carried) {as : List EditingAction}
    (hissued : s.Issued services) (h : Runs.run (editingStep services) s as = some t) :
    ∃ ops, Runs.run LiveCopies.step (s.copies services changes carried) ops =
        some (t.copies services changes carried) ∧
      (∀ op ∈ ops, ∃ pre a post u, as = pre ++ a :: post ∧
        Runs.run (editingStep services) s pre = some u ∧ Emits services changes carried u a op) ∧
      (Runs.Meets (editingStep services) Orderly s as →
        Runs.Meets LiveCopies.step LiveCopies.Orderly (s.copies services changes carried) ops) :=
  Runs.run_refined (fun _ _ _ hs hstep => issued_move hs (editingMove hstep))
    (fun _ _ _ hs hstep => copies_move hlaw hs (editingMove hstep)) hissued h

/-- In every state that an orderly run reaches, what is saved of a document is in its open room. -/
theorem covered_run (hlaw : services.Lawful changes carried)
    {stored : JsString → Option StateFields} {as : List EditingAction}
    (h : Runs.run (editingStep services) (.initial stored) as = some s)
    (horderly : Runs.Meets (editingStep services) Orderly (.initial stored) as) :
    (s.copies services changes carried).Covered := by
  obtain ⟨ops, hops, -, hmeets⟩ := copies_run hlaw (issued_initial stored) h
  refine (saved_mono ⟨?_, ?_, ?_, ?_⟩ (hmeets horderly) hops).1
  · intro name copy hcopy
    cases hcopy
  · intro i w hi
    cases hi
  · intro i j w v hi
    cases hi
  · intro i w hi
    cases hi

/-! ### Nothing stored is lost -/

/-- A store that the hook reports as done was recorded. -/
theorem recorded_of_done {k : ℕ} {reply : Except String Response} {put : Put D}
    (hissued : s.Issued services) (hstep : editingStep services s (.reply k reply) = some t)
    (hk : s.puts[k]? = some put) (hdone : onStoreDocument services (some false)
      put.session.context put.document (fun _ => reply) = .ok ()) : put.recorded = true := by
  obtain ⟨storage, hstorage, hrequest⟩ := hissued put (List.mem_of_getElem? hk)
  simp only [onStoreDocument, mapError_eq_ok, storeDocumentState, hstorage, bind_eq_ok] at hdone
  obtain ⟨request, hsame, response, hsend, -⟩ := hdone
  obtain rfl := Except.ok.inj (hrequest.symm.trans hsame)
  have hsucceeded : succeeded reply put.request = true := isOk_iff.mpr ⟨response, hsend⟩
  simp only [editingStep, EditingState.reply, hk, hsucceeded, Bool.true_and] at hstep
  split at hstep
  · cases hstep
  · split at hstep
    · cases hstep
    · rename_i hrecorded
      simpa using hrecorded

/-- **What is stored stays stored.**  For every orderly run of the server from its start and every
way it goes on, with any failures of the network: the changes saved of a document stay saved, and
the room of the document has them whenever it is open; a room that is not unloaded loses no change;
and once `onStoreDocument`, having issued a PUT, has reported it as done, all the changes that the
document had when it was encoded are saved for good. -/
theorem stored_changes_survive (hlaw : services.Lawful changes carried)
    {stored : JsString → Option StateFields} {as bs : List EditingAction}
    (hs : Runs.run (editingStep services) (.initial stored) as = some s)
    (ht : Runs.run (editingStep services) s bs = some t)
    (horderly : Runs.Meets (editingStep services) Orderly (.initial stored) (as ++ bs))
    (name : JsString) :
    s.saved services carried name ⊆ t.saved services carried name ∧
    (∀ room, t.rooms name = some room → t.saved services carried name ⊆ changes room.document) ∧
    (∀ room, s.rooms name = some room → EditingAction.unload name ∉ bs →
      ∃ room', t.rooms name = some room' ∧ changes room.document ⊆ changes room'.document) ∧
    (∀ k reply rest put, bs = .reply k reply :: rest → s.puts[k]? = some put →
      put.session.documentName = name → onStoreDocument services (some false)
        put.session.context put.document (fun _ => reply) = .ok () →
      changes put.document ⊆ t.saved services carried name) := by
  have hissued := issued_run hs
  obtain ⟨hbefore, hafter⟩ := (Runs.meets_append_iff (editingStep services) hs).mp horderly
  have hcovered := covered_run hlaw hs hbefore
  obtain ⟨ops, hops, hemits, hmeets⟩ := copies_run hlaw hissued ht
  obtain ⟨hlater, hmono⟩ := saved_mono hcovered (hmeets hafter) hops
  refine ⟨hmono name, fun room hroom => ?_, fun room hroom hunload => ?_, ?_⟩
  · exact hlater.live name _ (copies_live hroom)
  · have hdrop : Op.drop name ∉ ops := by
      intro hmem
      obtain ⟨pre, a, post, u, rfl, -, rfl⟩ := hemits _ hmem
      exact hunload (List.mem_append_right pre List.mem_cons_self)
    obtain ⟨copy, hcopy, hmore⟩ := live_mono hops (copies_live hroom) hdrop
    obtain ⟨room', hroom', rfl⟩ := Option.map_eq_some_iff.mp hcopy
    exact ⟨room', hroom', hmore⟩
  · rintro k reply rest put rfl hk rfl hdone
    obtain ⟨u, hu, -⟩ := (Runs.run_cons_eq_some _).mp ht
    have hrecorded := recorded_of_done hissued hu hk hdone
    exact (hcovered.landed k _ (copies_write hk) hrecorded).trans (hmono put.session.documentName)

/-! ### Where changes come from -/

theorem Joined.append {as : List EditingAction} {session : AdmittedSession}
    (h : Joined services as session) (bs : List EditingAction) :
    Joined services (as ++ bs) session := by
  obtain ⟨i, isDeleted, now, request, hjoin, hspec⟩ := h
  exact ⟨i, isDeleted, now, request, List.mem_append_left bs hjoin, hspec⟩

/-- A session sends an update in a run. -/
def Sent (services : EditingServices D) (stored : JsString → Option StateFields)
    (as : List EditingAction) (session : AdmittedSession) (payload : Bytes) : Prop :=
  ∃ pre k i type post u, as = pre ++ .check k i payload type :: post ∧
    Runs.run (editingStep services) (.initial stored) pre = some u ∧
    u.sessions i = some session ∧ isMutating type

/-- A document is initialised for a room in a run. -/
def Initialised (services : EditingServices D) (stored : JsString → Option StateFields)
    (as : List EditingAction) (name : JsString) (document : D) : Prop :=
  ∃ pre i titleClient bodyClient reply post u session,
    as = pre ++ .load i titleClient bodyClient reply :: post ∧
    Runs.run (editingStep services) (.initial stored) pre = some u ∧
    u.sessions i = some session ∧ session.documentName = name ∧
    loadDocumentState services.runtime services.yjs services.tiptap services.storage titleClient
      bodyClient session.context services.maxDocumentBytes (fun _ => reply) =
        .ok (some (.inl document))

/-- A message that waits for its application was checked, as a message of its session. -/
theorem checked_move {a : EditingAction} (hmove : EditingMove services s a t) {k : ℕ}
    {sync : CheckedSync} (h : t.checked k = some sync) :
    s.checked k = some sync ∨
      ∃ i, a = .check k i sync.payload sync.type ∧ s.sessions i = some sync.session := by
  -- a message that is taken leaves the others
  have htaken : ∀ j, (s.setChecked j none).checked k = some sync → s.checked k = some sync := by
    intro j hj
    change Function.update s.checked j none k = some sync at hj
    by_cases hkj : k = j
    · subst hkj
      rw [Function.update_self] at hj
      cases hj
    · rwa [Function.update_of_ne hkj] at hj
  cases hmove with
  | @checked j i payload type session hi =>
      change Function.update s.checked j _ k = some sync at h
      by_cases hkj : k = j
      · subst hkj
        rw [Function.update_self] at h
        cases h
        exact Or.inr ⟨i, rfl, hi⟩
      · rw [Function.update_of_ne hkj] at h
        exact Or.inl h
  | applied hk hroom htype => exact Or.inl (htaken _ h)
  | taken => exact Or.inl (htaken _ h)
  | _ => exact Or.inl h

theorem checked_run {stored : JsString → Option StateFields} {as : List EditingAction}
    (h : Runs.run (editingStep services) (.initial stored) as = some s) {k : ℕ}
    {sync : CheckedSync} (hk : s.checked k = some sync) (htype : isMutating sync.type) :
    Joined services as sync.session ∧ Sent services stored as sync.session sync.payload := by
  induction as using List.reverseRecOn generalizing s with
  | nil =>
      cases h
      cases hk
  | append_singleton as a ih =>
      obtain ⟨u, hu, hstep⟩ := (Runs.run_snoc_eq_some (editingStep services)).mp h
      obtain hbefore | ⟨i, rfl, hi⟩ := checked_move (editingMove hstep) hk
      · obtain ⟨hjoined, pre, k', i, type, post, v, rfl, hsent⟩ := ih hu hbefore
        refine ⟨hjoined.append [a], pre, k', i, type, post ++ [a], v, ?_, hsent⟩
        rw [List.append_assoc, List.cons_append]
      · have hmem := (authentic_run hu).sessions i _ hi
        exact ⟨(admitted_run hu hmem).append _, as, k, i, sync.type, [], u, rfl, hu, hi, htype⟩

/-- **Documents do not mix.**  In every run of the server: a change that an open room has, or that
is saved of its document, was saved of the same document at the start, or was sent by a session
that a ticket admitted to this room, or was made when the room was initialised from the stored
title and HTML of the same document. -/
theorem changes_traced (hlaw : services.Lawful changes carried)
    {stored : JsString → Option StateFields} {as : List EditingAction}
    (h : Runs.run (editingStep services) (.initial stored) as = some s) {name : JsString} {x : μ}
    (hx : x ∈ s.saved services carried name ∨
      ∃ room, s.rooms name = some room ∧ x ∈ changes room.document) :
    x ∈ (EditingState.initial stored : EditingState D).saved services carried name ∨
    (∃ session payload, Joined services as session ∧ session.documentName = name ∧
      Sent services stored as session payload ∧ x ∈ carried payload) ∨
    ∃ document, Initialised services stored as name document ∧ x ∈ changes document := by
  obtain ⟨ops, hops, hemits, -⟩ := copies_run hlaw (issued_initial stored) h
  have hhas : (s.copies services changes carried).Has name x := by
    obtain hsaved | ⟨room, hroom, hx⟩ := hx
    · exact Or.inl hsaved
    · exact Or.inr (Or.inl ⟨changes room.document, copies_live hroom, hx⟩)
  obtain hstart | ⟨op, hop, hbrings⟩ := origin hops hhas
  · obtain hsaved | ⟨copy, hcopy, -⟩ | ⟨i, w, hi, -⟩ := hstart
    · exact Or.inl hsaved
    · cases hcopy
    · cases hi
  · refine Or.inr ?_
    obtain ⟨pre, a, post, u, rfl, hu, hemit⟩ := hemits op hop
    cases op with
    | make other seed =>
        rw [Op.brings] at hbrings
        split at hbrings
        · rename_i hother
          subst hother
          obtain ⟨i, titleClient, bodyClient, reply, session, loaded, rfl, hi, hname, hload, rfl⟩ :=
            hemit
          -- only an initialised document brings changes of its own
          cases loaded with
          | none => cases hbrings
          | some content =>
              cases content with
              | inl document =>
                  exact Or.inr ⟨document, ⟨pre, i, titleClient, bodyClient, reply, post, u, session,
                    rfl, hu, hi, hname, hload⟩, hbrings⟩
              | inr state => cases hbrings
        · cases hbrings
    | join other more =>
        rw [Op.brings] at hbrings
        split at hbrings
        · rename_i hother
          subst hother
          obtain ⟨k, sync, rfl, hk, hname, htype, rfl⟩ := hemit
          obtain ⟨hjoined, pre', k', i, type, post', v, rfl, hsent⟩ := checked_run hu hk htype
          refine Or.inl ⟨sync.session, sync.payload, hjoined.append _, hname,
            ⟨pre', k', i, type, post' ++ .apply k :: post, v, ?_, hsent⟩, hbrings⟩
          rw [List.append_assoc, List.cons_append]
        · cases hbrings
    | drop other => cases hbrings
    | write other => cases hbrings
    | land k => cases hbrings
    | finish k => cases hbrings

end

/-! ### A sample run -/

/-- Documents are bytes: a byte other than 0 is a change, and encodings start with a 0. -/
def sampleStoreServices : EditingServices Bytes where
  runtime := { sampleRuntime with jsonParse := parseFlat }
  authentication := ⟨none, none⟩
  yjs := ⟨fun document => 0 :: document, fun document update => document ++ update⟩
  tiptap := ⟨fun _ _ _ => [], fun _ _ => none, fun _ => emptyDocument, fun _ => [], fun _ => []⟩
  storage := some ⟨js "http://127.0.0.1:8080", 100, 400, 2000, defaultCollaborationServiceSecret⟩
  maxDocumentBytes := 100
  new := []

def sampleChanges (bytes : Bytes) : Set UInt8 := {b | b ∈ bytes ∧ b ≠ 0}

theorem sampleStoreServices_jsonParse : sampleStoreServices.runtime.jsonParse = parseFlat := rfl

theorem sampleStoreServices_lawful : sampleStoreServices.Lawful sampleChanges sampleChanges where
  yjs :=
    { new := Set.eq_empty_iff_forall_notMem.mpr fun b hb => absurd hb.1 List.not_mem_nil
      apply := fun document update => by
        ext b
        show (b ∈ document ++ update ∧ b ≠ 0) ↔ (b ∈ document ∧ b ≠ 0) ∨ (b ∈ update ∧ b ≠ 0)
        rw [List.mem_append, or_and_right]
      encode := fun document => by
        ext b
        show (b ∈ 0 :: document ∧ b ≠ 0) ↔ (b ∈ document ∧ b ≠ 0)
        rw [List.mem_cons]
        exact ⟨fun h => ⟨h.1.resolve_left h.2, h.2⟩, fun h => ⟨Or.inr h.1, h.2⟩⟩
      nonempty := fun document => List.cons_ne_nil 0 document }
  jsonParse := fun state projections => by
    rw [sampleStoreServices_jsonParse]
    exact parseFlat_stored state projections

def sampleName : JsString := documentRoomName sampleRoom

/-- core-api has the change 5 of the sample document. -/
def sampleStored (url : JsString) : Option StateFields :=
  if url = stateURL ⟨js "http://127.0.0.1:8080", 100, 400, 2000, []⟩ sampleRoom then
    some ⟨[], toBase64 [0, 5], []⟩
  else none

/-- core-api answers with a canonical state. -/
def sampleReply (state : Bytes) : Except String Response :=
  .ok ⟨200, none, some [utf8 (stringifyObject (storedMembers state ⟨[], []⟩))]⟩

/-- A session joins, its room is loaded, and it sends the change 7. -/
def sampleEdit : List EditingAction :=
  [.join 0 (js "socket-1") (some false) 1700000000000 sampleRequest,
    .load 0 1 2 (sampleReply [0, 5]), .check 0 0 [7] 2, .apply 0]

/-- The room is stored; the change 9 comes before core-api records the PUT. -/
def sampleStore : List EditingAction :=
  [.store 0 (some false), .check 1 0 [9] 2, .apply 1, .record 0]

/-- The PUT is answered, and the room unloaded and loaded again. -/
def sampleReload : List EditingAction :=
  [.reply 0 (.ok ⟨204, none, none⟩), .unload sampleName, .load 0 3 4 (sampleReply [0, 0, 5, 7])]

/-- The document of the sample room. -/
def sampleView (s : EditingState Bytes) : Option Bytes :=
  (s.rooms sampleName).map (·.document)

/-- The document that the first store encoded, and whether a 204 would have it reported as done. -/
def samplePut (s : EditingState Bytes) : Option (Bytes × Bool) :=
  (s.puts[0]?).map fun put =>
    (put.document, decide (put.session.documentName = sampleName) &&
      (onStoreDocument sampleStoreServices (some false) put.session.context put.document fun _ =>
        .ok ⟨204, none, none⟩).isOk)

theorem stored_changes_survive_sample :
    ∃ s t room, Runs.run (editingStep sampleStoreServices) (.initial sampleStored)
        (sampleEdit ++ sampleStore) = some s ∧
      Runs.run (editingStep sampleStoreServices) s sampleReload = some t ∧
      t.rooms sampleName = some room ∧
      7 ∈ t.saved sampleStoreServices sampleChanges sampleName ∧
      t.saved sampleStoreServices sampleChanges sampleName ⊆ sampleChanges room.document := by
  have hput : (Runs.run (editingStep sampleStoreServices) (.initial sampleStored)
      (sampleEdit ++ sampleStore)).bind samplePut = some ([0, 5, 7], true) := by decide +kernel
  obtain ⟨s, hs, hview⟩ := Option.bind_eq_some_iff.mp hput
  have hreload : (Runs.run (editingStep sampleStoreServices) (.initial sampleStored)
      ((sampleEdit ++ sampleStore) ++ sampleReload)).bind sampleView = some [0, 0, 5, 7] := by
    decide +kernel
  have horderly : Runs.Meets (editingStep sampleStoreServices) Orderly (.initial sampleStored)
      ((sampleEdit ++ sampleStore) ++ sampleReload) := by decide +kernel
  obtain ⟨t, ht, hroom⟩ := Option.bind_eq_some_iff.mp hreload
  rw [Runs.run_append, hs, Option.bind_some] at ht
  obtain ⟨put, hk, hpair⟩ := Option.map_eq_some_iff.mp hview
  obtain ⟨room, hroom, -⟩ := Option.map_eq_some_iff.mp hroom
  obtain ⟨hdocument, hdone⟩ := Prod.mk.inj hpair
  obtain ⟨hname, hok⟩ := Bool.and_eq_true_iff.mp hdone
  obtain ⟨-, hcovered, -, hkept⟩ :=
    stored_changes_survive sampleStoreServices_lawful hs ht horderly sampleName
  refine ⟨s, t, room, hs, ht, hroom, ?_, hcovered room hroom⟩
  refine hkept 0 _ _ put rfl hk (of_decide_eq_true hname) (isOk_iff.mp hok).choose_spec ?_
  rw [hdocument]
  exact ⟨by simp, by decide⟩

theorem changes_traced_sample :
    ∃ s room, Runs.run (editingStep sampleStoreServices) (.initial sampleStored) sampleEdit =
        some s ∧ s.rooms sampleName = some room ∧ room.document = [0, 5, 7] ∧
      ∀ x ∈ sampleChanges room.document,
        x ∈ (EditingState.initial sampleStored : EditingState Bytes).saved sampleStoreServices
          sampleChanges sampleName ∨
        (∃ session payload, Joined sampleStoreServices sampleEdit session ∧
          session.documentName = sampleName ∧
          Sent sampleStoreServices sampleStored sampleEdit session payload ∧
          x ∈ sampleChanges payload) ∨
        ∃ document, Initialised sampleStoreServices sampleStored sampleEdit sampleName document ∧
          x ∈ sampleChanges document := by
  have hedit : ((Runs.run (editingStep sampleStoreServices) (.initial sampleStored)
      sampleEdit).bind sampleView) = some [0, 5, 7] := by decide +kernel
  obtain ⟨s, hs, hview⟩ := Option.bind_eq_some_iff.mp hedit
  obtain ⟨room, hroom, hdocument⟩ := Option.map_eq_some_iff.mp hview
  exact ⟨s, room, hs, hroom, hdocument, fun x hx =>
    changes_traced sampleStoreServices_lawful hs (Or.inr ⟨room, hroom, hx⟩)⟩

end SocketServer.Collaboration
