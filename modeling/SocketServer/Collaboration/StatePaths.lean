import SocketServer.Collaboration.RoomIdentity

/-!
# The paths of documents

`request` (`collaboration/src/storage.ts`) makes the path of a document's state of three
identifiers, each through `encodeURIComponent`.  Sessions are admitted under UUIDs, which need no
encoding (`statePath_eq_some`); here the identifiers are any strings.  `fetch` parses the URL, and
its parser takes dot segments out of the path (`requestedPath`).

* `statePath_segments`: a path has nine segments, whatever the identifiers hold;
* `statePath_injective`: two scopes have one path only if they name the same document, and the
  identifiers can be read off it;
* `requestedPath_injective`: so it is for the paths that are requested, when no identifier is `.`
  or `..`.
-/

namespace SocketServer.Collaboration

open SocketServer.Text SocketServer.Js

/-- The document of a scope. -/
def DocumentScope.room (scope : DocumentScope) : DocumentRoom :=
  ⟨scope.organizationId, scope.teamId, scope.documentId⟩

/-- The identifiers of a room, each encoded. -/
structure Encodes (room encoded : DocumentRoom) : Prop where
  organization : encodeURIComponent room.organizationId = some encoded.organizationId
  team : encodeURIComponent room.teamId = some encoded.teamId
  document : encodeURIComponent room.documentId = some encoded.documentId

theorem Encodes.slashFree {room encoded : DocumentRoom} (h : Encodes room encoded) :
    ∀ part ∈ [encoded.organizationId, encoded.teamId, encoded.documentId], unit '/' ∉ part := by
  have hpart : ∀ {s part : JsString}, encodeURIComponent s = some part → unit '/' ∉ part := by
    intro s part hencode
    obtain ⟨text, rfl, hslash⟩ := slash_not_mem_encode hencode
    exact fun hunit => hslash (mem_of_unit_mem_utf16 (by decide) hunit)
  simp only [List.forall_mem_cons]
  exact ⟨hpart h.organization, hpart h.team, hpart h.document,
    fun _ hnil => absurd hnil List.not_mem_nil⟩

/-- The identifiers are those of no other room. -/
theorem Encodes.decode {room encoded : DocumentRoom} (h : Encodes room encoded) :
    room = ⟨decodeURIComponent encoded.organizationId, decodeURIComponent encoded.teamId,
      decodeURIComponent encoded.documentId⟩ := by
  rw [decodeURIComponent_encode h.organization, decodeURIComponent_encode h.team,
    decodeURIComponent_encode h.document]

/-- **The segments of a path.** -/
theorem statePath_segments {scope : DocumentScope} {path : JsString} :
    statePath scope = some path ↔
      ∃ encoded, Encodes scope.room encoded ∧ path = joinParts '/' (pathSegments encoded) := by
  have hparts : ∀ encoded : DocumentRoom,
      js "internal/v1/orgs/" ++ encoded.organizationId ++ js "/teams/" ++ encoded.teamId ++
        js "/documents/" ++ encoded.documentId ++ js "/state" =
        joinParts '/' (pathSegments encoded) := by
    intro encoded
    simp [joinParts, pathSegments, js, utf16, utf16Char, unit]
  simp only [statePath, Option.bind_eq_bind, Option.bind_eq_some_iff]
  constructor
  · rintro ⟨organizationId, horganization, teamId, hteam, documentId, hdocument, hreturn⟩
    refine ⟨⟨organizationId, teamId, documentId⟩, ⟨horganization, hteam, hdocument⟩, ?_⟩
    rw [← hparts, Option.some.inj hreturn]
  · rintro ⟨encoded, hencodes, rfl⟩
    exact ⟨_, hencodes.organization, _, hencodes.team, _, hencodes.document,
      congrArg some (hparts encoded)⟩

theorem split_statePath {room encoded : DocumentRoom} (h : Encodes room encoded) :
    split '/' (joinParts '/' (pathSegments encoded)) = pathSegments encoded := by
  have hfree := h.slashFree
  simp only [List.forall_mem_cons] at hfree
  obtain ⟨horganization, hteam, hdocument, -⟩ := hfree
  refine List.splitOn_intercalate _ ?_ (List.cons_ne_nil _ _)
  simp only [pathSegments, List.forall_mem_cons]
  exact ⟨by decide, by decide, by decide, horganization, by decide, hteam, by decide, hdocument,
    by decide, fun _ hnil => absurd hnil List.not_mem_nil⟩

/-- The segments that the identifiers are in. -/
def roomOfSegments : List JsString → Option DocumentRoom
  | [_, _, _, organizationId, _, teamId, _, documentId, _] =>
      some ⟨decodeURIComponent organizationId, decodeURIComponent teamId,
        decodeURIComponent documentId⟩
  | _ => none

/-- **A path names one document**, whatever its identifiers hold: slashes, dots, percent signs,
colons or nothing at all.  Split at its slashes it has nine segments, from which the three
identifiers are read off by decoding; so scopes with one path are scopes of one document, and the
editor has no part in it. -/
theorem statePath_injective {scope : DocumentScope} {path : JsString}
    (h : statePath scope = some path) :
    (split '/' path).length = 9 ∧ roomOfSegments (split '/' path) = some scope.room ∧
      ∀ other : DocumentScope, statePath other = some path ↔ other.room = scope.room := by
  obtain ⟨encoded, hencodes, rfl⟩ := statePath_segments.mp h
  have hsplit := split_statePath hencodes
  have hread : ∀ {room : DocumentRoom}, Encodes room encoded →
      roomOfSegments (pathSegments encoded) = some room := fun hroom => congrArg some hroom.decode.symm
  refine ⟨?_, ?_, fun other => ⟨fun hother => ?_, fun hother => ?_⟩⟩
  · rw [hsplit]
    rfl
  · rw [hsplit]
    exact hread hencodes
  · obtain ⟨encoded', hencodes', hpath⟩ := statePath_segments.mp hother
    obtain rfl := (pathSegments_injective hencodes.slashFree hencodes'.slashFree).mp hpath
    exact Option.some.inj ((hread hencodes').symm.trans (hread hencodes))
  · refine statePath_segments.mpr ⟨encoded, ?_, rfl⟩
    rw [hother]
    exact hencodes

/-! ### What is requested -/

/-- No identifier is one of the segments that the URL parser takes out. -/
def DocumentRoom.DotFree (room : DocumentRoom) : Prop :=
  ∀ part ∈ [room.organizationId, room.teamId, room.documentId], part ≠ js "." ∧ part ≠ js ".."

instance (room : DocumentRoom) : Decidable room.DotFree :=
  inferInstanceAs (Decidable (∀ part ∈ _, _))

/-- The segments of the path that `fetch` requests: those of the base URL, and those of the
document's path. -/
def requestedPath (base : List JsString) (scope : DocumentScope) : Option (List JsString) :=
  (statePath scope).map fun path => resolveDots base.reverse (split '/' path)

theorem requestedPath_eq_some {base : List JsString} {scope : DocumentScope}
    (hdots : scope.room.DotFree) {segments : List JsString} :
    requestedPath base scope = some segments ↔
      ∃ path, statePath scope = some path ∧ segments = base ++ split '/' path := by
  have hresolve : ∀ path, statePath scope = some path →
      resolveDots base.reverse (split '/' path) = base ++ split '/' path := by
    intro path hpath
    obtain ⟨encoded, hencodes, rfl⟩ := statePath_segments.mp hpath
    rw [split_statePath hencodes, resolveDots_of_none, List.reverse_reverse]
    simp only [DocumentRoom.DotFree, List.forall_mem_cons] at hdots
    obtain ⟨ho, ht, hd, -⟩ := hdots
    simp only [pathSegments, List.forall_mem_cons]
    exact ⟨by decide, by decide, by decide, not_dot_of_encode hencodes.organization ho.1 ho.2,
      by decide, not_dot_of_encode hencodes.team ht.1 ht.2, by decide,
      not_dot_of_encode hencodes.document hd.1 hd.2, by decide,
      fun _ hnil => absurd hnil List.not_mem_nil⟩
  rw [requestedPath, Option.map_eq_some_iff]
  constructor
  · rintro ⟨path, hpath, rfl⟩
    exact ⟨path, hpath, hresolve path hpath⟩
  · rintro ⟨path, hpath, rfl⟩
    exact ⟨path, hpath, hresolve path hpath⟩

/-- With dots, two documents are requested under one path. -/
example : requestedPath [] ⟨js "d", js "editor", js ".", js "teams"⟩ =
    requestedPath [] ⟨js "d", js "editor", js "teams", js "."⟩ := by decide +kernel

/-- A document whose identifiers look like the rest of a path. -/
def slashScope : DocumentScope :=
  ⟨js "d/../state?x=%2F", js "editor", js "o", js "t/documents/..."⟩

end SocketServer.Collaboration
