import SocketServer.Chat.Delivery
import SocketServer.Library.GoJson
import SocketServer.Library.ShortestDecimal

/-!
# What becomes of the data of an event

The subscriber reads an event into `bus.ChatEvent` and the hub writes it from `hub.Event`; its data
has the type `any` in both, so its numbers pass through `float64`: each becomes the nearest one, and
that is written as the shortest decimal that reads back as it.
-/

namespace SocketServer.Chat

open SocketServer.Text SocketServer.Js SocketServer.GoJson

/-- `encoding/json` as the service uses it: the tree of a text, the text of a tree, and how a
`float64` is written. -/
structure JsonRuntime where
  parse : Bytes → Option JsonTree
  print : JsonTree → Bytes
  formatFloat : ℚ → NumberLiteral

def teamIDField : StructField (ChatEvent AnyValue) :=
  int64Field "team_id" fun n event => { event with teamID := n }

def typeField : StructField (ChatEvent AnyValue) :=
  stringField "type" fun s event => { event with type := s }

def dataField : StructField (ChatEvent AnyValue) :=
  anyField "data" fun v event => { event with data := v }

def chatEventFields : List (StructField (ChatEvent AnyValue)) := [teamIDField, typeField, dataField]

/-- The tree of a `hub.Event`. -/
def eventTree (formatFloat : ℚ → NumberLiteral) (event : Event AnyValue) : JsonTree :=
  .object [("type".toList, .string (decodeUtf8 event.type)),
    ("data".toList, encodeAny formatFloat event.data)]

/-- `json.Unmarshal` into a `bus.ChatEvent` and `json.Marshal` of a `hub.Event`. -/
def eventCodec (json : JsonRuntime) : EventCodec AnyValue where
  unmarshal raw := (json.parse raw).bind (unmarshalStruct chatEventFields ⟨0, [], .nil⟩)
  marshal event := some (json.print (eventTree json.formatFloat event))

/-! ### What was sent -/

/-- The values of the members with a name, in any letter case. -/
def named (name : String) (members : List (List Char × JsonTree)) : List JsonTree :=
  (members.filter fun m => foldName m.1 = foldName name.toList).map (·.2)

def text : JsonTree → Option (List Char)
  | .string s => some s
  | _ => none

/-- The type of an event: the last string under its name. -/
def sentType (members : List (List Char × JsonTree)) : List Char :=
  ((named "type" members).filterMap text).getLast?.getD []

/-- The data of an event: the last value under its name. -/
def sentData (members : List (List Char × JsonTree)) : JsonTree :=
  (named "data" members).getLast?.getD .null

/-- The last element of a list, when it has one element more in front. -/
theorem last_cons {α β : Type*} (f : α → β) (a : α) (as : List α) (b : β) :
    ((a :: as).getLast?.map f).getD b = (as.getLast?.map f).getD (f a) := by
  rw [List.getLast?_cons]
  cases as.getLast? <;> rfl

section Sent

variable {name : String} {m : List Char × JsonTree} {members : List (List Char × JsonTree)}

theorem named_cons_of_eq (h : foldName m.1 = foldName name.toList) :
    named name (m :: members) = m.2 :: named name members := by
  rw [named, List.filter_cons, if_pos (decide_eq_true h)]
  rfl

theorem named_cons_of_ne (h : foldName m.1 ≠ foldName name.toList) :
    named name (m :: members) = named name members := by
  rw [named, List.filter_cons, if_neg fun htrue => h (of_decide_eq_true htrue)]
  rfl

end Sent

/-- The field that a key goes to; the three names differ in more than letter case. -/
theorem chatEventField_cases (key : List Char) :
    (foldName key = foldName "team_id".toList ∧
      findField chatEventFields key = some teamIDField) ∨
    (foldName key = foldName "type".toList ∧ findField chatEventFields key = some typeField) ∨
    (foldName key = foldName "data".toList ∧ findField chatEventFields key = some dataField) ∨
    (foldName key ≠ foldName "type".toList ∧ foldName key ≠ foldName "data".toList ∧
      findField chatEventFields key = none) := by
  have hdistinct : chatEventFields.Pairwise fun f g => foldName f.name ≠ foldName g.name := by
    decide
  rw [findField_eq hdistinct, chatEventFields, List.find?_cons, List.find?_cons, List.find?_cons]
  by_cases hteam : foldName key = foldName "team_id".toList
  · exact Or.inl ⟨hteam, by rw [decide_eq_true (show foldName teamIDField.name = _ from hteam.symm)]⟩
  rw [decide_eq_false (show foldName teamIDField.name ≠ _ from Ne.symm hteam)]
  by_cases htype : foldName key = foldName "type".toList
  · exact Or.inr (Or.inl
      ⟨htype, by rw [decide_eq_true (show foldName typeField.name = _ from htype.symm)]⟩)
  rw [decide_eq_false (show foldName typeField.name ≠ _ from Ne.symm htype)]
  by_cases hdata : foldName key = foldName "data".toList
  · exact Or.inr (Or.inr (Or.inl
      ⟨hdata, by rw [decide_eq_true (show foldName dataField.name = _ from hdata.symm)]⟩))
  rw [decide_eq_false (show foldName dataField.name ≠ _ from Ne.symm hdata)]
  exact Or.inr (Or.inr (Or.inr ⟨htype, hdata, rfl⟩))

/-- **What the fields of an event hold** after its members have been visited. -/
theorem setMembers_sent {members : List (List Char × JsonTree)} {s event : ChatEvent AnyValue}
    (h : setMembers chatEventFields members s = some event) :
    event.type = (((named "type" members).filterMap text).getLast?.map utf8).getD s.type ∧
      ((named "data" members).getLast?.map decodeAny).getD (some s.data) = some event.data := by
  induction members generalizing s with
  | nil =>
      cases h
      exact ⟨rfl, rfl⟩
  | cons m members ih =>
      obtain ⟨key, value⟩ := m
      have hnames : foldName "team_id".toList ≠ foldName "type".toList ∧
          foldName "team_id".toList ≠ foldName "data".toList ∧
          foldName "type".toList ≠ foldName "data".toList := by decide
      obtain ⟨hteamType, hteamData, htypeData⟩ := hnames
      rw [setMembers] at h
      obtain ⟨hkey, hfind⟩ | ⟨hkey, hfind⟩ | ⟨hkey, hfind⟩ | ⟨hnotType, hnotData, hfind⟩ :=
        chatEventField_cases key
      · rw [hfind] at h
        obtain ⟨u, hu, hrest⟩ := Option.bind_eq_some_iff.mp h
        rw [named_cons_of_ne (hkey ▸ hteamType), named_cons_of_ne (hkey ▸ hteamData)]
        obtain ⟨-, rfl⟩ | ⟨n, -, -, rfl⟩ := int64Field_eq_some hu
        · exact ih hrest
        · have hsame := ih hrest
          exact hsame
      · rw [hfind] at h
        obtain ⟨u, hu, hrest⟩ := Option.bind_eq_some_iff.mp h
        rw [named_cons_of_eq hkey, named_cons_of_ne (hkey ▸ htypeData), List.filterMap_cons]
        obtain ⟨rfl, rfl⟩ | ⟨t, rfl, rfl⟩ := stringField_eq_some hu
        · exact ih hrest
        · obtain ⟨htype, hdata⟩ := ih hrest
          refine ⟨?_, hdata⟩
          rw [htype]
          exact (last_cons utf8 t _ s.type).symm
      · rw [hfind] at h
        obtain ⟨u, hu, hrest⟩ := Option.bind_eq_some_iff.mp h
        rw [named_cons_of_ne (hkey ▸ htypeData.symm), named_cons_of_eq hkey, last_cons]
        obtain ⟨v, hv, rfl⟩ := Option.map_eq_some_iff.mp hu
        obtain ⟨htype, hdata⟩ := ih hrest
        exact ⟨htype, hv ▸ hdata⟩
      · rw [hfind] at h
        rw [named_cons_of_ne hnotType, named_cons_of_ne hnotData]
        exact ih h

/-! ### What is published -/

variable {json : JsonRuntime} {raw payload : Bytes} {teamID : ℤ}

/-- The subscriber accepts objects only, and the hub writes what their fields hold. -/
theorem published_tree (h : forward (eventCodec json) raw = some (teamID, payload)) :
    ∃ members v, json.parse raw = some (.object members) ∧
      decodeAny (sentData members) = some v ∧
      payload = json.print (.object [("type".toList, .string (sentType members)),
        ("data".toList, encodeAny json.formatFloat v)]) := by
  obtain ⟨event, hunmarshal, hteam, -, -, hmarshal⟩ := (forward_eq_some _).mp h
  obtain ⟨tree, hparse, hstruct⟩ := Option.bind_eq_some_iff.mp hunmarshal
  cases tree with
  | object members =>
      obtain ⟨htype, hdata⟩ := setMembers_sent hstruct
      refine ⟨members, event.data, hparse, ?_, ?_⟩
      · rw [sentData, ← hdata]
        cases (named "data" members).getLast? with
        | none => exact decodeAny_null
        | some t => rfl
      · have hsent : decodeUtf8 event.type = sentType members := by
          rw [htype, sentType]
          cases ((named "type" members).filterMap text).getLast? with
          | none => rfl
          | some t => exact decodeUtf8_utf8 t
        rw [← hsent]
        exact (Option.some.inj hmarshal).symm
  | null =>
      cases hstruct
      exact absurd hteam (by decide)
  | bool b => cases hstruct
  | number n => cases hstruct
  | string s => cases hstruct
  | array values => cases hstruct

/-- An `int64` has an integer as its nearest `float64`. -/
theorem integral_of_int64 {q : ℚ} (h : IsInt64 q) : ∃ k : ℤ, toDouble q = .finite k := by
  obtain ⟨hden, hlow, hhigh⟩ := h
  have hq : q = (q.num : ℚ) := (Rat.den_eq_one_iff q).mp hden |>.symm
  have hbound : q.num.natAbs ≤ 2 ^ 63 := by omega
  rw [hq]
  exact toDouble_int (by decide) hbound

/-- A value of `float64`. -/
def IsFloat64 (x : ℚ) : Prop := toDouble x = .finite x

/-- A number keeps its value exactly when it is the decimal that is written for its `float64`. -/
theorem written_same_iff {formatFloat : ℚ → NumberLiteral} {q : ℚ} (hint : IsInt64 q)
    (hformat : ∀ k : ℤ, IsFloat64 k → ∃ z : ℤ, (formatFloat k).value = z ∧ IsShortest k z) :
    (∀ x, toDouble q = .finite x → (formatFloat x).value = q) ↔ ∃ k, IsShortest k q.num := by
  obtain ⟨k, hk⟩ := integral_of_int64 hint
  have hq : q = (q.num : ℚ) := (Rat.den_eq_one_iff q).mp hint.1 |>.symm
  have hread : toDouble q.num = .finite k := hq ▸ hk
  obtain ⟨z, hz, hshortest⟩ := hformat k (toDouble_toDouble hread)
  constructor
  · intro h
    have hvalue : (z : ℚ) = q.num := hz.symm.trans ((h k hk).trans hq)
    exact ⟨k, Int.cast_injective hvalue ▸ hshortest⟩
  · rintro ⟨l, hl⟩ x hx
    have hlk : (l : ℚ) = k := JsNumber.finite.inj (hl.reads.symm.trans hread)
    rw [Int.cast_injective hlk] at hl
    have hxk : x = k := JsNumber.finite.inj (hx.symm.trans hk)
    rw [hxk, hz, hshortest.unique hl]
    exact hq.symm

/-- **An event is forwarded with its type, and with its data unless a number is altered.**  The data
of the published object is the data that was sent exactly when each of its numbers is the shortest
decimal of its nearest `float64`, as every integer below `2 ^ 53` is (`isShortest_self`). -/
theorem forwarded_data_same_iff {reads : Bytes → Option JsonTree}
    (hreads : ∀ tree, json.print tree = payload → reads payload = some tree)
    (hformat : ∀ k : ℤ, IsFloat64 k → ∃ z : ℤ, (json.formatFloat k).value = z ∧ IsShortest k z)
    (haccepted : forward (eventCodec json) raw = some (teamID, payload)) :
    ∃ members, json.parse raw = some (.object members) ∧
      ((sentData members).NoRepeatedKeys →
        (sentData members).AllNumbers (fun n => IsInt64 n.value) →
        ((∃ data, reads payload = some (.object
            [("type".toList, .string (sentType members)), ("data".toList, data)]) ∧
          (sentData members).Same data) ↔
        (sentData members).AllNumbers fun n => ∃ k, IsShortest k n.value.num)) := by
  obtain ⟨members, v, hparse, hdecode, hpayload⟩ := published_tree haccepted
  refine ⟨members, hparse, fun hkeys hint => ?_⟩
  obtain ⟨v', hdecode', hsame⟩ := @same_encodeAny_iff json.formatFloat _ hkeys
    (hint.imp fun n hn => ⟨_, (integral_of_int64 hn).choose_spec⟩)
  cases hdecode.symm.trans hdecode'
  rw [hreads _ hpayload.symm, ← hint.congr fun n hn => written_same_iff hn hformat, ← hsame]
  constructor
  · rintro ⟨data, hdata, h⟩
    cases hdata
    exact h
  · exact fun h => ⟨_, rfl, h⟩

/-! ### An identifier that is altered -/

/-- An integer is written as the shortest decimal, in plain digits below `10 ^ 21`. -/
def shortestFormat (x : ℚ) : NumberLiteral where
  value := if x.den = 1 then (shortest x.num : ℚ) else x
  plain := x.den = 1 && x.num.natAbs < 10 ^ 21
  integral h := by
    rw [Bool.and_eq_true, decide_eq_true_eq] at h
    rw [if_pos h.1, Rat.den_intCast]

theorem shortestFormat_int (k : ℤ) : (shortestFormat k).value = shortest k := by
  show (if (k : ℚ).den = 1 then (shortest (k : ℚ).num : ℚ) else k) = _
  rw [if_pos (Rat.den_intCast k), Rat.num_intCast]

/-- The tree of an event of team 1. -/
def sampleMembers (data : JsonTree) : List (List Char × JsonTree) :=
  [("team_id".toList, .number (.int 1)), ("type".toList, .string "message".toList),
    ("data".toList, data)]

def publishedTree (data : JsonTree) : JsonTree :=
  .object [("type".toList, .string "message".toList), ("data".toList, data)]

/-- The first integer that is no double: `2 ^ 53 + 1`. -/
def oddIdentifier : JsonTree := .number (.int 9007199254740993)

def evenIdentifier : JsonTree := .number (.int 9007199254740992)

def smallIdentifier : JsonTree := .number (.int 42)

def oddEvent : Bytes := utf8
  "\x7b\"team_id\":1,\"type\":\"message\",\"data\":9007199254740993\x7d".toList

def evenPayload : Bytes := utf8 "\x7b\"type\":\"message\",\"data\":9007199254740992\x7d".toList

def smallEvent : Bytes := utf8 "\x7b\"team_id\":1,\"type\":\"message\",\"data\":42\x7d".toList

def smallPayload : Bytes := utf8 "\x7b\"type\":\"message\",\"data\":42\x7d".toList

/-- The tree is that of the second event, as it is published. -/
def isSmall : JsonTree → Bool
  | .object [(k, .string t), (l, .number n)] =>
      k = "type".toList && t = "message".toList && l = "data".toList && n.value = 42 && n.plain
  | _ => false

/-- What `encoding/json` does with the two events. -/
def sampleJson : JsonRuntime where
  parse raw :=
    if raw = oddEvent then some (.object (sampleMembers oddIdentifier))
    else if raw = smallEvent then some (.object (sampleMembers smallIdentifier))
    else none
  print tree := if isSmall tree then smallPayload else evenPayload
  formatFloat := shortestFormat

def sampleReads (payload : Bytes) : Option JsonTree :=
  if payload = evenPayload then some (publishedTree evenIdentifier)
  else if payload = smallPayload then some (publishedTree smallIdentifier)
  else none

/-- **One identifier becomes another one.** -/
theorem identifier_altered :
    forward (eventCodec sampleJson) oddEvent = some (1, evenPayload) ∧
      sampleReads evenPayload = some (publishedTree evenIdentifier) ∧
      ¬ oddIdentifier.Same evenIdentifier := by
  refine ⟨by decide +kernel, if_pos rfl, fun h => ?_⟩
  exact absurd (JsonTree.same_number_iff.mp h) (by decide)

theorem eq_of_isSmall {tree : JsonTree} (h : isSmall tree = true) :
    tree = publishedTree smallIdentifier := by
  unfold isSmall at h
  split at h
  · rename_i k t l n
    obtain ⟨value, plain, integral⟩ := n
    simp only [Bool.and_eq_true, decide_eq_true_eq] at h
    obtain ⟨⟨⟨⟨rfl, rfl⟩, rfl⟩, rfl⟩, rfl⟩ := h
    rfl
  · cases h

/-- A small identifier is forwarded as it is. -/
theorem forwarded_data_same_iff_small :
    ∃ data, sampleReads smallPayload = some (publishedTree data) ∧ smallIdentifier.Same data := by
  have haccepted : forward (eventCodec sampleJson) smallEvent = some (1, smallPayload) := by
    decide +kernel
  have hother : smallPayload ≠ evenPayload ∧ smallEvent ≠ oddEvent := by decide +kernel
  have hreads : ∀ tree, sampleJson.print tree = smallPayload →
      sampleReads smallPayload = some tree := by
    intro tree htree
    by_cases hsmall : isSmall tree = true
    · rw [sampleReads, if_neg hother.1, if_pos rfl, eq_of_isSmall hsmall]
    · exact absurd ((if_neg hsmall).symm.trans htree).symm hother.1
  obtain ⟨members, hparse, hiff⟩ := forwarded_data_same_iff hreads
    (fun k hk => ⟨shortest k, shortestFormat_int k, isShortest_shortest hk⟩) haccepted
  have hmembers : members = sampleMembers smallIdentifier := by
    have hsample : sampleJson.parse smallEvent = some (.object (sampleMembers smallIdentifier)) := by
      simp only [sampleJson, if_neg hother.2, if_true]
    cases hparse.symm.trans hsample
    rfl
  subst hmembers
  have hexact : smallIdentifier.AllNumbers fun n => ∃ k, IsShortest k n.value.num :=
    JsonTree.allNumbers_number.mpr ⟨42, isShortest_self (by decide)⟩
  exact (hiff (JsonTree.everywhere_number.mpr trivial)
    (JsonTree.allNumbers_number.mpr (by decide))).mpr hexact

end SocketServer.Chat
