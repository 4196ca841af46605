import SocketServer.Library.JsMap
import SocketServer.Library.JsonTree

/-!
# `encoding/json`

What `json.Unmarshal` and `json.Marshal` of Go do, over the tree of a text.

* `unmarshalStruct` reads an object into a struct: it visits the members in order and gives each to
  the field whose name is its key, or else whose name is its key up to letter case.  A value that
  does not fit the type of its field is an error of the whole call, `null` sets nothing;
* `decodeAny` reads a value of type `any`: numbers become the nearest `float64` and objects become
  maps, of which the last member with a key wins;
* `encodeAny` writes a value of type `any`, the keys of a map in order;
* `same_encodeAny_iff`: a tree that is read and written again is the same JSON value exactly when
  each of its numbers is what is written for its `float64`.
-/

namespace SocketServer.GoJson

open SocketServer.Text SocketServer.Js

/-! ### Structs -/

/-- The letter that stands for a character in a comparison of names. -/
def foldRune (c : Char) : Char :=
  if 'a' ≤ c ∧ c ≤ 'z' then Char.ofNat (c.toNat - 32)
  else if c = 'ſ' then 'S'
  else if c = '\u212A' then 'K'
  else c

def foldName (name : List Char) : List Char := name.map foldRune

/-- A field of a struct; `set` is `none` for a value that does not fit its type. -/
structure StructField (σ : Type) where
  name : List Char
  set : JsonTree → σ → Option σ

variable {σ : Type}

def findField (fields : List (StructField σ)) (key : List Char) : Option (StructField σ) :=
  (fields.find? fun f => f.name = key).or (fields.find? fun f => foldName f.name = foldName key)

/-- Where no two names are the same up to letter case, letter case does not matter. -/
theorem findField_eq {fields : List (StructField σ)} {key : List Char}
    (h : fields.Pairwise fun f g => foldName f.name ≠ foldName g.name) :
    findField fields key = fields.find? fun f => foldName f.name = foldName key := by
  unfold findField
  induction fields with
  | nil => rfl
  | cons f fields ih =>
      obtain ⟨hfirst, hrest⟩ := List.pairwise_cons.mp h
      by_cases hexact : f.name = key
      · have hfold : foldName f.name = foldName key := congrArg foldName hexact
        rw [List.find?_cons, List.find?_cons, decide_eq_true hexact, decide_eq_true hfold]
        rfl
      · rw [List.find?_cons, decide_eq_false hexact, List.find?_cons]
        by_cases hfold : foldName f.name = foldName key
        · have hnone : fields.find? (fun g => g.name = key) = none := by
            rw [List.find?_eq_none]
            intro g hg hname
            exact hfirst g hg (hfold.trans (congrArg foldName (of_decide_eq_true hname).symm))
          rw [decide_eq_true hfold]
          show (fields.find? fun g => g.name = key).or (some f) = some f
          rw [hnone, Option.none_or]
        · rw [decide_eq_false hfold]
          exact ih hrest

/-- Go goes on after a value that does not fit and reports it at the end; the struct is then of no
use. -/
def setMembers (fields : List (StructField σ)) : List (List Char × JsonTree) → σ → Option σ
  | [], s => some s
  | (key, value) :: rest, s =>
      match findField fields key with
      | none => setMembers fields rest s
      | some f => (f.set value s).bind (setMembers fields rest)

/-- `json.Unmarshal` into a struct with the value `zero`. -/
def unmarshalStruct (fields : List (StructField σ)) (zero : σ) : JsonTree → Option σ
  | .object members => setMembers fields members zero
  | .null => some zero
  | _ => none

/-- A field of type `string`. -/
def stringField (name : String) (update : Bytes → σ → σ) : StructField σ where
  name := name.toList
  set
    | .string s, value => some (update (utf8 s) value)
    | .null, value => some value
    | _, _ => none

def IsInt64 (q : ℚ) : Prop := q.den = 1 ∧ -2 ^ 63 ≤ q.num ∧ q.num < 2 ^ 63

instance (q : ℚ) : Decidable (IsInt64 q) := inferInstanceAs (Decidable (_ ∧ _ ∧ _))

/-- A field of type `int64`, which reads numbers in plain digits. -/
def int64Field (name : String) (update : ℤ → σ → σ) : StructField σ where
  name := name.toList
  set
    | .number n, value =>
        if n.plain = true ∧ IsInt64 n.value then some (update n.value.num value) else none
    | .null, value => some value
    | _, _ => none

theorem stringField_eq_some {name : String} {update : Bytes → σ → σ} {value : JsonTree} {s t : σ}
    (h : (stringField name update).set value s = some t) :
    (value = .null ∧ t = s) ∨ ∃ text, value = .string text ∧ t = update (utf8 text) s := by
  cases value with
  | null =>
      cases h
      exact Or.inl ⟨rfl, rfl⟩
  | string text =>
      cases h
      exact Or.inr ⟨text, rfl, rfl⟩
  | bool b => cases h
  | number n => cases h
  | array values => cases h
  | object members => cases h

theorem int64Field_eq_some {name : String} {update : ℤ → σ → σ} {value : JsonTree} {s t : σ}
    (h : (int64Field name update).set value s = some t) :
    (value = .null ∧ t = s) ∨ ∃ n, value = .number n ∧ (n.plain = true ∧ IsInt64 n.value) ∧
      t = update n.value.num s := by
  cases value with
  | null =>
      cases h
      exact Or.inl ⟨rfl, rfl⟩
  | number n =>
      by_cases hfits : n.plain = true ∧ IsInt64 n.value
      · exact Or.inr ⟨n, rfl, hfits, (Option.some.inj ((if_pos hfits).symm.trans h)).symm⟩
      · cases (if_neg hfits).symm.trans h
  | bool b => cases h
  | string text => cases h
  | array values => cases h
  | object members => cases h

theorem stringField_text (name : String) (update : Bytes → σ → σ) (text : List Char) (s : σ) :
    (stringField name update).set (.string text) s = some (update (utf8 text) s) := rfl

theorem int64Field_int (name : String) (update : ℤ → σ → σ) {z : ℤ} (hz : IsInt64 z) (s : σ) :
    (int64Field name update).set (.number (.int z)) s = some (update z s) := by
  show (if true = true ∧ IsInt64 z then some (update (z : ℚ).num s) else none) = _
  rw [if_pos ⟨rfl, hz⟩, Rat.num_intCast]

theorem setMembers_cons {fields : List (StructField σ)} {key : List Char} {value : JsonTree}
    {rest : List (List Char × JsonTree)} {s : σ} {f : StructField σ}
    (hf : findField fields key = some f) :
    setMembers fields ((key, value) :: rest) s = (f.set value s).bind (setMembers fields rest) := by
  rw [setMembers, hf]

/-- A member of a struct that is read fits the type of its field. -/
theorem fits_of_setMembers {fields : List (StructField σ)} {members : List (List Char × JsonTree)}
    {s t : σ} (h : setMembers fields members s = some t) {key : List Char} {value : JsonTree}
    (hmem : (key, value) ∈ members) {f : StructField σ} (hf : findField fields key = some f) :
    ∃ u v, f.set value u = some v := by
  induction members generalizing s with
  | nil => exact absurd hmem List.not_mem_nil
  | cons m rest ih =>
      obtain ⟨key', value'⟩ := m
      rw [setMembers] at h
      obtain hhere | hrest := List.mem_cons.mp hmem
      · cases hhere
        rw [hf] at h
        obtain ⟨u, hu, -⟩ := Option.bind_eq_some_iff.mp h
        exact ⟨s, u, hu⟩
      · cases hfind : findField fields key' with
        | none =>
            rw [hfind] at h
            exact ih h hrest
        | some g =>
            rw [hfind] at h
            obtain ⟨u, -, hu⟩ := Option.bind_eq_some_iff.mp h
            exact ih hu hrest

/-! ### Values of type `any` -/

/-- A value of type `any` as `json.Unmarshal` makes it; a `float64` is finite. -/
inductive AnyValue where
  | nil
  | bool (b : Bool)
  | float64 (x : ℚ)
  | string (s : List Char)
  | slice (values : List AnyValue)
  | map (entries : List (List Char × AnyValue))

mutual

/-- A number out of the range of `float64` is an error. -/
def decodeAny : JsonTree → Option AnyValue
  | .null => some .nil
  | .bool b => some (.bool b)
  | .number n =>
      match toDouble n.value with
      | .finite x => some (.float64 x)
      | _ => none
  | .string s => some (.string s)
  | .array values => (decodeValues values).map .slice
  | .object members => (decodeMembers members []).map .map

def decodeValues : List JsonTree → Option (List AnyValue)
  | [] => some []
  | value :: rest =>
      (decodeAny value).bind fun v => (decodeValues rest).map (v :: ·)

/-- The members are put into a map one after the other. -/
def decodeMembers : List (List Char × JsonTree) → JsMap (List Char) AnyValue →
    Option (JsMap (List Char) AnyValue)
  | [], map => some map
  | (key, value) :: rest, map =>
      (decodeAny value).bind fun v => decodeMembers rest (JsMap.set map key v)

end

theorem decodeAny_null : decodeAny .null = some .nil := by rw [decodeAny]

/-- A field of type `any`, which takes every value, `null` as well. -/
def anyField (name : String) (update : AnyValue → σ → σ) : StructField σ where
  name := name.toList
  set tree value := (decodeAny tree).map fun v => update v value

/-- The order of strings by their UTF-8 bytes, which is that of their runes. -/
def keyLe : List Char → List Char → Bool
  | [], _ => true
  | _ :: _, [] => false
  | c :: cs, d :: ds => c.toNat < d.toNat || (c.toNat = d.toNat && keyLe cs ds)

mutual

/-- What `json.Marshal` writes, the keys of a map in order; `formatFloat` writes a `float64`. -/
def encodeAny (formatFloat : ℚ → NumberLiteral) : AnyValue → JsonTree
  | .nil => .null
  | .bool b => .bool b
  | .float64 x => .number (formatFloat x)
  | .string s => .string s
  | .slice values => .array (encodeValues formatFloat values)
  | .map entries =>
      .object ((encodeEntries formatFloat entries).mergeSort fun m n => keyLe m.1 n.1)

def encodeValues (formatFloat : ℚ → NumberLiteral) : List AnyValue → List JsonTree
  | [] => []
  | v :: rest => encodeAny formatFloat v :: encodeValues formatFloat rest

def encodeEntries (formatFloat : ℚ → NumberLiteral) :
    List (List Char × AnyValue) → List (List Char × JsonTree)
  | [] => []
  | (key, v) :: rest => (key, encodeAny formatFloat v) :: encodeEntries formatFloat rest

end

/-! ### Reading and writing -/

/-- Values that can be read one by one can be read as an array. -/
theorem decodeValues_eq_some {P : JsonTree → AnyValue → Prop} {values : List JsonTree}
    (h : ∀ t ∈ values, ∃ v, decodeAny t = some v ∧ P t v) :
    ∃ vs, decodeValues values = some vs ∧ List.Forall₂ P values vs := by
  induction values with
  | nil => exact ⟨[], rfl, .nil⟩
  | cons t values ih =>
      obtain ⟨v, hv, hP⟩ := h t List.mem_cons_self
      obtain ⟨vs, hvs, hPs⟩ := ih fun u hu => h u (List.mem_cons_of_mem t hu)
      refine ⟨v :: vs, ?_, .cons hP hPs⟩
      rw [decodeValues, hv, hvs]
      rfl

/-- Members under distinct keys, none of which the map has yet, go to the end of the map. -/
theorem decodeMembers_eq_some {P : JsonTree → AnyValue → Prop}
    {members : List (List Char × JsonTree)} {map : JsMap (List Char) AnyValue}
    (hnodup : (map.map (·.1) ++ members.map (·.1)).Nodup)
    (h : ∀ m ∈ members, ∃ v, decodeAny m.2 = some v ∧ P m.2 v) :
    ∃ es, decodeMembers members map = some (map ++ es) ∧
      members.map (·.1) = es.map (·.1) ∧ List.Forall₂ P (members.map (·.2)) (es.map (·.2)) := by
  induction members generalizing map with
  | nil =>
      refine ⟨[], ?_, rfl, .nil⟩
      rw [decodeMembers, List.append_nil]
  | cons m members ih =>
      obtain ⟨key, t⟩ := m
      obtain ⟨v, hv, hP⟩ := h (key, t) List.mem_cons_self
      have hnew : key ∉ map.map (·.1) := by
        intro hmem
        exact (List.nodup_append.mp hnodup).2.2 key hmem key List.mem_cons_self rfl
      have hrest : ((map ++ [(key, v)]).map (·.1) ++ members.map (·.1)).Nodup := by
        rw [List.map_append, List.append_assoc]
        exact hnodup
      obtain ⟨es, hes, hkeys, hPs⟩ := ih hrest fun u hu => h u (List.mem_cons_of_mem _ hu)
      refine ⟨(key, v) :: es, ?_, ?_, .cons hP hPs⟩
      · rw [decodeMembers, hv, Option.bind_some, JsMap.set_of_notMem hnew, hes, List.append_assoc]
        rfl
      · rw [List.map_cons, List.map_cons, hkeys]

section RoundTrip

variable {formatFloat : ℚ → NumberLiteral}

theorem encodeValues_eq (vs : List AnyValue) :
    encodeValues formatFloat vs = vs.map (encodeAny formatFloat) := by
  induction vs with
  | nil => rw [encodeValues, List.map_nil]
  | cons v vs ih => rw [encodeValues, List.map_cons, ih]

theorem encodeEntries_eq (es : List (List Char × AnyValue)) :
    encodeEntries formatFloat es = es.map fun e => (e.1, encodeAny formatFloat e.2) := by
  induction es with
  | nil => rw [encodeEntries, List.map_nil]
  | cons e es ih => rw [encodeEntries, List.map_cons, ih]

/-- A relation that holds of each pair exactly when its first part has a property. -/
theorem forall₂_iff_of_each {α β : Type*} {R : α → β → Prop} {Q : α → Prop} {as : List α}
    {bs : List β} (h : List.Forall₂ (fun a b => R a b ↔ Q a) as bs) :
    List.Forall₂ R as bs ↔ ∀ a ∈ as, Q a := by
  induction h with
  | nil => exact ⟨fun _ a ha => absurd ha List.not_mem_nil, fun _ => .nil⟩
  | cons hab _ ih => rw [List.forall₂_cons, hab, ih, List.forall_mem_cons]

/-- **What is read and written again is the same exactly when its numbers are.**  By induction on
the tree; an object comes back with its keys in order. -/
theorem same_encodeAny_iff {t : JsonTree} (hkeys : t.NoRepeatedKeys)
    (hfinite : t.AllNumbers fun n => ∃ x, toDouble n.value = .finite x) :
    ∃ v, decodeAny t = some v ∧ (t.Same (encodeAny formatFloat v) ↔ t.AllNumbers fun n =>
      ∀ x, toDouble n.value = .finite x → (formatFloat x).value = n.value) := by
  induction t using JsonTree.induct with
  | null =>
      refine ⟨.nil, decodeAny_null, ?_⟩
      rw [encodeAny]
      exact iff_of_true .null (JsonTree.everywhere_null.mpr trivial)
  | bool b =>
      refine ⟨.bool b, by rw [decodeAny], ?_⟩
      rw [encodeAny]
      exact iff_of_true (.bool b) (JsonTree.everywhere_bool.mpr trivial)
  | number n =>
      obtain ⟨x, hx⟩ := JsonTree.allNumbers_number.mp hfinite
      refine ⟨.float64 x, by rw [decodeAny, hx], ?_⟩
      rw [encodeAny, JsonTree.same_number_iff, JsonTree.allNumbers_number, hx]
      constructor
      · intro h y hy
        cases hy
        exact h.symm
      · exact fun h => (h x rfl).symm
  | string s =>
      refine ⟨.string s, by rw [decodeAny], ?_⟩
      rw [encodeAny]
      exact iff_of_true (.string s) (JsonTree.everywhere_string.mpr trivial)
  | array values ih =>
      rw [JsonTree.noRepeatedKeys_array] at hkeys
      rw [JsonTree.allNumbers_array] at hfinite
      obtain ⟨vs, hvs, heach⟩ :=
        decodeValues_eq_some fun t ht => ih t ht (hkeys t ht) (hfinite t ht)
      refine ⟨.slice vs, by rw [decodeAny, hvs, Option.map_some], ?_⟩
      rw [encodeAny, encodeValues_eq, JsonTree.same_array_iff, List.forall₂_map_right_iff,
        forall₂_iff_of_each heach, JsonTree.allNumbers_array]
  | object members ih =>
      rw [JsonTree.noRepeatedKeys_object] at hkeys
      rw [JsonTree.allNumbers_object] at hfinite
      obtain ⟨hnodup, hkeys⟩ := hkeys
      have hempty : (([] : JsMap (List Char) AnyValue).map (·.1) ++ members.map (·.1)).Nodup :=
        hnodup
      obtain ⟨es, hes, hsame, heach⟩ := decodeMembers_eq_some
        (P := fun t v => t.Same (encodeAny formatFloat v) ↔ t.AllNumbers fun n =>
          ∀ x, toDouble n.value = .finite x → (formatFloat x).value = n.value)
        hempty fun m hm => ih m hm (hkeys m hm) (hfinite m hm)
      refine ⟨.map es, by rw [decodeAny, hes, Option.map_some, List.nil_append], ?_⟩
      have hwritten : members.map (·.1)
          = (es.map fun e => (e.1, encodeAny formatFloat e.2)).map (·.1) := by
        rw [hsame, List.map_map]
        rfl
      have hvalues : (es.map fun e => (e.1, encodeAny formatFloat e.2)).map (·.2)
          = (es.map (·.2)).map (encodeAny formatFloat) := by
        rw [List.map_map, List.map_map]
        rfl
      rw [encodeAny, encodeEntries_eq, JsonTree.same_object_iff hnodup hwritten
        (List.mergeSort_perm _ _).symm, hvalues, List.forall₂_map_right_iff,
        forall₂_iff_of_each heach, List.forall_mem_map, JsonTree.allNumbers_object]

end RoundTrip

end SocketServer.GoJson
