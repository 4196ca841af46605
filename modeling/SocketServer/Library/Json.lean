import SocketServer.Library.JsNumber
import SocketServer.Library.Text

/-!
# JSON as JavaScript sees it

* `Json` is a JSON value with the members of an object in the order of the text, keys possibly
  repeated; `property` reads a property the way `JSON.parse` resolves repetitions, the last member
  wins;
* `quote` is `QuoteJSONString` of ECMAScript: the two-character escapes, `\u` escapes for the
  other control characters and for unpaired surrogates, and every other code point as it is.  Its
  result is well-formed, so it is given as a list of scalar values;
* `stringifyObject` is `JSON.stringify` of an object whose values are strings.
-/

namespace SocketServer.Js

open SocketServer.Text

inductive Json where
  | null
  | bool (b : Bool)
  | number (x : JsNumber)
  | string (s : JsString)
  | array (values : List Json)
  | object (members : List (JsString × Json))

/-- `value[key]` for a parsed object: the last member with that key. -/
def property (members : List (JsString × Json)) (key : String) : Option Json :=
  (members.reverse.find? fun m => m.1 = js key).map (·.2)

/-- A property is one of the members. -/
theorem mem_of_property {members : List (JsString × Json)} {key : String} {value : Json}
    (h : property members key = some value) : (js key, value) ∈ members := by
  obtain ⟨member, hfind, rfl⟩ := Option.map_eq_some_iff.mp h
  have hkey : member.1 = js key := by simpa using List.find?_some hfind
  rw [← hkey]
  exact List.mem_reverse.mp (List.mem_of_find?_eq_some hfind)

/-! ### Quoting -/

/-- A hexadecimal digit, in lower case. -/
def hexDigit (n : ℕ) : Char := if n < 10 then Char.ofNat (48 + n) else Char.ofNat (87 + n)

/-- `\uXXXX`. -/
def unicodeEscape (u : UInt16) : List Char :=
  let n := u.toNat
  ['\\', 'u', hexDigit (n / 4096 % 16), hexDigit (n / 256 % 16), hexDigit (n / 16 % 16),
    hexDigit (n % 16)]

/-- A code unit that is not part of a surrogate pair. -/
def escapeUnit (u : UInt16) : List Char :=
  if u = 8 then ['\\', 'b']
  else if u = 9 then ['\\', 't']
  else if u = 10 then ['\\', 'n']
  else if u = 12 then ['\\', 'f']
  else if u = 13 then ['\\', 'r']
  else if u = 34 then ['\\', '"']
  else if u = 92 then ['\\', '\\']
  else if u.toNat < 32 ∨ isHighSurrogate u ∨ isLowSurrogate u then unicodeEscape u
  else [unitChar u]

/-- What stands between the quotes. -/
def escape : JsString → List Char
  | [] => []
  | [u] => escapeUnit u
  | u :: v :: rest =>
      if isHighSurrogate u && isLowSurrogate v then pairChar u v :: escape rest
      else escapeUnit u ++ escape (v :: rest)

def quote (s : JsString) : List Char := '"' :: escape s ++ ['"']

/-- A member of an object. -/
def stringifyMember (member : JsString × JsString) : List Char :=
  quote member.1 ++ ':' :: quote member.2

/-- `JSON.stringify` of an object with string values. -/
def stringifyObject (members : List (JsString × JsString)) : List Char :=
  '\x7b' :: (List.intersperse [','] (members.map stringifyMember)).flatten ++ ['\x7d']

/-- The UTF-8 length of a string inside quotes. -/
def escapedLength (s : JsString) : ℕ := (utf8 (escape s)).length

theorem utf8_quote_length (s : JsString) : (utf8 (quote s)).length = escapedLength s + 2 := by
  have hquote : (utf8 ['"']).length = 1 := by decide
  rw [quote, ← List.singleton_append, List.append_assoc, utf8_append, utf8_append,
    List.length_append, List.length_append, hquote, escapedLength]
  omega

/-- A character that JSON writes as it is: printable ASCII other than the quote and the
backslash. -/
def isPlain (c : Char) : Bool := 32 ≤ c.toNat && c.toNat < 127 && c ≠ '"' && c ≠ '\\'

/-- A plain character is its own code unit and its own escape. -/
theorem isPlain_spec {c : Char} (h : isPlain c = true) :
    utf16Char c = [UInt16.ofNat c.toNat] ∧ isHighSurrogate (UInt16.ofNat c.toNat) = false ∧
      escapeUnit (UInt16.ofNat c.toNat) = [c] ∧ (String.utf8EncodeChar c).length = 1 := by
  have hall : ∀ n < 127, isPlain (Char.ofNat n) = true →
      utf16Char (Char.ofNat n) = [UInt16.ofNat (Char.ofNat n).toNat] ∧
        isHighSurrogate (UInt16.ofNat (Char.ofNat n).toNat) = false ∧
        escapeUnit (UInt16.ofNat (Char.ofNat n).toNat) = [Char.ofNat n] ∧
        (String.utf8EncodeChar (Char.ofNat n)).length = 1 := by decide +kernel
  have hlt : c.toNat < 127 := by
    simp only [isPlain, Bool.and_eq_true, decide_eq_true_eq] at h
    exact h.1.1.2
  have hspec := hall c.toNat hlt
  rw [Char.ofNat_toNat] at hspec
  exact hspec h

/-- Plain text is written as it is. -/
theorem escape_plain (cs : List Char) (h : ∀ c ∈ cs, isPlain c = true) :
    escape (utf16 cs) = cs := by
  induction cs with
  | nil => rfl
  | cons c cs ih =>
      obtain ⟨hunit, hhigh, hescape, -⟩ := isPlain_spec (h c List.mem_cons_self)
      have htail := ih fun d hd => h d (List.mem_cons_of_mem c hd)
      rw [utf16_cons, hunit, List.singleton_append]
      cases hrest : utf16 cs with
      | nil =>
          rw [hrest] at htail
          rw [escape, hescape, ← htail]
          rfl
      | cons v rest =>
          rw [hrest] at htail
          rw [escape, hhigh, Bool.false_and, if_neg Bool.false_ne_true, hescape, htail,
            List.singleton_append]

theorem utf16_length_plain (cs : List Char) (h : ∀ c ∈ cs, isPlain c = true) :
    (utf16 cs).length = cs.length := by
  induction cs with
  | nil => rfl
  | cons c cs ih =>
      obtain ⟨hunit, -⟩ := isPlain_spec (h c List.mem_cons_self)
      rw [utf16_cons, hunit, List.length_append, List.length_singleton,
        ih fun d hd => h d (List.mem_cons_of_mem c hd), List.length_cons, Nat.add_comm]

theorem utf8_length_plain (cs : List Char) (h : ∀ c ∈ cs, isPlain c = true) :
    (utf8 cs).length = cs.length := by
  induction cs with
  | nil => rfl
  | cons c cs ih =>
      obtain ⟨-, -, -, hlen⟩ := isPlain_spec (h c List.mem_cons_self)
      rw [utf8_cons, List.length_append, hlen, ih fun d hd => h d (List.mem_cons_of_mem c hd),
        List.length_cons, Nat.add_comm]

end SocketServer.Js
