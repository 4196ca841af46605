import SocketServer.Library.Json

/-!
# Reading back what `JSON.stringify` wrote

Objects whose values are strings or natural numbers, as JSON text and back.

* `unquote_quote`: a quoted string is read back, escapes, surrogates and all, and what follows it
  is left;
* `readObject_stringify`: the members of such an object are read back in their order;
* `parseFlat_stringify`: the same of the strings and values of JavaScript.
-/

namespace SocketServer.Js

open SocketServer.Text

/-! ### Strings -/

/-- The value of a hexadecimal digit. -/
def hexValue (c : Char) : Option ℕ :=
  if 48 ≤ c.toNat ∧ c.toNat ≤ 57 then some (c.toNat - 48)
  else if 97 ≤ c.toNat ∧ c.toNat ≤ 102 then some (c.toNat - 87)
  else if 65 ≤ c.toNat ∧ c.toNat ≤ 70 then some (c.toNat - 55)
  else none

/-- The code unit of four hexadecimal digits. -/
def unitOfHex (a b c d : Char) : Option UInt16 := do
  let a ← hexValue a
  let b ← hexValue b
  let c ← hexValue c
  let d ← hexValue d
  return UInt16.ofNat (a * 4096 + b * 256 + c * 16 + d)

/-- The code unit of an escape of two characters, by the second of them. -/
def shortEscape (c : Char) : Option UInt16 :=
  if c = '"' then some 34
  else if c = '\\' then some 92
  else if c = '/' then some 47
  else if c = 'b' then some 8
  else if c = 'f' then some 12
  else if c = 'n' then some 10
  else if c = 'r' then some 13
  else if c = 't' then some 9
  else none

/-- The string up to the closing quote, and the text after it. -/
def unquote : List Char → Option (JsString × List Char)
  | [] => none
  | c :: rest =>
      if c = '"' then some ([], rest)
      else if c = '\\' then
        match rest with
        | [] => none
        | e :: rest =>
            if e = 'u' then
              match rest with
              | a :: b :: c :: d :: rest =>
                  (unitOfHex a b c d).bind fun u => (unquote rest).map fun p => (u :: p.1, p.2)
              | _ => none
            else (shortEscape e).bind fun u => (unquote rest).map fun p => (u :: p.1, p.2)
      else if c.toNat < 32 then none
      else (unquote rest).map fun p => (utf16Char c ++ p.1, p.2)

theorem hexValue_hexDigit : ∀ n < 16, hexValue (hexDigit n) = some n := by decide

/-- Four digits are the code unit they were written for. -/
theorem unitOfHex_digits (u : UInt16) :
    unitOfHex (hexDigit (u.toNat / 4096 % 16)) (hexDigit (u.toNat / 256 % 16))
      (hexDigit (u.toNat / 16 % 16)) (hexDigit (u.toNat % 16)) = some u := by
  have hlt := u.toNat_lt
  have hdigit : ∀ n, hexValue (hexDigit (n % 16)) = some (n % 16) := fun n =>
    hexValue_hexDigit _ (Nat.mod_lt n (by decide))
  have hsum : u.toNat / 4096 % 16 * 4096 + u.toNat / 256 % 16 * 256 + u.toNat / 16 % 16 * 16 +
      u.toNat % 16 = u.toNat := by omega
  simp only [unitOfHex, hdigit, Option.bind_eq_bind, Option.bind_some, hsum, UInt16.ofNat_toNat]
  rfl

theorem unquote_end (rest : List Char) : unquote ('"' :: rest) = some ([], rest) := by
  rw [unquote.eq_def]
  exact if_pos rfl

theorem unquote_unicodeEscape (u : UInt16) (rest : List Char) :
    unquote (unicodeEscape u ++ rest) = (unquote rest).map fun p => (u :: p.1, p.2) := by
  have hback : ¬('\\' = '"') := by decide
  show unquote ('\\' :: 'u' :: _ :: _ :: _ :: _ :: rest) = _
  rw [unquote.eq_def]
  simp only [if_neg hback, if_true, unitOfHex_digits, Option.bind_some]

theorem unquote_shortEscape {c : Char} {u : UInt16} (hc : c ≠ 'u') (h : shortEscape c = some u)
    (rest : List Char) :
    unquote ('\\' :: c :: rest) = (unquote rest).map fun p => (u :: p.1, p.2) := by
  have hback : ¬('\\' = '"') := by decide
  rw [unquote.eq_def]
  simp only [if_neg hback, if_true, if_neg hc, h, Option.bind_some]

/-- A character that stands for itself. -/
theorem unquote_plain {c : Char} (h : 32 ≤ c.toNat) (hquote : c ≠ '"') (hback : c ≠ '\\')
    (rest : List Char) :
    unquote (c :: rest) = (unquote rest).map fun p => (utf16Char c ++ p.1, p.2) := by
  rw [unquote.eq_def]
  simp only [if_neg hquote, if_neg hback, if_neg (Nat.not_lt.mpr h)]

/-- **One code unit.**  However it was written, it is read back. -/
theorem unquote_escapeUnit (u : UInt16) (rest : List Char) :
    unquote (escapeUnit u ++ rest) = (unquote rest).map fun p => (u :: p.1, p.2) := by
  have hshort : ∀ c v, c ≠ 'u' → shortEscape c = some v → u = v →
      unquote (['\\', c] ++ rest) = (unquote rest).map fun p => (u :: p.1, p.2) := by
    rintro c v hc hv rfl
    exact unquote_shortEscape hc hv rest
  unfold escapeUnit
  split_ifs with hb ht hn hf hr hquote hback hcontrol
  · exact hshort 'b' 8 (by decide) (by decide) hb
  · exact hshort 't' 9 (by decide) (by decide) ht
  · exact hshort 'n' 10 (by decide) (by decide) hn
  · exact hshort 'f' 12 (by decide) (by decide) hf
  · exact hshort 'r' 13 (by decide) (by decide) hr
  · exact hshort '"' 34 (by decide) (by decide) hquote
  · exact hshort '\\' 92 (by decide) (by decide) hback
  · exact unquote_unicodeEscape u rest
  · -- the code unit is written as its own character
    simp only [not_or, Bool.not_eq_true, not_lt] at hcontrol
    obtain ⟨hge, hhigh, hlow⟩ := hcontrol
    have htext := utf16Char_unitChar hhigh hlow
    have hnat : (unitChar u).toNat = u.toNat := by
      have hlt := u.toNat_lt
      have hchar : unitChar u = Char.ofNat u.toNat := by
        rw [unitChar, hhigh, hlow, Bool.or_false, if_neg Bool.false_ne_true]
      simp only [isHighSurrogate, isLowSurrogate, Bool.and_eq_false_iff,
        decide_eq_false_iff_not] at hhigh hlow
      rw [hchar]
      exact toNat_charOfNat (by omega)
    have hne : ∀ c : Char, u ≠ UInt16.ofNat c.toNat → unitChar u ≠ c := by
      rintro c hc rfl
      exact hc (by rw [hnat, UInt16.ofNat_toNat])
    rw [List.singleton_append, unquote_plain (hnat ▸ hge) (hne '"' hquote) (hne '\\' hback), htext]
    rfl

/-- **A string is read back**, and what follows the quote is left. -/
theorem unquote_quote (s : JsString) (rest : List Char) :
    unquote (escape s ++ '"' :: rest) = some (s, rest) := by
  induction s using escape.induct with
  | case1 => rw [escape, List.nil_append, unquote_end]
  | case2 u => rw [escape, unquote_escapeUnit, unquote_end, Option.map_some]
  | case3 u v tail hpair ih =>
      obtain ⟨hhigh, hlow⟩ := Bool.and_eq_true_iff.mp hpair
      have hnat : 0x10000 ≤ (pairChar u v).toNat := by
        have hu := u.toNat_lt
        have hv := v.toNat_lt
        simp only [isHighSurrogate, isLowSurrogate, Bool.and_eq_true, decide_eq_true_eq]
          at hhigh hlow
        rw [pairChar, toNat_charOfNat (by omega)]
        omega
      have hne : ∀ c : Char, c.toNat < 0x10000 → pairChar u v ≠ c := by
        rintro c hc rfl
        omega
      rw [escape, if_pos hpair, List.cons_append,
        unquote_plain (by omega) (hne '"' (by decide)) (hne '\\' (by decide)), ih,
        utf16Char_pairChar hhigh hlow]
      rfl
  | case4 u v tail hpair ih =>
      rw [escape, if_neg hpair, List.append_assoc, unquote_escapeUnit, ih, Option.map_some]

/-! ### Objects of strings and natural numbers -/

inductive Scalar where
  | string (s : JsString)
  | natural (n : ℕ)
  deriving DecidableEq

/-- The value in JSON text; a natural number below 10^21 is written in decimal. -/
def Scalar.stringify : Scalar → List Char
  | .string s => quote s
  | .natural n => Nat.toDigits 10 n

/-- The value when it has been parsed. -/
def Scalar.value : Scalar → Json
  | .string s => .string s
  | .natural n => .number (.finite n)

def stringifyField (field : JsString × Scalar) : List Char :=
  quote field.1 ++ ':' :: field.2.stringify

/-- `JSON.stringify` of the object. -/
def stringifyFields (fields : List (JsString × Scalar)) : List Char :=
  '\x7b' :: (List.intersperse [','] (fields.map stringifyField)).flatten ++ ['\x7d']

theorem stringifyObject_eq (members : List (JsString × JsString)) :
    stringifyObject members = stringifyFields (members.map fun m => (m.1, .string m.2)) := by
  rw [stringifyObject, stringifyFields, List.map_map]
  rfl

/-- The scalar at the start of a text, and the rest. -/
def readScalar : List Char → Option (Scalar × List Char)
  | [] => none
  | c :: rest =>
      if c = '"' then (unquote rest).map fun p => (.string p.1, p.2)
      else if c.isDigit then
        some (.natural (Nat.ofDigitChars 10 ((c :: rest).takeWhile Char.isDigit) 0),
          (c :: rest).dropWhile Char.isDigit)
      else none

/-- The member at the start of a text, and the rest. -/
def readField : List Char → Option ((JsString × Scalar) × List Char)
  | '"' :: rest =>
      match unquote rest with
      | some (key, ':' :: rest) => (readScalar rest).map fun p => ((key, p.1), p.2)
      | _ => none
  | _ => none

/-- The members up to the closing brace, which ends the text; at most `n` of them. -/
def readFields : ℕ → List Char → Option (List (JsString × Scalar))
  | 0, _ => none
  | n + 1, text =>
      match readField text with
      | some (field, ',' :: rest) => (readFields n rest).map (field :: ·)
      | some (field, ['\x7d']) => some [field]
      | _ => none

/-- The members of the object that a text is. -/
def readObject : List Char → Option (List (JsString × Scalar))
  | ['\x7b', '\x7d'] => some []
  | '\x7b' :: rest => readFields rest.length rest
  | _ => none

/-- A scalar is read back where no digit follows it. -/
theorem readScalar_stringify (scalar : Scalar) {rest : List Char}
    (hrest : ∀ c ∈ rest.head?, c.isDigit = false) :
    readScalar (scalar.stringify ++ rest) = some (scalar, rest) := by
  cases scalar with
  | string s =>
      rw [Scalar.stringify, quote, List.cons_append, List.cons_append, List.append_assoc,
        List.singleton_append, readScalar, if_pos rfl, unquote_quote, Option.map_some]
  | natural n =>
      have hdigits : ∀ c ∈ Nat.toDigits 10 n, c.isDigit = true := fun c hc =>
        Nat.isDigit_of_mem_toDigits (by decide) (by decide) hc
      have hstop : rest.takeWhile Char.isDigit = [] ∧ rest.dropWhile Char.isDigit = rest := by
        cases rest with
        | nil => exact ⟨rfl, rfl⟩
        | cons c rest =>
            have hc := hrest c rfl
            exact ⟨List.takeWhile_cons_of_neg (by simp [hc]),
              List.dropWhile_cons_of_neg (by simp [hc])⟩
      rw [Scalar.stringify]
      cases htext : Nat.toDigits 10 n with
      | nil => exact absurd htext Nat.toDigits_ne_nil
      | cons c cs =>
          have hc : c.isDigit = true := hdigits c (htext ▸ List.mem_cons_self)
          have hquote : c ≠ '"' := by
            rintro rfl
            exact absurd hc (by decide)
          rw [List.cons_append, readScalar, if_neg hquote, if_pos hc, ← List.cons_append, ← htext,
            List.takeWhile_append_of_pos hdigits, List.dropWhile_append_of_pos hdigits, hstop.1,
            hstop.2, List.append_nil, Nat.ofDigitChars_toDigits (by decide) (by decide)]

theorem readField_stringify (field : JsString × Scalar) {rest : List Char}
    (hrest : ∀ c ∈ rest.head?, c.isDigit = false) :
    readField (stringifyField field ++ rest) = some (field, rest) := by
  rw [stringifyField, quote, List.cons_append, List.cons_append, List.cons_append,
    List.append_assoc, List.append_assoc, List.singleton_append, List.cons_append, readField,
    unquote_quote]
  simp only [readScalar_stringify field.2 hrest, Option.map_some]

/-- The members are read back up to the closing brace. -/
theorem readFields_stringify (fields : List (JsString × Scalar)) (hne : fields ≠ []) {n : ℕ}
    (hn : fields.length ≤ n) :
    readFields n ((List.intersperse [','] (fields.map stringifyField)).flatten ++ ['\x7d'])
      = some fields := by
  induction fields generalizing n with
  | nil => exact absurd rfl hne
  | cons field fields ih =>
      obtain ⟨n, rfl⟩ : ∃ m, n = m + 1 := ⟨n - 1, by simp only [List.length_cons] at hn; omega⟩
      cases fields with
      | nil =>
          have hread := @readField_stringify field ['\x7d'] fun c hc => by
            cases hc
            rfl
          rw [List.map_singleton, List.intersperse_singleton, List.flatten_singleton, readFields,
            hread]
          rfl
      | cons next fields =>
          have htail := ih (List.cons_ne_nil _ _) (Nat.le_of_succ_le_succ hn)
          rw [List.map_cons, List.map_cons, List.intersperse_cons_cons, List.flatten_cons,
            List.flatten_cons, List.append_assoc, List.append_assoc, List.singleton_append,
            readFields, @readField_stringify field (',' :: _) (by simp), ← List.map_cons]
          simp only [htail, Option.map_some]

/-- Every member is written, with at least its quotes. -/
theorem length_le_stringify (fields : List (JsString × Scalar)) :
    fields.length ≤ ((List.intersperse [','] (fields.map stringifyField)).flatten).length := by
  induction fields with
  | nil => exact Nat.zero_le _
  | cons field fields ih =>
      have hpos : 0 < (stringifyField field).length := by
        rw [stringifyField, quote, List.cons_append, List.cons_append]
        exact Nat.succ_pos _
      cases fields with
      | nil =>
          rw [List.map_singleton, List.intersperse_singleton, List.flatten_singleton]
          exact hpos
      | cons next fields =>
          rw [List.map_cons, List.map_cons, List.intersperse_cons_cons, List.flatten_cons,
            List.flatten_cons, List.length_append, List.length_append, List.length_cons,
            ← List.map_cons]
          omega

/-- **An object is read back.** -/
theorem readObject_stringify (fields : List (JsString × Scalar)) :
    readObject (stringifyFields fields) = some fields := by
  cases fields with
  | nil => rfl
  | cons field fields =>
      have hlength := length_le_stringify (field :: fields)
      have hread := @readFields_stringify (field :: fields) (List.cons_ne_nil _ _)
        ((List.intersperse [','] ((field :: fields).map stringifyField)).flatten ++ ['\x7d']).length
        (by rw [List.length_append]; omega)
      rw [stringifyFields, List.cons_append, readObject]
      · exact hread
      · -- the text of a member starts with a quote
        intro h
        cases fields <;> simp [stringifyField, quote] at h

/-- `JSON.parse` of such objects. -/
def parseFlat (text : JsString) : Option Json :=
  (readObject (toUSV text)).map fun fields => .object (fields.map fun f => (f.1, f.2.value))

/-- **`JSON.parse` after `JSON.stringify`.** -/
theorem parseFlat_stringify (fields : List (JsString × Scalar)) :
    parseFlat (utf16 (stringifyFields fields)) =
      some (.object (fields.map fun f => (f.1, f.2.value))) := by
  rw [parseFlat, toUSV_utf16, readObject_stringify, Option.map_some]

end SocketServer.Js
