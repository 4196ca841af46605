import SocketServer.Library.ByteLength
import SocketServer.Library.JsNumber

/-!
# The size of rendered text

A renderer turns a document into a string made of pieces: the text runs of the document, and what
the renderer adds around them, markup or separators.

* `byteLength_escaped`: with some characters of the text escaped, the string is longer than the
  plain one by what their replacements are longer;
* `byteLength_collapsed_le`: with separators of white space, every run of white space collapsed to
  a blank and both ends trimmed, the string takes at most one byte more than the text for each
  text run.
-/

namespace SocketServer.Js

open SocketServer.Text

/-! ### White space -/

/-- `s.replace(/\s+/g, " ")`; `inSpace` is whether the character before was white space. -/
def collapseSpaces (inSpace : Bool) : JsString → JsString
  | [] => []
  | u :: rest =>
      if isSpace u then
        if inSpace then collapseSpaces true rest else unit ' ' :: collapseSpaces true rest
      else u :: collapseSpaces false rest

theorem isSpace_spec {u : UInt16} (h : isSpace u = true) :
    isHighSurrogate u = false ∧ isLowSurrogate u = false := by
  simp only [isSpace, Bool.or_eq_true, Bool.and_eq_true, decide_eq_true_eq] at h
  exact not_surrogate (by omega)

theorem isAscii_blank : isAscii (unit ' ') = true := by decide

theorem startsLow_collapseSpaces (s : JsString) :
    startsLow (collapseSpaces false s) = startsLow s := by
  cases s with
  | nil => rfl
  | cons u rest =>
      by_cases hu : isSpace u = true
      · rw [collapseSpaces, if_pos hu, if_neg Bool.false_ne_true]
        show isLowSurrogate (unit ' ') = isLowSurrogate u
        rw [(isSpace_spec hu).2]
        decide
      · rw [collapseSpaces, if_neg hu]
        rfl

/-- Collapsing does not lengthen a string. -/
theorem byteLength_collapseSpaces_le (inSpace : Bool) (s : JsString) :
    byteLength (collapseSpaces inSpace s) ≤ byteLength s := by
  induction s generalizing inSpace with
  | nil => exact Nat.le_refl _
  | cons u rest ih =>
      have hcons := byteLength_cons u rest
      by_cases hu : isSpace u = true
      · have hrest := ih true
        have hone := one_le_byteLength_singleton u
        have hpair : pairing u rest = 0 := by
          rw [pairing, (isSpace_spec hu).1, Bool.false_and, if_neg Bool.false_ne_true]
        rw [collapseSpaces, if_pos hu]
        split
        · omega
        · rw [byteLength_ascii_cons isAscii_blank]
          omega
      · have hrest := ih false
        have hout := byteLength_cons u (collapseSpaces false rest)
        have hpair : pairing u (collapseSpaces false rest) = pairing u rest := by
          rw [pairing, startsLow_collapseSpaces, pairing]
        rw [collapseSpaces, if_neg hu]
        omega

/-- Collapsing a concatenation: what is behind a string only sees whether it ends in white
space. -/
theorem collapseSpaces_append (inSpace : Bool) (s : JsString) :
    ∃ after, ∀ t, collapseSpaces inSpace (s ++ t) =
      collapseSpaces inSpace s ++ collapseSpaces after t := by
  induction s generalizing inSpace with
  | nil => exact ⟨inSpace, fun t => rfl⟩
  | cons u rest ih =>
      by_cases hu : isSpace u = true
      · obtain ⟨after, hafter⟩ := ih true
        refine ⟨after, fun t => ?_⟩
        rw [List.cons_append, collapseSpaces, collapseSpaces, if_pos hu, if_pos hu, hafter]
        split <;> rfl
      · obtain ⟨after, hafter⟩ := ih false
        refine ⟨after, fun t => ?_⟩
        rw [List.cons_append, collapseSpaces, collapseSpaces, if_neg hu, if_neg hu, hafter]
        rfl

/-- White space behind white space vanishes. -/
theorem collapseSpaces_spaces {s : JsString} (h : ∀ u ∈ s, isSpace u = true) (t : JsString) :
    collapseSpaces true (s ++ t) = collapseSpaces true t := by
  induction s with
  | nil => rfl
  | cons u rest ih =>
      rw [List.cons_append, collapseSpaces, if_pos (h u List.mem_cons_self), if_pos rfl]
      exact ih fun v hv => h v (List.mem_cons_of_mem u hv)

/-- A trimmed string has lost its leading white space anyway. -/
theorem dropWhile_collapseSpaces (s : JsString) :
    (collapseSpaces false s).dropWhile isSpace = (collapseSpaces true s).dropWhile isSpace := by
  have hblank : isSpace (unit ' ') = true := by decide
  cases s with
  | nil => rfl
  | cons u rest =>
      by_cases hu : isSpace u = true
      · rw [collapseSpaces, collapseSpaces, if_pos hu, if_pos hu, if_neg Bool.false_ne_true,
          if_pos rfl, List.dropWhile_cons_of_pos hblank]
      · rw [collapseSpaces, collapseSpaces, if_neg hu, if_neg hu]

/-- A collapsed and trimmed string is no longer than the string collapsed from its start on. -/
theorem byteLength_trim_collapseSpaces_le (s : JsString) :
    byteLength (trim (collapseSpaces false s)) ≤ byteLength (collapseSpaces true s) := by
  rw [trim, dropWhile_collapseSpaces]
  have hend : ∀ t : JsString, (t.reverse.dropWhile isSpace).reverse <+: t := by
    intro t
    have hsuffix := List.dropWhile_suffix (l := t.reverse) isSpace
    rw [← List.reverse_prefix, List.reverse_reverse] at hsuffix
    exact hsuffix
  calc byteLength (((collapseSpaces true s).dropWhile isSpace).reverse.dropWhile isSpace).reverse
      ≤ byteLength ((collapseSpaces true s).dropWhile isSpace) := byteLength_le_of_prefix (hend _)
    _ ≤ byteLength (collapseSpaces true s) := byteLength_le_of_suffix (List.dropWhile_suffix isSpace)

/-! ### Pieces -/

/-- A piece of a rendered string. -/
inductive Piece where
  /-- A text run of the document. -/
  | text (s : JsString)
  /-- What the renderer adds. -/
  | added (s : JsString)
  deriving DecidableEq

def Piece.string : Piece → JsString
  | .text s => s
  | .added s => s

/-- The string without any escaping. -/
def plain (pieces : List Piece) : JsString := pieces.flatMap Piece.string

def Piece.run : Piece → Option JsString
  | .text s => some s
  | .added _ => none

/-- The text runs among the pieces. -/
def runs (pieces : List Piece) : List JsString := pieces.filterMap Piece.run

/-- A piece with its text escaped by `f`. -/
def Piece.escaped (f : UInt16 → JsString) : Piece → JsString
  | .text s => s.flatMap f
  | .added s => s

def escaped (f : UInt16 → JsString) (pieces : List Piece) : JsString :=
  pieces.flatMap (Piece.escaped f)

/-- The code units of a piece, those of the text marked. -/
def Piece.units : Piece → List (Bool × UInt16)
  | .text s => s.map fun u => (true, u)
  | .added s => s.map fun u => (false, u)

theorem marked_units (pieces : List Piece) :
    (pieces.flatMap Piece.units).filter (·.1) = (runs pieces).flatten.map fun u => (true, u) := by
  induction pieces with
  | nil => rfl
  | cons piece rest ih =>
      rw [List.flatMap_cons, List.filter_append, ih]
      cases piece with
      | text s =>
          have hruns : runs (.text s :: rest) = s :: runs rest := rfl
          simp [hruns, Piece.units, List.filter_map, Function.comp_def]
      | added s =>
          have hruns : runs (.added s :: rest) = runs rest := rfl
          simp [hruns, Piece.units, List.filter_map, Function.comp_def]

/-- **The length of an escaped rendering.** -/
theorem byteLength_escaped {f : UInt16 → JsString} (hf : IsEscape f) (pieces : List Piece) :
    byteLength (escaped f pieces) =
      byteLength (plain pieces) +
        ((runs pieces).flatten.map fun u => (f u).length - byteLength [u]).sum := by
  have hescaped : escaped f pieces =
      (pieces.flatMap Piece.units).flatMap fun p => if p.1 then f p.2 else [p.2] := by
    rw [escaped, List.flatMap_assoc]
    refine congrArg pieces.flatMap (funext fun piece => ?_)
    cases piece <;> simp [Piece.escaped, Piece.units, List.flatMap_map]
  have hplain : plain pieces = (pieces.flatMap Piece.units).map (·.2) := by
    rw [plain, List.map_flatMap]
    refine congrArg pieces.flatMap (funext fun piece => ?_)
    cases piece <;> simp [Piece.string, Piece.units, Function.comp_def]
  rw [hescaped, byteLength_escape hf, hplain, marked_units, List.map_map, Function.comp_def]

/-- **The length of collapsed text.**  A text run costs its bytes and at most one blank; what
separates the runs is white space and costs nothing more. -/
theorem byteLength_collapsed_le {pieces : List Piece}
    (hadded : ∀ s, Piece.added s ∈ pieces → ∀ u ∈ s, isSpace u = true) :
    byteLength (trim (collapseSpaces false (plain pieces))) ≤
      ((runs pieces).map fun run => byteLength run + 1).sum := by
  -- in front of a piece, one blank may still be due unless the string just had one
  have hbound : ∀ inSpace : Bool, byteLength (collapseSpaces inSpace (plain pieces)) ≤
      ((runs pieces).map fun run => byteLength run + 1).sum + if inSpace then 0 else 1 := by
    induction pieces with
    | nil => exact fun inSpace => Nat.zero_le _
    | cons piece rest ih =>
        have hrest := ih fun s hs => hadded s (List.mem_cons_of_mem piece hs)
        intro inSpace
        cases piece with
        | text s =>
            obtain ⟨after, hafter⟩ := collapseSpaces_append inSpace s
            have happend := byteLength_append_le (collapseSpaces inSpace s)
              (collapseSpaces after (plain rest))
            have hhere := byteLength_collapseSpaces_le inSpace s
            have hthere := hrest after
            have hdue : (if after then 0 else 1) ≤ 1 := by split <;> omega
            show byteLength (collapseSpaces inSpace (s ++ plain rest)) ≤
              byteLength s + 1 + ((runs rest).map fun run => byteLength run + 1).sum + _
            rw [hafter]
            omega
        | added s =>
            have hspace := hadded s List.mem_cons_self
            show byteLength (collapseSpaces inSpace (s ++ plain rest)) ≤
              ((runs rest).map fun run => byteLength run + 1).sum + _
            cases inSpace with
            | true =>
                rw [collapseSpaces_spaces hspace]
                exact hrest true
            | false =>
                cases s with
                | nil => exact hrest false
                | cons u s =>
                    have hthere := hrest true
                    rw [List.cons_append, collapseSpaces, if_pos (hspace u List.mem_cons_self),
                      if_neg Bool.false_ne_true, byteLength_ascii_cons isAscii_blank,
                      collapseSpaces_spaces fun v hv => hspace v (List.mem_cons_of_mem u hv)]
                    simp only [if_true, if_false, Bool.false_eq_true] at hthere ⊢
                    omega
  exact (byteLength_trim_collapseSpaces_le (plain pieces)).trans (hbound true)

end SocketServer.Js
