import SocketServer.Library.Decimal

/-!
# Metrics as lines of text

The text exposition of metrics: for each metric a line of help, a line with its type, and a line
with its name and its value.  A reader looks for the first line that is `name`, a blank and decimal
digits, the way a multi-line regular expression `^name (\d+)$` does.

* `lines_unlines`: what a reader takes for the lines of a text of lines;
* `findSample_text`: the sample that is found is that of the first metric with the name.

Nothing here names a particular program.
-/

namespace SocketServer.Exposition

open SocketServer.Text SocketServer.Js

/-- The line terminators of ECMAScript. -/
def isLineTerminator (c : Char) : Bool :=
  c = '\n' || c = '\r' || c = '\u2028' || c = '\u2029'

/-- The pieces of a text between line terminators, where `^` and `$` match. -/
def lines (text : List Char) : List (List Char) := text.splitOnP isLineTerminator

/-- Lines, each with a line feed behind it. -/
def unlines (ls : List (List Char)) : List Char := ls.flatMap fun line => line ++ ['\n']

theorem lines_unlines {ls : List (List Char)}
    (h : ∀ line ∈ ls, ∀ c ∈ line, isLineTerminator c = false) : lines (unlines ls) = ls ++ [[]] := by
  induction ls with
  | nil => rfl
  | cons line ls ih =>
      have htail := ih fun l hl => h l (List.mem_cons_of_mem line hl)
      rw [lines] at htail ⊢
      rw [unlines, List.flatMap_cons, List.append_assoc, List.singleton_append,
        List.splitOnP_append_cons_of_forall_mem (h line List.mem_cons_self) '\n' rfl, ← unlines,
        htail]
      rfl

/-! ### Samples -/

/-- The digits of a line that is `name`, a blank and digits. -/
def sampleOf (name line : List Char) : Option (List Char) :=
  let rest := line.drop (name.length + 1)
  if name ++ [' '] = line.take (name.length + 1) ∧ rest ≠ [] ∧ rest.all Char.isDigit then some rest
  else none

/-- The digits of the first such line. -/
def findSample (name text : List Char) : Option (List Char) :=
  (lines text).findSome? (sampleOf name)

/-- A line whose first character is not that of the name. -/
theorem sampleOf_comment {c d : Char} (h : c ≠ d) (name line : List Char) :
    sampleOf (c :: name) (d :: line) = none := by
  rw [sampleOf]
  refine if_neg fun hif => h ?_
  have heads := hif.1
  rw [List.length_cons, List.take_succ_cons, List.cons_append] at heads
  exact (List.cons.inj heads).1

/-- A sample line is found under its own name and no other; names hold no blanks. -/
theorem sampleOf_sample {name other digits : List Char} (hname : ' ' ∉ name) (hother : ' ' ∉ other)
    (hne : digits ≠ []) (hdigits : ∀ c ∈ digits, c.isDigit = true) :
    sampleOf name (other ++ ' ' :: digits) = if other = name then some digits else none := by
  rw [sampleOf]
  by_cases heq : other = name
  · subst heq
    have hlength : (other ++ [' ']).length = other.length + 1 := by simp
    have hsplit : other ++ ' ' :: digits = other ++ [' '] ++ digits := by simp
    rw [hsplit, ← hlength, List.take_left, List.drop_left, if_pos rfl]
    exact if_pos ⟨rfl, hne, List.all_eq_true.mpr hdigits⟩
  · rw [if_neg heq]
    refine if_neg fun hif => heq ?_
    -- the first blank ends both names
    have hblank : ∀ {a b rest : List Char}, ' ' ∉ a → ' ' ∉ b →
        a ++ [' '] <+: b ++ ' ' :: rest → b = a := by
      intro a
      induction a with
      | nil =>
          intro b rest _ hb hstart
          cases b with
          | nil => rfl
          | cons d b =>
              have := (List.cons_prefix_cons.mp hstart).1
              exact absurd (this ▸ List.mem_cons_self) hb
      | cons c a ih =>
          intro b rest ha hb hstart
          cases b with
          | nil =>
              have := (List.cons_prefix_cons.mp hstart).1
              exact absurd (this ▸ List.mem_cons_self) ha
          | cons d b =>
              obtain ⟨hcd, htail⟩ := List.cons_prefix_cons.mp hstart
              rw [hcd, ih (fun h => ha (List.mem_cons_of_mem c h))
                (fun h => hb (List.mem_cons_of_mem d h)) htail]
    have hstart : name ++ [' '] <+: other ++ ' ' :: digits := by
      rw [hif.1]
      exact List.take_prefix _ _
    exact hblank hname hother hstart

/-! ### Texts of metrics -/

structure Metric where
  type : List Char
  name : List Char
  help : List Char
  value : ℕ

def Metric.lines (m : Metric) : List (List Char) :=
  ["# HELP ".toList ++ m.name ++ ' ' :: m.help, "# TYPE ".toList ++ m.name ++ ' ' :: m.type,
    m.name ++ ' ' :: Nat.toDigits 10 m.value]

/-- The text of a list of metrics. -/
def text (metrics : List Metric) : List Char := unlines (metrics.flatMap Metric.lines)

/-- A metric whose name is a name and whose other parts keep to their lines. -/
structure Metric.Plain (m : Metric) : Prop where
  first : ∃ c rest, m.name = c :: rest ∧ c ≠ '#'
  blank : ' ' ∉ m.name
  line : ∀ c ∈ m.type ++ m.name ++ m.help, isLineTerminator c = false

theorem isDigit_toDigits {n : ℕ} {c : Char} (hc : c ∈ Nat.toDigits 10 n) : c.isDigit = true :=
  Nat.isDigit_of_mem_toDigits (by decide) (by decide) hc

theorem not_terminator_of_isDigit {c : Char} (h : c.isDigit = true) :
    isLineTerminator c = false := by
  have hrange := Char.isDigit_iff_toNat.mp h
  have hne : ∀ d : Char, ¬('0'.toNat ≤ d.toNat ∧ d.toNat ≤ '9'.toNat) → c ≠ d := by
    rintro d hd rfl
    exact hd hrange
  simp [isLineTerminator, hne '\n' (by decide), hne '\r' (by decide), hne '\u2028' (by decide),
    hne '\u2029' (by decide)]

/-- The lines of plain metrics hold no line terminators. -/
theorem Metric.Plain.lines {m : Metric} (h : m.Plain) :
    ∀ line ∈ m.lines, ∀ c ∈ line, isLineTerminator c = false := by
  have hhelp : ∀ c ∈ "# HELP ".toList, isLineTerminator c = false :=
    List.forall_mem_iff_forall_getElem.mpr (by decide)
  have htype : ∀ c ∈ "# TYPE ".toList, isLineTerminator c = false :=
    List.forall_mem_iff_forall_getElem.mpr (by decide)
  have hblank : isLineTerminator ' ' = false := rfl
  have hpart : ∀ c, c ∈ m.type ∨ c ∈ m.name ∨ c ∈ m.help → isLineTerminator c = false := by
    intro c hc
    exact h.line c (by simpa [or_assoc] using hc)
  intro line hline c hc
  simp only [Metric.lines, List.mem_cons, List.not_mem_nil, or_false] at hline
  rcases hline with rfl | rfl | rfl
  · simp only [List.mem_append, List.mem_cons] at hc
    rcases hc with (hc | hc) | rfl | hc
    · exact hhelp c hc
    · exact hpart c (Or.inr (Or.inl hc))
    · exact hblank
    · exact hpart c (Or.inr (Or.inr hc))
  · simp only [List.mem_append, List.mem_cons] at hc
    rcases hc with (hc | hc) | rfl | hc
    · exact htype c hc
    · exact hpart c (Or.inr (Or.inl hc))
    · exact hblank
    · exact hpart c (Or.inl hc)
  · simp only [List.mem_append, List.mem_cons] at hc
    rcases hc with hc | rfl | hc
    · exact hpart c (Or.inr (Or.inl hc))
    · exact hblank
    · exact not_terminator_of_isDigit (isDigit_toDigits hc)

theorem findSome?_metric {name : List Char} (hname : ' ' ∉ name) (hfirst : ∃ c rest,
    name = c :: rest ∧ c ≠ '#') {m : Metric} (h : m.Plain) :
    m.lines.findSome? (sampleOf name) =
      if m.name = name then some (Nat.toDigits 10 m.value) else none := by
  obtain ⟨c, rest, rfl, hc⟩ := hfirst
  have hsample := @sampleOf_sample (c :: rest) m.name (Nat.toDigits 10 m.value) hname h.blank
    Nat.toDigits_ne_nil (fun _ => isDigit_toDigits)
  rw [Metric.lines, List.findSome?_cons, List.findSome?_cons, List.findSome?_cons,
    show "# HELP ".toList = '#' :: " HELP ".toList from rfl,
    show "# TYPE ".toList = '#' :: " TYPE ".toList from rfl]
  simp only [List.cons_append, sampleOf_comment hc, hsample]
  by_cases heq : m.name = c :: rest
  · rw [if_pos heq]
  · rw [if_neg heq]
    rfl

/-- **The sample that a reader finds** is that of the first metric with the name. -/
theorem findSample_text {metrics : List Metric} (h : ∀ m ∈ metrics, m.Plain) {name : List Char}
    (hname : ' ' ∉ name) (hfirst : ∃ c rest, name = c :: rest ∧ c ≠ '#') :
    findSample name (text metrics) =
      (metrics.find? fun m => m.name = name).map fun m => Nat.toDigits 10 m.value := by
  have hlines : lines (text metrics) = metrics.flatMap Metric.lines ++ [[]] := by
    refine lines_unlines fun line hline => ?_
    obtain ⟨m, hm, hmem⟩ := List.mem_flatMap.mp hline
    exact (h m hm).lines line hmem
  have hend : sampleOf name [] = none := by
    refine if_neg fun hif => ?_
    exact hif.2.1 List.drop_nil
  rw [findSample, hlines, List.findSome?_append]
  induction metrics with
  | nil => simp [hend]
  | cons m metrics ih =>
      have hhead := findSome?_metric hname hfirst (h m List.mem_cons_self)
      have htail := ih (fun n hn => h n (List.mem_cons_of_mem m hn))
        (lines_unlines fun line hline => by
          obtain ⟨n, hn, hmem⟩ := List.mem_flatMap.mp hline
          exact (h n (List.mem_cons_of_mem m hn)).lines line hmem)
      rw [List.flatMap_cons, List.findSome?_append, hhead, List.find?_cons]
      by_cases heq : m.name = name
      · rw [if_pos heq, decide_eq_true heq]
        rfl
      · rw [if_neg heq, decide_eq_false heq, Option.none_or]
        exact htail

end SocketServer.Exposition
