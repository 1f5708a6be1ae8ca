import Mathlib.Data.List.Basic
import TagTooltips.Document.Lines
import TagTooltips.Proofs.Text.Measure

/-! The lines of a document, and the text of a line before a cursor. A text that is written line by line is read line
by line, whichever of the two ends each line has, and an offset is a place in the line that it is given for. -/

namespace TagTooltips.Document

open Text

inductive LineEnd
  | feed
  | returnAndFeed
  deriving DecidableEq, Repr

def LineEnd.text : LineEnd → List Char
  | feed => ['\n']
  | returnAndFeed => ['\x0d', '\n']

/-- A line without its end, and without anything that could be taken for one. -/
structure Line where
  text : List Char
  no_feed : '\n' ∉ text
  no_return : text.getLast? ≠ some '\x0d'

/-- A text line by line. The last line has no end, and does not count if there is nothing in it. -/
structure Layout where
  ended : List (Line × LineEnd)
  last : Line

namespace Layout

def text (w : Layout) : List Char := w.ended.flatMap (fun (line, lineEnd) => line.text ++ lineEnd.text) ++ w.last.text

def lines (w : Layout) : List (List Char) :=
  w.ended.map (·.1.text) ++ if w.last.text.isEmpty then [] else [w.last.text]

end Layout

theorem dropReturn_line (line : Line) : dropReturn line.text = line.text := if_neg line.no_return

theorem dropReturn_append_return (s : List Char) : dropReturn (s ++ ['\x0d']) = s := by
  rw [dropReturn, List.getLast?_concat, if_pos rfl, List.dropLast_concat]

theorem terminated_cons {lines : List (List Char)} (line : List Char) (hne : lines ≠ []) :
    terminated (line :: lines) = dropReturn line :: terminated lines := by
  cases lines with
  | nil => exact absurd rfl hne
  | cons next lines => rfl

theorem terminated_splitOn_line (line : Line) (lineEnd : LineEnd) (more : List Char) :
    terminated ((line.text ++ lineEnd.text ++ more).splitOn '\n') = line.text :: terminated (more.splitOn '\n') := by
  cases lineEnd with
  | feed =>
    have hsplit : (line.text ++ '\n' :: more).splitOn '\n' = line.text :: more.splitOn '\n' :=
      List.splitOn_append_cons_self_of_not_mem line.no_feed more
    rw [LineEnd.text, List.append_assoc, List.singleton_append, hsplit,
      terminated_cons _ (List.splitOn_ne_nil '\n' more), dropReturn_line]
  | returnAndFeed =>
    have hfeed : '\n' ∉ line.text ++ ['\x0d'] := by simp [line.no_feed]
    have hsplit : (line.text ++ ['\x0d'] ++ '\n' :: more).splitOn '\n' =
        (line.text ++ ['\x0d']) :: more.splitOn '\n' :=
      List.splitOn_append_cons_self_of_not_mem hfeed more
    have htext : line.text ++ ['\x0d', '\n'] ++ more = line.text ++ ['\x0d'] ++ '\n' :: more := by simp
    rw [LineEnd.text, htext, hsplit, terminated_cons _ (List.splitOn_ne_nil '\n' more), dropReturn_append_return]

theorem terminated_splitOn_text (w : Layout) : terminated (w.text.splitOn '\n') = w.lines := by
  obtain ⟨ended, last⟩ := w
  induction ended with
  | nil =>
    have hlast : last.text.splitOn '\n' = [last.text] := List.splitOn_eq_singleton last.no_feed
    simp only [Layout.text, Layout.lines, List.flatMap_nil, List.map_nil, List.nil_append, hlast, terminated]
  | cons first ended ih =>
    have htext : Layout.text ⟨first :: ended, last⟩ =
        first.1.text ++ first.2.text ++ Layout.text ⟨ended, last⟩ := by
      simp only [Layout.text, List.flatMap_cons, List.append_assoc]
    rw [htext, terminated_splitOn_line, ih]
    rfl

theorem lines_ofText (w : Layout) : (ofText (String.ofList w.text)).lines = w.lines := by
  rw [ofText, String.toList_ofList]
  exact terminated_splitOn_text w

variable {d : Document} {n c : Nat} {line : List Char}

theorem before?_eq (d : Document) (p : Position) :
    d.before? p = d.lines[p.line]?.map (covering utf16Size p.character) := by
  rw [before?, split?]
  cases d.lines[p.line]? <;> rfl

theorem before?_eq_none_iff {p : Position} : d.before? p = none ↔ d.lines.length ≤ p.line := by
  rw [before?_eq, Option.map_eq_none_iff, List.getElem?_eq_none_iff]

theorem before?_of_line (h : d.lines[n]? = some line) (c : Nat) :
    d.before? ⟨n, c⟩ = some (covering utf16Size c line) := by
  rw [before?_eq, h]
  rfl

/-- Nothing is before a cursor exactly if there is no such line. In a line, the offset of any place gives what is
before that place; an offset inside a character gives this character too, and one behind the line gives all of it. -/
theorem before?_ofText (w : Layout) :
    let d := ofText (String.ofList w.text)
    (∀ p : Position, d.before? p = none ↔ w.lines.length ≤ p.line) ∧
    ∀ n line, w.lines[n]? = some line →
      (∀ a b, line = a ++ b → d.before? ⟨n, utf16Length a⟩ = some a) ∧
      ∀ c, (utf16Length line < c → d.before? ⟨n, c⟩ = some line) ∧
        (c ≤ utf16Length line → ∃ before, d.before? ⟨n, c⟩ = some before ∧ before <+: line ∧
          c ≤ utf16Length before ∧
          ∀ other, other <+: line → c ≤ utf16Length other → before.length ≤ other.length) := by
  intro d
  have hlines : d.lines = w.lines := lines_ofText w
  refine ⟨fun p => ?_, fun n line hline => ?_⟩
  · rw [← hlines]
    exact before?_eq_none_iff
  · rw [← hlines] at hline
    refine ⟨?_, fun c => ⟨fun hlong => ?_, fun hle => ?_⟩⟩
    · rintro a b rfl
      rw [before?_of_line hline]
      exact congrArg some (covering_measure utf16Size_pos a b)
    · rw [before?_of_line hline, covering_of_measure_le utf16Size_pos (Nat.le_of_lt hlong)]
    · refine ⟨_, before?_of_line hline c, covering_prefix c line, le_measure_covering hle, ?_⟩
      intro other hother hc
      exact (covering_prefix_of_le hother hc).length_le

theorem before?_ofText_mixed_ends :
    let line : Line := ⟨"a😀b".toList, by decide, by decide⟩
    let w : Layout := ⟨[(line, .returnAndFeed), (⟨[], by decide, by decide⟩, .feed)], ⟨['é'], by decide, by decide⟩⟩
    let d := ofText "a😀b\x0d\n\né"
    String.ofList w.text = "a😀b\x0d\n\né" ∧ w.lines[0]? = some "a😀b".toList ∧
      d.before? ⟨0, 3⟩ = some "a😀".toList ∧ d.before? ⟨0, 5⟩ = some "a😀b".toList ∧ d.before? ⟨3, 0⟩ = none ∧
      2 ≤ utf16Length "a😀b".toList ∧ ∃ before, d.before? ⟨0, 2⟩ = some before ∧ before <+: "a😀b".toList ∧
        2 ≤ utf16Length before ∧ before.length ≤ "a😀".toList.length := by
  intro line w d
  have htext : String.ofList w.text = "a😀b\x0d\n\né" := by decide
  have hline : w.lines[0]? = some "a😀b".toList := by decide
  have hfits : 2 ≤ utf16Length "a😀b".toList := by decide
  obtain ⟨habsent, hplaces⟩ := before?_ofText w
  rw [htext] at habsent hplaces
  obtain ⟨hsplit, hoffsets⟩ := hplaces 0 "a😀b".toList hline
  obtain ⟨before, hbefore, hprefix, hle, hleast⟩ := (hoffsets 2).2 hfits
  refine ⟨htext, hline, hsplit "a😀".toList ['b'] (by decide), (hoffsets 5).1 (by decide),
    (habsent ⟨3, 0⟩).mpr (by decide), hfits, before, hbefore, hprefix, hle, ?_⟩
  exact hleast "a😀".toList (by decide) (by decide)

end TagTooltips.Document
