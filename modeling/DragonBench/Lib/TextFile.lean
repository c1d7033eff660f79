/-
  File:      DragonBench/Lib/TextFile.lean
  Subject:   Python's text files in UTF-8: what `write` puts into them and what `read_text` and
             `splitlines` make of it.

  In text mode a newline is written as the line separator of the platform, and CR, LF and CR LF are
  read as a newline. `splitlines` then splits at seven characters more.

  * `written`, `readText`, `readLines` -- writing, reading, reading line by line;
  * `readLines_line` -- a line without boundaries comes back;
  * **`readLines_cut`** -- a line with one ends there.
-/
import DragonBench.Lib.Lines
import DragonBench.Lib.Utf8Replace

namespace TextFile

open Lines Utf8Replace

/-! ## 1. Writing and reading -/

/-- `os.linesep`. -/
inductive LineSep where
  | lf | crlf
  deriving DecidableEq, Repr

def LineSep.text : LineSep → CText
  | .lf => ['\n']
  | .crlf => ['\r', '\n']

/-- A character as it is written. -/
def LineSep.char (sep : LineSep) (c : Char) : CText := if c = '\n' then sep.text else [c]

/-- The bytes `write(s)` adds to the file. -/
def written (sep : LineSep) (s : CText) : CText := utf8 (s.flatMap sep.char)

/-- CR, LF and CR LF become a newline. -/
def universalNewlines : CText → CText
  | [] => []
  | '\r' :: '\n' :: s => '\n' :: universalNewlines s
  | c :: s => (if c = '\r' then '\n' else c) :: universalNewlines s

/-- `read_text(encoding="utf-8", errors="replace")`. -/
def readText (file : CText) : CText := universalNewlines (decodeReplace file)

/-- `.splitlines()` of it. -/
def readLines (file : CText) : List CText := splitlines (readText file)

theorem written_append (sep : LineSep) (s t : CText) :
    written sep (s ++ t) = written sep s ++ written sep t := by
  rw [written, List.flatMap_append, utf8_append]
  rfl

/-! ## 2. What comes back -/

section Back

variable {sep : LineSep} {t : CText} {x : Char}

theorem universalNewlines_char {c : Char} (h : c ≠ '\r') (s : CText) :
    universalNewlines (c :: s) = c :: universalNewlines s := by
  rw [universalNewlines.eq_3 c s fun s' e => absurd e h, if_neg h]

theorem universalNewlines_append (ht : '\r' ∉ t) (s : CText) :
    universalNewlines (t ++ s) = t ++ universalNewlines s := by
  induction t with
  | nil => rfl
  | cons c t ih =>
      have hc : c ≠ '\r' := fun e => ht (e ▸ List.mem_cons_self)
      rw [List.cons_append, universalNewlines_char hc, ih fun h => ht (List.mem_cons_of_mem c h)]
      rfl

/-- Behind a CR the reader is at a newline, whatever follows. -/
theorem universalNewlines_cr (s : CText) :
    ∃ rest, universalNewlines ('\r' :: s) = '\n' :: rest := by
  rw [universalNewlines.eq_def]
  split
  · cases ‹_›
  · exact ⟨_, rfl⟩
  · rename_i c s' _ e
    cases e
    exact ⟨_, rfl⟩

theorem universalNewlines_sep (s : CText) :
    universalNewlines (sep.text ++ s) = '\n' :: universalNewlines s := by
  cases sep with
  | lf => exact universalNewlines_char (by decide) s
  | crlf => rfl

theorem flatMap_char (ht : '\n' ∉ t) : t.flatMap sep.char = t := by
  induction t with
  | nil => rfl
  | cons c t ih =>
      have hc : c ≠ '\n' := fun e => ht (e ▸ List.mem_cons_self)
      rw [List.flatMap_cons, ih fun h => ht (List.mem_cons_of_mem c h), LineSep.char, if_neg hc]
      rfl

theorem readText_written (s : CText) :
    readText (written sep s) = universalNewlines (s.flatMap sep.char) := by
  rw [readText, written, decodeReplace_utf8]

/-- A text without boundaries holds no newline and no CR. -/
theorem plain_newlines (ht : ∀ c ∈ t, isBreak c = false) : '\n' ∉ t ∧ '\r' ∉ t := by
  refine ⟨fun h => ?_, fun h => ?_⟩
  · cases ht _ h
  · cases ht _ h

/-- **A line without boundaries comes back.** -/
theorem readLines_line (ht : ∀ c ∈ t, isBreak c = false) (s : CText) :
    readLines (written sep (t ++ '\n' :: s)) = t :: readLines (written sep s) := by
  obtain ⟨hn, hr⟩ := plain_newlines ht
  unfold readLines
  rw [readText_written, readText_written, List.flatMap_append, flatMap_char hn,
    universalNewlines_append hr, List.flatMap_cons, LineSep.char, if_pos rfl,
    universalNewlines_sep]
  exact splitlines_line ht (by decide) (by decide) _

/-- **A line ends at its first boundary**, whichever it is. -/
theorem readLines_cut (ht : ∀ c ∈ t, isBreak c = false) (hx : isBreak x = true) (s : CText) :
    ∃ rest, readLines (written sep (t ++ x :: s)) = t :: rest := by
  obtain ⟨hn, hr⟩ := plain_newlines ht
  by_cases hxn : x = '\n'
  · rw [hxn]
    exact ⟨_, readLines_line ht s⟩
  · unfold readLines
    rw [readText_written, List.flatMap_append, flatMap_char hn, universalNewlines_append hr,
      List.flatMap_cons, LineSep.char, if_neg hxn]
    by_cases hxr : x = '\r'
    · obtain ⟨rest, hrest⟩ := universalNewlines_cr (s.flatMap sep.char)
      rw [hxr, List.singleton_append, hrest]
      exact ⟨_, splitlines_line ht (by decide) (by decide) rest⟩
    · rw [List.singleton_append, universalNewlines_char hxr]
      exact ⟨_, splitlines_line ht hx hxr _⟩

end Back

end TextFile
