import CaseKeys.Text.Lines
import Mathlib.Data.List.Basic

/-! Lines under any mixture of the terminators that a convention knows. Where a carriage return ends
a line, one that meets a line feed ends one line and not two, so that an empty line is lost; elsewhere
the carriage return of a pair stays at the end of its line. Who skips empty lines and takes off
carriage returns can tell neither. -/
namespace CaseKeys.Text

/-- The text of one line. It holds nothing that ends a line; other separators may occur. -/
structure Line (n : Newlines) where
  text : List Char
  unbroken : ∀ c ∈ text, c ≠ '\n' ∧ (n = .universal → c ≠ '\r')

/-- The ways to end a line. -/
inductive Terminator where
  | lineFeed
  | carriageReturn
  | pair
  deriving DecidableEq, Repr

namespace Terminator

def chars : Terminator → List Char
  | lineFeed => ['\n']
  | carriageReturn => ['\r']
  | pair => ['\r', '\n']

/-- Whether a terminator ends a line. A carriage return alone does not where only line feeds do. -/
def Ends (n : Newlines) (t : Terminator) : Prop :=
  n = .lineFeed → t ≠ .carriageReturn

end Terminator

/-- Terminated lines, each with its own terminator, and at most one line after them without any. -/
def written {n : Newlines} (lines : List (Line n × Terminator)) (last : Option (Line n)) :
    List Char :=
  lines.flatMap (fun (line, terminator) => line.text ++ terminator.chars) ++
    last.toList.flatMap Line.text

/-- The texts of the lines, in order. -/
def texts {n : Newlines} (lines : List (Line n × Terminator)) (last : Option (Line n)) :
    List (List Char) :=
  lines.map (·.1.text) ++ last.toList.map Line.text

theorem splitLines_cons {c : Char} (hc : c ≠ '\n') (rest : List Char) :
    splitLines (c :: rest) = extendFirst c (splitLines rest) := by
  rw [splitLines, if_neg hc]

/-- A line goes on until the first line feed. -/
private theorem splitLines_append {line : List Char} (h : '\n' ∉ line) (rest : List Char) :
    splitLines (line ++ '\n' :: rest) = line :: splitLines rest := by
  induction line with
  | nil => rw [List.nil_append, splitLines, if_pos rfl]
  | cons c line ih =>
    obtain ⟨hc, hl⟩ := not_or.mp (mt List.mem_cons.mpr h)
    rw [List.cons_append, splitLines_cons (Ne.symm hc), ih hl, extendFirst]

private theorem splitLines_eq_singleton {line : List Char} (h : '\n' ∉ line) (hn : line ≠ []) :
    splitLines line = [line] := by
  induction line with
  | nil => exact absurd rfl hn
  | cons c line ih =>
    obtain ⟨hc, hl⟩ := not_or.mp (mt List.mem_cons.mpr h)
    rw [splitLines_cons (Ne.symm hc)]
    by_cases he : line = []
    · rw [he]
      rfl
    · rw [ih hl he, extendFirst]

private theorem mem_of_mem_splitLines {text line : List Char} (h : line ∈ splitLines text)
    {c : Char} (hc : c ∈ line) : c ∈ text ∧ c ≠ '\n' := by
  induction text generalizing line with
  | nil => cases h
  | cons d text ih =>
    by_cases hd : d = '\n'
    · rw [splitLines, if_pos hd] at h
      rcases List.mem_cons.mp h with rfl | h
      · cases hc
      · exact (ih h hc).imp_left (List.mem_cons_of_mem d)
    · rw [splitLines_cons hd] at h
      cases hs : splitLines text with
      | nil =>
        rw [hs] at h
        obtain rfl := List.mem_singleton.mp h
        obtain rfl := List.mem_singleton.mp hc
        exact ⟨List.mem_cons_self, hd⟩
      | cons first others =>
        rw [hs] at h ih
        rcases List.mem_cons.mp h with rfl | h
        · rcases List.mem_cons.mp hc with rfl | hc
          · exact ⟨List.mem_cons_self, hd⟩
          · exact (ih List.mem_cons_self hc).imp_left (List.mem_cons_of_mem d)
        · exact (ih (List.mem_cons_of_mem first h) hc).imp_left (List.mem_cons_of_mem d)

theorem unifyNewlines_cons {c : Char} (hc : c ≠ '\r') (rest : List Char) :
    unifyNewlines (c :: rest) = c :: unifyNewlines rest := by
  simp [unifyNewlines, hc]

private theorem unifyNewlines_append {line : List Char} (h : '\r' ∉ line) (rest : List Char) :
    unifyNewlines (line ++ rest) = line ++ unifyNewlines rest := by
  induction line with
  | nil => rfl
  | cons c line ih =>
    obtain ⟨hc, hl⟩ := not_or.mp (mt List.mem_cons.mpr h)
    rw [List.cons_append, unifyNewlines_cons (Ne.symm hc), ih hl, List.cons_append]

/-- A carriage return becomes a line feed, and takes a line feed behind it along. -/
private theorem unifyNewlines_carriageReturn (rest : List Char) :
    ∃ others, unifyNewlines ('\r' :: rest) = '\n' :: unifyNewlines others ∧
      (rest = others ∨ rest = '\n' :: others) := by
  cases rest with
  | nil => exact ⟨[], rfl, .inl rfl⟩
  | cons c others =>
    by_cases hc : c = '\n'
    · exact ⟨others, by rw [hc, unifyNewlines], .inr (by rw [hc])⟩
    · exact ⟨c :: others, by simp [unifyNewlines, hc], .inl rfl⟩

private theorem carriageReturn_notMem_unifyNewlines (text : List Char) :
    '\r' ∉ unifyNewlines text := by
  fun_induction unifyNewlines text with
  | case1 => exact List.not_mem_nil
  | case2 rest ih => simpa using ih
  | case3 c rest hne ih =>
    rw [List.mem_cons, not_or]
    refine ⟨?_, ih⟩
    split
    · decide
    · next hc => exact Ne.symm hc

theorem unbroken_of_mem_lines {n : Newlines} {text line : List Char} (h : line ∈ lines n text) :
    ∀ c ∈ line, c ≠ '\n' ∧ (n = .universal → c ≠ '\r') := by
  intro c hc
  cases n with
  | lineFeed => exact ⟨(mem_of_mem_splitLines h hc).2, nofun⟩
  | universal =>
    obtain ⟨hm, hn⟩ := mem_of_mem_splitLines h hc
    refine ⟨hn, fun _ he => carriageReturn_notMem_unifyNewlines text (he ▸ hm)⟩

namespace Line
variable {n : Newlines} (line : Line n)

private theorem lineFeed_notMem : '\n' ∉ line.text := fun h =>
  (line.unbroken '\n' h).1 rfl

private theorem carriageReturn_notMem (line : Line .universal) : '\r' ∉ line.text := fun h =>
  (line.unbroken '\r' h).2 rfl rfl

/-- A line that a line feed ends, whatever else may end lines. -/
theorem lines_append (rest : List Char) :
    lines n (line.text ++ '\n' :: rest) = line.text :: lines n rest := by
  cases n with
  | lineFeed => exact splitLines_append line.lineFeed_notMem rest
  | universal =>
    rw [lines, unifyNewlines_append line.carriageReturn_notMem, unifyNewlines_cons (by decide)]
    exact splitLines_append line.lineFeed_notMem _

private theorem lines_text (hn : line.text ≠ []) : lines n line.text = [line.text] := by
  cases n with
  | lineFeed => exact splitLines_eq_singleton line.lineFeed_notMem hn
  | universal =>
    have hu := unifyNewlines_append line.carriageReturn_notMem []
    rw [List.append_nil, unifyNewlines, List.append_nil] at hu
    rw [lines, hu]
    exact splitLines_eq_singleton line.lineFeed_notMem hn

end Line

section
variable {β : Type} {n : Newlines} {read : List Char → Option β} (h : read [] = none)
  (hreturn : ∀ text, read (text ++ ['\r']) = read text)
include h hreturn

/-- What is read from a terminated line and from the lines after it does not depend on its
terminator. -/
private theorem filterMap_lines_append (line : Line n) {terminator : Terminator}
    (ht : terminator.Ends n) (rest : List Char) :
    (lines n (line.text ++ (terminator.chars ++ rest))).filterMap read =
      (read line.text).toList ++ (lines n rest).filterMap read := by
  have hcons : ∀ (first : List Char) (others : List (List Char)),
      (first :: others).filterMap read = (read first).toList ++ others.filterMap read := by
    intro first others
    cases hl : read first <;> simp [hl]
  have hfeed := line.lines_append rest
  cases terminator with
  | lineFeed =>
    rw [← hcons, ← hfeed]
    rfl
  | pair =>
    cases n with
    | lineFeed =>
      have hl : '\n' ∉ line.text ++ ['\r'] := by simpa using line.lineFeed_notMem
      have hpair : lines .lineFeed (line.text ++ (['\r'] ++ '\n' :: rest)) =
          (line.text ++ ['\r']) :: lines .lineFeed rest := by
        rw [← List.append_assoc]
        exact splitLines_append hl rest
      rw [← hreturn, ← hcons, ← hpair]
      rfl
    | universal =>
      have hpair : unifyNewlines (line.text ++ '\r' :: '\n' :: rest) =
          unifyNewlines (line.text ++ '\n' :: rest) := by
        rw [unifyNewlines_append line.carriageReturn_notMem,
          unifyNewlines_append line.carriageReturn_notMem, unifyNewlines,
          unifyNewlines_cons (by decide)]
      rw [← hcons, ← hfeed, lines, lines, ← hpair]
      rfl
  | carriageReturn =>
    cases n with
    | lineFeed => exact absurd rfl (ht rfl)
    | universal =>
      obtain ⟨others, hu, hrest⟩ := unifyNewlines_carriageReturn rest
      have hl : lines .universal (line.text ++ '\r' :: rest) =
          line.text :: lines .universal others := by
        rw [lines, unifyNewlines_append line.carriageReturn_notMem, hu]
        exact splitLines_append line.lineFeed_notMem _
      have hsame : (lines .universal rest).filterMap read =
          (lines .universal others).filterMap read := by
        rcases hrest with rfl | rfl
        · rfl
        · -- the empty line behind the carriage return is lost, and nothing is read from it
          have hempty : lines .universal ('\n' :: others) = [] :: lines .universal others :=
            (⟨[], by simp⟩ : Line .universal).lines_append others
          rw [hempty, List.filterMap_cons_none h]
      rw [hsame, ← hcons, ← hl]
      rfl

theorem filterMap_lines_written {terminated : List (Line n × Terminator)}
    (ht : ∀ p ∈ terminated, p.2.Ends n) (last : Option (Line n)) :
    (lines n (written terminated last)).filterMap read = (texts terminated last).filterMap read := by
  induction terminated with
  | nil =>
    cases last with
    | none => cases n <;> rfl
    | some line =>
      have hw : written [] (some line) = line.text := by simp [written]
      have htexts : texts [] (some line) = [line.text] := rfl
      rw [hw, htexts]
      by_cases hn : line.text = []
      · rw [hn, List.filterMap_cons_none h]
        cases n <;> rfl
      · rw [line.lines_text hn]
  | cons first others ih =>
    have hw : written (first :: others) last =
        first.1.text ++ (first.2.chars ++ written others last) := by simp [written]
    have htexts : texts (first :: others) last = first.1.text :: texts others last := rfl
    obtain ⟨hfirst, hothers⟩ := List.forall_mem_cons.mp ht
    rw [hw, filterMap_lines_append h hreturn first.1 hfirst, ih hothers, htexts, List.filterMap_cons]
    cases read first.1.text <;> rfl

end

end CaseKeys.Text
