import CaseKeys.Text.Alphanumeric
import CaseKeys.Text.Lower
import CaseKeys.Text.Trim

/-! The words of a case name. A single scan cuts at underscores, which are dropped, and before
every ASCII capital that follows a letter, a digit or an underscore. -/
namespace CaseKeys.Words

/-- An ASCII capital. Capitals of other scripts begin no word. -/
def isCapital (c : Char) : Bool :=
  'A' ≤ c && c ≤ 'Z'

def isWordChar (c : Char) : Bool :=
  Text.isAlphanumeric c || c = '_'

/-- Whether a text lies between the one-letter texts "A" and "Z" in dictionary order. -/
def isCapitalText (s : String) : Bool :=
  "A" ≤ s && s ≤ "Z"

/-- Whether a text consists of letters and digits, at least one, or is a single underscore. -/
def isWordText (s : String) : Bool :=
  (s ≠ "" && s.toList.all Text.isAlphanumeric) || s = "_"

theorem isCapitalText_singleton (c : Char) :
    isCapitalText (String.singleton c) = isCapital c := by
  have hle : ∀ a b : Char, String.singleton a ≤ String.singleton b ↔ a ≤ b := by
    intro a b
    rw [← String.not_lt, String.lt_iff, String.toList_singleton, String.toList_singleton,
      List.cons_lt_cons_iff]
    simp
  have hboth := and_congr (hle 'A' c) (hle c 'Z')
  exact Bool.eq_iff_iff.mpr (by simpa [isCapitalText, isCapital] using hboth)

theorem isWordText_singleton (c : Char) : isWordText (String.singleton c) = isWordChar c := by
  have hunderscore : String.singleton c = "_" ↔ c = '_' := by
    rw [← String.toList_inj]
    simp
  simp [isWordText, isWordChar, hunderscore]

/-- A case name without the backticks that escape a keyword, at both ends and any number. -/
def unescape (name : List Char) : List Char :=
  Text.trim (· = '\x60') name

/-- Whether a segment read so far, in reverse, ends before `c`. -/
def endsBefore (reading : List Char) (c : Char) : Bool :=
  match reading with
  | [] => false
  | previous :: _ => isCapital c && isWordChar previous

/-- The segment that was being read, in reverse. An empty one is no segment. -/
def close (reading : List Char) : List (List Char) :=
  if reading.isEmpty then [] else [reading.reverse]

/-- Scans the rest of a name while `reading` holds, in reverse, the segment being read. -/
def scan (reading : List Char) : List Char → List (List Char)
  | [] => close reading
  | c :: rest =>
    if c = '_' then close reading ++ scan [] rest
    else if endsBefore reading c then close reading ++ scan [c] rest
    else scan (c :: reading) rest

def segments (name : List Char) : List (List Char) :=
  scan [] (unescape name)

/-- The words of a case name: its segments, each in lower case as a whole. -/
def ofName (name : String) : List String :=
  (segments name.toList).map fun segment => String.ofList (Text.lower segment)

end CaseKeys.Words
