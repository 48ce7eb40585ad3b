/-! The lines of a text under two conventions on newlines. -/
namespace CaseKeys.Text

/-- Where the lines of a text end. -/
inductive Newlines where
  /-- At a line feed, at a carriage return and at the pair of them. -/
  | universal
  /-- At a line feed and nowhere else. -/
  | lineFeed
  deriving DecidableEq, Repr

def extendFirst (c : Char) : List (List Char) → List (List Char)
  | [] => [[c]]
  | line :: rest => (c :: line) :: rest

/-- The lines without the line feeds that end them. The text after the last line feed is a line
unless it is empty. -/
def splitLines : List Char → List (List Char)
  | [] => []
  | c :: rest => if c = '\n' then [] :: splitLines rest else extendFirst c (splitLines rest)

/-- The text with one line feed for every carriage return and for every pair of the two. -/
def unifyNewlines : List Char → List Char
  | [] => []
  | '\r' :: '\n' :: rest => '\n' :: unifyNewlines rest
  | c :: rest => (if c = '\r' then '\n' else c) :: unifyNewlines rest

def lines : Newlines → List Char → List (List Char)
  | .universal, text => splitLines (unifyNewlines text)
  | .lineFeed, text => splitLines text

end CaseKeys.Text
