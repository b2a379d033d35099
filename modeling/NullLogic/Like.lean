/-!
# Text patterns

A pattern of `LIKE` is a list of tokens: `%` stands for any run of characters,
`_` for a single one, and other characters for themselves. An escape character,
if one is declared, makes the character after it stand for itself; the escape is
recognised before the wildcards are, and at the end of a pattern it stands for
itself.

`accepts` decides whether a text matches. It reads the text from its beginning and
keeps, for each prefix of the pattern, whether that prefix matches what has been
read, so the work is the product of the two lengths.
-/

namespace NullLogic

namespace Like

inductive Token where
  | anyRun
  | anyOne
  | char (c : Char)
deriving DecidableEq

/-- The token of a character that no escape precedes. -/
def plainToken (c : Char) : Token :=
  if c = '%' then .anyRun else if c = '_' then .anyOne else .char c

def tokens (escape : Option Char) : List Char → List Token
  | [] => []
  | [c] => [if escape = some c then .char c else plainToken c]
  | c :: d :: cs =>
      if escape = some c then .char d :: tokens escape cs
      else plainToken c :: tokens escape (d :: cs)

/-! ### Deciding a match -/

/-- The prefixes of a pattern and whether they match some text: `empty` for the empty
prefix, and for each token a cell for the prefix that ends with it. -/
structure Row where
  empty : Bool
  cells : List (Token × Bool)

namespace Row

/-- Whether the longest prefix matches, if `before` tells it of the one before the cells. -/
def last (before : Bool) : List (Token × Bool) → Bool
  | [] => before
  | (_, matched) :: cells => last matched cells

/-- Whether the whole pattern matches. -/
def matched (row : Row) : Bool :=
  last row.empty row.cells

/-- The cells for no text at all, which only runs match. -/
def startCells (before : Bool) : List Token → List (Token × Bool)
  | [] => []
  | t :: ts =>
      let matched := before && t = .anyRun
      (t, matched) :: startCells matched ts

def start (pattern : List Token) : Row :=
  ⟨true, startCells true pattern⟩

/-- The cells for a text with `c` added at its end, from those for the text. Whether the
prefix before the cells matches is told by `before` for the text and by `before'` for the
longer one. -/
def stepCells (c : Char) (before before' : Bool) : List (Token × Bool) → List (Token × Bool)
  | [] => []
  | (t, matched) :: cells =>
      let matched' :=
        match t with
        | .anyRun => before' || matched
        | .anyOne => before
        | .char d => before && d = c
      (t, matched') :: stepCells c matched matched' cells

def step (row : Row) (c : Char) : Row :=
  ⟨false, stepCells c row.empty false row.cells⟩

end Row

def row (pattern : List Token) (text : List Char) : Row :=
  text.foldl Row.step (Row.start pattern)

def accepts (pattern : List Token) (text : List Char) : Bool :=
  (row pattern text).matched

/-- Whether a text matches a pattern with the given escape character. -/
def holds (text pattern : String) (escape : Option Char) : Bool :=
  accepts (tokens escape pattern.toList) text.toList

end Like

end NullLogic
