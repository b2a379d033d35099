/-!
# Words, quotations and marks

The text of an expression is a sequence of tokens: words, which are names, keywords and
numbers; quotations, of which the enclosed text is kept with its quotes no longer doubled;
and marks, which are all other characters, the blank included. `scan` finds the tokens. It
goes on to the end of the text and puts each character in front of what it finds there.
-/

namespace NullLogic

inductive Token where
  | word (w : String)
  | quoted (s : String)
  | mark (c : Char)
deriving DecidableEq

namespace Token

def isWordChar (c : Char) : Bool :=
  c.isAlphanum || c = '_'

/-- The tokens with one more character in front, which belongs to a word. -/
def consWord (c : Char) : List Token → List Token
  | word w :: ts => word (String.ofList (c :: w.toList)) :: ts
  | ts => word (String.ofList [c]) :: ts

/-- The tokens with one more character in the quotation in front. -/
def consQuoted (c : Char) : List Token → List Token
  | quoted s :: ts => quoted (String.ofList (c :: s.toList)) :: ts
  | ts => ts

mutual

def scan : List Char → List Token
  | [] => []
  | c :: cs =>
      if c = '\'' then scanQuoted cs
      else if isWordChar c then consWord c (scan cs)
      else mark c :: scan cs

/-- The tokens of what follows an opening quote. -/
def scanQuoted : List Char → List Token
  | [] => []
  | '\'' :: '\'' :: cs => consQuoted '\'' (scanQuoted cs)
  | '\'' :: cs => quoted "" :: scan cs
  | c :: cs => consQuoted c (scanQuoted cs)

end

/-- The tokens after the expected ones. -/
def skip : List Token → List Token → Option (List Token)
  | [], ts => some ts
  | _ :: _, [] => none
  | t :: expected, u :: ts => if t = u then skip expected ts else none

end Token

end NullLogic
