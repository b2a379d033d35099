import NullLogic.Checked

/-!
# Method calls as expressions

A `Reading` turns a method call of a query into an expression, or passes on it.
`equals` reads calls named `Equals` as equalities. `stringMatch` reads the methods
`StartsWith`, `EndsWith` and `Contains` of strings as `LIKE`, for a constant
argument, whose wildcards it escapes. `firstOf` tries several readings in turn and
takes the first answer, be it an expression or an error.
-/

namespace NullLogic

structure MethodCall where
  receiver : Option Expr
  /-- The type that declares the method. -/
  owner : String
  name : String
  args : List Expr

namespace MethodCall

def Reading : Type :=
  MethodCall → Except BuildError (Option Expr)

/-- The two sides of an equality are the receiver and the argument, or two
arguments without a receiver. -/
def equals : Reading := fun c =>
  if c.name != "Equals" then .ok none
  else
    match c.receiver, c.args with
    | some left, [right] => (Checked.equal left right).map some
    | none, [left, right] => (Checked.equal left right).map some
    | _, _ => .ok none

/-! ### Matching strings -/

def escapeMark : Char := '\\'

/-- The characters of a pattern that do not stand for themselves. -/
def isSpecial (c : Char) : Bool :=
  c = '%' || c = '_' || c = escapeMark

/-- The pattern of exactly this text, given that the escape mark is declared. -/
def escape (text : List Char) : List Char :=
  text.flatMap fun c => if isSpecial c then [escapeMark, c] else [c]

/-- The pattern that the method named `name` looks for. -/
def pattern? (name : String) (escaped : List Char) : Option (List Char) :=
  match name with
  | "StartsWith" => some (escaped ++ ['%'])
  | "EndsWith" => some ('%' :: escaped)
  | "Contains" => some ('%' :: (escaped ++ ['%']))
  | _ => none

/-- The constant text that the only argument is, if it is one. -/
def constantText? : List Expr → Option String
  | [.constant (.string s) _] => some s
  | _ => none

/-- The escape mark is declared only where escaping has added something. -/
def matching (subject : Expr) (needle : String) (pattern : List Char) :
    Except BuildError Expr := do
  let mark ←
    if (String.ofList (escape needle.toList)).utf8ByteSize != needle.utf8ByteSize then
      some <$> Checked.constant (.string (String.ofList [escapeMark])) .utf8
    else pure none
  let pattern ← Checked.constant (.string (String.ofList pattern)) .utf8
  Checked.like subject pattern mark

def stringMatch : Reading := fun c =>
  if c.owner != "String" then .ok none
  else
    match c.receiver, constantText? c.args with
    | some subject, some needle =>
        match pattern? c.name (escape needle.toList) with
        | some pattern => (matching subject needle pattern).map some
        | none => .ok none
    | _, _ => .ok none

/-! ### Several readings -/

def firstOf : List Reading → Reading
  | [], _ => .ok none
  | reading :: others, c => do
      match ← reading c with
      | some e => return some e
      | none => firstOf others c

def standard : Reading :=
  firstOf [equals, stringMatch]

@[simp] theorem firstOf_nil (c : MethodCall) : firstOf [] c = .ok none := rfl

end MethodCall

end NullLogic
