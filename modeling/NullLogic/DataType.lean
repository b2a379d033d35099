/-!
# Column types

A `DataType` is what a column, a parameter, a constant or an operator's result
is declared to hold. Typing only looks at a few classes of types: the integers
of any width, the floating point types, the two text types, `boolean`, and
`null`, the type of a `NULL` that nothing has typed yet. All other types only
ever have to be told apart. Many have a constructor of their own; structs, unions,
maps, dictionaries and the further kinds of lists are `other`, of which only the
spelling is kept.

`commonType? s t` is the type under which values of `s` and `t` are compared or
combined. The type `null` gives way to any other, mixed integer widths meet in
`int64`, mixed numbers in `float64`, and the two text types in `largeUtf8`.

`DataType.text` is the spelling of a type in messages.
-/

namespace NullLogic

inductive IntegerType where
  | int8 | int16 | int32 | int64 | uint8 | uint16 | uint32 | uint64
deriving DecidableEq

inductive FloatType where
  | float16 | float32 | float64
deriving DecidableEq

inductive TimeUnit where
  | second | millisecond | microsecond | nanosecond
deriving DecidableEq

inductive IntervalUnit where
  | yearMonth | dayTime | monthDayNano
deriving DecidableEq

inductive DataType where
  | null
  | boolean
  | integer (width : IntegerType)
  | floating (width : FloatType)
  | utf8
  | largeUtf8
  | binary
  | largeBinary
  | date32
  | date64
  | time32 (unit : TimeUnit)
  | time64 (unit : TimeUnit)
  | timestamp (unit : TimeUnit) (zone : Option String)
  | duration (unit : TimeUnit)
  | interval (unit : IntervalUnit)
  | fixedSizeBinary (size : Nat)
  | decimal128 (precision : Nat) (scale : Int)
  | decimal256 (precision : Nat) (scale : Int)
  | list (item : DataType)
  | other (spelling : String)
deriving DecidableEq

def IntegerType.text : IntegerType → String
  | int8 => "Int8"
  | int16 => "Int16"
  | int32 => "Int32"
  | int64 => "Int64"
  | uint8 => "UInt8"
  | uint16 => "UInt16"
  | uint32 => "UInt32"
  | uint64 => "UInt64"

def FloatType.text : FloatType → String
  | float16 => "Float16"
  | float32 => "Float32"
  | float64 => "Float64"

def TimeUnit.text : TimeUnit → String
  | second => "Second"
  | millisecond => "Millisecond"
  | microsecond => "Microsecond"
  | nanosecond => "Nanosecond"

def IntervalUnit.text : IntervalUnit → String
  | yearMonth => "YearMonth"
  | dayTime => "DayTime"
  | monthDayNano => "MonthDayNano"

namespace DataType

@[match_pattern] abbrev int64 : DataType := integer .int64

@[match_pattern] abbrev float64 : DataType := floating .float64

/-! ### Classes of types -/

def isInteger : DataType → Bool
  | integer _ => true
  | _ => false

def isFloating : DataType → Bool
  | floating _ => true
  | _ => false

def isNumeric (t : DataType) : Bool :=
  t.isInteger || t.isFloating

/-- The types whose values are texts. -/
def isText : DataType → Bool
  | utf8 | largeUtf8 => true
  | _ => false

/-- The types of an operand of a logical connective: an untyped `NULL` is one. -/
def isBoolean : DataType → Bool
  | boolean | null => true
  | _ => false

/-- The types of an operand of `LIKE`: an untyped `NULL` is one. -/
def isString : DataType → Bool
  | utf8 | largeUtf8 | null => true
  | _ => false

/-! ### The common type of two operands -/

/-- The type two operands are compared or combined as, if they have one. -/
def commonType? (s t : DataType) : Option DataType :=
  if s = t then some s
  else if s = null then some t
  else if t = null then some s
  else if s.isInteger && t.isInteger then some int64
  else if s.isNumeric && t.isNumeric then some float64
  else if s.isText && t.isText then some largeUtf8
  else none

@[simp] theorem commonType?_self (t : DataType) : commonType? t t = some t := by
  simp [commonType?]

@[simp] theorem commonType?_null_left (t : DataType) : commonType? null t = some t := by
  by_cases h : null = t <;> simp [commonType?, h]

@[simp] theorem commonType?_null_right (t : DataType) : commonType? t null = some t := by
  by_cases h : t = null <;> simp [commonType?, h]

theorem commonType?_comm (s t : DataType) : commonType? s t = commonType? t s := by
  by_cases h : s = t
  · rw [h]
  · by_cases hs : s = null
    · rw [hs, commonType?_null_left, commonType?_null_right]
    · by_cases ht : t = null
      · rw [ht, commonType?_null_left, commonType?_null_right]
      · simp [commonType?, h, Ne.symm h, hs, ht, Bool.and_comm]

/-! ### Spelling -/

/-- The name of a time zone is quoted as it stands. -/
def zoneText : Option String → String
  | none => "None"
  | some zone => "Some(\"" ++ zone ++ "\")"

def text : DataType → String
  | null => "Null"
  | boolean => "Boolean"
  | integer width => width.text
  | floating width => width.text
  | utf8 => "Utf8"
  | largeUtf8 => "LargeUtf8"
  | binary => "Binary"
  | largeBinary => "LargeBinary"
  | date32 => "Date32"
  | date64 => "Date64"
  | time32 unit => "Time32(" ++ unit.text ++ ")"
  | time64 unit => "Time64(" ++ unit.text ++ ")"
  | timestamp unit zone => "Timestamp(" ++ unit.text ++ ", " ++ zoneText zone ++ ")"
  | duration unit => "Duration(" ++ unit.text ++ ")"
  | interval unit => "Interval(" ++ unit.text ++ ")"
  | fixedSizeBinary size => "FixedSizeBinary(" ++ toString size ++ ")"
  | decimal128 precision scale =>
      "Decimal128(" ++ toString precision ++ ", " ++ toString scale ++ ")"
  | decimal256 precision scale =>
      "Decimal256(" ++ toString precision ++ ", " ++ toString scale ++ ")"
  | list item =>
      "List(Field \x7b name: \"item\", data_type: " ++ item.text ++
        ", nullable: true, dict_id: 0, dict_is_ordered: false, metadata: \x7b\x7d \x7d)"
  | other spelling => spelling

/-- Several types in a message, in brackets. -/
def textAll (types : List DataType) : String :=
  "[" ++ ", ".intercalate (types.map text) ++ "]"

end DataType

end NullLogic
