import NullLogic.Value

/-!
# Bindings

`Bindings` assign values to the columns of tables and to parameters. Whatever is
not assigned is unbound. A later assignment replaces an earlier one, and values
need not be of the declared types.
-/

namespace NullLogic

structure Bindings where
  column : String → String → Option Value
  parameter : String → Option Value

namespace Bindings

def empty : Bindings :=
  ⟨fun _ _ => none, fun _ => none⟩

def setColumn (b : Bindings) (source name : String) (value : Value) : Bindings where
  column source' name' :=
    if source' = source ∧ name' = name then some value else b.column source' name'
  parameter := b.parameter

def setParameter (b : Bindings) (name : String) (value : Value) : Bindings where
  column := b.column
  parameter name' := if name' = name then some value else b.parameter name'

@[simp] theorem column_setColumn_self (b : Bindings) (source name : String) (value : Value) :
    (b.setColumn source name value).column source name = some value := by
  simp [setColumn]

theorem column_setColumn_of_ne (b : Bindings) {source name source' name' : String}
    (value : Value) (h : ¬ (source' = source ∧ name' = name)) :
    (b.setColumn source name value).column source' name' = b.column source' name' := by
  simp [setColumn, h]

@[simp] theorem parameter_setParameter_self (b : Bindings) (name : String) (value : Value) :
    (b.setParameter name value).parameter name = some value := by
  simp [setParameter]

theorem parameter_setParameter_of_ne (b : Bindings) {name name' : String} (value : Value)
    (h : name' ≠ name) :
    (b.setParameter name value).parameter name' = b.parameter name' := by
  simp [setParameter, h]

end Bindings

end NullLogic
