import ClusterConsole.Number.Binary64

/-!
# JSON values

A number stays a whole number where it was written as one and fits a word of 64 bits; any other is
a double.  The members of an object are kept in the order of their names, one for each name.

* `Number` and `Value` are the data.
* `Member.insert` puts a member into an ordered list, in place of one of the same name.
-/

set_option autoImplicit false

namespace ClusterConsole
namespace Json

/-- A number: whole, or the magnitude of a double and whether a minus sign stands before it. -/
inductive Number where
  | whole (n : Int)
  | real (negative : Bool) (magnitude : Binary64)
  deriving DecidableEq, Repr

/-- A value. -/
inductive Value where
  | null
  | bool (b : Bool)
  | number (n : Number)
  | string (s : String)
  | array (items : List Value)
  | object (members : List (String × Value))
  deriving Repr, BEq

instance : Inhabited Value := ⟨.null⟩

/-- Puts a member into a list ordered by name, in place of one of the same name. -/
def insertMember (name : String) (v : Value) : List (String × Value) → List (String × Value)
  | [] => [(name, v)]
  | (other, w) :: rest =>
    if name < other then (name, v) :: (other, w) :: rest
    else if name = other then (name, v) :: rest
    else (other, w) :: insertMember name v rest

/-- The object with these members, given in any order; of two with the same name the later one
counts. -/
def Value.ofMembers (members : List (String × Value)) : Value :=
  .object (members.foldl (fun done m ↦ insertMember m.1 m.2 done) [])

/-- What kind of value it is, in words. -/
def Value.kind : Value → String
  | .null => "null"
  | .bool _ => "a boolean"
  | .number _ => "a number"
  | .string _ => "a string"
  | .array _ => "an array"
  | .object _ => "an object"

end Json
end ClusterConsole
