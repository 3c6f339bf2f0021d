import ClusterConsole.Cluster.Key
import ClusterConsole.Json.Value
import ClusterConsole.Log
import ClusterConsole.Text.Numeral
import ClusterConsole.Text.Quoted

/-!
# The description of a new cluster

The inputs for a new cluster become the members of a JSON object.  A required input is sent as it
is.  An optional text is left out if it is empty, and an optional number if it is blank or no whole
number of the size of a signed word of 64 bits; so whatever the user leaves open is decided by the
server.  A number that is left out although something was entered leaves a warning in the log.
-/

set_option autoImplicit false

namespace ClusterConsole

open Json (Value)
open Text.Numeral (fieldNumber?)

/-- The value that is sent for an input, unless it is left out. -/
def Shape.value? (shape : Shape) (text : String) : Option Value :=
  match shape with
  | .required => some (.string text)
  | .text => if text.isEmpty then none else some (.string text)
  | .number => (fieldNumber? text).map fun n ↦ .number (.whole n)

/-- A cluster description: the inputs that are sent, with their values, in order. -/
structure Spec where
  entries : List (Key × Value)

namespace Spec

/-- The description made from inputs. -/
def ofFields (f : Fields) : Spec :=
  ⟨Key.all.filterMap fun k ↦ (k.shape.value? (f.text k)).map fun v ↦ (k, v)⟩

/-- The description as the members of an object, in the order of the inputs. -/
def members (s : Spec) : List (String × Value) := s.entries.map fun e ↦ (e.1.name, e.2)

/-- The description as an object in which the members are kept in the order of the inputs. -/
def inOrder (s : Spec) : Value := .object s.members

/-- The description as it is sent. -/
def body (s : Spec) : Value := .ofMembers s.members

end Spec

namespace Fields

/-- Was something entered for a number that cannot be sent? -/
def ignores (f : Fields) (key : Key) : Bool :=
  key.shape == .number && !(Text.trim (f.text key).toList).isEmpty &&
    (fieldNumber? (f.text key)).isNone

/-- The warning about a number that is left out. -/
def warning (f : Fields) (key : Key) : LogEntry :=
  ⟨.warn, "Ignoring non-numeric value for " ++ key.name ++ ": " ++ Text.quoted (f.text key)⟩

/-- The warnings that making a description leaves in the log. -/
def warnings (f : Fields) : Log := (Key.all.filter f.ignores).map f.warning

end Fields
end ClusterConsole
