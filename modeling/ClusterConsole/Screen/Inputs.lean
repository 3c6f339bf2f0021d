import ClusterConsole.Screen.Header

/-!
# The form on the screen

Every input of the active form has a row with its label and its value.  An empty input shows what it
stands for; the input that has the focus shows a mark at the end of its value instead.
-/

set_option autoImplicit false

namespace ClusterConsole
namespace Screen

/-- How many columns a label takes. -/
def labelWidth : Nat := 18

/-- A text filled up with blanks. -/
def padded (width : Nat) (s : String) : String :=
  s ++ String.ofList (List.replicate (width - s.length) ' ')

/-- The label of an input. -/
def labelText (i : Input) : String :=
  " " ++ (if i.required then "*" else " ") ++ padded labelWidth i.label

/-- The style of a label. -/
def labelStyle (focused : Bool) : Style :=
  if focused then (Style.of .yellow).strong else .of .gray

/-- The value of an input. -/
def valueOf (f : Field) (focused : Bool) : Span :=
  if focused then .styled (f.value ++ "_") (.of .white)
  else if f.value.isEmpty then .styled f.input.placeholder (.of .darkGray)
  else .styled f.value (.of .white)

/-- The row of an input. -/
def inputLine (f : Field) (focused : Bool) : Line :=
  [.styled (labelText f.input) (labelStyle focused), valueOf f focused]

/-- The rows of a form. -/
def inputLines (f : Form) : List Line :=
  f.fields.mapIdx fun i x ↦ inputLine x (i == f.focus)

/-- What is shown in place of inputs if there are none. -/
def invitation : List Line := [[], [.styled "Press Enter to fetch all clusters" (.of .darkGray)]]

/-- Draws a form. -/
def drawForm (c : Canvas) (a : Area) (f : Form) : Canvas :=
  let c := c.drawFrame a frameStyle (.styled (" " ++ f.operation.title ++ " ") titleStyle)
  if f.hasFields then c.drawLines a.inner false (inputLines f)
  else c.drawLines a.inner true invitation

end Screen
end ClusterConsole
