import ClusterConsole.Screen.Help
import ClusterConsole.Screen.Result

/-!
# The whole screen

`draw` draws a session: the header, the tabs, the active form beside its status area, the bottom
line, and the help over everything if it is open.  What the screen shows of the session is gathered
in a `View` first, so nothing else can show.
-/

set_option autoImplicit false

namespace ClusterConsole
namespace Screen

/-- What the screen shows of a session. -/
structure View where
  base : String
  inFlight : Operation → Nat
  active : Operation
  mode : Mode
  form : Form
  status : StatusArea

/-- What the screen shows of a session. -/
def View.of (s : Session) : View where
  base := s.api.base
  inFlight := fun o ↦ (s.pane o).inFlight
  active := s.active
  mode := s.mode
  form := s.activePane.form
  status := s.activePane.status

/-- The number of requests under way. -/
def View.requests (v : View) : Nat := Operation.all.foldr (fun o n ↦ v.inFlight o + n) 0

/-- The heights of the header, the tabs, the middle and the bottom line.  The middle has one row at
least; what is left is given to the others from top to bottom. -/
def heights (h : Nat) : Nat × Nat × Nat × Nat :=
  let left := h - 1
  let header := min 4 left
  let tabs := min 1 (left - header)
  let footer := min 1 (left - header - tabs)
  (header, tabs, h - header - tabs - footer, footer)

/-- The number of columns of the form, beside which the status area has the rest. -/
def formColumns (w : Nat) : Nat := percent 45 w

/-- Draws the form beside the status area. -/
def drawMiddle (timeOfDay : Instant → String) (c : Canvas) (a : Area) (v : View) : Canvas :=
  let columns := formColumns a.width
  let c := drawForm c (a.columns 0 columns) v.form
  drawResult timeOfDay c (a.columns columns (a.width - columns)) v.status

/-- Draws everything. -/
def View.draw (timeOfDay : Instant → String) (w h : Nat) (v : View) : Canvas :=
  let c := Canvas.blank w h
  let a := c.area
  let (header, tabs, middle, footer) := heights h
  let c := drawHeader c (a.rows 0 header) v.base v.requests
  let c := drawTabs c (a.rows header tabs) v.inFlight v.active
  let c := drawMiddle timeOfDay c (a.rows (header + tabs) middle) v
  let c := drawFooter c (a.rows (header + tabs + middle) footer) v.form.hasFields
  match v.mode with
  | .normal => c
  | .help => drawHelp c v.status.delay.seconds

/-- Draws a session. -/
def draw (timeOfDay : Instant → String) (w h : Nat) (s : Session) : Canvas :=
  (View.of s).draw timeOfDay w h

end Screen
end ClusterConsole
