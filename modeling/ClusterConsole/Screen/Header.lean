import ClusterConsole.About
import ClusterConsole.Screen.Canvas
import ClusterConsole.Session

/-!
# The upper part of the screen

At the top stand the server's base URL and the number of requests under way, and below them a tab
for every operation.  The tab of an operation with requests under way has a mark.
-/

set_option autoImplicit false

namespace ClusterConsole
namespace Screen

/-- The frame around everything that has no colour of its own. -/
def frameStyle : Style := .of .darkGray

/-- The title of a frame. -/
def titleStyle : Style := (Style.of .cyan).strong

/-- The number of requests under way, in words. -/
def requestsSpan (inFlight : Nat) : Span :=
  if 0 < inFlight then .styled (toString inFlight ++ " in flight") (.of .yellow)
  else .styled "idle" (.of .green)

/-- The lines of the header. -/
def headerLines (base : String) (inFlight : Nat) : List Line :=
  [[.styled " API: " (.of .darkGray), .styled base (Style.of .yellow).strong],
    [.styled " Requests: " (.of .darkGray), requestsSpan inFlight]]

/-- The title of the header. -/
def headerTitle : Span :=
  .styled (" " ++ About.program ++ " v" ++ About.shownVersion ++ " ") titleStyle

/-- Draws the header. -/
def drawHeader (c : Canvas) (a : Area) (base : String) (inFlight : Nat) : Canvas :=
  (c.drawFrame a frameStyle headerTitle).drawLines a.inner false (headerLines base inFlight)

/-! ## Tabs -/

/-- The text of a tab. -/
def tabText (o : Operation) (inFlight : Nat) : String :=
  " " ++ o.title ++ (if 0 < inFlight then " ↻" else "") ++ " "

/-- The style of a tab. -/
def tabStyle (isActive : Bool) : Style :=
  if isActive then (Style.of .cyan).strong.invert else .plain

/-- The spans of one tab: its text between blanks. -/
def tabSpans (inFlight : Operation → Nat) (active o : Operation) : Line :=
  [.raw " ", .styled (tabText o (inFlight o)) (tabStyle (o == active)), .raw " "]

/-- All tabs, with bars between them. -/
def tabLine (inFlight : Operation → Nat) (active : Operation) : Line :=
  (List.intersperse [.raw "|"] (Operation.all.map (tabSpans inFlight active))).flatten

/-- Draws the tabs. -/
def drawTabs (c : Canvas) (a : Area) (inFlight : Operation → Nat) (active : Operation) : Canvas :=
  (c.restyle a frameStyle).drawLines a false [tabLine inFlight active]

end Screen
end ClusterConsole
