import ClusterConsole.Screen.Header
import ClusterConsole.Screen.Highlight

/-!
# The status area on the screen

A message that is not hidden is shown in the colour of its kind, with the time at which it came in
the title of its frame.  The lines of the message are followed by a blank row and the details, in
colours.  Lines that are too long are broken, and scrolling leaves out rows at the top.
-/

set_option autoImplicit false

namespace ClusterConsole
namespace Screen

/-- The colour of a kind of message. -/
def kindColor : Kind → Color
  | .info => .yellow
  | .success => .green
  | .error => .red

/-- The title of the frame, with the time at which the message came. -/
def resultTitle (timeOfDay : Instant → String) (s : StatusArea) : String :=
  match s.shownAt, s.visible with
  | some at_, true =>
    " Result [" ++ timeOfDay at_ ++ "] " ++ (if s.isPending then "waiting " else "")
  | _, _ => " Result "

/-- The style of the frame. -/
def resultFrameStyle (s : StatusArea) : Style :=
  if s.visible then .of (kindColor s.kind) else frameStyle

/-- The first line of a message, after its sign. -/
def firstLine (k : Kind) (text : List Char) : Line :=
  [.styled (" " ++ k.icon ++ " ") (Style.of (kindColor k)).strong, ⟨text, .of (kindColor k)⟩]

/-- A further line of a message. -/
def furtherLine (text : List Char) : Line := [⟨[' ', ' ', ' '] ++ text, .plain⟩]

/-- The lines of a message. -/
def messageLines (k : Kind) (message : String) : List Line :=
  match Text.lines message.toList with
  | [] => []
  | first :: rest => firstLine k first :: rest.map furtherLine

/-- The lines of the details, with an empty line before them. -/
def detailLines (detail : Option String) : List Line :=
  match detail with
  | some detail => [] :: (Text.lines detail.toList).map highlight
  | none => []

/-- Everything that is shown of a message. -/
def resultLines (s : StatusArea) : List Line :=
  messageLines s.kind s.message ++ detailLines s.detail

/-- Draws a status area. -/
def drawResult (timeOfDay : Instant → String) (c : Canvas) (a : Area) (s : StatusArea) : Canvas :=
  let c := c.drawFrame a (resultFrameStyle s) (.styled (resultTitle timeOfDay s) (.of .cyan))
  if s.visible then c.drawWrapped a.inner s.scroll (resultLines s) else c

end Screen
end ClusterConsole
