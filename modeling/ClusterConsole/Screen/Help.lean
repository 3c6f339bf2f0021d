import ClusterConsole.Screen.Inputs

/-!
# Help on the screen

At the bottom of the screen the most important keys are listed.  The help lies over the middle of
the screen and lists all of them.
-/

set_option autoImplicit false

namespace ClusterConsole
namespace Screen

/-- A key and what it does, in the bottom line. -/
def hint (key does : String) : Line := [.styled key (.of .yellow), .raw (": " ++ does)]

/-- The bottom line.  Keys for inputs are left out if there are none. -/
def footerLine (hasFields : Bool) : Line :=
  hint " Tab" "switch  " ++ hint "Enter" "submit  " ++
    (if hasFields then hint "↑/↓" "field  " ++ hint "Ctrl+r" "reset  " else []) ++
    hint "PgUp/PgDn" "scroll  " ++ hint "F1" "help  " ++ hint "Esc" "quit"

/-- Draws the bottom line. -/
def drawFooter (c : Canvas) (a : Area) (hasFields : Bool) : Canvas :=
  c.drawLines a false [footerLine hasFields]

/-! ## The help -/

/-- A key and what it does. -/
def keyLine (key does : String) : Line :=
  [.styled ("  " ++ padded 12 key) (.of .yellow), .raw does]

/-- The heading of a group of keys. -/
def heading (s : String) : Line := [.styled s Style.plain.strong]

/-- The lines of the help, which also tells after how many seconds results hide themselves. -/
def helpLines (hideSeconds : Nat) : List Line :=
  [[.styled "Keyboard Shortcuts" titleStyle],
    [],
    heading "Navigation",
    keyLine "Tab" "Next form",
    keyLine "Shift+Tab" "Previous form",
    keyLine "↑/↓" "Previous/next field",
    keyLine "PgUp/PgDn" "Scroll result",
    [],
    heading "Editing",
    keyLine "Enter" "Submit the current form",
    keyLine "Backspace" "Delete last character",
    keyLine "Ctrl+u" "Clear field",
    keyLine "Ctrl+r" "Reset form",
    [],
    heading "General",
    keyLine "F1" "Toggle this help",
    keyLine "Esc" "Quit",
    keyLine "Ctrl+c" "Quit",
    [],
    [.styled ("Results hide themselves " ++ toString hideSeconds ++ "s after a request finishes")
      (.of .darkGray)],
    [.styled "Press Esc or F1 to close" (.of .darkGray)]]

/-- The middle of an area: three fifths of its width and seven tenths of its height. -/
def middle (a : Area) : Area :=
  let left := percent 20 a.width
  let top := percent 15 a.height
  ⟨a.x + left, a.y + top, percent 80 a.width - left, percent 85 a.height - top⟩

/-- Draws the help. -/
def drawHelp (c : Canvas) (hideSeconds : Nat) : Canvas :=
  let a := middle c.area
  let c := (c.clear a).drawFrame a (.of .cyan) (.styled " Help " titleStyle)
  c.drawLines a.inner false (helpLines hideSeconds)

end Screen
end ClusterConsole
