/-!
# What the console calls itself
-/

set_option autoImplicit false

namespace ClusterConsole
namespace About

/-- The name of the program. -/
def program : String := "tcluster"

/-- The version that is shown on the screen. -/
def shownVersion : String := "dev"

/-- The version that is told on the command line and to servers. -/
def version : String := "0.1.0"

/-- What the program is for. -/
def purpose : String :=
  "Terminal console for creating, deleting, listing and inspecting remote clusters"

end About
end ClusterConsole
