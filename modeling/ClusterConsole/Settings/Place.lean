/-!
# Where settings are kept

Settings and log are kept in a directory of the program's own below the user's directory for
configurations.  That is the one the environment names, if it names an absolute one; else it is in
the user's home.  Paths are put together as texts.
-/

set_option autoImplicit false

namespace ClusterConsole
namespace Place

/-- Is it a path from the root? -/
def isAbsolute (path : String) : Bool := path.toList.head? == some '/'

/-- A name in a directory. -/
def below (directory name : String) : String :=
  if directory.isEmpty || directory.toList.getLast? == some '/' then directory ++ name
  else directory ++ "/" ++ name

/-- The directory for configurations, from the one the environment names and the user's home. -/
def configurations (named : Option String) (home : String) : String :=
  match named with
  | some directory => if isAbsolute directory then directory else below home ".config"
  | none => below home ".config"

/-- The directory of the program in the one for configurations. -/
def directory (configurations : String) : String := below configurations "tcluster"

/-- The file with the settings. -/
def settings (configurations : String) : String :=
  below (directory configurations) "config.json"

/-- The file with the log. -/
def log (configurations : String) : String := below (directory configurations) "tcluster.log"

end Place
end ClusterConsole
