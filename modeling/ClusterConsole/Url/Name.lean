import ClusterConsole.Text.Percent
import ClusterConsole.Text.Utf8
import ClusterConsole.Url.Fault
import ClusterConsole.Url.Label

/-!
# Names of hosts

A name can be spelled in many ways, and is compared in one of them.  Its percent escapes are
resolved, each character becomes what it stands for, a capital its small letter and a stop of
another script a point, and the text gets its composed form.  Then its labels are read one by one
and written in ASCII.  What is left must not hold any of the characters that have a meaning in a
URL.
-/

set_option autoImplicit false

namespace ClusterConsole
namespace Url
namespace Name

/-- Is this a blank or a control? -/
def isControl (c : Char) : Bool := c.toNat ≤ 0x20

/-- The ASCII characters that cannot be in a name: blanks and controls, and those that have a
meaning in a URL. -/
def isReserved (c : Char) : Bool :=
  isControl c || c == '\x7f' ||
    ['%', '#', '/', ':', '<', '>', '?', '@', '[', '\\', ']', '^', '|'].contains c

/-- Can all labels of a name be read in one direction, if one of them has characters that are
written towards the left? -/
def isDirected (labels : List Label) : Bool :=
  !labels.any (·.meant.any Label.isLeftwards) || labels.all (Label.isDirected ·.meant)

/-- Reads a name: it comes out in ASCII, in the form in which names are compared.  Nothing makes
another character of a blank or a control, so these are refused at once; other reserved characters
can be part of a composed one. -/
def parse (s : List Char) : Except Fault (List Char) :=
  match Text.Utf8.decode? (Text.Percent.decode s) with
  | none => .error .invalidName
  | some s =>
    if s.any isControl then .error .invalidName
    else
      match (Text.pieces '.' (Text.normal (s.flatMap Label.plain))).mapM Label.read with
      | none => .error .invalidName
      | some labels =>
        let name := Text.join '.' (labels.map Label.written)
        if name.any isReserved || !isDirected labels then .error .invalidName
        else if name.isEmpty then .error .emptyHost
        else .ok name

end Name
end Url
end ClusterConsole
