import ClusterConsole.Text.Utf8

/-!
# What the log shows of a response

The body of a response that reports a failure goes into the log, but only its beginning, and only
what prints on one line: so an entry cannot be broken up by what a server writes, and does not grow
without limit.
-/

set_option autoImplicit false

namespace ClusterConsole
namespace Http

/-- How many characters of a body go into the log. -/
def excerptLength : Nat := 200

/-- Is it a printing ASCII character or the blank? -/
def isLoggable (c : Char) : Bool := 0x20 ≤ c.toNat && c.toNat ≤ 0x7e

/-- What is written in place of the rest of a long body. -/
def excerptMark (bytes : Nat) : String :=
  "... [truncated, " ++ toString bytes ++ " bytes total]"

/-- What the log shows of a body. -/
def excerpt (body : String) : String :=
  let chars := body.toList
  let shown :=
    if excerptLength < chars.length then
      chars.take excerptLength ++ (excerptMark (Text.byteCount chars)).toList
    else chars
  String.ofList (shown.filter isLoggable)

end Http
end ClusterConsole
