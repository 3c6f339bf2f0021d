/-!
# Texts that read as a number

On the screen numbers are told apart from other texts.  A text reads as a number if it is an
optional sign and either decimal digits, with at most one point among or beside them and perhaps an
exponent, or the name of infinity or of not-a-number in letters of either case.
-/

set_option autoImplicit false

namespace ClusterConsole
namespace Text

/-- A text without the sign at its front. -/
def dropSign : List Char → List Char
  | '+' :: rest => rest
  | '-' :: rest => rest
  | s => s

/-- Is it one or more digits? -/
def isDigits (s : List Char) : Bool := !s.isEmpty && s.all Char.isDigit

/-- Is it an exponent, or nothing? -/
def isExponent : List Char → Bool
  | [] => true
  | c :: rest => c.toLower == 'e' && isDigits (dropSign rest)

/-- Is it digits, with at most one point among or beside them, and perhaps an exponent? -/
def isDecimal (s : List Char) : Bool :=
  let whole := s.takeWhile Char.isDigit
  match s.dropWhile Char.isDigit with
  | '.' :: rest =>
    let fraction := rest.takeWhile Char.isDigit
    !(whole.isEmpty && fraction.isEmpty) && isExponent (rest.dropWhile Char.isDigit)
  | rest => !whole.isEmpty && isExponent rest

/-- Does the text read as a number? -/
def isNumber (s : List Char) : Bool :=
  let s := dropSign s
  let name := String.ofList (s.map Char.toLower)
  name == "inf" || name == "infinity" || name == "nan" || isDecimal s

end Text
end ClusterConsole
