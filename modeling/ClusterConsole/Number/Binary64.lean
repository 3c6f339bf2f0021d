/-!
# Binary floating point in exact arithmetic

A number in a JSON text that is no whole number of at most 64 bits is kept as a double.  Only
magnitudes are treated here; the sign is kept by whoever uses them.

A magnitude is `mantissa * 2 ^ exponent` with a mantissa below `2 ^ 53`.  Every operation computes
the exact result as a quotient of two natural numbers, and then `ofRatio` takes the nearest double,
the one with an even mantissa if two are equally near.  It fails for quotients beyond the largest
double.
-/

set_option autoImplicit false

namespace ClusterConsole

/-- The magnitude of a finite double: `mantissa * 2 ^ exponent`. -/
structure Binary64 where
  mantissa : Nat
  exponent : Int
  deriving DecidableEq, Repr

namespace Binary64

/-- The mantissas lie below this number, which is `2 ^ 53`. -/
def mantissaBound : Nat := 0x20000000000000

/-- The smallest exponent: that of zero and of the least positive double. -/
def minExponent : Int := -1074

/-- The exponent of the largest double. -/
def maxExponent : Int := 971

instance : Inhabited Binary64 := ⟨⟨0, minExponent⟩⟩

/-- Zero. -/
def zero : Binary64 := ⟨0, minExponent⟩

/-- Is it zero? -/
def isZero (x : Binary64) : Bool := x.mantissa == 0

/-- The quotient `num / den` divided by `2 ^ e`, as a quotient. -/
def shift (num den : Nat) (e : Int) : Nat × Nat :=
  if 0 ≤ e then (num, den <<< e.toNat) else (num <<< (-e).toNat, den)

/-- The natural number nearest to a quotient, the even one of two that are equally near. -/
def nearest (num den : Nat) : Nat :=
  let q := num / den
  let r := num % den
  if 2 * r < den || (2 * r == den && q % 2 == 0) then q else q + 1

/-- The exponent at which a positive quotient has 53 binary digits before the point, or the
smallest exponent if that is larger. -/
def exponentFor (num den : Nat) : Int :=
  let e := (num.log2 : Int) - (den.log2 : Int) - 53
  let (n, d) := shift num den e
  max (if mantissaBound ≤ n / d then e + 1 else e) minExponent

/-- The double nearest to a quotient, unless it would lie beyond the largest double. -/
def ofRatio (num den : Nat) : Option Binary64 :=
  if num = 0 then some zero
  else
    let e := exponentFor num den
    let (n, d) := shift num den e
    let m := nearest n d
    let (m, e) := if m = mantissaBound then (mantissaBound / 2, e + 1) else (m, e)
    if e ≤ maxExponent then some ⟨m, e⟩ else none

/-- The double nearest to a natural number. -/
def ofNat (n : Nat) : Option Binary64 := ofRatio n 1

/-- The value as a quotient. -/
def ratio (x : Binary64) : Nat × Nat := shift x.mantissa 1 (-x.exponent)

/-- The double nearest to the product. -/
def mul (x y : Binary64) : Option Binary64 :=
  ofRatio (x.ratio.1 * y.ratio.1) (x.ratio.2 * y.ratio.2)

/-- The double nearest to the quotient by a positive double. -/
def div (x y : Binary64) : Option Binary64 :=
  ofRatio (x.ratio.1 * y.ratio.2) (x.ratio.2 * y.ratio.1)

end Binary64
end ClusterConsole
