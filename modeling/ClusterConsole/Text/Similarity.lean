/-!
# How alike two texts are

Two characters match if they are equal and stand at about the same place: at most half the length of
the longer text apart, less one.  Each character matches at most one other.  The likeness is the
mean of three shares: that of the matching characters in either text, and that of the matching
characters that stand in the same order.  It is kept as a fraction, so two of them can be compared
without rounding.

`alike` lists those texts that are much like a given one, the most alike last.
-/

set_option autoImplicit false

namespace ClusterConsole
namespace Text
namespace Similarity

/-- A fraction from zero to one. -/
structure Share where
  numerator : Nat
  denominator : Nat
  deriving DecidableEq, Repr

/-- Is a fraction larger than another one? -/
def Share.exceeds (a b : Share) : Bool :=
  b.numerator * a.denominator < a.numerator * b.denominator

/-- How far apart two matching characters may be. -/
def reach (a b : List Char) : Nat := max a.length b.length / 2 - 1

/-- The place of the first free character that matches `c` at place `i`, within reach.  The text is
given from place `j` on. -/
def partner? (reach i : Nat) (c : Char) (taken : List Nat) : (j : Nat) → List Char → Option Nat
  | _, [] => none
  | j, d :: rest =>
    if c = d && j ≤ i + reach && i ≤ j + reach && !taken.contains j then some j
    else partner? reach i c taken (j + 1) rest

/-- The characters of a text that match one in the other text, in order, from place `i` on; and the
places of their partners. -/
def matching (reach : Nat) (b : List Char) : (i : Nat) → (taken : List Nat) → List Char →
    List Char × List Nat
  | _, taken, [] => ([], taken)
  | i, taken, c :: rest =>
    match partner? reach i c taken 0 b with
    | none => matching reach b (i + 1) taken rest
    | some j =>
      let (found, taken) := matching reach b (i + 1) (j :: taken) rest
      (c :: found, taken)

/-- The characters of a text at the given places, in order. -/
def atPlaces (places : List Nat) (b : List Char) : List Char :=
  (b.zipIdx.filter fun p ↦ places.contains p.2).map (·.1)

/-- How alike two texts are. -/
def likeness (a b : List Char) : Share :=
  if a.isEmpty && b.isEmpty then ⟨1, 1⟩
  else
    let (found, places) := matching (reach a b) b 0 [] a
    let moved := ((found.zip (atPlaces places b)).filter fun p ↦ p.1 != p.2).length / 2
    let n := found.length
    if n = 0 then ⟨0, 1⟩
    else
      ⟨n * n * b.length + n * n * a.length + (n - moved) * a.length * b.length,
        3 * a.length * b.length * n⟩

/-- From which likeness on a text is worth a hint. -/
def enough : Share := ⟨7, 10⟩

/-- Puts a text into a list that is ordered by likeness, after those that are as much alike. -/
def insert (share : Share) (name : String) : List (Share × String) → List (Share × String)
  | [] => [(share, name)]
  | (other, n) :: rest =>
    if other.exceeds share then (share, name) :: (other, n) :: rest
    else (other, n) :: insert share name rest

/-- Those of some names that are much like a text, the most alike last. -/
def alike (text : String) (names : List String) : List String :=
  (names.foldl (fun found name ↦
    let share := likeness text.toList name.toList
    if share.exceeds enough then insert share name found else found) []).map (·.2)

end Similarity
end Text
end ClusterConsole
