import ClusterConsole.Outcome
import ClusterConsole.Text.Lines

/-!
# Status areas

Beside its form, every pane has an area that shows what became of the last submission.  While a
request is under way the area stays; a final message hides itself some time after it came, the
delay.  A new message always takes the place of the old one together with its deadline, so the
deadline of an old message never hides a new one.

Times are counted in nanoseconds.  The clock has room for a signed word of 64 bits of seconds; a
deadline beyond that cannot be computed, and the console breaks off with a `Crash`.

Long details can be scrolled.  Scroll amounts are unsigned words of 16 bits, and stay within range
by saturation.
-/

set_option autoImplicit false

namespace ClusterConsole

/-- A point in time, in nanoseconds. -/
abbrev Instant := Nat

/-- A length of time, in nanoseconds. -/
abbrev Duration := Nat

/-- A number of milliseconds. -/
def Duration.ofMilliseconds (n : Nat) : Duration := n * 1000000

/-- A number of seconds. -/
def Duration.ofSeconds (n : Nat) : Duration := n * 1000000000

/-- The whole seconds of a length of time. -/
def Duration.seconds (d : Duration) : Nat := d / 1000000000

/-- Why the console breaks off. -/
inductive Crash where
  | clockOverflow
  deriving DecidableEq, Repr

/-- How a crash is told. -/
def Crash.message : Crash → String
  | .clockOverflow => "overflow when adding duration to instant"

/-- The first number of seconds for which the clock has no room. -/
def clockLimit : Nat := UInt64.size / 2

/-- The time after a delay, if the clock has room for it. -/
def Instant.after (now : Instant) (delay : Duration) : Except Crash Instant :=
  if Duration.seconds (now + delay) < clockLimit then .ok (now + delay) else .error .clockOverflow

/-- The largest scroll amount. -/
def maxScroll : Nat := 65535

/-- The area that shows what became of the last submission. -/
structure StatusArea where
  kind : Kind
  message : String
  detail : Option String
  visible : Bool
  shownAt : Option Instant
  scroll : Nat
  hideAt : Option Instant
  delay : Duration
  deriving DecidableEq, Repr

namespace StatusArea

/-- The delay if no other is set. -/
def defaultDelay : Duration := Duration.ofSeconds 5

/-- The area before anything was shown. -/
def hidden (delay : Duration) : StatusArea := ⟨.info, "", none, false, none, 0, none, delay⟩

/-- The deadline of a message that comes now. -/
def deadline (a : StatusArea) (k : Kind) (now : Instant) : Except Crash (Option Instant) :=
  if k.isFinal then (now.after a.delay).map some else .ok none

/-- Shows a message. -/
def apply (a : StatusArea) (u : Update) (now : Instant) : Except Crash StatusArea :=
  (a.deadline u.kind now).map fun hideAt ↦
    ⟨u.kind, u.message, u.detail, true, some now, 0, hideAt, a.delay⟩

/-- Has the deadline of the message passed? -/
def isDue (a : StatusArea) (now : Instant) : Bool :=
  match a.hideAt with
  | some deadline => deadline ≤ now
  | none => false

/-- Hides the message if its deadline has passed. -/
def tick (a : StatusArea) (now : Instant) : StatusArea :=
  if a.isDue now then { a with visible := false, hideAt := none } else a

/-- Is a request under way whose result the area waits for? -/
def isPending (a : StatusArea) : Bool := a.visible && a.kind == .info

/-- The number of lines of the details, as far as a scroll amount can count them. -/
def detailLines (a : StatusArea) : Nat :=
  match a.detail with
  | some detail => min (Text.lines detail.toList).length maxScroll
  | none => 0

/-- Scrolls down, at most to the last line of the details. -/
def scrollDown (a : StatusArea) (amount : Nat) : StatusArea :=
  { a with scroll := min (min (a.scroll + amount) maxScroll) (a.detailLines - 1) }

/-- Scrolls up. -/
def scrollUp (a : StatusArea) (amount : Nat) : StatusArea := { a with scroll := a.scroll - amount }

end StatusArea
end ClusterConsole
