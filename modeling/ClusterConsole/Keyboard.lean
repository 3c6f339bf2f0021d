import ClusterConsole.Session

/-!
# Keys

What a key does depends on the mode, on the modifiers and on whether the active pane has anything
to type into.  `Session.press` gives the session after a key, what was logged, and whether the
console is to quit.
-/

set_option autoImplicit false

namespace ClusterConsole

/-- A key. -/
inductive KeyCode where
  | char (c : Char)
  | escape
  | tab
  | backTab
  | up
  | down
  | left
  | right
  | home
  | endKey
  | delete
  | insert
  | pageUp
  | pageDown
  | enter
  | backspace
  | null
  | function (n : Nat)
  deriving DecidableEq, Repr

/-- The modifiers held down with a key. -/
structure Modifiers where
  control : Bool
  shift : Bool
  alt : Bool
  deriving DecidableEq, Repr

/-- No modifier. -/
def Modifiers.none : Modifiers := ⟨false, false, false⟩

/-- What a key does. -/
inductive Action where
  | quit
  | nothing
  | nextPane
  | previousPane
  | focusNext
  | focusPrevious
  | scrollDown
  | scrollUp
  | submit
  | reset
  | clear
  | openHelp
  | closeHelp
  | insert (c : Char)
  | backspace
  deriving DecidableEq, Repr

/-- By how many lines the details are scrolled. -/
def scrollStep : Nat := 10

namespace KeyCode

/-- What a key does while the user works with a pane. -/
def normalAction (k : KeyCode) (m : Modifiers) (active : Operation) : Action :=
  match k with
  | .escape => .quit
  | .tab => .nextPane
  | .backTab => .previousPane
  | .down => .focusNext
  | .up => .focusPrevious
  | .pageDown => .scrollDown
  | .pageUp => .scrollUp
  | .enter => .submit
  | .function 1 => .openHelp
  | .backspace => .backspace
  | .char c =>
    if c = 'r' ∧ m.control then .reset
    else if c = 'u' ∧ m.control then .clear
    else if c = '?' ∧ active = .list then .openHelp
    else if c = 'q' ∧ active = .list then .quit
    else if m.control then .nothing
    else .insert c
  | _ => .nothing

/-- What a key does while the user reads the help. -/
def helpAction (k : KeyCode) : Action :=
  match k with
  | .escape | .enter | .function 1 | .char '?' | .char 'q' => .closeHelp
  | _ => .nothing

/-- What a key does. -/
def action (k : KeyCode) (m : Modifiers) (mode : Mode) (active : Operation) : Action :=
  if k = .char 'c' ∧ m.control then .quit
  else
    match mode with
    | .normal => k.normalAction m active
    | .help => k.helpAction

end KeyCode

namespace Session

/-- What a key came to: the session after it, whether the console is to quit, and what was
logged. -/
structure Pressed where
  session : Session
  quit : Bool
  log : Log

/-- Does what a key asks for. -/
def act (s : Session) (a : Action) (now : Instant) : Except Crash Pressed :=
  match a with
  | .quit => .ok ⟨s, true, []⟩
  | .nothing => .ok ⟨s, false, []⟩
  | .nextPane => .ok ⟨{ s with active := s.active.next }, false, []⟩
  | .previousPane => .ok ⟨{ s with active := s.active.previous }, false, []⟩
  | .focusNext => .ok ⟨s.editForm s.active .focusNext, false, []⟩
  | .focusPrevious => .ok ⟨s.editForm s.active .focusPrevious, false, []⟩
  | .scrollDown => .ok ⟨s.editStatus s.active fun a ↦ a.scrollDown scrollStep, false, []⟩
  | .scrollUp => .ok ⟨s.editStatus s.active fun a ↦ a.scrollUp scrollStep, false, []⟩
  | .submit => (s.submit s.active now).map fun r ↦ ⟨r.1, false, r.2⟩
  | .reset => .ok ⟨s.editForm s.active .reset, false, []⟩
  | .clear => .ok ⟨s.editForm s.active .clear, false, []⟩
  | .openHelp => .ok ⟨{ s with mode := .help }, false, []⟩
  | .closeHelp => .ok ⟨{ s with mode := .normal }, false, []⟩
  | .insert c => .ok ⟨s.editForm s.active fun f ↦ f.insert c, false, []⟩
  | .backspace => .ok ⟨s.editForm s.active .backspace, false, []⟩

/-- Presses a key. -/
def press (s : Session) (k : KeyCode) (m : Modifiers) (now : Instant) : Except Crash Pressed :=
  s.act (k.action m s.mode s.active) now

end Session
end ClusterConsole
