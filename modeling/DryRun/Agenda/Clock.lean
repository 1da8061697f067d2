import DryRun.Number.FloatText

/-!
# Clocks

A virtual clock goes where its owner moves it, forward only. On the other clocks time elapses while
outside code works or sleeps; a monotonic one stands for real time.
-/

set_option autoImplicit false

namespace DryRun

/-- How a clock moves. -/
inductive ClockKind where
  | virtual
  | manual
  | monotonic
  deriving DecidableEq, Repr

/-- A clock with its current reading, in seconds. -/
structure Clock where
  kind : ClockKind
  /-- What it shows. -/
  reading : Float
  deriving DecidableEq

/-- Why an agenda refuses something. -/
inductive AgendaError where
  /-- A task was to be due before now. -/
  | negativeDelay (delay : Float)
  /-- A clock was to go back. -/
  | backwards (seconds : Float)
  /-- A drive that moves the clock was asked of a clock that cannot be moved. -/
  | needsVirtualClock
  /-- A clock that cannot be moved was to be moved by the named operation. -/
  | immovable (kind : ClockKind) (operation : String)
  deriving DecidableEq

namespace AgendaError

def message : AgendaError → Text
  | .negativeDelay delay => "Delay must be non-negative, got ".toList ++ FloatText.ofFloat delay
  | .backwards seconds =>
    "Cannot move a clock backwards (".toList ++ FloatText.ofFloat seconds ++ "s)".toList
  | .needsVirtualClock => "advance() requires a VirtualClock".toList
  | .immovable kind operation =>
    let name := match kind with
      | .virtual => "VirtualClock"
      | .manual => "ManualClock"
      | .monotonic => "MonotonicClock"
    '\x27' :: name.toList ++ "' object has no attribute '".toList ++ operation.toList ++ ['\x27']

end AgendaError

namespace Clock

/-- The clock at a later reading; an earlier one changes nothing. -/
def moveTo (clock : Clock) (reading : Float) : Clock :=
  if clock.reading < reading then { clock with reading } else clock

def move (clock : Clock) (seconds : Float) : Except AgendaError Clock :=
  match clock.kind with
  | .virtual =>
    if seconds < 0 then .error (.backwards seconds)
    else .ok { clock with reading := clock.reading + seconds }
  | kind => .error (.immovable kind "advance")

/-- The clock set to a later reading by its owner. -/
def set (clock : Clock) (reading : Float) : Except AgendaError Clock :=
  match clock.kind with
  | .virtual => .ok (clock.moveTo reading)
  | kind => .error (.immovable kind "advance_to")

/-- The clock after some time has elapsed, which tells the reading then. A virtual clock stands
still. -/
def elapse (clock : Clock) (turn : Float → Float) : Clock :=
  match clock.kind with
  | .virtual => clock
  | _ => { clock with reading := turn clock.reading }

end Clock

end DryRun
