import DryRun.Agenda.Basic
import DryRun.Desk.Attempt

/-!
# Calls

Everything that outside code can ask of a desk is a call. Outside code also stands inside of a
desk's work: a task may carry calls, and so may an observer, the completion sink or a sleep, which
can behave differently each time they are called. Outside code may let a failure of its calls pass
or keep it to itself (`Call.shielded`).
-/

set_option autoImplicit false

namespace DryRun

/-- What can be asked of an attempt. -/
inductive Request where
  | run
  /-- Go back to the source text as it was at first. -/
  | reset
  /-- Clear away what the latest run yielded. -/
  | clearLog
  | edit (source : Option Text)
  /-- Put a piece of text at the end of the source text. -/
  | insert (piece : Text)
  | describe
  | info
  deriving DecidableEq, Repr

/-- What a granted request makes of an attempt, if it is one to change it. -/
def Request.change? : Request → Option (Attempt → Attempt)
  | .reset => some Attempt.reset
  | .clearLog => some Attempt.clear
  | .edit source => some fun a => a.edit source
  | .insert piece => some fun a => a.insert piece
  | .run | .describe | .info => none

/-- A call on a desk. A call on an attempt is aimed at the one with the given number, or at the
current one. -/
inductive Call where
  /-- Put down a task that makes some calls. -/
  | schedule (delay : Float) (name : Text) (body : List Call)
  | fail (message : Text)
  /-- Move the clock forward and run the tasks that come due on the way. -/
  | advance (seconds : Float)
  /-- Move the clock forward and run nothing. -/
  | moveClock (seconds : Float)
  /-- Set the clock to a later reading and run nothing. -/
  | setClock (reading : Float)
  /-- Let time elapse, until the reading that this one turns into, and run nothing. -/
  | elapse (turn : Float → Float)
  | runDue
  /-- Wait for the next task and run the tasks that are due then. -/
  | runNext
  | runUntilIdle
  | openExercise (exercise : Exercise)
  | ask (target : Option Nat) (request : Request)
  /-- Let someone be told about the finished runs of an attempt; the conduct says which calls they
  make the first time, the second time and so on. -/
  | addObserver (target : Option Nat) (conduct : Nat → List Call)
  /-- Look at the desk and do nothing. -/
  | look
  /-- Make some calls and keep a failure to oneself. -/
  | shielded (body : List Call)

/-- The calls that an observer or a sink makes the first time it is called, the second time and so
on. -/
abbrev Conduct := Nat → List Call

/-- What happens in a sleep. -/
structure Nap where
  /-- The reading afterwards, given the one before. -/
  turn : Float → Float
  /-- The calls that outside code makes then. -/
  calls : List Call := []

/-- What happens in the first sleep, the second one and so on, each for a number of seconds. -/
abbrev Sleeper := Nat → Float → Nap

/-- The sleeper under whom exactly the time slept elapses. -/
def Sleeper.exact : Sleeper := fun _ seconds => { turn := fun reading => reading + seconds }

/-- What a task of a desk does. -/
inductive Action where
  | script (calls : List Call)
  /-- Let the run of an attempt take place. -/
  | compile (attempt : Nat)
  /-- Announce that an attempt was accepted in the given run. -/
  | complete (attempt run : Nat)

/-- The answer to a call. -/
inductive Reply where
  | nothing
  | granted (b : Bool)
  | ran (count : Nat)
  | task (due : Float) (sequence : Nat) (name : Text)
  | opened (attempt : Nat)
  | text (s : Text)
  | about (exercise : Exercise) (language : Language)

/-- Why a call failed. -/
inductive Failure where
  | agenda (error : AgendaError)
  | outside (message : Text)
  /-- No attempt has been opened for the named operation. -/
  | noAttempt (operation : String)
  | unknownAttempt
  deriving DecidableEq

namespace Failure

def message : Failure → Text
  | .agenda error => error.message
  | .outside message => message
  | .noAttempt operation =>
    "'NoneType' object has no attribute '".toList ++ operation.toList ++ ['\x27']
  | .unknownAttempt => "list index out of range".toList

end Failure

/-- The name of the operation that a request is an instance of. -/
def Request.operation : Request → String
  | .run => "run"
  | .reset => "reset"
  | .clearLog => "clear_log"
  | .edit _ => "edit_source"
  | .insert _ => "insert_helper"
  | .describe => "describe"
  | .info => "profile"

end DryRun
