import TargetGraph.Inventory
import TargetGraph.SystemError
import TargetGraph.Text.Utf8
import TargetGraph.Tool.Call

set_option relaxedAutoImplicit false
set_option autoImplicit false

/-!
# Runs of the build tool

A run that was seen to its end is judged by its exit code: zero is a complete result, three a usable
but incomplete one, anything else a failure. A failure is reported with the last lines that the tool
wrote to its error output.

## Main definitions

* `TargetGraph.ToolRun` — what became of a call.
* `TargetGraph.Cancellation` — when the caller loses interest.
* `TargetGraph.Capture` — what a usable run yields.
* `TargetGraph.SyncError` — all that can go wrong between a call and a snapshot.
* `TargetGraph.errorTail` — the last lines of an error output.
* `TargetGraph.ToolCall.capture` — the result of a run.
-/

namespace TargetGraph

/-- What became of a call, if nobody interferes. -/
inductive ToolRun where
  /-- The program could not be started. -/
  | refused (cause : SystemError)
  /-- The program ended after some milliseconds, with an exit code or by a signal. -/
  | ended (code : Option Int) (output errors : List UInt8) (duration : Nat)
  /-- After some milliseconds the program was lost track of, or what it wrote could not be read; the
  cause is in the system's words. -/
  | lost (cause : String) (duration : Nat)
  /-- The program goes on without end, so that whoever waits for it waits until it is cancelled. -/
  | endless
  deriving Repr

/-- When the caller loses interest in a run. -/
inductive Cancellation where
  /-- Never. -/
  | never
  /-- Before it begins. -/
  | already
  /-- So many milliseconds after it began. -/
  | after (milliseconds : Nat)
  /-- When its end was noticed already, but nothing was made of its result yet. -/
  | late
  deriving DecidableEq, Repr

/-- Whether a result has all that was asked for. -/
inductive Status where
  /-- It has. -/
  | complete
  /-- Something may be missing. -/
  | incomplete
  deriving DecidableEq, Repr

/-- The name of a status in reports. -/
def Status.name : Status → String
  | .complete => "complete"
  | .incomplete => "partial"

/-- What a usable run yields. -/
structure Capture where
  /-- Whether something may be missing. -/
  status : Status := .complete
  /-- What the tool wrote to its output. -/
  output : List UInt8
  deriving Repr

/-- What can go wrong between a call and a snapshot. -/
inductive SyncError where
  /-- The program could not be started. -/
  | notStarted (program : String) (cause : SystemError)
  /-- The program was lost track of, or what it wrote could not be read. -/
  | lost (cause : String)
  /-- The tool failed: its exit code (none for a signal) and the end of its error output. -/
  | toolFailed (code : Option Int) (errors : List String)
  /-- The caller lost interest. -/
  | cancelled
  /-- The tool's output was refused. -/
  | output (cause : OutputError)
  /-- The tool's output contradicts itself. -/
  | graph (cause : GraphError)
  deriving Repr

namespace SyncError

/-- How a tool ended, in words. -/
def describeCode : Option Int → String
  | some code => "exit code " ++ toString code
  | none => "no exit code (terminated by signal)"

/-- The end of an error output behind a message: nothing if there is none. -/
def describeErrors (errors : List String) : String :=
  if errors.isEmpty then "" else ":\n" ++ "\n".intercalate errors

/-- The wording of an error. -/
def message : SyncError → String
  | .notStarted program cause => "Failed to start " ++ program ++ ": " ++ cause.message
  | .lost cause => "IO error: " ++ cause
  | .toolFailed code errors =>
    "Build tool query failed with " ++ describeCode code ++ describeErrors errors
  | .cancelled => "Sync cancelled"
  | .output cause => "Could not parse query output: " ++ cause.message
  | .graph cause => "Could not build graph: " ++ cause.message

/-- The caller lost interest; nothing is wrong. -/
def isCancelled : SyncError → Bool
  | .cancelled => true
  | _ => false

end SyncError

/-- A line without the newline at its end, and without a carriage return before that. -/
def stripLineEnd (line : List UInt8) : List UInt8 :=
  match line.reverse with
  | 0x0a :: 0x0d :: rest => rest.reverse
  | 0x0a :: rest => rest.reverse
  | _ => line

/-- The lines of some bytes, each with its newline; the last one may have none. -/
def rawLines (bytes : List UInt8) : List (List UInt8) :=
  (bytes.foldr
    (fun b lines =>
      if b = 0x0a then [b] :: lines
      else match lines with
        | [] => [[b]]
        | line :: others => (b :: line) :: others)
    [])

/-- The texts at the start of a list, up to the first place that holds none. -/
def leadingTexts : List (Option String) → List String
  | some text :: rest => text :: leadingTexts rest
  | _ => []

/-- The lines of a tool's error output, as far as they are texts: a line that is not one ends the
reading. -/
def readableLines (bytes : List UInt8) : List String :=
  leadingTexts ((rawLines bytes).map fun line => Text.ofUtf8? (stripLineEnd line))

/-- At most this many lines of an error output are kept. -/
def errorTailLength : Nat := 20

/-- The last lines of a tool's error output. -/
def errorTail (bytes : List UInt8) : List String :=
  let lines := readableLines bytes
  lines.drop (lines.length - errorTailLength)

/-- The caller looks at a run every so many milliseconds: first whether it was cancelled, then
whether it has ended. -/
def pollInterval : Nat := 20

/-- The first look at which a run of this duration has ended. -/
def noticedAfter (duration : Nat) : Nat :=
  pollInterval * (duration / pollInterval + 1)

/-- The cancellation comes before the end of a run of this duration is noticed. -/
def Cancellation.interrupts (c : Cancellation) (duration : Nat) : Bool :=
  match c with
  | .never | .late => false
  | .already => true
  | .after limit => limit ≤ noticedAfter duration

namespace ToolCall

/-- What a run that ended yields. -/
def judge (code : Option Int) (output errors : List UInt8) : Except SyncError Capture :=
  if code = some 0 then .ok { status := .complete, output }
  else if code = some 3 then .ok { status := .incomplete, output }
  else .error (.toolFailed code (errorTail errors))

/-- What a call yields, given what becomes of it. A call that is cancelled before it begins is not
even tried. A run without end ends only by being cancelled; if nobody cancels it, the caller waits
for ever and gets no result at all. There is no value for that here, so such a run counts as
cancelled too, and what is said of its result says nothing about that caller. -/
def capture (call : ToolCall) (cancellation : Cancellation) (run : ToolRun) :
    Except SyncError Capture :=
  if cancellation = .already then .error .cancelled
  else match run with
    | .refused cause => .error (.notStarted call.program cause)
    | .ended code output errors duration =>
      if cancellation.interrupts duration then .error .cancelled
      else judge code output errors
    | .lost cause duration =>
      if cancellation.interrupts duration then .error .cancelled
      else .error (.lost cause)
    | .endless => .error .cancelled

end ToolCall

end TargetGraph
