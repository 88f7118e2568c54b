import TargetGraph.Json.Scanner
import TargetGraph.Message

set_option relaxedAutoImplicit false
set_option autoImplicit false

/-!
# Streams of messages

A query output is a sequence of messages with blanks, or nothing, between them. It is read byte by
byte: what was read so far decides what the next byte means.

## Main definitions

* `TargetGraph.Stream` — a query output in the middle of being read.
* `TargetGraph.Stream.step`, `TargetGraph.Stream.feed` — one more byte, and some more bytes.
* `TargetGraph.decodeMessages` — the messages of a query output, or the offset of the end of the
  last good message before a bad one.
-/

namespace TargetGraph

open Json

/-- Where in a query output a reader is. -/
inductive StreamPhase where
  /-- Between two messages. -/
  | between
  /-- Inside a message. -/
  | inside (scanner : Scanner)
  /-- Behind something that is no message. -/
  | failed

/-- A query output in the middle of being read. -/
structure Stream where
  /-- The messages so far, last first. -/
  messages : List Message := []
  /-- The offset of the end of the last message; zero before the first. -/
  boundary : Nat := 0
  /-- How many bytes were read. -/
  position : Nat := 0
  /-- Where the reader is. -/
  phase : StreamPhase := .between

namespace Stream

/-- A value is complete: it has to be a message. -/
def accept (s : Stream) (value : Raw) : Stream :=
  match Message.ofRaw? value with
  | some message =>
    { messages := message :: s.messages
      boundary := s.position + 1
      position := s.position + 1
      phase := .between }
  | none => { s with position := s.position + 1, phase := .failed }

/-- One more byte. -/
def step (s : Stream) (b : UInt8) : Stream :=
  match s.phase with
  | .failed => { s with position := s.position + 1 }
  | .between =>
    if isSpace b then { s with position := s.position + 1 }
    else match Scanner.start? b with
      | some scanner => { s with position := s.position + 1, phase := .inside scanner }
      | none => { s with position := s.position + 1, phase := .failed }
  | .inside scanner =>
    match scanner.step b with
    | .reading scanner => { s with position := s.position + 1, phase := .inside scanner }
    | .complete value => s.accept value
    | .malformed => { s with position := s.position + 1, phase := .failed }

/-- Some more bytes. -/
def feed (s : Stream) (bytes : List UInt8) : Stream :=
  bytes.foldl step s

/-- What the bytes so far say if there are no more of them: the messages, or the offset of the end
of the last one if what follows it is no message. -/
def finish (s : Stream) : Except Nat (List Message) :=
  match s.phase with
  | .between => .ok s.messages.reverse
  | .inside _ => .error s.boundary
  | .failed => .error s.boundary

end Stream

/-- The messages of a query output, or the offset of the end of the last good message before a bad
one. -/
def decodeMessages (bytes : List UInt8) : Except Nat (List Message) :=
  (Stream.feed {} bytes).finish

end TargetGraph
