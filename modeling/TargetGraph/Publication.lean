import TargetGraph.Closure.Query
import TargetGraph.Draft
import TargetGraph.Tool.Run

set_option relaxedAutoImplicit false
set_option autoImplicit false

/-!
# Publication of snapshots

Readers use the published snapshot. A sync makes a new one of a query output and publishes it as a
whole, or fails and leaves the published one as it was. A reader who holds an older snapshot goes on
using that; each snapshot keeps its memo, whoever asks.

## Main definitions

* `TargetGraph.Snapshot.ofOutput` — the snapshot of a query output.
* `TargetGraph.Publication` — all snapshots by number, which of them is published, and how often
  something was published.
* `TargetGraph.Publication.sync`, `TargetGraph.Publication.runSync` — publishing the snapshot of a
  capture, or of a run of the build tool.
* `TargetGraph.Publication.publish`, `TargetGraph.Publication.reset` — publishing a given snapshot,
  or the empty one.
-/

namespace TargetGraph

/-- The snapshot of a query output. -/
def Snapshot.ofOutput (v : Vocabulary) (bytes : List UInt8) : Except SyncError Snapshot :=
  match readOutput v bytes with
  | .error cause => .error (.output cause)
  | .ok contents =>
    match Snapshot.ofTargets contents.targets with
    | .error cause => .error (.graph cause)
    | .ok snapshot => .ok snapshot

/-- How a sync is done. -/
structure SyncOptions where
  /-- The vocabulary of the reports. -/
  vocabulary : Vocabulary := {}
  /-- Whether closures are worked out before the snapshot is published. -/
  warm : Bool := false
  deriving Repr

/-- The options that settings ask for. -/
def SyncOptions.ofSettings (settings : Option Settings) : SyncOptions where
  vocabulary := Vocabulary.ofSettings (settings.bind Settings.rules)
  warm := settings.any Settings.warmCache

/-- What a sync did. -/
structure SyncReport where
  /-- Whether something may be missing. -/
  status : Status
  /-- The sizes of the published snapshot. -/
  counts : Counts
  /-- How often something was published, this time included. -/
  generation : Nat
  /-- How many closures were asked for in advance. -/
  prefetched : Nat
  deriving Repr

/-- All snapshots with their memos, and which of them is published. Number zero is the empty
snapshot, which is published at first and after a reset. -/
structure Publication where
  /-- The snapshots, by number. -/
  graphs : Array Graph := #[Graph.empty]
  /-- The number of the published snapshot. -/
  current : Nat := 0
  /-- How often something was published. A counter of 64 bits is enough for that: it would be back
  at zero only after 2^64 publications, which are out of reach, so here it has no bound. -/
  generation : Nat := 0

namespace Publication

/-- The snapshot of a number, with its memo. -/
def graph (p : Publication) (number : Nat) : Graph :=
  p.graphs.getD number Graph.empty

/-- The published snapshot. -/
def published (p : Publication) : Graph :=
  p.graph p.current

/-- A snapshot gets a number without being published. -/
def keep (p : Publication) (g : Graph) : Nat × Publication :=
  (p.graphs.size, { p with graphs := p.graphs.push g })

/-- A snapshot is published. -/
def publish (p : Publication) (g : Graph) : Publication :=
  let (number, kept) := p.keep g
  { kept with current := number, generation := p.generation + 1 }

/-- The empty snapshot is published. -/
def reset (p : Publication) : Publication :=
  { p with current := 0, generation := p.generation + 1 }

/-- A question about the snapshot of a number; the snapshot's memo is kept. -/
def ask {α : Type} (p : Publication) (number : Nat) (question : Snapshot → StateM Memo α) :
    α × Publication :=
  let (answer, g) := (p.graph number).ask question
  (answer, { p with graphs := p.graphs.setIfInBounds number g })

/-- The graph that a sync would publish, and how many closures it asked for. -/
def prepare (options : SyncOptions) (snapshot : Snapshot) : Nat × Graph :=
  if options.warm then ({ snapshot : Graph }).ask Snapshot.prefetch else (0, { snapshot })

/-- The snapshot of a capture is published, unless the capture is refused or the caller has lost
interest by then. -/
def sync (p : Publication) (options : SyncOptions) (cancelled : Bool) (capture : Capture) :
    Except SyncError SyncReport × Publication :=
  match Snapshot.ofOutput options.vocabulary capture.output with
  | .error e => (.error e, p)
  | .ok snapshot =>
    let (prefetched, g) := prepare options snapshot
    if cancelled then (.error .cancelled, p)
    else
      let after := p.publish g
      (.ok { status := capture.status, counts := snapshot.counts, generation := after.generation,
             prefetched }, after)

/-- The snapshot of what a call yields is published, given what becomes of the call. -/
def runSync (p : Publication) (options : SyncOptions) (cancellation : Cancellation)
    (call : ToolCall) (run : ToolRun) : Except SyncError SyncReport × Publication :=
  match call.capture cancellation run with
  | .error e => (.error e, p)
  | .ok capture => p.sync options (cancellation = .late) capture

end Publication

end TargetGraph
