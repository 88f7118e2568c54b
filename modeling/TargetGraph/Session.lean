import TargetGraph.Publication

set_option relaxedAutoImplicit false
set_option autoImplicit false

/-!
# Sessions

A session works on a draft, holds one snapshot to ask questions about, and takes part in
publication. The held snapshot may be the published one or one of its own.

## Main definitions

* `TargetGraph.Session` — the draft, the snapshots and which of them is held.
* `TargetGraph.Session.write`, `TargetGraph.Session.build`, `TargetGraph.Session.ingest` — making
  snapshots.
* `TargetGraph.Session.replace`, `TargetGraph.Session.load` — publishing the draft, and holding what
  is published.
* `TargetGraph.Session.ask` — a question about the held snapshot.
-/

namespace TargetGraph

/-- A session. It starts with an empty draft and holds an empty snapshot of its own. -/
structure Session where
  /-- The draft. -/
  draft : Draft := Draft.empty
  /-- The snapshots. -/
  publication : Publication := { graphs := #[Graph.empty, Graph.empty] }
  /-- The number of the held snapshot. -/
  held : Nat := 1

namespace Session

/-- The held snapshot with its memo. -/
def graph (s : Session) : Graph :=
  s.publication.graph s.held

/-- The session holds a snapshot that is not published. -/
def hold (s : Session) (snapshot : Snapshot) : Session :=
  let (number, publication) := s.publication.keep { snapshot }
  { s with publication, held := number }

/-- Some writes to the draft, up to the first that is refused. -/
def write (s : Session) (writes : List Write) : Option GraphError × Session :=
  let (draft, refusal) := s.draft.writeAll writes
  (refusal, { s with draft })

/-- The snapshot of the draft is held; the draft starts anew. -/
def build (s : Session) : Counts × Session :=
  let snapshot := s.draft.build
  (snapshot.counts, { s.hold snapshot with draft := Draft.empty })

/-- The snapshot of a query output is held, if the output is not refused. -/
def ingest (s : Session) (v : Vocabulary) (bytes : List UInt8) :
    Except SyncError Counts × Session :=
  match Snapshot.ofOutput v bytes with
  | .error e => (.error e, s)
  | .ok snapshot => (.ok snapshot.counts, s.hold snapshot)

/-- The snapshot of the draft is published, and the draft starts anew; the answer is the size of the
snapshot that was published before. -/
def replace (s : Session) : Counts × Session :=
  let previous := s.publication.published.snapshot.counts
  (previous,
    { s with
      draft := Draft.empty
      publication := s.publication.publish { snapshot := s.draft.build } })

/-- The published snapshot is held, with the memo it has. -/
def load (s : Session) : Session :=
  { s with held := s.publication.current }

/-- A change of what is published. -/
def publishing {α : Type} (s : Session) (change : Publication → α × Publication) : α × Session :=
  let (answer, publication) := change s.publication
  (answer, { s with publication })

/-- A question about the held snapshot. -/
def ask {α : Type} (s : Session) (question : Snapshot → StateM Memo α) : α × Session :=
  s.publishing fun p => p.ask s.held question

end Session

end TargetGraph
