import TargetGraph.Command.Request
import TargetGraph.Json.Document
import TargetGraph.Publication
import TargetGraph.Text.Table

set_option relaxedAutoImplicit false
set_option autoImplicit false

/-!
# Commands

A command makes the snapshot of its workspace, publishes it, and prints what it was asked. A label
that cannot be read is found out before anything else is done. A command that fails prints nothing
but why, and publishes nothing.

## Main definitions

* `TargetGraph.CommandError` — why a command fails, with its exit code and wording.
* `TargetGraph.Outcome` — what a command prints, and its exit code.
* `TargetGraph.Request.execute` — doing what a command line asks for.
-/

namespace TargetGraph

/-- Why a command fails. -/
inductive CommandError where
  /-- A label cannot be read. -/
  | label (raw : String) (cause : GraphError)
  /-- The captured query output cannot be read. -/
  | unreadable (file : SourcePath) (cause : SystemError)
  /-- The snapshot cannot be made. -/
  | sync (cause : SyncError)
  deriving Repr

namespace CommandError

/-- The wording of a failure. -/
def message : CommandError → String
  | .label raw cause => "Invalid label " ++ raw ++ ": " ++ cause.message
  | .unreadable file cause => "Failed to read query output " ++ file.text ++ ": " ++ cause.message
  | .sync cause => "Sync failed: " ++ cause.message

/-- The exit code of a failure. -/
def code : CommandError → Nat
  | .label _ _ => 2
  | .unreadable _ _ => 1
  | .sync _ => 1

end CommandError

/-- What a command prints, and its exit code. -/
structure Outcome where
  /-- The exit code. -/
  code : Nat := 0
  /-- What is printed to the output. -/
  output : String := ""
  /-- What is printed to the error output. -/
  errors : String := ""
  deriving DecidableEq, Repr

namespace Outcome

/-- A line is printed to the output. -/
def printing (line : String) : Outcome where
  output := line ++ "\n"

/-- A failure. -/
def failure (cause : CommandError) : Outcome where
  code := cause.code
  errors := cause.message ++ "\n"

end Outcome

/-! ### What is printed -/

/-- Texts with their numbers, counted from one. -/
def numbered (texts : List String) : List (List String) :=
  texts.zipIdx.map fun (text, place) => [toString (place + 1), text]

/-- A list of texts under a title. -/
def printList (title : String) (texts : List String) : Format → String
  | .json => (Json.Document.list (texts.map Json.Scalar.text)).pretty
  | .text => Table.render ["#", title] (numbered texts)

/-- The owner of a file. -/
def printOwner (file : SourcePath) (owner : Option Label) : Format → String
  | .json =>
    (Json.Document.record [("file", .text file.text),
      ("owner", (owner.map fun label => Json.Scalar.text label.text).getD .null)]).pretty
  | .text => (owner.map Label.text).getD "<no owning target>"

/-- The sizes of a snapshot, as a table. -/
def Counts.table (counts : Counts) : String :=
  Table.render ["Entry", "Count"] [
    ["source files", toString counts.sourceFiles],
    ["source targets", toString counts.sourceTargets],
    ["rules", toString counts.rules],
    ["external targets", toString counts.external],
    ["android rules", toString counts.android]]

/-- A sync, as JSON. -/
def SyncReport.document (report : SyncReport) (root : SourcePath) : Json.Document :=
  .record [
    ("workspace", .text root.text),
    ("status", .text report.status.name),
    ("generation", .number report.generation),
    ("prefetched", .number report.prefetched),
    ("source_files", .number report.counts.sourceFiles),
    ("source_targets", .number report.counts.sourceTargets),
    ("rules", .number report.counts.rules),
    ("project_deps", .number report.counts.external),
    ("android_targets", .number report.counts.android)]

/-- The warning that goes with an incomplete result. -/
def incompleteWarning : String :=
  "Warning: the build tool reported a partial result; some targets may be missing"

/-- What a sync prints. A quiet one prints no text, but warns. -/
def printSync (root : SourcePath) (report : SyncReport) (quiet : Bool) : Format → Outcome
  | .json => .printing (report.document root).pretty
  | .text =>
    { errors := if report.status = .incomplete then incompleteWarning ++ "\n" else ""
      output :=
        if quiet then ""
        else report.counts.table ++ "\nSync " ++ report.status.name ++ " for workspace: " ++
          root.text ++ "\n" }

/-! ### What is done -/

/-- A question whose label is read. -/
inductive ReadyQuestion where
  /-- The rule that owns a file. -/
  | owner (file : SourcePath)
  /-- The external labels that a file reaches. -/
  | deps (file : SourcePath)
  /-- The external labels that a target reaches. -/
  | closure (target : Label)
  /-- The source files of a selection. -/
  | sources (selection : Selection)
  /-- The source files that reach an external label. -/
  | dependents (dependency : Label)

/-- A label of the command line. -/
def readArgument (raw : String) : Except CommandError Label :=
  match Label.read raw with
  | .ok label => .ok label
  | .error cause => .error (.label raw cause)

/-- The question with its label read. -/
def Question.ready : Question → Except CommandError ReadyQuestion
  | .owner file => .ok (.owner file)
  | .deps file => .ok (.deps file)
  | .closure target => (readArgument target).map .closure
  | .sources selection => .ok (.sources selection)
  | .dependents dependency => (readArgument dependency).map .dependents

/-- The answer to a question about a snapshot, as it is printed. -/
def ReadyQuestion.answer (w : Workspace) (format : Format) :
    ReadyQuestion → Snapshot → StateM Memo String
  | .owner file, snapshot =>
    let file := w.relative file
    return printOwner file (snapshot.owner? file) format
  | .deps file, snapshot => do
    let labels ← snapshot.fileClosure (w.relative file)
    return printList "Label" (labels.toList.map Label.text) format
  | .closure target, snapshot => do
    let labels ← snapshot.closure target
    return printList "Label" (labels.toList.map Label.text) format
  | .sources selection, snapshot =>
    return printList "Path" ((snapshot.select selection).map SourcePath.text) format
  | .dependents dependency, snapshot => do
    let files ← snapshot.dependents dependency
    return printList "Path" (files.map SourcePath.text) format

section

variable {m : Type → Type} [Monad m]

/-- The snapshot of a workspace is made and published: from the captured query output if there is
one, else by running the build tool. -/
def Workspace.sync (w : Workspace) (host : Host m) (input : Option SourcePath) (p : Publication) :
    m (Except CommandError SyncReport × Publication) := do
  let options := SyncOptions.ofSettings w.settings
  match input with
  | some file =>
    match ← host.files.read file with
    | .error cause => return (.error (.unreadable file cause), p)
    | .ok output =>
      let (report, p) := p.sync options false { output }
      return (report.mapError .sync, p)
  | none =>
    let call := w.queryCall
    let (report, p) := p.runSync options .never call (← host.run call)
    return (report.mapError .sync, p)

/-- A task on a workspace, given what to do with the report and the published snapshot. -/
def withSnapshot (host : Host m) (source : Source) (p : Publication)
    (next : Workspace → SyncReport → Publication → Outcome × Publication) :
    m (Outcome × Publication) := do
  let w ← Workspace.locate host source
  match ← w.sync host source.input p with
  | (.error cause, p) => return (.failure cause, p)
  | (.ok report, p) => return next w report p

/-- Does what a command line asks for. Neither the text of the help nor completion scripts are kept
here, so nothing is printed for them. -/
def Request.execute (host : Host m) (p : Publication) : Request → m (Outcome × Publication)
  | .task source .sync format quiet =>
    withSnapshot host source p fun w report p =>
      (printSync w.root report quiet (w.format format), p)
  | .task source (.ask question) format _ =>
    match question.ready with
    | .error cause => return (.failure cause, p)
    | .ok question =>
      withSnapshot host source p fun w _ p =>
        let (line, p) := p.ask p.current (question.answer w (w.format format))
        (.printing line, p)
  | .completions _ => return ({}, p)
  | .version => return (.printing "querysync 0.1.0", p)
  | .help => return ({}, p)

end

end TargetGraph
