import TargetGraph.Command.Line
import TargetGraph.Proofs.Contents.Reading
import TargetGraph.Proofs.Publication.History

set_option relaxedAutoImplicit false
set_option autoImplicit false

/-!
# What comes of a command line

A command fails for one of two reasons: its label cannot be read, which is found out before anything
else is done, or there is no snapshot to ask. In both cases nothing is printed to the output, and
what is published stays.

The host is any one whose actions depend on a state and may change it, so that its files and its
build tool may do anything. A tool that goes on without end, which nobody cancels here, counts as
one that fails.

## Main definitions

* `TargetGraph.Request.Misnames` — a request has a label that cannot be read.
* `TargetGraph.Workspace.Reports` — the bytes that a workspace gets its snapshot from.
* `TargetGraph.Source.Obtains` — a snapshot can be made from a source.

## Main results

* `TargetGraph.synced_sync` — a workspace publishes a snapshot, or there is none and it changes
  nothing.
* `TargetGraph.Request.Misnames.execute` — a request with a label that cannot be read does nothing.
* `TargetGraph.commandLine_outcome` — the exit code, and what a failure leaves as it was.
-/

namespace TargetGraph

variable {σ : Type} {host : Host (StateM σ)} {w : Workspace} {source : Source}
  {input : Option SourcePath} {p : Publication} {s s' : σ}

/-! ### Where snapshots come from -/

/-- Bytes are what a workspace gets its snapshot from: a captured query output that can be read, or
what the build tool wrote if it ended with a complete or with an incomplete result. -/
inductive Workspace.Reports (w : Workspace) (host : Host (StateM σ)) :
    Option SourcePath → σ → List UInt8 → Prop where
  /-- The captured query output. -/
  | captured {file : SourcePath} {output : List UInt8} {s s' : σ}
    (hread : (host.files.read file).run s = (.ok output, s')) : Reports w host (some file) s output
  /-- The output of the build tool. -/
  | ran {code : Int} {output errors : List UInt8} {duration : Nat} {s s' : σ}
    (hrun : (host.run w.queryCall).run s = (.ended (some code) output errors duration, s'))
    (hcode : code = 0 ∨ code = 3) : Reports w host none s output

/-- A workspace makes a snapshot of what is reported to it, in the words of its settings. -/
def Workspace.Obtains (w : Workspace) (host : Host (StateM σ)) (input : Option SourcePath) (s : σ)
    (snapshot : Snapshot) : Prop :=
  ∃ output, w.Reports host input s output ∧
    Snapshot.ofOutput (SyncOptions.ofSettings w.settings).vocabulary output = .ok snapshot

/-- A snapshot can be made from a source, in the workspace that it leads to. Which that is, and
which file its settings are read from, is what `Workspace.locate_run_eq_iff` says. -/
def Source.Obtains (source : Source) (host : Host (StateM σ)) (s : σ) (snapshot : Snapshot) :
    Prop :=
  ∃ w s', (Workspace.locate host source).run s = (w, s') ∧
    w.Obtains host source.input s' snapshot

/-- What becomes of a publication by a sync of a workspace. -/
inductive Synced (w : Workspace) (host : Host (StateM σ)) (input : Option SourcePath) (s : σ)
    (p : Publication) : Except CommandError SyncReport × Publication → Prop where
  /-- There is a snapshot. -/
  | published {report : SyncReport} {after : Publication}
    (hsnapshot : ∃ snapshot, w.Obtains host input s snapshot) :
    Synced w host input s p (.ok report, after)
  /-- There is none, and the publication stays as it is. -/
  | kept {cause : CommandError} (hcode : cause.code = 1)
    (hnothing : ¬∃ snapshot, w.Obtains host input s snapshot) :
    Synced w host input s p (.error cause, p)

/-- A captured query output is the only one that is reported, if it can be read. -/
theorem reports_some_iff {file : SourcePath} {output output' : List UInt8}
    (hread : (host.files.read file).run s = (.ok output, s')) :
    w.Reports host (some file) s output' ↔ output' = output := by
  constructor
  · rintro ⟨hread'⟩
    cases hread.symm.trans hread'
    rfl
  · rintro rfl
    exact .captured hread

/-- A run that nobody cancels is usable just if the tool ended with zero or three.

**Proof sketch.** A run that is refused, is lost or goes on without end is a failure. A run that
ended is judged by its code alone, which is usable in two cases. -/
theorem exists_capture_iff {call : ToolCall} {run : ToolRun} {output : List UInt8} :
    (∃ capture, call.capture .never run = .ok capture ∧ capture.output = output) ↔
      ∃ code errors duration, run = .ended (some code) output errors duration ∧
        (code = 0 ∨ code = 3) := by
  constructor
  · rintro ⟨capture, hcapture, rfl⟩
    cases run with
    | refused | lost | endless => cases hcapture
    | ended code output errors duration =>
      have hjudge : ToolCall.judge code output errors = .ok capture := hcapture
      unfold ToolCall.judge at hjudge
      split_ifs at hjudge with hzero hthree
      · cases hjudge
        exact ⟨0, errors, duration, by rw [hzero], .inl rfl⟩
      · cases hjudge
        exact ⟨3, errors, duration, by rw [hthree], .inr rfl⟩
  · rintro ⟨code, errors, duration, rfl, rfl | rfl⟩
    · exact ⟨⟨.complete, output⟩, rfl, rfl⟩
    · exact ⟨⟨.incomplete, output⟩, rfl, rfl⟩

/-- Without a captured query output, what a usable run wrote is reported (`exists_capture_iff`). -/
theorem reports_none_iff {run : ToolRun} {output : List UInt8}
    (hrun : (host.run w.queryCall).run s = (run, s')) :
    w.Reports host none s output ↔
      ∃ capture, w.queryCall.capture .never run = .ok capture ∧ capture.output = output := by
  rw [exists_capture_iff]
  constructor
  · intro h
    cases h with
    | ran hrun' hcode =>
      cases hrun.symm.trans hrun'
      exact ⟨_, _, _, rfl, hcode⟩
  · rintro ⟨code, errors, duration, rfl, hcode⟩
    exact .ran hrun hcode

/-- A sync of the only bytes that are reported.

**Proof sketch.** An output that is refused makes no snapshot and changes nothing
(`Publication.sync_of_error`); one that is accepted makes the snapshot that is published
(`Publication.sync_of_ok`). -/
theorem synced_of_capture {capture : Capture}
    (h : ∀ output, w.Reports host input s output ↔ output = capture.output) :
    Synced w host input s p
      ((p.sync (.ofSettings w.settings) false capture).1.mapError .sync,
        (p.sync (.ofSettings w.settings) false capture).2) := by
  cases houtput :
      Snapshot.ofOutput (SyncOptions.ofSettings w.settings).vocabulary capture.output with
  | error cause =>
    rw [Publication.sync_of_error houtput]
    refine .kept rfl ?_
    rintro ⟨snapshot, output, hreports, hsnapshot⟩
    rw [(h output).mp hreports, houtput] at hsnapshot
    cases hsnapshot
  | ok snapshot =>
    rw [Publication.sync_of_ok houtput]
    exact .published ⟨snapshot, _, (h _).mpr rfl, houtput⟩

/-- A sync where nothing is reported. -/
theorem synced_of_nothing {cause : CommandError} (hcode : cause.code = 1)
    (h : ∀ output, ¬w.Reports host input s output) : Synced w host input s p (.error cause, p) :=
  .kept hcode fun ⟨_, output, hreports, _⟩ => h output hreports

/-- A workspace with a captured query output.

**Proof sketch.** A file that cannot be read reports nothing (`synced_of_nothing`), and any other is
all that is reported (`reports_some_iff`). -/
theorem synced_sync_of_file (file : SourcePath) :
    Synced w host (some file) s p ((w.sync host (some file) p).run s).1 := by
  rcases hread : (host.files.read file).run s with ⟨cause | output, s'⟩
  · have hsync : ((w.sync host (some file) p).run s).1 = (.error (.unreadable file cause), p) := by
      simp only [Workspace.sync, StateT.run_bind, hread]
      rfl
    rw [hsync]
    refine synced_of_nothing rfl ?_
    rintro _ ⟨hread'⟩
    cases hread.symm.trans hread'
  · have hsync : ((w.sync host (some file) p).run s).1 =
        ((p.sync (.ofSettings w.settings) false { output }).1.mapError .sync,
          (p.sync (.ofSettings w.settings) false { output }).2) := by
      simp only [Workspace.sync, StateT.run_bind, hread]
      rfl
    rw [hsync]
    exact synced_of_capture fun _ => reports_some_iff hread

/-- A workspace that runs the build tool.

**Proof sketch.** By what its run is worth: a run that is not usable reports nothing
(`synced_of_nothing`), and what a usable one wrote is all that is reported (`reports_none_iff`). -/
theorem synced_sync_of_run : Synced w host none s p ((w.sync host none p).run s).1 := by
  rcases hrun : (host.run w.queryCall).run s with ⟨run, s'⟩
  have hsync : ((w.sync host none p).run s).1 =
      ((p.runSync (.ofSettings w.settings) .never w.queryCall run).1.mapError .sync,
        (p.runSync (.ofSettings w.settings) .never w.queryCall run).2) := by
    simp only [Workspace.sync, StateT.run_bind, hrun]
    rfl
  rw [hsync, Publication.runSync]
  cases hcapture : w.queryCall.capture .never run with
  | error cause =>
    refine synced_of_nothing rfl fun output hreports => ?_
    obtain ⟨capture, hcapture', _⟩ := (reports_none_iff hrun).mp hreports
    cases hcapture.symm.trans hcapture'
  | ok capture =>
    refine synced_of_capture fun output => (reports_none_iff hrun).trans ⟨?_, ?_⟩
    · rintro ⟨capture', hcapture', rfl⟩
      rw [Except.ok.inj (hcapture.symm.trans hcapture')]
    · rintro rfl
      exact ⟨capture, hcapture, rfl⟩

/-- **A workspace publishes a snapshot, or there is none and it changes nothing**, with a captured
query output (`synced_sync_of_file`) or without one (`synced_sync_of_run`). -/
theorem synced_sync : Synced w host input s p ((w.sync host input p).run s).1 := by
  cases input with
  | some file => exact synced_sync_of_file file
  | none => exact synced_sync_of_run

/-! ### Requests with a label -/

/-- The request has a label that cannot be read. -/
def Request.Misnames : Request → Prop
  | .task _ (.ask (.closure raw)) _ _ | .task _ (.ask (.dependents raw)) _ _ =>
    Label.parse? raw = none
  | _ => False

variable {request : Request}

/-- A label that cannot be read is refused, and any other is read. -/
theorem readArgument_cases (raw : String) :
    (∃ cause, readArgument raw = .error (.label raw cause) ∧ Label.parse? raw = none) ∨
      ∃ label, readArgument raw = .ok label ∧ Label.parse? raw ≠ none := by
  unfold readArgument Label.read
  cases Label.parse? raw with
  | none => exact .inl ⟨_, rfl, rfl⟩
  | some label => exact .inr ⟨label, rfl, nofun⟩

/-- A question can be made ready just if the request does not misname a label: only two questions
have a label, and `readArgument_cases` says what is made of it. -/
theorem misnames_ask (source : Source) (question : Question) (format : Format) (quiet : Bool) :
    (∃ raw cause, question.ready = .error (.label raw cause) ∧
        (Request.task source (.ask question) format quiet).Misnames) ∨
      ∃ ready, question.ready = .ok ready ∧
        ¬(Request.task source (.ask question) format quiet).Misnames := by
  cases question with
  | owner | deps | sources => exact .inr ⟨_, rfl, id⟩
  | closure raw | dependents raw =>
    obtain ⟨cause, hread, hnone⟩ | ⟨label, hread, hsome⟩ := readArgument_cases raw
    · exact .inl ⟨raw, cause, by rw [Question.ready, hread]; rfl, hnone⟩
    · exact .inr ⟨_, by rw [Question.ready, hread]; rfl, hsome⟩

/-- **A request with a label that cannot be read does nothing**, on whatever host: the outcome is
there before the host is asked for anything. -/
theorem Request.Misnames.execute (h : request.Misnames) :
    ∃ outcome : Outcome, outcome.code = 2 ∧ outcome.output = "" ∧
      ∀ {m : Type → Type} [Monad m] (host : Host m) (p : Publication),
        request.execute host p = pure (outcome, p) := by
  match request with
  | .task source (.ask question) format quiet =>
    obtain ⟨raw, cause, hready, _⟩ | ⟨_, _, hnot⟩ := misnames_ask source question format quiet
    · refine ⟨.failure (.label raw cause), rfl, rfl, fun host p => ?_⟩
      rw [Request.execute, hready]
    · exact absurd h hnot

/-! ### Requests that need a snapshot -/

/-- What a request comes to that needs a snapshot. -/
inductive Answered (snapshots : Prop) (p : Publication) : Outcome × Publication → Prop where
  /-- There is one. -/
  | success {outcome : Outcome} {after : Publication} (hcode : outcome.code = 0)
    (hsnapshot : snapshots) : Answered snapshots p (outcome, after)
  /-- There is none: nothing is printed to the output, and the publication stays as it is. -/
  | failure {outcome : Outcome} (hcode : outcome.code = 1) (houtput : outcome.output = "")
    (hnothing : ¬snapshots) : Answered snapshots p (outcome, p)

/-- **A task has an answer if there is a snapshot**, where what is done with the snapshot cannot
fail.

**Proof sketch.** The source leads to one workspace, so there is a snapshot of the source just if
there is one of this workspace. Its sync publishes a snapshot or changes nothing (`synced_sync`),
and only in the first case something is done next. -/
theorem answered_withSnapshot
    {next : Workspace → SyncReport → Publication → Outcome × Publication}
    (hnext : ∀ w report p, (next w report p).1.code = 0) :
    Answered (∃ snapshot, source.Obtains host s snapshot) p
      ((withSnapshot host source p next).run s).1 := by
  rcases hlocate : (Workspace.locate host source).run s with ⟨w, s'⟩
  have hobtains : (∃ snapshot, source.Obtains host s snapshot) ↔
      ∃ snapshot, w.Obtains host source.input s' snapshot := by
    refine exists_congr fun snapshot => ⟨?_, fun h => ⟨w, s', hlocate, h⟩⟩
    rintro ⟨w', s'', hlocate', h⟩
    cases hlocate.symm.trans hlocate'
    exact h
  rw [hobtains]
  have hsynced : Synced w host source.input s' p ((w.sync host source.input p).run s').1 :=
    synced_sync
  rcases hsync : (w.sync host source.input p).run s' with ⟨⟨result, after⟩, last⟩
  rw [hsync] at hsynced
  rw [withSnapshot, run_bind_of_run hlocate, run_bind_of_run hsync]
  cases hsynced with
  | published hsnapshot => exact .success (hnext ..) hsnapshot
  | kept hcode hnothing => exact .failure hcode rfl hnothing

/-! ### Command lines -/

/-- Where a request gets its snapshot from, if it needs one. -/
def Request.source? : Request → Option Source
  | .task source _ _ _ => some source
  | .completions _ | .version | .help => none

/-- **Any other request has an answer if there is a snapshot**, where it needs one.

**Proof sketch.** Three requests need none and cannot fail. A sync and a question are tasks on a
snapshot (`answered_withSnapshot`); the label of the question has been read by then
(`misnames_ask`). -/
theorem Request.answered_execute (h : ¬request.Misnames) :
    Answered (∀ source ∈ request.source?, ∃ snapshot, source.Obtains host s snapshot) p
      ((request.execute host p).run s).1 := by
  cases request with
  | completions | version | help => exact .success rfl nofun
  | task source task format quiet =>
    have hsource : (∀ other ∈ (Request.task source task format quiet).source?,
        ∃ snapshot, other.Obtains host s snapshot) ↔
          ∃ snapshot, source.Obtains host s snapshot := by
      simp [Request.source?]
    rw [hsource]
    cases task with
    | sync =>
      refine answered_withSnapshot fun w report p => ?_
      unfold printSync
      split <;> rfl
    | ask question =>
      obtain ⟨_, _, _, hmisnames⟩ | ⟨ready, hready, _⟩ := misnames_ask source question format quiet
      · exact absurd hmisnames h
      · rw [Request.execute, hready]
        exact answered_withSnapshot fun _ _ _ => rfl

/-- **What comes of a command line.** The exit code is two if the request has a label that cannot be
read, and then nothing else is done on whatever host. Otherwise it is one if the request needs a
snapshot and none can be made: the captured query output cannot be read, or without one the build
tool does not end with zero or three, or what is reported is refused. Otherwise it is zero. A
failure prints nothing to the output, and what is published stays as it is.

**Proof sketch.** A label is read before the host is asked for anything
(`Request.Misnames.execute`). After that only making the snapshot can fail
(`Request.answered_execute`), and it publishes nothing then (`synced_sync`). -/
theorem commandLine_outcome (host : Host (StateM σ)) (words : List String) (request : Request)
    (hread : CommandLine.read words = some request) (p : Publication) (s : σ) :
    let done := ((request.execute host p).run s).1
    (done.1.code = 2 ↔ request.Misnames) ∧
    (request.Misnames → ∃ outcome : Outcome, ∀ {m : Type → Type} [Monad m] (host : Host m)
      (p : Publication), request.execute host p = pure (outcome, p)) ∧
    (done.1.code = 1 ↔ ¬request.Misnames ∧
      ∃ source ∈ request.source?, ¬∃ snapshot, source.Obtains host s snapshot) ∧
    (done.1.code = 0 ∨ done.1.code = 1 ∨ done.1.code = 2) ∧
    (done.1.code ≠ 0 → done.1.output = "" ∧ done.2 = p) ∧
    ((runCommandLine? host words).run s).1 = some ((request.execute host {}).run s).1.1 := by
  intro done
  have hrun : ((runCommandLine? host words).run s).1 =
      some ((request.execute host {}).run s).1.1 := by
    rw [runCommandLine?, hread]
    exact congrArg Prod.fst (run_bind_of_run rfl)
  by_cases h : request.Misnames
  · -- the outcome is there before the host is asked for anything
    obtain ⟨outcome, hcode, houtput, hexecute⟩ := h.execute
    have hdone : done = (outcome, p) := by
      show ((request.execute host p).run s).1 = _
      rw [hexecute]
      rfl
    rw [hdone]
    refine ⟨iff_of_true hcode h, fun _ => ⟨outcome, hexecute⟩, ?_, .inr (.inr hcode),
      fun _ => ⟨houtput, rfl⟩, hrun⟩
    exact iff_of_false (by rw [hcode]; nofun) fun hnot => hnot.1 h
  · -- what comes of it is an answer or a failure, and no more is used of it
    have hanswered : Answered (∀ source ∈ request.source?,
        ∃ snapshot, source.Obtains host s snapshot) p done := Request.answered_execute h
    clear_value done
    cases hanswered with
    | success hcode hsnapshot =>
      refine ⟨iff_of_false (by rw [hcode]; nofun) h, fun hyes => absurd hyes h, ?_, .inl hcode,
        fun hne => absurd hcode hne, hrun⟩
      refine iff_of_false (by rw [hcode]; nofun) ?_
      rintro ⟨_, source, hsource, hnothing⟩
      exact hnothing (hsnapshot source hsource)
    | failure hcode houtput hnothing =>
      push Not at hnothing
      refine ⟨iff_of_false (by rw [hcode]; nofun) h, fun hyes => absurd hyes h, ?_,
        .inr (.inl hcode), fun _ => ⟨houtput, rfl⟩, hrun⟩
      refine iff_of_true hcode ⟨h, ?_⟩
      simpa using hnothing

/-- A host with no files, and a build tool that writes nothing and ends with a code. -/
def emptyHost (code : Int) : Host (StateM Unit) where
  currentDirectory := return ⟨"/w"⟩
  files :=
    { kind := fun _ => return .error .notFound
      read := fun _ => return .error .notFound }
  run := fun _ => return .ended (some code) [] [] 5

/-- A sync of an incomplete result succeeds, and one of a build tool that failed does not. -/
theorem runCommandLine?_emptyHost :
    (∃ outcome, ((runCommandLine? (emptyHost 3) ["sync"]).run ()).1 = some outcome ∧
      outcome.code = 0) ∧
    ∃ outcome, ((runCommandLine? (emptyHost 7) ["sync"]).run ()).1 = some outcome ∧
      outcome.code = 1 ∧ outcome.output = "" := by
  have hread : CommandLine.read ["sync"] = some (.task {} .sync .text false) := rfl
  have hlabel : ¬(Request.task {} .sync .text false).Misnames := id
  constructor
  · obtain ⟨htwo, _, hone, hcode, _, hrun⟩ :=
      commandLine_outcome (emptyHost 3) ["sync"] _ hread {} ()
    refine ⟨_, hrun, ?_⟩
    rcases hcode with hcode | hcode | hcode
    · exact hcode
    · have hempty : ∃ snapshot, Snapshot.ofOutput {} [] = .ok snapshot := ⟨_, rfl⟩
      obtain ⟨snapshot, hsnapshot⟩ := hempty
      obtain ⟨_, source, hsource, hnothing⟩ := hone.mp hcode
      cases hsource
      exact absurd ⟨snapshot, _, _, rfl, [], .ran rfl (.inr rfl), hsnapshot⟩ hnothing
    · exact absurd (htwo.mp hcode) hlabel
  · obtain ⟨_, _, hone, _, hfails, hrun⟩ :=
      commandLine_outcome (emptyHost 7) ["sync"] _ hread {} ()
    have hcode := hone.mpr ⟨hlabel, {}, rfl, ?_⟩
    · exact ⟨_, hrun, hcode, (hfails (by rw [hcode]; nofun)).1⟩
    · rintro ⟨_, _, _, _, _, hreports, _⟩
      cases hreports with
      | ran hrun hcode =>
        cases hrun
        revert hcode
        decide

end TargetGraph
