import TargetGraph.Publication

set_option relaxedAutoImplicit false
set_option autoImplicit false

/-!
# Histories of a publication

A publication is worked on by syncs, by replacing what is published, and by resets, in any order and
any number. Each of these publishes one graph as a whole, or fails and changes nothing.

## Main definitions

* `TargetGraph.Publication.Action`, `TargetGraph.Publication.perform` — what is done, and doing it.
* `TargetGraph.Publication.performAll` — doing one thing after another.
* `TargetGraph.Publication.Action.Publishes` — a graph is what an action would publish.
* `TargetGraph.Publication.Step` — what becomes of a publication by one action.

## Main results

* `TargetGraph.Publication.step_perform` — what one action does.
* `TargetGraph.Publication.performed` — what a list of actions does.
* `TargetGraph.Publication.publishes_or_keeps` — a new publication after any history, and what the
  next action does to it.

## Design

What is to be published is said without the publication: by the snapshot of the output alone, so
that neither closures worked out in advance nor earlier failures have a part in it.
-/

namespace TargetGraph

namespace Publication

/-! ### Actions -/

/-- What is done with a publication. -/
inductive Action where
  /-- A sync from a capture; the caller may have lost interest before anything is published. -/
  | sync (options : SyncOptions) (cancelled : Bool) (capture : Capture)
  /-- A sync from a run of the build tool. -/
  | runSync (options : SyncOptions) (cancellation : Cancellation) (call : ToolCall) (run : ToolRun)
  /-- A given graph is published. -/
  | replace (g : Graph)
  /-- The empty graph is published. -/
  | reset

/-- What is answered to an action: why it fails, or for a sync what it did. -/
abbrev Answer := Except SyncError (Option SyncReport)

/-- The action is a sync. -/
def Action.isSync : Action → Bool
  | .sync _ _ _ | .runSync _ _ _ _ => true
  | .replace _ | .reset => false

/-- One action. -/
def perform (p : Publication) : Action → Answer × Publication
  | .sync options cancelled capture => (p.sync options cancelled capture).map (Except.map some) id
  | .runSync options cancellation call run =>
    (p.runSync options cancellation call run).map (Except.map some) id
  | .replace g => (.ok none, p.publish g)
  | .reset => (.ok none, p.reset)

/-- Some actions, one after another. -/
def performAll (p : Publication) : List Action → List Answer × Publication
  | [] => ([], p)
  | action :: rest =>
    let (answer, after) := p.perform action
    let (answers, last) := after.performAll rest
    (answer :: answers, last)

/-- The last of some actions that did not fail, given what was answered to them. -/
def lastSuccess : List Action → List Answer → Option Action
  | action :: actions, answer :: answers =>
    (lastSuccess actions answers).or (if answer.isOk then some action else none)
  | _, _ => none

/-! ### What is published -/

/-- A graph is what an action publishes. A sync publishes the snapshot of its output, whatever is
known about its closures by then, unless the caller has lost interest. -/
inductive Action.Publishes : Action → Graph → Prop
  /-- The output of the capture is accepted, and nobody has lost interest. -/
  | sync {options : SyncOptions} {capture : Capture} {g : Graph}
      (haccepted : Snapshot.ofOutput options.vocabulary capture.output = .ok g.snapshot) :
      Publishes (.sync options false capture) g
  /-- The run is usable, its output is accepted, and nobody has lost interest. -/
  | runSync {options : SyncOptions} {cancellation : Cancellation} {call : ToolCall} {run : ToolRun}
      {capture : Capture} {g : Graph} (hrun : call.capture cancellation run = .ok capture)
      (hlate : cancellation ≠ .late)
      (haccepted : Snapshot.ofOutput options.vocabulary capture.output = .ok g.snapshot) :
      Publishes (.runSync options cancellation call run) g
  /-- The given graph. -/
  | replace (g : Graph) : Publishes (.replace g) g
  /-- The empty graph. -/
  | reset : Publishes .reset Graph.empty

/-- What becomes of a publication by one action, and what is answered. -/
inductive Step (p : Publication) (action : Action) : Answer → Publication → Prop
  /-- A graph is published. A sync reports how often something was published by then, and the sizes
  of what is published. -/
  | publishes {report : Option SyncReport} {after : Publication}
      (hgraph : action.Publishes after.published)
      (hgeneration : after.generation = p.generation + 1)
      (hreport : if action.isSync then
          ∃ given, report = some given ∧ given.generation = after.generation ∧
            given.counts = after.published.snapshot.counts
        else report = none) : Step p action (.ok report) after
  /-- There is nothing that could be published, and the publication stays as it is. -/
  | fails {cause : SyncError} (hnothing : ∀ g, ¬action.Publishes g) : Step p action (.error cause) p

/-- An action that would publish the same as another, and is answered like it, does the same. -/
theorem Step.of_publishes_iff {p after : Publication} {action other : Action} {answer : Answer}
    (h : Step p action answer after) (hsync : other.isSync = action.isSync)
    (hpublishes : ∀ g, other.Publishes g ↔ action.Publishes g) : Step p other answer after := by
  cases h with
  | publishes hgraph hgeneration hreport =>
    exact .publishes ((hpublishes _).mpr hgraph) hgeneration (hsync ▸ hreport)
  | fails hnothing => exact .fails fun g hg => hnothing g ((hpublishes g).mp hg)

/-- The empty graph has number zero, and the published one has a number. -/
structure Sound (p : Publication) : Prop where
  /-- The empty graph has number zero. -/
  empty : p.graphs[0]? = some Graph.empty
  /-- There is a graph of the published number. -/
  current : p.current < p.graphs.size

variable {p after : Publication} {action : Action} {actions : List Action} {answer : Answer}
  {answers : List Answer} {g : Graph}

/-- So it is at first. -/
theorem sound_new : Sound {} :=
  ⟨rfl, Nat.one_pos⟩

/-- A graph that is published is the published one. -/
theorem published_publish : (p.publish g).published = g := by
  show (p.graphs.push g).getD p.graphs.size Graph.empty = g
  rw [Array.getD_eq_getD_getElem?, Array.getElem?_push_size, Option.getD_some]

/-- Publishing a graph leaves the others as they are. -/
theorem Sound.publish (h : p.Sound) : (p.publish g).Sound where
  empty := by
    have hne : 0 ≠ p.graphs.size := Nat.ne_of_lt (Nat.zero_lt_of_lt h.current)
    show (p.graphs.push g)[0]? = some Graph.empty
    rw [Array.getElem?_push, if_neg hne, h.empty]
  current := by
    show p.graphs.size < (p.graphs.push g).size
    rw [Array.size_push]
    exact Nat.lt_succ_self _

/-- A reset leaves all graphs as they are. -/
theorem Sound.reset (h : p.Sound) : p.reset.Sound :=
  ⟨h.empty, Nat.zero_lt_of_lt h.current⟩

/-- After a reset the empty graph is published. -/
theorem Sound.published_reset (h : p.Sound) : p.reset.published = Graph.empty := by
  show p.graphs.getD 0 Graph.empty = Graph.empty
  rw [Array.getD_eq_getD_getElem?, h.empty, Option.getD_some]

/-! ### One action -/

/-- Closures that are worked out in advance leave the snapshot as it is. -/
theorem snapshot_prepare {options : SyncOptions} {snapshot : Snapshot} :
    (prepare options snapshot).2.snapshot = snapshot := by
  unfold prepare
  split <;> rfl

section Sync

variable {options : SyncOptions} {cancelled : Bool} {capture : Capture} {snapshot : Snapshot}
  {cancellation : Cancellation} {call : ToolCall} {run : ToolRun}

/-- An output that is refused changes nothing. -/
theorem sync_of_error {cause : SyncError}
    (h : Snapshot.ofOutput options.vocabulary capture.output = .error cause) :
    p.sync options cancelled capture = (.error cause, p) := by
  rw [Publication.sync, h]

/-- An output that is accepted is published if the caller still wants it. -/
theorem sync_of_ok (h : Snapshot.ofOutput options.vocabulary capture.output = .ok snapshot) :
    p.sync options cancelled capture =
      if cancelled then (.error .cancelled, p)
      else
        (.ok { status := capture.status, counts := snapshot.counts, generation := p.generation + 1,
               prefetched := (prepare options snapshot).1 },
          p.publish (prepare options snapshot).2) := by
  rw [Publication.sync, h]
  rfl

/-- What a sync from a capture does.

**Proof sketch.** An output that is refused is no snapshot, so there is nothing that could be
published, and nothing is (`sync_of_error`). One that is accepted is published unless the caller has
lost interest (`sync_of_ok`), with the snapshot as it was read, whatever closures were worked out in
advance (`snapshot_prepare`). -/
theorem step_sync (h : p.Sound) : Step p (.sync options cancelled capture)
      (p.perform (.sync options cancelled capture)).1
      (p.perform (.sync options cancelled capture)).2 ∧
    (p.perform (.sync options cancelled capture)).2.Sound := by
  rw [perform]
  cases houtput : Snapshot.ofOutput options.vocabulary capture.output with
  | error cause =>
    rw [sync_of_error houtput]
    refine ⟨.fails ?_, h⟩
    rintro g ⟨haccepted⟩
    rw [houtput] at haccepted
    cases haccepted
  | ok snapshot =>
    rw [sync_of_ok houtput]
    cases cancelled with
    | true => exact ⟨.fails nofun, h⟩
    | false =>
      have hsnapshot : (p.publish (prepare options snapshot).2).published.snapshot = snapshot := by
        rw [published_publish, snapshot_prepare]
      refine ⟨.publishes (.sync ?_) rfl ⟨_, rfl, rfl, ?_⟩, h.publish⟩
      · rw [← hsnapshot] at houtput
        exact houtput
      · exact congrArg Snapshot.counts hsnapshot.symm

/-- A sync from a usable run is one from what the run yields, which the caller has lost interest in
if the cancellation comes late.

**Proof sketch.** A run yields one capture, so both ways of publishing accept the same output. A
late cancellation publishes in neither of them. -/
theorem publishes_runSync_iff (hrun : call.capture cancellation run = .ok capture) :
    (Action.runSync options cancellation call run).Publishes g ↔
      (Action.sync options (cancellation = .late) capture).Publishes g := by
  constructor
  · intro hpublishes
    cases hpublishes with
    | runSync hrun' hlate haccepted =>
      obtain rfl := Except.ok.inj (hrun.symm.trans hrun')
      rw [decide_eq_false hlate]
      exact .sync haccepted
  · intro hsync
    cases hlate : decide (cancellation = .late) with
    | true =>
      rw [hlate] at hsync
      cases hsync
    | false =>
      rw [hlate] at hsync
      obtain ⟨haccepted⟩ := hsync
      exact .runSync hrun (of_decide_eq_false hlate) haccepted

/-- What a sync from a run does.

**Proof sketch.** Without a usable run there is nothing that could be published. With one, it is a
sync from what the run yields (`publishes_runSync_iff`), and `step_sync` says what that does. -/
theorem step_runSync (h : p.Sound) : Step p (.runSync options cancellation call run)
      (p.perform (.runSync options cancellation call run)).1
      (p.perform (.runSync options cancellation call run)).2 ∧
    (p.perform (.runSync options cancellation call run)).2.Sound := by
  rw [perform, Publication.runSync]
  cases hrun : call.capture cancellation run with
  | error cause =>
    refine ⟨.fails fun g hpublishes => ?_, h⟩
    cases hpublishes with
    | runSync hrun' => cases hrun.symm.trans hrun'
  | ok capture =>
    obtain ⟨hstep, hsound⟩ := step_sync h
    exact ⟨hstep.of_publishes_iff rfl fun g => publishes_runSync_iff hrun, hsound⟩

end Sync

/-- **What one action does.**

**Proof sketch.** One case for each action. A sync is `step_sync` or `step_runSync`; a given graph
and the empty one are published as they are (`published_publish`, `Sound.published_reset`). -/
theorem step_perform (h : p.Sound) (action : Action) :
    Step p action (p.perform action).1 (p.perform action).2 ∧ (p.perform action).2.Sound := by
  cases action with
  | sync options cancelled capture => exact step_sync h
  | runSync options cancellation call run => exact step_runSync h
  | replace g =>
    refine ⟨.publishes ?_ rfl rfl, h.publish⟩
    show Action.Publishes _ (p.publish g).published
    rw [published_publish]
    exact .replace g
  | reset =>
    refine ⟨.publishes ?_ rfl rfl, h.reset⟩
    show Action.Publishes _ p.reset.published
    rw [h.published_reset]
    exact .reset

/-! ### Many actions -/

/-- One action, and then others. -/
theorem performAll_cons : p.performAll (action :: actions) =
    ((p.perform action).1 :: ((p.perform action).2.performAll actions).1,
      ((p.perform action).2.performAll actions).2) :=
  rfl

/-- **What a list of actions does.** Something is published as often as an action does not fail, and
in the end it is what the last of these publishes.

**Proof sketch.** By induction on the list, from wherever the first action leads. If none of the
others succeeds, they change nothing, and what the first one did stands. -/
theorem performed (h : p.Sound) (hperformed : p.performAll actions = (answers, after)) :
    after.Sound ∧ after.generation = p.generation + answers.countP Except.isOk ∧
      match lastSuccess actions answers with
      | none => after = p
      | some action => action.Publishes after.published := by
  induction actions generalizing p answers with
  | nil =>
    cases hperformed
    exact ⟨h, rfl, rfl⟩
  | cons action rest ih =>
    obtain ⟨hstep, hsound⟩ := step_perform h action
    rw [performAll_cons] at hperformed
    generalize p.perform action = first at hstep hsound hperformed
    obtain ⟨answer, between⟩ := first
    cases hperformed
    obtain ⟨hafter, hgeneration, hlast⟩ := ih hsound rfl
    refine ⟨hafter, ?_, ?_⟩
    · rw [hgeneration, List.countP_cons]
      cases hstep with
      | publishes _ hadvances _ =>
        rw [hadvances]
        exact Nat.add_right_comm _ _ _
      | fails _ => rfl
    · rw [lastSuccess]
      generalize lastSuccess rest _ = last at hlast
      cases last with
      | some later => exact hlast
      | none =>
        rw [hlast]
        cases hstep with
        | publishes hgraph _ _ => exact hgraph
        | fails _ => rfl

/-- **What a publication comes to, whatever is done with it.** However many syncs, replacements and
resets have been done since it was new, and however many of them failed: it has counted those that
did not fail, and the published graph is that of the last of them, or the empty one if there was
none. The next action publishes a graph, counts one more, and reports what is published if it is a
sync; or there is nothing that it could publish, and it leaves the publication as it is.

**Proof sketch.** One action does one of the two (`step_perform`). Over a list the numbers add up,
and what is published last stays until something else is (`performed`). -/
theorem publishes_or_keeps (actions : List Action) (answers : List Answer) (p : Publication)
    (h : performAll {} actions = (answers, p)) :
    p.generation = answers.countP Except.isOk ∧
    (match lastSuccess actions answers with
      | none => p.published = Graph.empty
      | some action => action.Publishes p.published) ∧
    ∀ action, Step p action (p.perform action).1 (p.perform action).2 := by
  obtain ⟨hsound, hgeneration, hlast⟩ := performed sound_new h
  refine ⟨?_, ?_, fun action => (step_perform hsound action).1⟩
  · rw [hgeneration]
    exact Nat.zero_add _
  · cases hfound : lastSuccess actions answers with
    | none =>
      rw [hfound] at hlast
      rw [hlast]
      rfl
    | some action =>
      rw [hfound] at hlast
      exact hlast

/-- A rule of a class, as a message writes it. -/
def aliasText (kind : String) : String :=
  "\x7b\"type\":\"RULE\",\"rule\":\x7b\"name\":\"//a:a\",\"ruleClass\":\"" ++ kind ++ "\"\x7d\x7d"

/-- A tool that cannot be started, an accepted output, one that contradicts itself, a run that is
cancelled late, one that gives a partial result, one that is lost, a replacement, a reset, and a
sync that nobody wants any more. -/
def assortedActions : List Action :=
  let output := Text.utf8 (aliasText "alias")
  [.runSync {} .never { program := "bazel" } (.refused .notFound),
    .sync { warm := true } false { output },
    .sync {} false { output := Text.utf8 (aliasText "alias" ++ aliasText "genrule") },
    .runSync {} .late { program := "bazel" } (.ended (some 0) output [] 5),
    .runSync {} .never { program := "bazel" } (.ended (some 3) output [] 5),
    .runSync {} .never { program := "bazel" } (.lost "Broken pipe (os error 32)" 5),
    .replace Graph.empty, .reset, .sync {} true { output }]

/-- Four of the assorted actions publish something. -/
theorem generation_assortedActions : ∃ answers p, performAll {} assortedActions = (answers, p) ∧
    answers.map Except.isOk = [false, true, false, false, true, false, true, true, false] ∧
    p.generation = 4 := by
  have hanswers : (performAll {} assortedActions).1.map Except.isOk =
      [false, true, false, false, true, false, true, true, false] := by
    decide +kernel
  generalize hperformed : performAll {} assortedActions = performed at hanswers
  obtain ⟨answers, p⟩ := performed
  obtain ⟨hgeneration, _⟩ := publishes_or_keeps assortedActions answers p hperformed
  have hcount : answers.countP Except.isOk = (answers.map Except.isOk).countP id := by
    rw [List.countP_map]
    rfl
  refine ⟨answers, p, rfl, hanswers, ?_⟩
  rw [hgeneration, hcount, hanswers]
  rfl

end Publication

end TargetGraph
