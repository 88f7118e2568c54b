import TargetGraph.Host
import TargetGraph.Settings.File

set_option relaxedAutoImplicit false
set_option autoImplicit false

/-!
# Workspaces

A workspace is a root directory with its settings, if it has any that can be read.

## Main definitions

* `TargetGraph.Source` — where a command gets its snapshot from.
* `TargetGraph.Workspace`, `TargetGraph.Workspace.locate` — the workspace that a command works on.
* `TargetGraph.Workspace.queryDirectory` — where the build tool runs.
* `TargetGraph.Workspace.relative` — how a file is named in the workspace.
* `TargetGraph.Workspace.format` — the format of printed results.

## Main results

* `TargetGraph.Workspace.locate_run_eq_iff` — which file the settings of a workspace are read from,
  and when there are none.
-/

namespace TargetGraph

/-- The formats of printed results. -/
inductive Format where
  /-- Text and tables. -/
  | text
  /-- JSON. -/
  | json
  deriving DecidableEq, Repr

/-- The format of a name. -/
def Format.ofName? : String → Option Format
  | "text" => some .text
  | "json" => some .json
  | _ => none

/-- Where a command gets its snapshot from. -/
structure Source where
  /-- The root of the workspace, if it is given. -/
  root : Option SourcePath := none
  /-- The settings file, if it is not the one in the root. -/
  settingsFile : Option SourcePath := none
  /-- A captured query output to use instead of running the build tool. -/
  input : Option SourcePath := none
  deriving Repr

/-- A workspace. -/
structure Workspace where
  /-- The root directory, as it was given. -/
  root : SourcePath
  /-- The settings, if there are any that can be read. -/
  settings : Option Settings := none
  deriving Repr

namespace Workspace

/-- The settings in a file, if they can be read. -/
def readSettings? {m : Type → Type} [Monad m] (host : Host m) (file : SourcePath) :
    m (Option Settings) := do
  match ← host.files.read file with
  | .ok bytes => return Settings.ofBytes? bytes
  | .error _ => return none

/-- The workspace that a command works on. -/
def locate {m : Type → Type} [Monad m] (host : Host m) (source : Source) : m Workspace := do
  let root ← host.workspaceRoot source.root
  let settings ← readSettings? host (source.settingsFile.getD (root.join ⟨settingsFileName⟩))
  return { root, settings }

section locate

variable {σ : Type} {host : Host (StateM σ)} {source : Source} {w : Workspace} {s s' : σ}

/-- A file that cannot be read has no settings in it, and one that can has those that its bytes
write. -/
theorem readSettings?_run {file : SourcePath} {result : Except SystemError (List UInt8)}
    (hread : (host.files.read file).run s = (result, s')) :
    (readSettings? host file).run s = (result.toOption.bind Settings.ofBytes?, s') := by
  rw [readSettings?, run_bind_of_run hread]
  cases result <;> rfl

/-- **Which workspace a command works on.** Its settings are those in the file that is given, or
else those in `querysync.toml` in its root; there are none if that file cannot be read, or if its
bytes write none. Nothing else is read.

**Proof sketch.** The root and the file are each asked for once, so that what the host answers
decides all. Settings that are had exactly when the bytes write them are those that were read. -/
theorem locate_run_eq_iff :
    (locate host source).run s = (w, s') ↔
      ∃ t result, (host.workspaceRoot source.root).run s = (w.root, t) ∧
        (host.files.read (source.settingsFile.getD (w.root.join ⟨"querysync.toml"⟩))).run t =
          (result, s') ∧
        ∀ settings, w.settings = some settings ↔
          ∃ bytes, result = .ok bytes ∧ Settings.ofBytes? bytes = some settings := by
  rcases hroot : (host.workspaceRoot source.root).run s with ⟨root, t⟩
  rcases hread : (host.files.read (source.settingsFile.getD (root.join ⟨"querysync.toml"⟩))).run t
    with ⟨result, last⟩
  have hlocate : (locate host source).run s =
      ({ root, settings := result.toOption.bind Settings.ofBytes? }, last) := by
    rw [locate, run_bind_of_run hroot]
    exact run_bind_of_run (readSettings?_run hread)
  have hsettings : ∀ settings, result.toOption.bind Settings.ofBytes? = some settings ↔
      ∃ bytes, result = .ok bytes ∧ Settings.ofBytes? bytes = some settings := by
    intro settings
    cases result <;> simp [Except.toOption]
  rw [hlocate]
  constructor
  · intro h
    cases h
    exact ⟨t, result, rfl, hread, hsettings⟩
  · obtain ⟨root', settings'⟩ := w
    rintro ⟨_, result', ⟨⟩, hread', hsettings'⟩
    cases hread.symm.trans hread'
    have heq : result.toOption.bind Settings.ofBytes? = settings' :=
      Option.ext fun settings => (hsettings settings).trans (hsettings' settings).symm
    rw [heq]

end locate

/-- Where the build tool runs: the root, or where the settings say that it is below the root. -/
def queryDirectory (w : Workspace) : SourcePath :=
  match w.settings.bind Settings.root with
  | some directory => w.root.join ⟨directory⟩
  | none => w.root

/-- The call that asks the build tool about the workspace. -/
def queryCall (w : Workspace) : ToolCall :=
  ToolCall.query (w.settings.bind Settings.query) w.queryDirectory

/-- The format of printed results: the one in the settings goes before the one that is asked for. -/
def format (w : Workspace) (requested : Format) : Format :=
  ((w.settings.bind Settings.defaultFormat?).bind Format.ofName?).getD requested

/-- How a file is named in snapshots: relative to the root, if it is given below it. -/
def relative (w : Workspace) (file : SourcePath) : SourcePath :=
  (w.root.below? file).getD file

end Workspace

end TargetGraph
