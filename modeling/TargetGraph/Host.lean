import TargetGraph.Files
import TargetGraph.Tool.Run

set_option relaxedAutoImplicit false
set_option autoImplicit false

/-!
# Hosts

What a command needs from where it runs: the current directory, files and programs.

## Main definitions

* `TargetGraph.Host` — the actions.
* `TargetGraph.Host.workspaceAbove?` — the nearest workspace root above a path.
* `TargetGraph.Host.workspaceRoot` — the workspace root that a command works on.

## Main results

* `TargetGraph.Host.nearest_of_workspaceAbove?` — the root that is found is the nearest one.
* `TargetGraph.Host.workspaceRoot_run_eq_iff` — the root is the one that is given, or the one around
  the current directory.

Results are about hosts whose actions depend on a state and may change it: what a host answers may
be different each time it is asked.
-/

namespace TargetGraph

/-- Where a command runs. -/
structure Host (m : Type → Type) where
  /-- The current directory. -/
  currentDirectory : m SourcePath
  /-- The files; relative paths start at the current directory. -/
  files : Files m
  /-- What becomes of a call. -/
  run : ToolCall → m ToolRun

/-- The files one of which is in the root of a workspace. -/
def workspaceMarkers : List String := ["MODULE.bazel", "WORKSPACE.bazel", "WORKSPACE"]

namespace Host

variable {m : Type → Type} [Monad m]

/-- A directory is the root of a workspace. -/
def isWorkspaceRoot (host : Host m) (directory : SourcePath) : m Bool :=
  workspaceMarkers.anyM fun marker => host.files.isFile (directory.join ⟨marker⟩)

/-- The nearest root of a workspace among a path and those above it. -/
def workspaceAbove? (host : Host m) (start : SourcePath) : m (Option SourcePath) :=
  start.ancestors.findM? host.isWorkspaceRoot

/-- The root of the workspace around the current directory, or where there is none that
directory. -/
def surroundingWorkspace (host : Host m) : m SourcePath := do
  let here ← host.currentDirectory
  return (← host.workspaceAbove? here).getD here

/-- The workspace root that a command works on: a path that is given, unless it only says `.`. -/
def workspaceRoot (host : Host m) (path : Option SourcePath) : m SourcePath :=
  match path with
  | none => host.surroundingWorkspace
  | some path => if path == ⟨"."⟩ then host.surroundingWorkspace else pure path

end Host

/-- An action and what comes after it, given what the action does. -/
theorem run_bind_of_run {σ α β : Type} {action : StateM σ α} {next : α → StateM σ β} {s s' : σ}
    {a : α} (h : action.run s = (a, s')) : (action >>= next).run s = (next a).run s' := by
  rw [StateT.run_bind, h]
  rfl

namespace Host

variable {σ : Type} {host : Host (StateM σ)} {path above : Option SourcePath}
  {root start : SourcePath} {s s' : σ}

/-- A search through some paths asks about each of them in turn, up to the first that is accepted,
which it finds.

**Proof sketch.** Induction on the paths. The first of them is found if it is accepted, and is
nearer than what is found behind it if not. -/
theorem nearest_of_findM? {accept : SourcePath → StateM σ Bool} {paths : List SourcePath}
    (h : (paths.findM? accept).run s = (above, s')) :
    ∃ nearer, (∀ other ∈ nearer, ∃ t t', (accept other).run t = (false, t')) ∧
      (above = none ∧ paths = nearer ∨ ∃ root further t, above = some root ∧
        paths = nearer ++ root :: further ∧ (accept root).run t = (true, s')) := by
  induction paths generalizing s with
  | nil =>
    cases h
    exact ⟨[], nofun, .inl ⟨rfl, rfl⟩⟩
  | cons first rest ih =>
    rw [List.findM?] at h
    rcases hfirst : (accept first).run s with ⟨answer, t⟩
    rw [run_bind_of_run hfirst] at h
    cases answer with
    | true =>
      cases h
      exact ⟨[], nofun, .inr ⟨first, rest, s, rfl, rfl, hfirst⟩⟩
    | false =>
      obtain ⟨nearer, hnearer, hfound⟩ := ih h
      refine ⟨first :: nearer, fun other hother => ?_, ?_⟩
      · rcases List.mem_cons.mp hother with rfl | hother
        · exact ⟨s, t, hfirst⟩
        · exact hnearer other hother
      · rcases hfound with ⟨hnone, rfl⟩ | ⟨root, further, t', hsome, rfl, hroot⟩
        · exact .inl ⟨hnone, rfl⟩
        · exact .inr ⟨root, further, t', hsome, rfl, hroot⟩

/-- **The nearest workspace root**: the path itself and those above it are asked about in turn, and
the first that has one of the markers is the root. There is none if all of them have no marker. -/
theorem nearest_of_workspaceAbove? (h : (host.workspaceAbove? start).run s = (above, s')) :
    ∃ nearer, (∀ other ∈ nearer, ∃ t t', (host.isWorkspaceRoot other).run t = (false, t')) ∧
      (above = none ∧ start.ancestors = nearer ∨ ∃ root further t, above = some root ∧
        start.ancestors = nearer ++ root :: further ∧
        (host.isWorkspaceRoot root).run t = (true, s')) :=
  nearest_of_findM? h

/-- The root of the surrounding workspace is the nearest one above the current directory, or that
directory.

**Proof sketch.** The host is asked twice, for its directory and then for a root above it, and each
answer leads to one state. The root is the answer to the second question if there is one, and else
the answer to the first. -/
theorem surroundingWorkspace_run_eq_iff :
    host.surroundingWorkspace.run s = (root, s') ↔ ∃ here t above,
      host.currentDirectory.run s = (here, t) ∧
        (host.workspaceAbove? here).run t = (above, s') ∧ root = above.getD here := by
  rcases hhere : host.currentDirectory.run s with ⟨here, t⟩
  rcases habove : (host.workspaceAbove? here).run t with ⟨above, last⟩
  have hrun : host.surroundingWorkspace.run s = (above.getD here, last) := by
    rw [surroundingWorkspace, run_bind_of_run hhere, run_bind_of_run habove]
    rfl
  rw [hrun]
  constructor
  · intro h
    cases h
    exact ⟨here, t, above, rfl, habove, rfl⟩
  · rintro ⟨_, _, above', ⟨⟩, habove', rfl⟩
    cases habove.symm.trans habove'
    rfl

/-- **The workspace root of a command**: the path that is given, for which the host is asked
nothing; without one, or if it only says `.`, the root of the surrounding workspace.

**Proof sketch.** By the given path. A path that says more than `.` is the root and leaves the state
as it was; in the other two cases the host is asked, and the first of the two alternatives is
excluded. -/
theorem workspaceRoot_run_eq_iff :
    (host.workspaceRoot path).run s = (root, s') ↔
      path = some root ∧ (root == ⟨"."⟩) = false ∧ s' = s ∨
      (∀ given ∈ path, (given == ⟨"."⟩) = true) ∧ host.surroundingWorkspace.run s = (root, s') := by
  cases path with
  | none => simp [workspaceRoot]
  | some given =>
    rw [workspaceRoot]
    cases hgiven : given == ⟨"."⟩ with
    | true =>
      rw [if_pos rfl]
      constructor
      · exact fun h => .inr ⟨by simpa using hgiven, h⟩
      · rintro (⟨⟨⟩, hroot, -⟩ | ⟨-, h⟩)
        · rw [hgiven] at hroot
          cases hroot
        · exact h
    | false =>
      rw [if_neg Bool.false_ne_true]
      constructor
      · intro h
        cases h
        exact .inl ⟨rfl, hgiven, rfl⟩
      · rintro (⟨⟨⟩, -, rfl⟩ | ⟨hnone, -⟩)
        · rfl
        · rw [hnone given rfl] at hgiven
          cases hgiven

end Host

end TargetGraph
