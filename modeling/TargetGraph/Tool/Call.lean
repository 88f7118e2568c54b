import TargetGraph.Settings
import TargetGraph.SourcePath
import TargetGraph.Text.Blank

set_option relaxedAutoImplicit false
set_option autoImplicit false

/-!
# Calls of the build tool

## Main definitions

* `TargetGraph.ToolCall` — a program with its arguments, directory and environment.
* `TargetGraph.ToolCall.query` — the call that asks the build tool for the targets of a workspace.
* `TargetGraph.ToolCall.commandLine` — a call as one line, for logs.
-/

namespace TargetGraph

/-- A call of an external program. -/
structure ToolCall where
  /-- The program. -/
  program : String
  /-- Its arguments. -/
  arguments : List String := []
  /-- The directory it runs in. -/
  directory : Option SourcePath := none
  /-- Variables added to its environment. -/
  environment : List (String × String) := []
  deriving Repr

/-- The union of some targets in the build tool's query language; the whole workspace if there are
none. Blanks around a target do not count, and a blank target is none. -/
def queryExpression (targets : List String) : String :=
  let parts := (targets.map Text.trim).filter fun target => target != ""
  if parts.isEmpty then "//..." else " + ".intercalate parts

/-- The search for the last place at or before a byte offset where a character ends or begins, one
offset after the other; `none` if there is no such place down to the beginning of the text. -/
def cutBefore? (text : String) (offset : Nat) : Option text.Pos :=
  if h : (⟨offset⟩ : String.Pos.Raw).IsValid text then some (text.pos ⟨offset⟩ h)
  else match offset with
    | 0 => none
    | before + 1 => cutBefore? text before

/-- The search ends at the latest at the beginning of the text. -/
theorem isSome_cutBefore? (text : String) (offset : Nat) : (cutBefore? text offset).isSome := by
  induction offset with
  | zero =>
    have hstart : (⟨0⟩ : String.Pos.Raw).IsValid text := text.startPos.isValid
    rw [cutBefore?, dif_pos hstart]
    rfl
  | succ before ih =>
    rw [cutBefore?]
    split
    · rfl
    · exact ih

/-- The text, or where it has more than `limit` bytes as much of it as fits without a character cut
in two, and three dots. -/
def shorten (limit : Nat) (text : String) : String :=
  if text.utf8ByteSize ≤ limit then text
  else
    let cut := (cutBefore? text limit).get (isSome_cutBefore? text limit)
    (text.sliceTo cut).copy ++ "..."

/-- Logged command lines are cut at this many bytes. -/
def commandLineLimit : Nat := 1000

/-- An argument in a command line: between single quotes if there is a blank in it. -/
def quoteArgument (argument : String) : String :=
  if argument.toList.any Text.isBlank then "'" ++ argument ++ "'" else argument

namespace ToolCall

/-- The call that asks for the targets of the workspace below `directory`. -/
def query (settings : Option QuerySettings) (directory : SourcePath) : ToolCall :=
  let given := settings.getD {}
  { program := given.binary.getD "bazel"
    arguments := ["query", "--output=streamed_jsonproto", "--relative_locations=true"] ++
      given.flags.getD [] ++ [queryExpression (given.targets.getD [])]
    directory := some directory }

/-- The whole call as one line. -/
def fullLine (call : ToolCall) : String :=
  " ".intercalate ((call.program :: call.arguments).map quoteArgument)

/-- The call as one line, cut if it is long. -/
def commandLine (call : ToolCall) : String :=
  shorten commandLineLimit call.fullLine

end ToolCall

end TargetGraph
