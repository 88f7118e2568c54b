import TargetGraph.Files

set_option relaxedAutoImplicit false
set_option autoImplicit false

/-!
# Trees of files

Files as a value: what a run would see of a file system, without one.

## Main definitions

* `TargetGraph.FileTree` — the tree, as a list of what is in it.
* `TargetGraph.FileTree.walk` — the way that a path leads.
* `TargetGraph.FileTree.files` — access to the files of a tree.
-/

namespace TargetGraph

open Text

/-- Something in a tree. -/
inductive FileEntry where
  /-- A directory. -/
  | directory
  /-- A file. -/
  | file (bytes : List UInt8) (executable : Bool)
  deriving DecidableEq, Repr

/-- The kind of an entry. -/
def FileEntry.kind : FileEntry → FileKind
  | .directory => .directory
  | .file _ executable => .file executable

/-- A tree of files: what it holds, each with the names on the way to it from the root. Directories
on the way to something need no entry of their own. -/
structure FileTree where
  /-- What the tree holds. -/
  entries : List (List String × FileEntry) := []

namespace FileTree

/-- What the tree has behind some names. -/
def entry? (tree : FileTree) (names : List String) : Option FileEntry :=
  match tree.entries.lookup names with
  | some entry => some entry
  | none =>
    if names.isEmpty || tree.entries.any fun entry => names.isPrefixOf entry.1 then some .directory
    else none

/-- The tree with one more entry. -/
def insert (tree : FileTree) (path : SourcePath) (entry : FileEntry) : FileTree :=
  let names := path.components.filterMap fun
    | .named name => some name
    | _ => none
  { entries := (names, entry) :: tree.entries }

/-- There is a directory behind some names. -/
def isDirectory (tree : FileTree) (names : List String) : Bool :=
  tree.entry? names == some .directory

/-- The greatest number of bytes in a name. -/
def nameLimit : Nat := 255

/-- The greatest number of bytes in a path. -/
def pathLimit : Nat := 4095

/-- One part of a path, taken from the place behind `here`, which is given nearest name first. Only
a directory has anything behind it, if only itself. -/
def step (tree : FileTree) (here : List String) (part : List Char) :
    Except SystemError (List String) :=
  if !tree.isDirectory here.reverse then .error .notDirectory
  else match Component.ofPart? part with
    | some (.named name) =>
      if nameLimit < name.utf8ByteSize then .error .nameTooLong
      else if (tree.entry? (name :: here).reverse).isNone then .error .notFound
      else .ok (name :: here)
    | some .parent => .ok (here.drop 1)
    | _ => .ok here

/-- The names on the way from the root to what an absolute path leads to. -/
def walk (tree : FileTree) (path : SourcePath) : Except SystemError (List String) :=
  if !path.isAbsolute then .error .notFound
  else if pathLimit < path.text.utf8ByteSize then .error .nameTooLong
  else (path.parts.foldlM tree.step []).map List.reverse

/-- What an absolute path leads to. -/
def find (tree : FileTree) (path : SourcePath) : Except SystemError FileEntry :=
  match tree.walk path with
  | .error cause => .error cause
  | .ok names =>
    match tree.entry? names with
    | some entry => .ok entry
    | none => .error .notFound

/-- Access to the files of the tree by absolute paths. -/
def files (tree : FileTree) : Files Id where
  kind path := (tree.find path).map FileEntry.kind
  read path :=
    match tree.find path with
    | .error cause => .error cause
    | .ok .directory => .error .isDirectory
    | .ok (.file bytes _) => .ok bytes

end FileTree

end TargetGraph
