import ArithDrill.Text.Basic

/-!
# Paths

A path is a text whose components are separated by slashes.  A path with a slash at its start is
taken from the root of the file system, any other from the directory in which the program works.

## Main definitions

* `Path` — paths as they are given and reported.
* `Path.join` — the path of a name in a directory.
* `Path.components` — the components of a path.
* `Path.isUsable` — whether a path can be used at all.
* `Path.isAbsolute` — whether a path is taken from the root.
-/

namespace ArithDrill

/-- A path as it is given. -/
abbrev Path := Text

namespace Path

/-- The path of `name` in the directory `dir`.  A slash goes between them unless there is one
already. -/
def join (dir : Path) (name : Text) : Path :=
  match dir.getLast? with
  | none => name
  | some '/' => dir ++ name
  | some _ => dir ++ '/' :: name

/-- The components of a path, of which some may be empty. -/
def components (p : Path) : List Text := p.splitOn '/'

/-- The number of bytes of a text in UTF-8. -/
def byteLength (t : Text) : Nat := t.foldl (fun n c => n + c.utf8Size) 0

/-- Whether a path can be used: it holds no null character and has fewer than 4096 bytes. -/
def isUsable (p : Path) : Bool := !p.contains '\x00' && decide (byteLength p < 4096)

/-- Whether a component can be the name of a file or directory: it has at most 255 bytes. -/
def isName (c : Text) : Bool := decide (byteLength c ≤ 255)

/-- Whether a path is taken from the root of the file system. -/
def isAbsolute (p : Path) : Bool := p.head? == some '/'

end Path

end ArithDrill
