import ArithDrill.Command.Settings
import ArithDrill.Draw.ChaCha
import ArithDrill.Files.Tree
import ArithDrill.Journal.Verbosity

/-!
# What the program needs from its surroundings

The program reads and writes files, reports events and, when it is given no seed, asks for a
random key.  It is written against these operations alone, so that the same program runs on the
file system and on a file tree.

## Main definitions

* `Host` — the operations.
* `World` — a file tree with a journal and a key, and the operations on it.
-/

namespace ArithDrill

/-- The operations that the program uses. -/
class Host (m : Type → Type) where
  /-- The text of a file, if there is a file that holds one. -/
  readText : Path → m (Option Text)
  /-- Makes a directory and those that lead to it; tells whether it is there now. -/
  makeDirectory : Path → m Bool
  /-- Writes a text to a file; tells whether it could be done. -/
  writeText : Path → Text → m Bool
  /-- Reports events. -/
  report : Report → m Unit
  /-- A key that no one can foresee. -/
  freshKey : m ChaCha.Key

/-- Surroundings that are a value. -/
structure World where
  /-- The files and directories. -/
  tree : FileTree
  /-- The reports so far, the last one first. -/
  journal : List Report
  /-- The key that is given out. -/
  key : ChaCha.Key

namespace World

/-- The surroundings with some files, before anything has been reported. -/
def ofTree (t : FileTree) : World := ⟨t, [], .ofSeed 0⟩

/-- The lines of the journal that are shown, in order. -/
def lines (w : World) (v : Verbosity) : List Text := w.journal.reverse.flatMap v.lines

end World

instance : Host (StateM World) where
  readText p := do return (← get).tree.readText p
  makeDirectory p := modifyGet fun w =>
    let (tree, done) := w.tree.makeDirectory p
    (done, { w with tree })
  writeText p t := modifyGet fun w =>
    let (tree, done) := w.tree.writeText p t
    (done, { w with tree })
  report r := modify fun w => { w with journal := r :: w.journal }
  freshKey := do return (← get).key

end ArithDrill
