import ArithDrill.Files.Path

/-!
# File trees

A file tree holds the files and directories of a file system from its root on, and tells which
of the directories is the working directory.  Paths are resolved component by component, from the
root or from the working directory, and every component but the last has to be a directory.  There
are no links: different locations are different places.

## Main definitions

* `Contents` — what a file holds: a text, or bytes that encode none.
* `FileTree` — files and directories by their locations; `FileTree.find?` is its view.
* `FileTree.locate` — the location of a path.
* `FileTree.readText`, `FileTree.makeDirectory`, `FileTree.writeText` — the three operations.

## Main statements

* `FileTree.find?_put` — what is found after one entry has been put.
-/

namespace ArithDrill

/-- What a file holds. -/
inductive Contents where
  /-- A text. -/
  | text (t : Text)
  /-- Bytes that are no text in UTF-8. -/
  | binary (bytes : ByteArray)

/-- The contents made of some bytes. -/
def Contents.ofBytes (bytes : ByteArray) : Contents :=
  match String.fromUTF8? bytes with
  | some s => text s.toList
  | none => binary bytes

/-- The text of a file; none when it holds no text. -/
def Contents.text? : Contents → Option Text
  | text t => some t
  | binary _ => none

/-- The names that lead from the root to a file or directory. -/
abbrev Location := List Text

/-- What there is at a location. -/
inductive Entry where
  /-- A file. -/
  | file (contents : Contents)
  /-- A directory. -/
  | directory

/-- Whether an entry is a directory. -/
def Entry.isDirectory : Entry → Bool
  | file _ => false
  | directory => true

/-- The files and directories below the root. -/
structure FileTree where
  /-- The entries, one for each location. -/
  entries : List (Location × Entry)
  /-- The location of the working directory. -/
  base : Location

namespace FileTree

/-- The tree without entries, in which the program works at the root. -/
def empty : FileTree := ⟨[], []⟩

/-- The entry at a location.  The working directory is always there, and so are the directories
that lead to it. -/
def find? (t : FileTree) (l : Location) : Option Entry :=
  if l.isPrefixOf t.base then some .directory else t.entries.lookup l

/-- Whether there is a directory at a location. -/
def hasDirectory (t : FileTree) (l : Location) : Bool :=
  match t.find? l with
  | some e => e.isDirectory
  | none => false

/-- Puts an entry at a location, in place of what is there. -/
def put (t : FileTree) (l : Location) (e : Entry) : FileTree :=
  { t with entries := (l, e) :: t.entries.filter fun p => p.1 != l }

@[simp] theorem base_put (t : FileTree) (l : Location) (e : Entry) :
    (t.put l e).base = t.base := rfl

/-- Looking up a location other than the one that was taken out. -/
private theorem lookup_filter_ne {l l' : Location} (h : l' ≠ l) (es : List (Location × Entry)) :
    (es.filter fun p => p.1 != l).lookup l' = es.lookup l' := by
  induction es with
  | nil => rfl
  | cons p ps ih =>
    obtain ⟨k, e⟩ := p
    by_cases hk : k = l
    · have differs : (l' == k) = false := by rw [hk]; exact beq_false_of_ne h
      rw [List.filter_cons_of_neg (by simp [hk]), ih, List.lookup_cons, differs]
    · rw [List.filter_cons_of_pos (by simp [hk]), List.lookup_cons, List.lookup_cons, ih]

/-- After an entry has been put where no directory is, it is found at its location, and all others
are found as before. -/
theorem find?_put {t : FileTree} {l : Location} (h : t.hasDirectory l = false) (e : Entry)
    (l' : Location) : (t.put l e).find? l' = if l' = l then some e else t.find? l' := by
  have apart : l.isPrefixOf t.base = false := by
    cases leads : l.isPrefixOf t.base with
    | false => rfl
    | true => simp [hasDirectory, find?, leads, Entry.isDirectory] at h
  by_cases here : l' = l
  · subst here
    simp [find?, put, apart]
  · have differs : (l' == l) = false := beq_false_of_ne here
    simp [find?, put, here, List.lookup_cons, differs, lookup_filter_ne here]

/-- Whether a component stays in place: an empty one, or a dot. -/
def stays (c : Text) : Bool := c = [] ∨ c = ['.']

/-- Whether what is left of a path names the directory before it once more, by a dot.  Such a
directory has to be there already. -/
def staysByDot (cs : List Text) : Bool := cs.all stays && cs.contains ['.']

/-- The location that a list of components leads to from `l`.  Empty components and dots stay
in place, and two dots lead up, except from the root. -/
def walk (t : FileTree) (l : Location) : List Text → Option Location
  | [] => some l
  | c :: cs =>
    if t.hasDirectory l then
      if stays c then t.walk l cs
      else if c = ['.', '.'] then t.walk l.dropLast cs
      else t.walk (l ++ [c]) cs
    else none

/-- The directory that a path is taken from. -/
def start (t : FileTree) (p : Path) : Location := if p.isAbsolute then [] else t.base

/-- The location of a path, where every component but the last is a directory. -/
def locate (t : FileTree) (p : Path) : Option Location :=
  if p.isEmpty ∨ ¬p.isUsable then none else t.walk (t.start p) p.components

/-- The text of the file at a path; none when there is no file or it holds no text. -/
def readText (t : FileTree) (p : Path) : Option Text := do
  match ← t.find? (← t.locate p) with
  | .file c => c.text?
  | .directory => none

/-- Writes a text to the file at a path, new or not.  Tells whether it could be done; if not,
the tree is as before. -/
def writeText (t : FileTree) (p : Path) (contents : Text) : FileTree × Bool :=
  match t.locate p with
  | none => (t, false)
  | some l => if t.hasDirectory l then (t, false) else (t.put l (.file (.text contents)), true)

/-- Makes the directories that the components lead through from `l`, as far as they are
missing.  Those made before the first failure stay. -/
def makeFrom (t : FileTree) (l : Location) : List Text → FileTree × Bool
  | [] => (t, true)
  | c :: cs =>
    if stays c then t.makeFrom l cs
    else if c = ['.', '.'] then t.makeFrom l.dropLast cs
    else
      match t.find? (l ++ [c]) with
      | some .directory => t.makeFrom (l ++ [c]) cs
      | some (.file _) => (t, false)
      | none =>
        if staysByDot cs ∨ ¬Path.isName c then (t, false)
        else (t.put (l ++ [c]) .directory).makeFrom (l ++ [c]) cs

/-- Makes the directory at a path, with all that lead to it.  Tells whether it is there now. -/
def makeDirectory (t : FileTree) (p : Path) : FileTree × Bool :=
  if p.isUsable then t.makeFrom (t.start p) p.components else (t, false)

/-- Puts a file at a location below the working directory, with the directories that lead to it. -/
def addFile (t : FileTree) (l : Location) (c : Contents) : FileTree :=
  (t.makeFrom t.base l.dropLast).1.put (t.base ++ l) (.file c)

end FileTree

end ArithDrill
