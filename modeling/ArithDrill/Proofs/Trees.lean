import ArithDrill.Files.Tree

/-!
# Reading what was written

Where a path leads depends on the directories of a tree alone, the working directory among them,
and writing a file changes none of them.  So a file can be written and read again, other files are
as before, and a directory that has been made once is still there.

## Main definitions

* `FileTree.SameDirectories` — trees with the same directories.
* `FileTree.wayFrom` — the locations that some components lead through.
* `Path.IsPlain` — names that lead to an entry of the directory before them.

## Main statements

* `FileTree.locate_congr` — where a path leads.
* `FileTree.readText_writeText`, `FileTree.readText_writeText_of_ne` — reading after writing.
* `FileTree.locate_join_ne` — different names in a directory lead to different places.
* `FileTree.find?_makeFrom` — what is found after directories have been made.
* `FileTree.makeDirectory_again` — making a directory that is there changes nothing.
-/

namespace ArithDrill

namespace FileTree

/-! ## Trees with the same directories -/

/-- Two trees have the same directories. -/
structure SameDirectories (t t' : FileTree) : Prop where
  /-- The working directory is the same. -/
  base_eq : t'.base = t.base
  /-- Directories are at the same locations. -/
  hasDirectory_eq : ∀ l, t'.hasDirectory l = t.hasDirectory l

variable {t t' t'' : FileTree} {l : Location} {p q : Path} {contents : Text}

theorem SameDirectories.refl (t : FileTree) : SameDirectories t t := ⟨rfl, fun _ => rfl⟩

theorem SameDirectories.trans (h : SameDirectories t t') (h' : SameDirectories t' t'') :
    SameDirectories t t'' :=
  ⟨h'.base_eq.trans h.base_eq, fun l => (h'.hasDirectory_eq l).trans (h.hasDirectory_eq l)⟩

/-- Trees with the same entries and the same working directory have the same directories. -/
theorem sameDirectories_of_find? (base : t'.base = t.base) (same : ∀ l, t'.find? l = t.find? l) :
    SameDirectories t t' :=
  ⟨base, fun l => by rw [hasDirectory, hasDirectory, same]⟩

theorem hasDirectory_put (h : t.hasDirectory l = false) (e : Entry) (l' : Location) :
    (t.put l e).hasDirectory l' = if l' = l then e.isDirectory else t.hasDirectory l' := by
  unfold hasDirectory
  rw [find?_put h]
  by_cases same : l' = l
  · rw [if_pos same, if_pos same]
  · rw [if_neg same, if_neg same]

theorem find?_of_hasDirectory (h : t.hasDirectory l = true) : t.find? l = some .directory := by
  rw [hasDirectory] at h
  cases entry : t.find? l with
  | none => simp [entry] at h
  | some e =>
    cases e with
    | directory => rfl
    | file c => simp [entry, Entry.isDirectory] at h

/-- Nothing is no directory. -/
theorem hasDirectory_of_eq_none (h : t.find? l = none) : t.hasDirectory l = false := by
  rw [hasDirectory, h]

/-- A file where no directory is leaves the directories as they are. -/
theorem sameDirectories_put_file (h : t.hasDirectory l = false) (c : Contents) :
    SameDirectories t (t.put l (.file c)) := by
  refine ⟨rfl, fun l' => ?_⟩
  rw [hasDirectory_put h]
  split
  · rename_i same
    rw [same, h]
    rfl
  · rfl

/-- Where components lead depends on the directories alone. -/
theorem walk_congr (h : SameDirectories t t') (l : Location) (cs : List Text) :
    t'.walk l cs = t.walk l cs := by
  induction cs generalizing l with
  | nil => rfl
  | cons c cs ih => rw [walk, walk, h.hasDirectory_eq l, ih, ih, ih]

/-- Where a path is taken from depends on the working directory alone. -/
theorem start_congr (h : t'.base = t.base) (p : Path) : t'.start p = t.start p := by
  rw [start, start, h]

/-- Where a path leads depends on the directories alone. -/
theorem locate_congr (h : SameDirectories t t') (p : Path) : t'.locate p = t.locate p := by
  rw [locate, locate, start_congr h.base_eq, walk_congr h]

/-! ## Writing and reading -/

/-- Paths that lead to the same place are read alike, wherever one works. -/
theorem readText_congr (same : ∀ l, t'.find? l = t.find? l) (place : t'.locate q = t.locate p) :
    t'.readText q = t.readText p := by
  simp only [readText, same, place]

/-- What writing a file comes to, when it can be done. -/
theorem writeText_eq_true_iff :
    t.writeText p contents = (t', true) ↔
      ∃ l, t.locate p = some l ∧ t.hasDirectory l = false ∧
        t' = t.put l (.file (.text contents)) := by
  unfold writeText
  cases t.locate p with
  | none => simp
  | some l =>
    by_cases h : t.hasDirectory l = true
    · simp [h]
    · simp [h, @eq_comm _ t']

/-- Writing a file leaves the directories as they are. -/
theorem sameDirectories_writeText (h : t.writeText p contents = (t', true)) :
    SameDirectories t t' := by
  obtain ⟨l, -, no_directory, rfl⟩ := writeText_eq_true_iff.1 h
  exact sameDirectories_put_file no_directory _

/-- A file that can be written can be written with other contents, and so it can in any tree
with the same directories. -/
theorem exists_writeText (h : t.writeText p contents = (t', true)) (same : SameDirectories t t'')
    (others : Text) : ∃ u, t''.writeText p others = (u, true) := by
  obtain ⟨l, located, no_directory, -⟩ := writeText_eq_true_iff.1 h
  refine ⟨_, writeText_eq_true_iff.2 ⟨l, ?_, ?_, rfl⟩⟩
  · rw [locate_congr same, located]
  · rw [same.hasDirectory_eq, no_directory]

/-- What is read from a file is what was last written to it. -/
theorem readText_writeText (h : t.writeText p contents = (t', true)) :
    t'.readText p = some contents := by
  have same := sameDirectories_writeText h
  obtain ⟨l, located, no_directory, rfl⟩ := writeText_eq_true_iff.1 h
  rw [readText, locate_congr same, located]
  simp [find?_put no_directory, Contents.text?]

/-- A file at another place is as before. -/
theorem readText_writeText_of_ne (h : t.writeText p contents = (t', true))
    (other : t.locate q ≠ t.locate p) : t'.readText q = t.readText q := by
  have same := sameDirectories_writeText h
  obtain ⟨l, located, no_directory, rfl⟩ := writeText_eq_true_iff.1 h
  rw [readText, readText, locate_congr same]
  cases place : t.locate q with
  | none => rfl
  | some k =>
    have differs : k ≠ l := by
      rintro rfl
      exact other (place.trans located.symm)
    simp [find?_put no_directory, differs]

end FileTree

/-! ## Names in a directory -/

/-- A name that leads to an entry of the directory before it. -/
structure Path.IsPlain (name : Text) : Prop where
  /-- It is one component. -/
  slash_not_mem : '/' ∉ name
  /-- It does not stay in place. -/
  not_stays : FileTree.stays name = false
  /-- It does not lead up. -/
  ne_up : name ≠ ['.', '.']

/-- The last component of a joined path is the name; the others do not depend on it. -/
theorem Path.exists_components_join (dir : Path) :
    ∃ cs, ∀ name, '/' ∉ name → (dir.join name).components = cs ++ [name] := by
  have single (name : Text) (h : '/' ∉ name) : name.splitOn '/' = [name] :=
    List.splitOn_eq_singleton h
  by_cases empty : dir = []
  · subst dir
    exact ⟨[], single⟩
  · by_cases slash : dir.getLast? = some '/'
    · obtain ⟨front, rfl⟩ := List.getLast?_eq_some_iff.1 slash
      have joined (name : Text) : join (front ++ ['/']) name = front ++ '/' :: name := by
        rw [join, slash]
        simp
      refine ⟨front.splitOn '/', fun name h => ?_⟩
      rw [joined, components, List.splitOn_append_cons_self, single name h]
    · have joined (name : Text) : dir.join name = dir ++ '/' :: name := by
        unfold join
        split <;> simp_all
      refine ⟨dir.splitOn '/', fun name h => ?_⟩
      rw [joined, components, List.splitOn_append_cons_self, single name h]

/-- A plain name in a directory is taken from where the directory is taken from. -/
theorem Path.isAbsolute_join (dir : Path) {name : Text} (h : '/' ∉ name) :
    (dir.join name).isAbsolute = dir.isAbsolute := by
  cases dir with
  | nil =>
    refine beq_false_of_ne fun slash => h ?_
    exact List.mem_of_head? slash
  | cons c cs =>
    unfold join isAbsolute
    split <;> simp_all

namespace FileTree

variable {t : FileTree} {name : Text}

theorem start_join (t : FileTree) (dir : Path) (plain : Path.IsPlain name) :
    t.start (dir.join name) = t.start dir := by
  rw [start, start, Path.isAbsolute_join dir plain.slash_not_mem]

/-- A plain name leads from a directory to its entry. -/
theorem walk_append_plain (plain : Path.IsPlain name) (l : Location) (cs : List Text) :
    t.walk l (cs ++ [name]) =
      (t.walk l cs).bind fun k => if t.hasDirectory k then some (k ++ [name]) else none := by
  induction cs generalizing l with
  | nil => simp [walk, plain.not_stays, plain.ne_up]
  | cons c cs ih =>
    rw [List.cons_append, walk, walk]
    split
    · split
      · exact ih l
      · split
        · exact ih _
        · exact ih _
    · rfl

/-- A path that leads somewhere leads there by its components. -/
theorem walk_of_locate {p : Path} {l : Location} (h : t.locate p = some l) :
    t.walk (t.start p) p.components = some l := by
  rw [locate] at h
  split at h
  · simp at h
  · exact h

/-- Different names in a directory lead to different places. -/
theorem locate_join_ne {dir : Path} {name' : Text} (plain : Path.IsPlain name)
    (plain' : Path.IsPlain name') (differs : name ≠ name') {l l' : Location}
    (h : t.locate (dir.join name) = some l) (h' : t.locate (dir.join name') = some l') :
    l ≠ l' := by
  obtain ⟨cs, joined⟩ := dir.exists_components_join
  have first := walk_of_locate h
  have second := walk_of_locate h'
  rw [start_join t dir plain, joined name plain.slash_not_mem] at first
  rw [start_join t dir plain', joined name' plain'.slash_not_mem] at second
  rw [walk_append_plain plain] at first
  rw [walk_append_plain plain'] at second
  obtain ⟨k, directory, entry⟩ := Option.bind_eq_some_iff.1 first
  rw [directory, Option.bind_some] at second
  split at entry
  · rename_i there
    rw [if_pos there] at second
    obtain rfl := Option.some.inj entry
    obtain rfl := Option.some.inj second
    simpa using differs
  · simp at entry

/-! ## Making directories -/

/-- The locations that some components lead through from `l`, whatever is there. -/
def wayFrom (l : Location) : List Text → List Location
  | [] => []
  | c :: cs =>
    if stays c then wayFrom l cs
    else if c = ['.', '.'] then wayFrom l.dropLast cs
    else (l ++ [c]) :: wayFrom (l ++ [c]) cs

/-- Making directories keeps the working directory. -/
@[simp] theorem base_makeFrom (t : FileTree) (l : Location) (cs : List Text) :
    (t.makeFrom l cs).1.base = t.base := by
  fun_induction makeFrom t l cs <;> simp_all

/-- Making directories from `l` adds directories on the way, and nothing else. -/
theorem find?_makeFrom (t : FileTree) (l : Location) (cs : List Text) (k : Location) :
    (t.makeFrom l cs).1.find? k = t.find? k ∨
      k ∈ wayFrom l cs ∧ t.find? k = none ∧ (t.makeFrom l cs).1.find? k = some .directory := by
  fun_induction makeFrom t l cs with
  | case1 => exact .inl rfl
  | case2 t l c cs stay ih =>
    rw [wayFrom, if_pos stay]
    exact ih
  | case3 t l cs go ih =>
    rw [wayFrom, if_neg go, if_pos rfl]
    exact ih
  | case4 t l c cs go down there ih =>
    rw [wayFrom, if_neg go, if_neg down]
    exact ih.imp_right (And.imp_left (List.mem_cons_of_mem _))
  | case5 | case6 => exact .inl rfl
  | case7 t l c cs go down missing _ ih =>
    -- the new directory is on the way, and those made after it are elsewhere
    rw [find?_put (hasDirectory_of_eq_none missing)] at ih
    rw [wayFrom, if_neg go, if_neg down]
    by_cases here : k = l ++ [c]
    · rw [if_pos here] at ih
      rcases ih with same | ⟨-, none, -⟩
      · exact .inr ⟨by simp [here], by rw [here, missing], same⟩
      · simp at none
    · rw [if_neg here] at ih
      exact ih.imp_right (And.imp_left (List.mem_cons_of_mem _))

/-- A directory is still there when only missing places have changed. -/
theorem hasDirectory_of_find? {t' : FileTree} {l : Location} {p q : Prop}
    (h : t'.find? l = t.find? l ∨ p ∧ t.find? l = none ∧ q) (there : t.hasDirectory l = true) :
    t'.hasDirectory l = true := by
  have found := find?_of_hasDirectory there
  rcases h with same | ⟨-, missing, -⟩
  · simp only [hasDirectory, same, found, Entry.isDirectory]
  · simp [found] at missing

/-- Making directories keeps those that are there. -/
theorem hasDirectory_makeFrom {l : Location} (h : t.hasDirectory l = true) (k : Location)
    (cs : List Text) : (t.makeFrom k cs).1.hasDirectory l = true :=
  hasDirectory_of_find? (find?_makeFrom t k cs l) h

/-- A directory that is there before others are made is there at the end. -/
theorem find?_of_makeFrom {t' u : FileTree} {l k : Location} {cs : List Text}
    (there : t.hasDirectory l = true) (made : t.makeFrom k cs = (t', true))
    (same : SameDirectories t' u) : u.find? l = some .directory := by
  have kept := hasDirectory_makeFrom there k cs
  rw [made, ← same.hasDirectory_eq l] at kept
  exact find?_of_hasDirectory kept

/-- Where directories have been made, there is nothing left to make. -/
theorem makeFrom_again {t' u : FileTree} {k : Location} {cs : List Text}
    (h : t.makeFrom k cs = (t', true)) (same : SameDirectories t' u) :
    u.makeFrom k cs = (u, true) := by
  fun_induction makeFrom t k cs with
  | case1 => rfl
  | case2 t l c cs stay ih =>
    rw [makeFrom, if_pos stay]
    exact ih h
  | case3 t l cs go ih =>
    rw [makeFrom, if_neg go, if_pos rfl]
    exact ih h
  | case4 t l c cs go down found ih =>
    have there : t.hasDirectory (l ++ [c]) = true := by
      rw [hasDirectory, found]
      rfl
    rw [makeFrom, if_neg go, if_neg down, find?_of_makeFrom there h same]
    exact ih h
  | case5 | case6 => simp at h
  | case7 t l c cs go down missing _ ih =>
    have there : (t.put (l ++ [c]) .directory).hasDirectory (l ++ [c]) = true := by
      rw [hasDirectory_put (hasDirectory_of_eq_none missing), if_pos rfl]
      rfl
    rw [makeFrom, if_neg go, if_neg down, find?_of_makeFrom there h same]
    exact ih h

/-- Making a directory that is there changes nothing. -/
theorem makeDirectory_again {t' u : FileTree} {p : Path} (h : t.makeDirectory p = (t', true))
    (same : SameDirectories t' u) : u.makeDirectory p = (u, true) := by
  rw [makeDirectory] at h ⊢
  split at h
  · rename_i usable
    have base : u.base = t.base := by
      rw [same.base_eq, ← base_makeFrom t (t.start p) p.components, h]
    rw [if_pos usable, start_congr base]
    exact makeFrom_again h same
  · simp at h

end FileTree

end ArithDrill
