import ArithDrill.Proofs.Trees

/-!
# What changes in a file tree

Making a directory adds directories on the way to it, and nothing else, also when it stops short
of the end.  Writing a file changes one place.  So what becomes of a tree in which a directory is
made and files are written to it one after another can be said by what is found at each location.

## Main definitions

* `FileTree.way` — the locations that a path leads through.
* `FileTree.makeSome` — makes the directories that the first components of a path lead through.
* `FileTree.Changed` — some files in a directory have been written, and nothing else has changed
  but missing directories.

## Main statements

* `FileTree.changed_makeSome` — directories are made, as far as it goes.
* `FileTree.Changed.write` — one more file is written.
-/

namespace ArithDrill.FileTree

/-- The locations that a path leads through. -/
def way (t : FileTree) (p : Path) : List Location := wayFrom (t.start p) p.components

/-- Makes the directories that the first `n` components of a path lead through. -/
def makeSome (t : FileTree) (n : Nat) (p : Path) : FileTree :=
  if p.isUsable then (t.makeFrom (t.start p) (p.components.take n)).1 else t

variable {t t' t'' : FileTree} {dir p : Path} {files : List (Text × Text)} {name contents : Text}

/-! ## Making directories -/

/-- The first components lead through locations on the way. -/
theorem mem_wayFrom_of_take {l k : Location} {n : Nat} {cs : List Text}
    (h : k ∈ wayFrom l (cs.take n)) : k ∈ wayFrom l cs := by
  induction cs generalizing l n with
  | nil => simpa using h
  | cons c cs ih =>
    cases n with
    | zero => simp [wayFrom] at h
    | succ n =>
      rw [List.take_succ_cons, wayFrom] at h
      rw [wayFrom]
      split
      · rename_i stay
        rw [if_pos stay] at h
        exact ih h
      · rename_i go
        rw [if_neg go] at h
        split
        · rename_i up
          rw [if_pos up] at h
          exact ih h
        · rename_i down
          rw [if_neg down] at h
          rcases List.mem_cons.1 h with here | there
          · exact List.mem_cons.2 (.inl here)
          · exact List.mem_cons_of_mem _ (ih there)

/-- Making a directory is making all that its components lead through. -/
theorem makeDirectory_fst (t : FileTree) (p : Path) :
    (t.makeDirectory p).1 = t.makeSome p.components.length p := by
  rw [makeDirectory, makeSome, List.take_length]
  split <;> rfl

/-! ## Writing files -/

/-- Writing that fails leaves the tree as it is. -/
theorem fst_writeText (h : (t.writeText p contents).2 = false) :
    (t.writeText p contents).1 = t := by
  unfold writeText at h ⊢
  cases located : t.locate p with
  | none => rfl
  | some l =>
    simp only [located] at h
    dsimp only
    split at h
    · rename_i there
      rw [if_pos there]
    · simp at h

/-- What becomes of a tree `t` when some files in a directory are written, given by their names and
texts, and nothing else happens than that directories on the way to it are made. -/
structure Changed (dir : Path) (files : List (Text × Text)) (t t' : FileTree) : Prop where
  /-- The working directory is the same. -/
  base_eq : t'.base = t.base
  /-- Other places are as before, but for directories that were missing on the way. -/
  elsewhere : ∀ l, (∀ f ∈ files, t'.locate (dir.join f.1) ≠ some l) →
    t'.find? l = t.find? l ∨ l ∈ t.way dir ∧ t.find? l = none ∧ t'.find? l = some .directory
  /-- Each file has its text, and no directory has been given up for it. -/
  written : ∀ f ∈ files, ∃ l, t'.locate (dir.join f.1) = some l ∧ t.hasDirectory l = false ∧
    t'.find? l = some (.file (.text f.2))

theorem changed_makeSome (t : FileTree) (n : Nat) (dir : Path) :
    Changed dir [] t (t.makeSome n dir) := by
  unfold makeSome
  split
  · refine ⟨base_makeFrom t _ _, fun l _ => ?_, by simp⟩
    exact (find?_makeFrom t (t.start dir) _ l).imp_right (And.imp_left mem_wayFrom_of_take)
  · exact ⟨rfl, fun _ _ => .inl rfl, by simp⟩

/-- No directory has been given up. -/
theorem Changed.hasDirectory (h : Changed dir files t t') {l : Location}
    (there : t.hasDirectory l = true) : t'.hasDirectory l = true := by
  by_cases file : ∃ f ∈ files, t'.locate (dir.join f.1) = some l
  · obtain ⟨f, hf, located⟩ := file
    obtain ⟨k, located', no_directory, -⟩ := h.written f hf
    obtain rfl : l = k := Option.some.inj (located.symm.trans located')
    simp [there] at no_directory
  · have other := h.elsewhere l fun f hf located => file ⟨f, hf, located⟩
    exact hasDirectory_of_find? other there

/-- One step: one more file is written, under a name of its own. -/
theorem Changed.write (h : Changed dir files t t') (plain : Path.IsPlain name)
    (others : ∀ f ∈ files, Path.IsPlain f.1 ∧ f.1 ≠ name)
    (done : t'.writeText (dir.join name) contents = (t'', true)) :
    Changed dir (files ++ [(name, contents)]) t t'' := by
  have same := sameDirectories_writeText done
  obtain ⟨l₀, located, no_directory, rfl⟩ := writeText_eq_true_iff.1 done
  have found := find?_put no_directory (.file (.text contents))
  refine ⟨h.base_eq, ?_, ?_⟩
  · intro l other
    have differs : l ≠ l₀ := by
      rintro rfl
      refine other (name, contents) (by simp) ?_
      rw [locate_congr same, located]
    rw [found, if_neg differs]
    refine h.elsewhere l fun f hf => ?_
    rw [← locate_congr same]
    exact other f (List.mem_append_left _ hf)
  · intro f hf
    rcases List.mem_append.1 hf with before | new
    · obtain ⟨plain', differs⟩ := others f before
      obtain ⟨l, located', no_directory', text⟩ := h.written f before
      refine ⟨l, by rw [locate_congr same, located'], no_directory', ?_⟩
      rw [found, if_neg (locate_join_ne plain' plain differs located' located), text]
    · obtain rfl := List.mem_singleton.1 new
      refine ⟨l₀, by rw [locate_congr same, located], ?_, by rw [found, if_pos rfl]⟩
      -- a directory that was there would still be there
      cases there : t.hasDirectory l₀ with
      | false => rfl
      | true => simp [h.hasDirectory there] at no_directory

end ArithDrill.FileTree
