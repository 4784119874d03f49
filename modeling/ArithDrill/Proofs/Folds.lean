/-!
# Going through a list with steps that may fail

The conversion to a postfix list and the evaluation on a stack both go through a list of tokens and
end at the first one that they refuse.  What is said about one step carries over to the whole list
in the same way for both.

## Main statements

* `foldlM_append_eq_ok_iff` — two parts of a list are gone through one after the other.
* `foldlM_eq_error_iff` — a list is refused for one of its members.
* `foldlM_keeps` — what one step keeps is kept by many.
-/

namespace ArithDrill

variable {σ τ ε : Type} {f : σ → τ → Except ε σ} {s s' : σ} {ts us : List τ}

theorem foldlM_append_eq_ok_iff :
    (ts ++ us).foldlM f s = .ok s' ↔
      ∃ next, ts.foldlM f s = .ok next ∧ us.foldlM f next = .ok s' := by
  rw [List.foldlM_append]
  cases ts.foldlM f s <;> simp [bind, Except.bind]

/-- A list is refused exactly if one of its members is, after the members before it have been
accepted. -/
theorem foldlM_eq_error_iff {x : ε} :
    ts.foldlM f s = .error x ↔
      ∃ done t next between, ts = done ++ t :: next ∧ done.foldlM f s = .ok between ∧
        f between t = .error x := by
  constructor
  · intro failed
    induction ts generalizing s with
    | nil => cases failed
    | cons t ts ih =>
      rw [List.foldlM_cons] at failed
      cases step : f s t with
      | error y =>
        obtain rfl : y = x := by simpa [step, bind, Except.bind] using failed
        exact ⟨[], t, ts, s, rfl, rfl, step⟩
      | ok after =>
        rw [step] at failed
        obtain ⟨done, u, next, between, rfl, run, fails⟩ := ih failed
        refine ⟨t :: done, u, next, between, rfl, ?_, fails⟩
        simpa [List.foldlM_cons, step, bind, Except.bind] using run
  · rintro ⟨done, t, next, between, rfl, run, fails⟩
    simp [List.foldlM_append, run, fails, bind, Except.bind]

/-- A property of the members so far and of the state holds at the end of a list, if it holds at the
beginning and one step keeps it. -/
theorem foldlM_keeps {P : List τ → σ → Prop}
    (step : ∀ {done s t s'}, P done s → f s t = .ok s' → P (done ++ [t]) s') (start : P [] s)
    (run : ts.foldlM f s = .ok s') : P ts s' := by
  -- the induction is on what is left, so that it has to begin anywhere in the list
  suffices from_any : ∀ done s, P done s → ts.foldlM f s = .ok s' → P (done ++ ts) s' by
    simpa using from_any [] s start run
  clear start run
  induction ts with
  | nil =>
    intro done s kept run
    cases run
    simpa using kept
  | cons t ts ih =>
    intro done s kept run
    rw [← List.singleton_append, foldlM_append_eq_ok_iff] at run
    obtain ⟨next, first, rest⟩ := run
    have kept : P (done ++ [t]) next := step kept (by simpa using first)
    simpa using ih _ next kept rest

end ArithDrill
