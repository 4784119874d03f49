import ArithDrill.Proofs.Rearrangement
import ArithDrill.Proofs.Soundness

/-!
# One exercise of each class

A series is filled by offers, one after another.  An offer whose line has no tree is passed over.
Of the others, the series keeps those whose tree is no rearrangement of any earlier one, so that
it has exactly one exercise of each class, the first.  The series itself looks at keys only; that
they stand for classes is what the canonical form is made for.

The invariant of a run ties both parts of a series, the exercises kept and the keys seen, to the
offers made so far.

## Main definitions

* `Offer` — an expression with its value.
* `Offer.IsNew` — the tree of an offer is no rearrangement of an earlier one.
* `Series.offer`, `Series.ofOffers` — one offer, and a run of offers.
* `Series.Represents` — the invariant of a run.

## Main statements

* `Series.Represents.offer`, `Series.represents_ofOffers` — one step and many steps of a run.
* `Series.keeps_first_of_class` — what a series keeps, what it has seen and what it answers.
-/

namespace ArithDrill

/-- An expression that is offered to a series, with its value. -/
structure Offer where
  /-- The expression, without an equals sign. -/
  expression : Text
  /-- The value that goes with it. -/
  value : Rat
  deriving DecidableEq, Repr

namespace Offer

/-- The line of an offer. -/
def line (o : Offer) : Text := o.expression ++ " =".toList

/-- The exercise that an offer makes, if its line has a tree. -/
def exercise? (o : Offer) : Option Exercise :=
  (Exercise.ofExpression o.expression o.value).toOption

/-- The line has a tree, and it is no rearrangement of the tree of any earlier offer. -/
def IsNew (earlier : List Offer) (o : Offer) : Prop :=
  ∃ e, Expr.ofText o.line = .ok e ∧
    ∀ o' ∈ earlier, ∀ e', Expr.ofText o'.line = .ok e' → ¬ Expr.Rearranged e' e

variable {o : Offer} {e : Expr} {x : ParseError}

/-- An offer with a tree makes an exercise, of which the key is the text of the canonical form. -/
theorem ofExpression_of_ok (h : Expr.ofText o.line = .ok e) :
    Exercise.ofExpression o.expression o.value =
      .ok ⟨o.line, o.value, e.canonical.render⟩ := by
  show (Expr.key o.line).map _ = _
  rw [Expr.key, h]
  rfl

/-- An offer without a tree makes no exercise. -/
theorem ofExpression_of_error (h : Expr.ofText o.line = .error x) :
    Exercise.ofExpression o.expression o.value = .error x := by
  show (Expr.key o.line).map _ = _
  rw [Expr.key, h]
  rfl

theorem isNew_iff {earlier : List Offer} (h : Expr.ofText o.line = .ok e) :
    o.IsNew earlier ↔
      ∀ o' ∈ earlier, ∀ e', Expr.ofText o'.line = .ok e' → ¬ Expr.Rearranged e' e := by
  simp [IsNew, h]

theorem not_isNew_of_error {earlier : List Offer} (h : Expr.ofText o.line = .error x) :
    ¬ o.IsNew earlier := by
  simp [IsNew, h]

end Offer

namespace Series

/-- Makes an exercise of an offer and adds it, as a generation does with what it has drawn.  The
answer is the reason why there is no exercise, or whether the exercise is new to the series. -/
def offer (s : Series) (o : Offer) : Except ParseError Bool × Series :=
  match Exercise.ofExpression o.expression o.value with
  | .error x => (.error x, s)
  | .ok e => (.ok !s.hasSeen e, s.add e)

/-- The series after a run of offers. -/
def ofOffers (os : List Offer) : Series := os.foldl (fun s o => (s.offer o).2) empty

theorem ofOffers_concat (os : List Offer) (o : Offer) :
    ofOffers (os ++ [o]) = ((ofOffers os).offer o).2 := by
  rw [ofOffers, List.foldl_append]
  rfl

/-- The numbers `is` are those of the offers that are new, in order, and the series keeps their
exercises. -/
structure KeepsAt (os : List Offer) (s : Series) (is : List Nat) : Prop where
  /-- The numbers are in order. -/
  sorted : is.Pairwise (· < ·)
  /-- The offers with these numbers are the new ones. -/
  mem_iff : ∀ i, i ∈ is ↔ ∃ o, os[i]? = some o ∧ o.IsNew (os.take i)
  /-- The exercises kept are theirs. -/
  kept : s.toList.map some = is.map fun i => os[i]?.bind Offer.exercise?

/-- The invariant of a run of offers. -/
structure Represents (os : List Offer) (s : Series) : Prop where
  /-- The keys seen are those of the exercises kept, and there are no repetitions. -/
  tidy : s.Tidy
  /-- The keys seen are those of the trees offered. -/
  mem_seen_iff : ∀ k, k ∈ s.seen ↔
    ∃ o ∈ os, ∃ e, Expr.ofText o.line = .ok e ∧ e.canonical.render = k
  /-- The exercises kept are those of the new offers. -/
  keeps : ∃ is, KeepsAt os s is

variable {os : List Offer} {s : Series} {o : Offer} {e : Expr} {x : ParseError}

theorem offer_of_error (h : Expr.ofText o.line = .error x) : s.offer o = (.error x, s) := by
  rw [offer, Offer.ofExpression_of_error h]

theorem offer_of_ok (h : Expr.ofText o.line = .ok e) :
    s.offer o = (.ok !s.hasSeen ⟨o.line, o.value, e.canonical.render⟩,
      s.add ⟨o.line, o.value, e.canonical.render⟩) := by
  rw [offer, Offer.ofExpression_of_ok h]

/-- The series has seen the key of a tree exactly if a rearrangement of the tree has been
offered. -/
theorem Represents.key_seen_iff (h : Represents os s) (tree : Expr.ofText o.line = .ok e) :
    e.canonical.render ∈ s.seen ↔ ¬ o.IsNew os := by
  have classes {o' : Offer} {e' : Expr} (tree' : Expr.ofText o'.line = .ok e') :
      e'.canonical.render = e.canonical.render ↔ Expr.Rearranged e' e :=
    Expr.render_canonical_eq_render_iff (Expr.readable_of_ofTokens tree')
      (Expr.readable_of_ofTokens tree)
  rw [h.mem_seen_iff, Offer.isNew_iff tree]
  simp only [not_forall, not_not, exists_prop]
  constructor
  · rintro ⟨o', ho', e', tree', same⟩
    exact ⟨o', ho', e', tree', (classes tree').1 same⟩
  · rintro ⟨o', ho', e', tree', rearranged⟩
    exact ⟨o', ho', e', tree', (classes tree').2 rearranged⟩

/-! ## One step -/

/-- The new offers after one more offer: those before, and the last one if it is new. -/
theorem isNew_concat_iff {i : Nat} :
    (∃ o', (os ++ [o])[i]? = some o' ∧ o'.IsNew ((os ++ [o]).take i)) ↔
      (∃ o', os[i]? = some o' ∧ o'.IsNew (os.take i)) ∨ i = os.length ∧ o.IsNew os := by
  rcases Nat.lt_trichotomy i os.length with before | rfl | after
  · rw [List.getElem?_append_left before, List.take_append_of_le_length (Nat.le_of_lt before)]
    simp [Nat.ne_of_lt before]
  · simp
  · have none_here : os[i]? = none := List.getElem?_eq_none (Nat.le_of_lt after)
    have none_there : (os ++ [o])[i]? = none := by
      rw [List.getElem?_eq_none_iff, List.length_append]
      exact after
    simp [none_here, none_there, Nat.ne_of_gt after]

namespace KeepsAt

variable {is : List Nat} {i : Nat} {s' : Series}

theorem lt_length (h : KeepsAt os s is) (hi : i ∈ is) : i < os.length := by
  obtain ⟨o, here, -⟩ := (h.mem_iff i).1 hi
  exact (List.getElem?_eq_some_iff.1 here).1

/-- One more offer does not change what the former ones are. -/
theorem map_concat (h : KeepsAt os s is) (o : Offer) :
    (is.map fun i => (os ++ [o])[i]?.bind Offer.exercise?) =
      is.map fun i => os[i]?.bind Offer.exercise? := by
  refine List.map_congr_left fun i hi => ?_
  rw [List.getElem?_append_left (h.lt_length hi)]

/-- An offer that is not new is not kept. -/
theorem pass (h : KeepsAt os s is) (old : ¬ o.IsNew os) (same : s'.toList = s.toList) :
    KeepsAt (os ++ [o]) s' is where
  sorted := h.sorted
  mem_iff i := by simp [isNew_concat_iff, h.mem_iff, old]
  kept := by rw [same, h.map_concat, h.kept]

/-- A new offer is kept last. -/
theorem keep (h : KeepsAt os s is) (new : o.IsNew os) {x : Exercise} (made : o.exercise? = some x)
    (grown : s'.toList = s.toList ++ [x]) : KeepsAt (os ++ [o]) s' (is ++ [os.length]) where
  sorted := by
    rw [List.pairwise_append]
    refine ⟨h.sorted, List.pairwise_singleton _ _, fun i hi j hj => ?_⟩
    rw [List.mem_singleton.1 hj]
    exact h.lt_length hi
  mem_iff i := by simp [isNew_concat_iff, h.mem_iff, new]
  kept := by
    rw [grown, List.map_append, List.map_append, h.map_concat, h.kept]
    simp [made]

end KeepsAt

/-- Adding an exercise adds its key to those seen. -/
theorem mem_seen_add {x : Exercise} {k : Text} :
    k ∈ (s.add x).seen ↔ k ∈ s.seen ∨ x.key = k := by
  by_cases seen : s.hasSeen x = true
  · rw [add, if_pos seen]
    have key_seen : x.key ∈ s.seen := seen
    constructor
    · exact .inl
    · rintro (old | rfl)
      · exact old
      · exact key_seen
  · rw [add, if_neg seen, Std.HashSet.mem_insert, beq_iff_eq, or_comm]

/-- One offer keeps the invariant. -/
theorem Represents.offer (h : Represents os s) (o : Offer) :
    Represents (os ++ [o]) (s.offer o).2 := by
  obtain ⟨is, keeps⟩ := h.keeps
  cases tree : Expr.ofText o.line with
  | error x =>
    rw [offer_of_error tree]
    refine ⟨h.tidy, fun k => ?_, is, keeps.pass (Offer.not_isNew_of_error tree) rfl⟩
    simp [h.mem_seen_iff, or_and_right, exists_or, tree]
  | ok e =>
    rw [offer_of_ok tree]
    let x : Exercise := ⟨o.line, o.value, e.canonical.render⟩
    have made : o.exercise? = some x := by
      rw [Offer.exercise?, Offer.ofExpression_of_ok tree]
      rfl
    have seen_iff : s.hasSeen x = true ↔ ¬ o.IsNew os := h.key_seen_iff tree
    refine ⟨h.tidy.add x, fun k => ?_, ?_⟩
    · simp [mem_seen_add, h.mem_seen_iff, or_and_right, exists_or, tree]
    · by_cases new : o.IsNew os
      · have unseen : ¬ s.hasSeen x = true := fun seen => seen_iff.1 seen new
        exact ⟨_, keeps.keep new made (by rw [toList_add, if_neg unseen])⟩
      · exact ⟨is, keeps.pass new (by rw [toList_add, if_pos (seen_iff.2 new)])⟩

/-! ## Many steps -/

/-- A run of offers keeps the invariant. -/
theorem represents_ofOffers (os : List Offer) : Represents os (ofOffers os) := by
  induction os using List.reverseRecOn with
  | nil => exact ⟨tidy_empty, by simp [ofOffers, empty], [], List.Pairwise.nil, by simp, rfl⟩
  | append_singleton os o ih =>
    rw [ofOffers_concat]
    exact ih.offer o

/-- A series keeps exactly one exercise of each class, the first.  After any run of offers the
exercises kept are, in order, those of the offers of which the tree is no rearrangement of an
earlier one, and the keys seen are the keys of the exercises kept.  The next offer is answered
accordingly: without a tree it changes nothing, and else it is added exactly if it is new. -/
theorem keeps_first_of_class (os : List Offer) :
    (∃ is : List Nat, is.Pairwise (· < ·) ∧
      (∀ i, i ∈ is ↔ ∃ o, os[i]? = some o ∧ o.IsNew (os.take i)) ∧
      (ofOffers os).toList.map some = is.map fun i => os[i]?.bind Offer.exercise?) ∧
    (∀ k, k ∈ (ofOffers os).seen ↔ k ∈ (ofOffers os).toList.map Exercise.key) ∧
    ∀ o : Offer,
      ofOffers (os ++ [o]) = ((ofOffers os).offer o).2 ∧
      (∀ x, Expr.ofText o.line = .error x →
        (ofOffers os).offer o = (.error x, ofOffers os)) ∧
      ∀ e, Expr.ofText o.line = .ok e →
        (((ofOffers os).offer o).1 = .ok true ↔ o.IsNew os) ∧
        (((ofOffers os).offer o).1 = .ok false ↔ ¬ o.IsNew os) := by
  have run := represents_ofOffers os
  obtain ⟨is, keeps⟩ := run.keeps
  refine ⟨⟨is, keeps.sorted, keeps.mem_iff, keeps.kept⟩, run.tidy.mem_seen_iff, fun o => ?_⟩
  refine ⟨ofOffers_concat os o, fun x => offer_of_error, fun e tree => ?_⟩
  have seen_iff : (ofOffers os).hasSeen ⟨o.line, o.value, e.canonical.render⟩ = true ↔
      ¬ o.IsNew os := run.key_seen_iff tree
  rw [offer_of_ok tree]
  simp only [Except.ok.injEq, Bool.not_eq_true', ← Bool.not_eq_true, seen_iff, not_not,
    and_self]

/-- After `1 + 2` and an offer without a tree, `2 + 1` is refused and `2 +` is passed over: the
answers say so, and with them that there is a rearrangement of `2 + 1` among the offers. -/
theorem offer_swapped_sum :
    let os : List Offer := [⟨"1 + 2".toList, 3⟩, ⟨"1 +".toList, 0⟩]
    let swapped : Offer := ⟨"2 + 1".toList, 3⟩
    let cut : Offer := ⟨"2 +".toList, 0⟩
    let e : Expr := .node .add (.leaf (.whole 2)) (.leaf (.whole 1))
    Expr.ofText swapped.line = .ok e ∧ ((ofOffers os).offer swapped).1 = .ok false ∧
      ¬ swapped.IsNew os ∧
      Expr.ofText cut.line = .error .incomplete ∧
      (ofOffers os).offer cut = (.error .incomplete, ofOffers os) := by
  intro os swapped cut e
  have tree : Expr.ofText "2 + 1 =".toList = .ok e := by cbv
  have none_left : Expr.ofText "2 + =".toList = .error .incomplete := by cbv
  have refused : ((ofOffers [⟨"1 + 2".toList, 3⟩, ⟨"1 +".toList, 0⟩]).offer
      ⟨"2 + 1".toList, 3⟩).1 = .ok false := by cbv
  have answers := (keeps_first_of_class os).2.2
  exact ⟨tree, refused, ((answers swapped).2.2 e tree).2.1 refused, none_left,
    (answers cut).2.1 _ none_left⟩

end Series

end ArithDrill
