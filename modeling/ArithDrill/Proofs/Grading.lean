import ArithDrill.Grade
import ArithDrill.Proofs.Agreement

/-!
# What a grade says

Grading never fails.  Each complete pair of an exercise and an answer gets a mark, and the grade
lists the numbers of the pairs, counted from one, by their marks.

## Main definitions

* `mark` — whether an answer has the value of its exercise.

## Main statements

* `mark_eq_true_iff` — what a mark says.
* `grade_eq` — the grade of a list of answers lists the marks.
* `Grade.mem_right_iff`, `Grade.mem_wrong_iff` — the numbers of a grade.
* `grade_total` — grading is total, and the grade is exact.
* `Grade.ofMarks_replicate` — the grade when every answer is right.
-/

namespace ArithDrill

/-- Whether an answer has the value of its exercise. -/
def mark (exercise answer : Text) : Bool :=
  match valueOf? exercise, readNumber answer with
  | some expected, .ok given => given == expected
  | _, _ => false

/-- An answer is marked right exactly if it has the value that the exercise has. -/
theorem mark_eq_true_iff {exercise answer : Text} :
    mark exercise answer = true ↔
      ∃ v, evaluate exercise = .ok (some v) ∧ readNumber answer = .ok v := by
  simp only [← valueOf?_eq_some_iff]
  unfold mark
  cases valueOf? exercise with
  | none => simp
  | some expected =>
    cases readNumber answer with
    | error x => simp
    | ok given =>
      simp only [beq_iff_eq, Option.some.injEq, Except.ok.injEq]
      constructor
      · intro same
        exact ⟨expected, rfl, same⟩
      · rintro ⟨v, rfl, same⟩
        exact same

/-- Marking an answer never fails. -/
theorem isRight_eq (exercise answer : Text) :
    isRight exercise answer = .ok (mark exercise answer) := by
  unfold isRight mark
  rw [attempt_eq]
  cases valueOf? exercise with
  | none => rfl
  | some expected => cases readNumber answer <;> rfl

/-- Grading never fails, and lists the marks of the complete pairs. -/
theorem grade_eq (exercises answers : List Text) :
    grade exercises answers =
      .ok (.ofMarks ((exercises.zip answers).map fun p => mark p.1 p.2)) := by
  have marks : (fun p : Text × Text => isRight p.1 p.2) = fun p => pure (mark p.1 p.2) :=
    funext fun p => isRight_eq p.1 p.2
  rw [grade, marks, List.mapM_pure]
  rfl

namespace Grade

variable {marks : List Bool} {i : Nat}

/-- The right answers are those with the mark `true`. -/
theorem mem_right_iff : i ∈ (ofMarks marks).right ↔ 1 ≤ i ∧ marks[i - 1]? = some true := by
  rw [← List.mk_mem_zipIdx_iff_le_and_getElem?_sub]
  simp [ofMarks]

/-- The wrong answers are those with the mark `false`. -/
theorem mem_wrong_iff : i ∈ (ofMarks marks).wrong ↔ 1 ≤ i ∧ marks[i - 1]? = some false := by
  rw [← List.mk_mem_zipIdx_iff_le_and_getElem?_sub]
  simp [ofMarks]

/-- No answer is right and wrong. -/
theorem not_mem_right_and_wrong : ¬ (i ∈ (ofMarks marks).right ∧ i ∈ (ofMarks marks).wrong) := by
  rw [mem_right_iff, mem_wrong_iff]
  rintro ⟨⟨-, right⟩, -, wrong⟩
  rw [right] at wrong
  cases wrong

/-- Every answer that has a mark is right or wrong. -/
theorem mem_right_or_wrong_iff :
    i ∈ (ofMarks marks).right ∨ i ∈ (ofMarks marks).wrong ↔ 1 ≤ i ∧ i ≤ marks.length := by
  rw [mem_right_iff, mem_wrong_iff, ← and_or_left]
  refine and_congr_right fun from_one => ?_
  cases marked : marks[i - 1]? with
  | none =>
    have beyond := List.getElem?_eq_none_iff.1 marked
    simp only [reduceCtorEq, or_self, false_iff]
    omega
  | some b =>
    obtain ⟨within, -⟩ := List.getElem?_eq_some_iff.1 marked
    cases b <;> simp <;> omega

/-- Numbers are listed in increasing order. -/
private theorem pairwise_numbers (p : Bool → Bool) :
    (((marks.zipIdx 1).filter fun q => p q.1).map Prod.snd).Pairwise (· < ·) := by
  have all : ((marks.zipIdx 1).map Prod.snd).Pairwise (· < ·) := by
    rw [List.zipIdx_map_snd]
    exact List.pairwise_lt_range'
  exact all.sublist (List.filter_sublist.map Prod.snd)

theorem pairwise_right (marks : List Bool) : (ofMarks marks).right.Pairwise (· < ·) :=
  pairwise_numbers fun b => b

theorem pairwise_wrong (marks : List Bool) : (ofMarks marks).wrong.Pairwise (· < ·) :=
  pairwise_numbers fun b => !b

/-- When every answer is right, the grade lists all numbers on the one side and none on the
other. -/
theorem ofMarks_replicate (n : Nat) : ofMarks (List.replicate n true) = ⟨List.range' 1 n, []⟩ := by
  have marked : ∀ q ∈ (List.replicate n true).zipIdx 1, q.1 = true := by
    rintro ⟨b, j⟩ hq
    exact List.eq_of_mem_replicate (List.fst_mem_of_mem_zipIdx hq)
  have right : ((List.replicate n true).zipIdx 1).filter (fun q => q.1)
      = (List.replicate n true).zipIdx 1 := List.filter_eq_self.2 marked
  have wrong : ((List.replicate n true).zipIdx 1).filter (fun q => !q.1) = [] :=
    List.filter_eq_nil_iff.2 fun q hq => by simp [marked q hq]
  rw [ofMarks, right, wrong, List.zipIdx_map_snd, List.length_replicate, List.map_nil]

end Grade

/-- A mark is `true` where both lists have a line and the answer has the value of the exercise. -/
theorem getElem?_marks_eq_true_iff {exercises answers : List Text} {j : Nat} :
    ((exercises.zip answers).map fun p => mark p.1 p.2)[j]? = some true ↔
      ∃ exercise answer v, exercises[j]? = some exercise ∧ answers[j]? = some answer ∧
        evaluate exercise = .ok (some v) ∧ readNumber answer = .ok v := by
  rw [List.getElem?_map, Option.map_eq_some_iff]
  constructor
  · rintro ⟨⟨exercise, answer⟩, pair, right⟩
    obtain ⟨here, there⟩ := List.getElem?_zip_eq_some.1 pair
    obtain ⟨v, value, given⟩ := mark_eq_true_iff.1 right
    exact ⟨exercise, answer, v, here, there, value, given⟩
  · rintro ⟨exercise, answer, v, here, there, value, given⟩
    exact ⟨(exercise, answer), List.getElem?_zip_eq_some.2 ⟨here, there⟩,
      mark_eq_true_iff.2 ⟨v, value, given⟩⟩

/-- Grading is total, and the grade is exact: whatever the lines are, there is a grade; it lists
each number up to the length of the shorter list once, in increasing order, as right or as wrong;
and a number is right exactly if the answer reads as the value that its exercise has. -/
theorem grade_total (exercises answers : List Text) :
    ∃ g, grade exercises answers = .ok g ∧
      g.right.Pairwise (· < ·) ∧ g.wrong.Pairwise (· < ·) ∧
      (∀ i, ¬ (i ∈ g.right ∧ i ∈ g.wrong)) ∧
      (∀ i, i ∈ g.right ∨ i ∈ g.wrong ↔
        1 ≤ i ∧ i ≤ min exercises.length answers.length) ∧
      ∀ i, i ∈ g.right ↔ 1 ≤ i ∧ ∃ exercise answer v,
        exercises[i - 1]? = some exercise ∧ answers[i - 1]? = some answer ∧
          evaluate exercise = .ok (some v) ∧ readNumber answer = .ok v := by
  refine ⟨_, grade_eq exercises answers, Grade.pairwise_right _, Grade.pairwise_wrong _,
    fun i => Grade.not_mem_right_and_wrong, fun i => ?_, fun i => ?_⟩
  · rw [Grade.mem_right_or_wrong_iff, List.length_map, List.length_zip]
  · rw [Grade.mem_right_iff, getElem?_marks_eq_true_iff]

end ArithDrill
