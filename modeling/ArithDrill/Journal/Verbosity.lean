import ArithDrill.Journal.Event
import ArithDrill.Text.Alphanumeric
import ArithDrill.Text.Blank
import ArithDrill.Text.Decimal

/-!
# Which events are shown

The setting of the journal is a list of directives with commas between them.  A directive is the
name or the number of a level, or else it begins with what it is about: the name of a part of the
program, a condition in brackets, or both.  An equals sign and a level may follow; without them
it shows every level.

The condition `[{field}]` asks for events that have a field.  With a name in front of the brace,
without braces, or with an equals sign after the field it asks for events within certain spans of
time.  The program marks no spans, so that directives of these kinds are about no event.

An event is shown if the directive that is most specific for it allows its level.  Of equally
specific directives the last one counts, and an event that no directive is about is not shown.

## Main definitions

* `Threshold` — the least level that is shown.
* `Directive` — one directive; `Directive.ofText?` reads it.
* `Verbosity` — a list of directives; `Verbosity.ofSetting` reads it.
* `Verbosity.lines` — the lines of the events that are shown of a report.

## Main statements

* `Verbosity.shows_atLeast` — one plain level shows the events of this level and above.
* `Verbosity.lines_eq` — the lines of a report are those of the events in it that are shown.
-/

namespace ArithDrill

/-- The least level that is shown; none when nothing is. -/
abbrev Threshold := Option Level

namespace Threshold

/-- Whether events of a level are shown. -/
def shows (t : Threshold) (l : Level) : Bool :=
  match t with
  | none => false
  | some least => decide (least.rank ≤ l.rank)

/-- The threshold with a given number: zero shows nothing, one the errors only and five
everything. -/
def ofNumber? (n : Nat) : Option Threshold :=
  if n = 0 then some none else (Level.all.find? fun l => l.rank + n == 5).map some

/-- The threshold with a given name, in any case. -/
def ofName? (t : Text) : Option Threshold :=
  let name := t.map Char.toUpper
  if name = "OFF".toList then some none else (Level.all.find? fun l => l.name == name).map some

/-- The threshold that a text stands for, by its number or its name. -/
def ofText? (t : Text) : Option Threshold :=
  match Decimal.readWord? t with
  | some n => ofNumber? n
  | none => ofName? t

end Threshold

/-- Which events of a part a directive is about. -/
inductive Scope where
  /-- All of them. -/
  | all
  /-- Those that have a field. -/
  | having (field : Text)
  /-- Those within certain spans, of which there are none. -/
  | nothing
  deriving DecidableEq, Repr

namespace Scope

/-- Whether an event is in a scope.  The message counts as a field. -/
def covers (s : Scope) (e : Event) : Bool :=
  match s with
  | all => true
  | having field => field == "message".toList || e.fields.any fun f => f.1 == field
  | nothing => false

/-- Whether a scope is more specific than another one.  Of two fields it is the one that comes
later in the order of texts. -/
def outranks : Scope → Scope → Bool
  | having f, having g => decide (g < f)
  | having _, _ => true
  | _, _ => false

end Scope

/-- One directive of the journal. -/
structure Directive where
  /-- How the full names of the parts begin that it is about; all parts if there is none. -/
  part : Option Text
  /-- Which events of these parts it is about. -/
  scope : Scope
  /-- The least level that it shows. -/
  threshold : Threshold
  deriving DecidableEq, Repr

/-- The name of the program as a part. -/
def programPart : Text := "exercices_qpur".toList

/-- The full name of the part that reports an event.  The main part bears the name of the program
alone. -/
def Event.fullOrigin (e : Event) : Text :=
  if e.origin = "main".toList then programPart else programPart ++ "::".toList ++ e.origin

namespace Directive

/-- Whether a directive is about an event. -/
def covers (d : Directive) (e : Event) : Bool :=
  d.scope.covers e &&
    match d.part with
    | none => true
    | some part => part.isPrefixOf e.fullOrigin

/-- How much of the name of a part is given. -/
def reach (d : Directive) : Nat :=
  match d.part with
  | none => 0
  | some part => part.length + 1

/-- Whether a directive is more specific than another one that is about the same event. -/
def outranks (d d' : Directive) : Bool :=
  decide (d'.reach < d.reach) || (d.reach == d'.reach && d.scope.outranks d'.scope)

/-- The more specific one of a directive and the best one before it; the later one when neither
is. -/
def orBetter (d : Directive) : Option Directive → Directive
  | none => d
  | some best => if best.outranks d then best else d

/-- Whether a directive may begin with a character. -/
def mayBegin (c : Char) : Bool :=
  c == '[' || c == '-' || c == ':' || c == '_' || Text.isAlphanumeric c

/-- The condition that follows an opening bracket, and what comes after it. -/
def condition? (t : Text) : Option (Scope × Text) :=
  let (span, rest) := t.span fun c => c != ']' && c != '\x7b'
  match rest with
  | ']' :: after => some (.nothing, after)
  | '\x7b' :: inner =>
    match Text.cut? '\x7d' inner with
    | some (field, ']' :: after) =>
      some (if span.isEmpty && !field.contains '=' then .having field else .nothing, after)
    | _ => none
  | _ => none

/-- The threshold that follows an equals sign; everything is shown if there is none. -/
def threshold? (t : Text) : Option Threshold :=
  if t.isEmpty then some (some .trace) else Threshold.ofText? t

/-- The directive of a text that says what it is about: a name, and the rest from the first equals
sign or opening bracket on.  A blank in front is taken for a part of the name, and no level may
be given then. -/
def ofSubject? (name rest : Text) : Option Directive :=
  let part := if name.isEmpty then none else some name
  let leveled (scope : Scope) (level : Text) : Option Directive :=
    if name.head?.any Text.isBlank then none
    else (threshold? level).map fun threshold => ⟨part, scope, threshold⟩
  match rest with
  | '[' :: inner =>
    match condition? inner with
    | none => none
    | some (scope, '=' :: level) => leveled scope level
    | some (scope, after) =>
      if after.all Text.isBlank then some ⟨part, scope, some .trace⟩ else none
  | '=' :: level => leveled .all level
  | _ => some ⟨part, .all, some .trace⟩

/-- The directive that a text stands for. -/
def ofText? (t : Text) : Option Directive :=
  if t.trim.head?.any mayBegin then
    match Threshold.ofText? t with
    | some threshold => some ⟨none, .all, threshold⟩
    | none =>
      let (name, rest) := t.span fun c => c != '=' && c != '['
      ofSubject? name rest
  else none

end Directive

/-- How much of the journal is shown, by directives. -/
structure Verbosity where
  /-- The directives, in the order in which they are given. -/
  directives : List Directive
  deriving DecidableEq, Repr

namespace Verbosity

/-- Shows the events of a level and above. -/
def atLeast (l : Level) : Verbosity := ⟨[⟨none, .all, some l⟩]⟩

/-- What a setting shows.  Without one that can be read the least level is `info`.  Nothing may
stand between two commas, and a setting without directives shows nothing. -/
def ofSetting : Option Text → Verbosity
  | none => atLeast .info
  | some t =>
    match ((t.splitOn ',').filter fun d => !d.isEmpty).mapM Directive.ofText? with
    | none => atLeast .info
    | some directives => ⟨directives⟩

/-- The directive that decides about an event: the most specific one, and the last of those. -/
def deciding? (v : Verbosity) (e : Event) : Option Directive :=
  (v.directives.filter fun d => d.covers e).foldl (fun best d => some (d.orBetter best)) none

/-- Whether an event is shown. -/
def shows (v : Verbosity) (e : Event) : Bool :=
  match v.deciding? e with
  | none => false
  | some d => d.threshold.shows e.level

/-- Whether events of a level may be shown. -/
def mayShow (v : Verbosity) (l : Level) : Bool := v.directives.any fun d => d.threshold.shows l

/-- The lines of the events that are shown of a report. -/
def lines (v : Verbosity) (r : Report) : List Text :=
  if v.mayShow r.level then (r.events.get.filter v.shows).map Event.render else []

/-- One plain level shows the events of this level and above. -/
@[simp] theorem shows_atLeast (l : Level) (e : Event) :
    (atLeast l).shows e = decide (l.rank ≤ e.level.rank) := by
  simp [shows, deciding?, atLeast, Directive.covers, Directive.orBetter, Scope.covers,
    Threshold.shows]

/-- The best of some directives is one of them, or the one to begin with. -/
private theorem eq_or_mem_of_foldl_orBetter {ds : List Directive} {best : Option Directive}
    {d : Directive} (h : ds.foldl (fun best d => some (d.orBetter best)) best = some d) :
    best = some d ∨ d ∈ ds := by
  induction ds generalizing best with
  | nil => exact .inl h
  | cons x xs ih =>
    rcases ih h with first | later
    · have which : x = d ∨ best = some d := by
        cases best with
        | none => exact .inl (Option.some.inj first)
        | some b =>
          simp only [Directive.orBetter] at first
          split at first
          · exact .inr first
          · exact .inl (Option.some.inj first)
      rcases which with rfl | before
      · exact .inr List.mem_cons_self
      · exact .inl before
    · exact .inr (List.mem_cons_of_mem x later)

/-- The directive that decides about an event is one of those that are about it. -/
theorem mem_of_deciding? {v : Verbosity} {e : Event} {d : Directive}
    (h : v.deciding? e = some d) : d ∈ v.directives ∧ d.covers e = true := by
  rcases eq_or_mem_of_foldl_orBetter h with none_before | mem
  · cases none_before
  · exact List.mem_filter.1 mem

/-- An event is shown only if its level and all above it may be shown. -/
theorem mayShow_of_shows {v : Verbosity} {e : Event} {l : Level} (h : v.shows e = true)
    (le : e.level.rank ≤ l.rank) : v.mayShow l = true := by
  unfold shows at h
  split at h
  · cases h
  · rename_i d deciding
    refine List.any_eq_true.2 ⟨d, (mem_of_deciding? deciding).1, ?_⟩
    unfold Threshold.shows at h ⊢
    split at h
    · cases h
    · exact decide_eq_true (Nat.le_trans (of_decide_eq_true h) le)

/-- Not working out a report loses no event, since none exceeds the level of the report. -/
theorem lines_eq {v : Verbosity} {r : Report}
    (le : ∀ e ∈ r.events.get, e.level.rank ≤ r.level.rank) :
    v.lines r = (r.events.get.filter v.shows).map Event.render := by
  unfold lines
  split
  · rfl
  · rename_i hidden
    have empty : r.events.get.filter v.shows = [] :=
      List.filter_eq_nil_iff.2 fun e he shown => hidden (mayShow_of_shows shown (le e he))
    rw [empty, List.map_nil]

end Verbosity

end ArithDrill
