import ArithDrill.Command.Settings

/-!
# The command line

Options are short, a dash and a letter, or long, two dashes and a word.  An option takes a value:
the rest of the same argument, with or without an equals sign for a short option and with one
for a long option, or else the next argument, unless that starts with a dash and has more to it.
Each option may be given once.

Arguments are judged from left to right, and the first problem ends the reading.  A value that
stands in an argument of its own is judged only when the next option comes up, or at the end; an
argument that has no meaning where it stands goes before it.

## Main definitions

* `Argument` — an argument by its form.
* `Interruption` — why the reading stops before the end.
* `Settings.ofArguments` — the settings of a command line.
-/

namespace ArithDrill

/-- What is wrong with a command line. -/
inductive UsageError where
  /-- An argument has no meaning. -/
  | unknown
  /-- An option has no value, or an empty path as its value. -/
  | missingValue
  /-- A value is no number of at most 64 bits. -/
  | invalidNumber
  /-- An option is given twice. -/
  | repeated
  /-- A value is given to an option that takes none. -/
  | surplusValue
  deriving DecidableEq, Repr

/-- The wording of a usage error. -/
def UsageError.message : UsageError → Text
  | unknown => "argument inattendu".toList
  | missingValue => "valeur manquante".toList
  | invalidNumber => "nombre attendu".toList
  | repeated => "option donnée deux fois".toList
  | surplusValue => "valeur en trop".toList

/-- Why the reading stops before the end. -/
inductive Interruption where
  /-- Help is asked for. -/
  | help
  /-- The version is asked for. -/
  | version
  /-- The command line is refused. -/
  | refused (e : UsageError)
  deriving DecidableEq, Repr

/-- An argument by its form. -/
inductive Argument where
  /-- Two dashes, after which there are no more options. -/
  | separator
  /-- A long option, with a value if there is an equals sign. -/
  | long (name : Text) (value : Option Text)
  /-- A short option, with what follows its letter. -/
  | short (letter : Char) (rest : Text)
  /-- Anything else. -/
  | plain (t : Text)
  deriving DecidableEq, Repr

/-- The form of an argument. -/
def Argument.ofText : Text → Argument
  | ['-', '-'] => separator
  | '-' :: '-' :: body =>
    match Text.cut? '=' body with
    | some (name, value) => long name (some value)
    | none => long body none
  | '-' :: letter :: rest => short letter rest
  | t => plain t

/-- The value that follows the letter of a short option. -/
def Argument.attached? : Text → Option Text
  | [] => none
  | '=' :: value => some value
  | value => some value

namespace Settings

/-- A number as the value of an option. -/
def numberValue (t : Text) : Except UsageError Nat :=
  match Decimal.readWord? t with
  | none => .error .invalidNumber
  | some n => .ok n

/-- A path as the value of an option. -/
def pathValue (t : Text) : Except UsageError Path :=
  if t.isEmpty then .error .missingValue else .ok t

/-- Gives a setting the value that a text spells. -/
def assign (s : Settings) (key : Setting) (t : Text) : Except UsageError Settings :=
  match key with
  | .count => (numberValue t).map fun n => { s with count := some n }
  | .bound => (numberValue t).map fun n => { s with bound := some n }
  | .exercises => (pathValue t).map fun p => { s with exercises := some p }
  | .answers => (pathValue t).map fun p => { s with answers := some p }
  | .maxOps => (numberValue t).map fun n => { s with maxOps := n }
  | .seed => (numberValue t).map fun n => { s with seed := some n }
  | .attempts => (numberValue t).map fun n => { s with attempts := n }
  | .output => (pathValue t).map fun p => { s with output := p }

end Settings

/-- What has been read of a command line. -/
structure Reader where
  /-- The settings so far. -/
  settings : Settings
  /-- The settings that have been given. -/
  given : List Setting
  /-- The last option, if its value is still to be judged, with the value if it has come. -/
  pending : Option (Setting × Option Text)

namespace Reader

/-- The reader before the first argument. -/
def start : Reader := ⟨{}, [], none⟩

/-- Judges an option with its value. -/
def accept (r : Reader) (key : Setting) (value : Text) : Except Interruption Reader :=
  if key ∈ r.given then .error (.refused .repeated)
  else
    match r.settings.assign key value with
    | .error e => .error (.refused e)
    | .ok s => .ok ⟨s, key :: r.given, none⟩

/-- Judges the option that is pending. -/
def settle (r : Reader) : Except Interruption Reader :=
  match r.pending with
  | none => .ok r
  | some (_, none) => .error (.refused .missingValue)
  | some (key, some value) => r.accept key value

/-- Takes up an option, with its value if that is attached. -/
def option (r : Reader) (key : Setting) (value : Option Text) : Except Interruption Reader := do
  let r ← r.settle
  match value with
  | some value => r.accept key value
  | none => return { r with pending := some (key, none) }

/-- Takes up an argument that is no option: the value that is missing, or a stray one. -/
def plain (r : Reader) (t : Text) : Except Interruption Reader :=
  match r.pending with
  | some (key, none) => .ok { r with pending := some (key, some t) }
  | _ => .error (.refused .unknown)

/-- Stops for help or the version, once the option before is in order. -/
def stop (r : Reader) (i : Interruption) : Except Interruption Reader := do
  let _ ← r.settle
  throw i

/-- Takes up a long option. -/
def long (r : Reader) (name : Text) (value : Option Text) : Except Interruption Reader :=
  match Setting.all.find? fun key => key.flag == '-' :: '-' :: name with
  | some key => r.option key value
  | none =>
    let asked :=
      if name = "help".toList then some Interruption.help
      else if name = "version".toList then some Interruption.version
      else none
    match asked, value with
    | none, _ => .error (.refused .unknown)
    | some i, none => r.stop i
    | some _, some _ => .error (.refused .surplusValue)

/-- Takes up a short option. -/
def short (r : Reader) (letter : Char) (rest : Text) : Except Interruption Reader :=
  match Setting.all.find? fun key => key.flag == ['-', letter] with
  | some key => r.option key (Argument.attached? rest)
  | none =>
    if letter = 'h' then r.stop .help
    else if letter = 'V' then r.stop .version
    else .error (.refused .unknown)

/-- Reads the arguments that are left. -/
def read (r : Reader) : List Text → Except Interruption Reader
  | [] => r.settle
  | t :: ts =>
    match Argument.ofText t with
    | .separator => if ts.isEmpty then r.settle else .error (.refused .unknown)
    | .long name value => do (← r.long name value).read ts
    | .short letter rest => do (← r.short letter rest).read ts
    | .plain t => do (← r.plain t).read ts

end Reader

/-- The settings of a command line. -/
def Settings.ofArguments (args : List Text) : Except Interruption Settings :=
  (Reader.start.read args).map Reader.settings

end ArithDrill
