import ArithDrill.Command.Program

/-!
# The command line program

The program on the file system, with its journal on the standard error.  The environment variable
`RUST_LOG` sets which events are shown.

## Main definitions

* `Shell` — the surroundings of the program, with the verbosity of the journal.
* `main` — the program.
-/

namespace ArithDrill

/-- The surroundings of the program: the file system, and the verbosity of the journal. -/
abbrev Shell := ReaderT Verbosity IO

/-- Whether an action ends without an error. -/
private def succeeds (act : IO Unit) : IO Bool := do
  try
    act
    return true
  catch _ => return false

/-- The word that four bytes make up, the lowest first. -/
private def wordAt (bytes : ByteArray) (i : Nat) : UInt32 :=
  let byte (k : Nat) : UInt32 := (bytes.toList.getD (4 * i + k) 0).toUInt32
  byte 0 ||| (byte 1 <<< 8) ||| (byte 2 <<< 16) ||| (byte 3 <<< 24)

instance : Host Shell where
  readText p := do
    try
      let bytes ← IO.FS.readBinFile (String.ofList p)
      return (Contents.ofBytes bytes).text?
    catch _ => return none
  makeDirectory p := succeeds (IO.FS.createDirAll (String.ofList p))
  writeText p t := succeeds (IO.FS.writeFile (String.ofList p) (String.ofList t))
  report r := do
    for line in (← read).lines r do
      IO.eprintln (String.ofList line)
  freshKey := do
    let word := wordAt (← IO.getRandomBytes 32)
    return ⟨⟨word 0, word 1, word 2, word 3⟩, ⟨word 4, word 5, word 6, word 7⟩⟩

/-- The help text. -/
def helpText : Text :=
  "Exercices d’arithmétique exacts (naturels et fractions) : génération et correction.\n".toList ++
  "\nexercices-qpur -n NOMBRE -r PLAGE [--ops-max K] [--graine G] [--tentatives T]\n".toList ++
  "exercices-qpur -e FICHIER -a FICHIER\n".toList ++
  "\n--sortie DOSSIER : où écrire les fichiers (par défaut : .)\n".toList

end ArithDrill

open ArithDrill in
/-- Runs the command line. -/
def main (args : List String) : IO UInt32 := do
  let setting ← IO.getEnv "RUST_LOG"
  let verbosity := Verbosity.ofSetting (setting.map String.toList)
  let ending ← (launch (args.map String.toList) : Shell Ending).run verbosity
  IO.print (String.ofList ending.output)
  match ending with
  | .interrupted .help => IO.print (String.ofList helpText)
  | .interrupted (.refused e) => IO.eprintln (String.ofList e.message)
  | _ => pure ()
  return ending.code.toUInt32
