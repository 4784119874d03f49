import ArithDrill.Main
import ArithDrill.Proofs.Rearrangement
import ArithDrill.Proofs.Grammar
import ArithDrill.Proofs.Quotients
import ArithDrill.Proofs.Representatives
import ArithDrill.Proofs.Traversal
import ArithDrill.Proofs.Continuation
import ArithDrill.Proofs.Faults
import ArithDrill.Proofs.Retention
import ArithDrill.Proofs.SameValue
import ArithDrill.Proofs.OperandOrder
import ArithDrill.Proofs.SchoolForms
import ArithDrill.Proofs.Reading
import ArithDrill.Proofs.Forests
import ArithDrill.Proofs.Refusals
import ArithDrill.Proofs.Pieces
import ArithDrill.Proofs.Rendering
import ArithDrill.Proofs.DrawnLiterals
import ArithDrill.Proofs.PlainExercises
import ArithDrill.Proofs.Answers
import ArithDrill.Proofs.Zeros
import ArithDrill.Proofs.WordLoop
import ArithDrill.Proofs.RelaidFiles
import ArithDrill.Proofs.GradeFile
