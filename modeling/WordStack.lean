import WordStack.Dictionary.Request
import WordStack.Machine.Description
import WordStack.Machine.Run
import WordStack.Proofs.Effect
import WordStack.Proofs.Comparison
import WordStack.Proofs.Frame
import WordStack.Proofs.Ending
import WordStack.Proofs.Entering
import WordStack.Proofs.Watch
import WordStack.Proofs.Cutting
import WordStack.Proofs.Lowercase
import WordStack.Proofs.Checked
import WordStack.Proofs.Trailing
import WordStack.Proofs.Sequence
import WordStack.Proofs.TokenMachine
import WordStack.Proofs.Rescan
import WordStack.Proofs.Control
import WordStack.Proofs.LetterCase
import WordStack.Proofs.Respelling
import WordStack.Proofs.Recasing
import WordStack.Proofs.Respacing
import WordStack.Proofs.WellFormed
import WordStack.Proofs.Dump
import WordStack.Proofs.Found
import WordStack.Proofs.Moment
import WordStack.Proofs.Plainness
import WordStack.Proofs.CellRange
import WordStack.Proofs.Story
import WordStack.Proofs.Kept
import WordStack.Proofs.OrderedMap
import WordStack.Proofs.Acyclic
import WordStack.Proofs.Postfix
import WordStack.Proofs.Shadowing
import WordStack.Proofs.Stall
import WordStack.Proofs.Inlining
import WordStack.Proofs.Expression
import WordStack.Proofs.Aftermath
import WordStack.Proofs.Grammar
import WordStack.Proofs.Taking
import WordStack.Proofs.Positional
import WordStack.Proofs.EmptyToken
import WordStack.Proofs.Admission
