import DirectiveStrip.Main
import DirectiveStrip.Proofs.Guard.WrittenForm
import DirectiveStrip.Proofs.Guard.Offender
import DirectiveStrip.Proofs.Resolve.Live
import DirectiveStrip.Proofs.Resolve.Copies
import DirectiveStrip.Proofs.Resolve.Descent
import DirectiveStrip.Proofs.Resolve.Outline
import DirectiveStrip.Proofs.Resolve.Failure
import DirectiveStrip.Proofs.Resolve.Agreement
import DirectiveStrip.Proofs.Resolve.Verdict
import DirectiveStrip.Proofs.Resolve.Reached
import DirectiveStrip.Proofs.Resolve.Comparison
import DirectiveStrip.Proofs.Resolve.Relaxed
import DirectiveStrip.Proofs.Line.Joined
import DirectiveStrip.Proofs.Line.Appended
import DirectiveStrip.Proofs.Resolve.Again
import DirectiveStrip.Proofs.Resolve.Appended
import DirectiveStrip.Proofs.Resolve.Terminators
import DirectiveStrip.Proofs.Command.Frame
import DirectiveStrip.Proofs.Command.Explanation
import DirectiveStrip.Proofs.Line.Reader
import DirectiveStrip.Proofs.Command.Delivery
import DirectiveStrip.Proofs.Line.Partition
import DirectiveStrip.Proofs.Resolve.Verbatim
import DirectiveStrip.Proofs.Guard.History
import DirectiveStrip.Proofs.Command.SymbolNames
import DirectiveStrip.Proofs.Guard.Association
import DirectiveStrip.Proofs.Guard.Cut
import DirectiveStrip.Proofs.Guard.Cursor
import DirectiveStrip.Proofs.Resolve.Reread
