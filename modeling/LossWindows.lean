import LossWindows.Builder.History
import LossWindows.Main
import LossWindows.Window.Drops
import LossWindows.Proofs.Window.Growth
import LossWindows.Proofs.Window.Layout
import LossWindows.Proofs.Builder.Batch
import LossWindows.Proofs.Builder.Record
import LossWindows.Proofs.Builder.Acceptance
import LossWindows.Proofs.RoundTrip
import LossWindows.Proofs.Minimality
import LossWindows.Proofs.Translation
import LossWindows.Proofs.Splitting
import LossWindows.Proofs.Disorder
import LossWindows.Proofs.Text.Utf8
import LossWindows.Proofs.Losses.Reading
import LossWindows.Proofs.Losses.Windows
import LossWindows.Proofs.Losses.Messages
import LossWindows.Proofs.Report.Readable
import LossWindows.Proofs.Command.Endings
import LossWindows.Proofs.Command.Indifference
import LossWindows.Proofs.Builder.Front
import LossWindows.Proofs.Builder.Finality
import LossWindows.Proofs.Realization.Packing
import LossWindows.Proofs.Realization.Window
import LossWindows.Proofs.Run
import LossWindows.Proofs.Realization.Builder
import LossWindows.Proofs.Realization.Unpacking
import LossWindows.Proofs.Conservation
import LossWindows.Proofs.Losses.Extraction
import LossWindows.Proofs.Drop.Grammar
import LossWindows.Proofs.Realization.Writing
import LossWindows.Proofs.Report.Wire
import LossWindows.Proofs.Losses.Refusal
import LossWindows.Proofs.Losses.InPlace
import LossWindows.Proofs.Losses.Account
import LossWindows.Proofs.Builder.Closings
import LossWindows.Proofs.Realization.Tally
import LossWindows.Proofs.Builder.Turns
