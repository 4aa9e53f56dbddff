import Grading.Main
import Grading.Watch.DirectoryWatch
import Grading.Watch.Rehearsal
import Grading.Watch.History
import Grading.Proofs.Watch.Rehearsed
import Grading.Proofs.Watch.Ledger
import Grading.Proofs.Watch.Registry
import Grading.Proofs.Watch.Effect
import Grading.Proofs.Watch.Freshness
import Grading.Proofs.Source.Restart
import Grading.Proofs.Source.Grammar
import Grading.Proofs.Source.Literal
import Grading.Proofs.Source.Rendering
import Grading.Proofs.Rule.Kept
import Grading.Proofs.Run.Independence
import Grading.Proofs.Rule.Answer
import Grading.Proofs.Run.Outcome
import Grading.Proofs.Source.Phase
import Grading.Proofs.Source.Delimiters
import Grading.Proofs.Rule.Valid
import Grading.Proofs.Rule.Validation
import Grading.Proofs.Watch.Subscribers
import Grading.Proofs.Watch.Unsubscribed
import Grading.Proofs.Watch.Turn
import Grading.Proofs.Watch.Burst
import Grading.Proofs.Watch.Calls
import Grading.Proofs.Watch.Halt
import Grading.Proofs.Watch.Held
import Grading.Proofs.Watch.Indifferent
import Grading.Proofs.Watch.Recovery
import Grading.Proofs.Source.Placement
import Grading.Proofs.Source.Opaque
import Grading.Proofs.Source.Located
import Grading.Proofs.Source.Value
import Grading.Proofs.Source.Declared
import Grading.Proofs.Rule.Reported
import Grading.Proofs.Files.Decoding
import Grading.Proofs.Files.Loading
import Grading.Proofs.Report.RoundTrip
import Grading.Proofs.Watch.Honest
import Grading.Proofs.Watch.Timers
import Grading.Proofs.Watch.Tables
import Grading.Proofs.Watch.Underway
import Grading.Proofs.Watch.Delivery
import Grading.Proofs.Watch.Apart
import Grading.Proofs.Watch.Alone
import Grading.Proofs.Source.Regex
import Grading.Proofs.Source.Causal
import Grading.Proofs.Source.Progress
import Grading.Proofs.Rule.Occurrence
import Grading.Proofs.Rule.Check
import Grading.Proofs.Rule.Verdict
import Grading.Proofs.Rule.Diagnosis
import Grading.Proofs.Rule.Widening
import Grading.Proofs.Rule.Message
import Grading.Proofs.Library.Register
import Grading.Proofs.Library.Latest
import Grading.Proofs.Library.Views
import Grading.Proofs.Compiler.Colours
import Grading.Proofs.Compiler.LineByLine
import Grading.Proofs.Compiler.Printed
import Grading.Proofs.Compiler.Told
import Grading.Proofs.Library.Scaffold
import Grading.Proofs.Report.Skipping
import Grading.Proofs.Run.Failing
import Grading.Proofs.Watch.Scheduled
import Grading.Proofs.Watch.Starting
