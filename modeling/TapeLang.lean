import TapeLang.Files.Tree
import TapeLang.Main
import TapeLang.Proofs.Program.Brackets
import TapeLang.Proofs.Program.Layout
import TapeLang.Proofs.Program.WellFormed
import TapeLang.Proofs.Machine.Activity
import TapeLang.Proofs.Tape.Window
import TapeLang.Proofs.Machine.Builtin
import TapeLang.Proofs.Machine.Effects
import TapeLang.Proofs.Machine.Ending
import TapeLang.Proofs.Machine.Placement
import TapeLang.Proofs.Machine.Safety
import TapeLang.Proofs.Semantics.Flat
import TapeLang.Proofs.Semantics.Refinement
import TapeLang.Proofs.Session.Client
import TapeLang.Proofs.Session.Safety
import TapeLang.Proofs.Machine.Coupling
import TapeLang.Proofs.Machine.Resumption
import TapeLang.Proofs.Machine.Frame
import TapeLang.Proofs.Session.Isolation
import TapeLang.Proofs.Text.Utf8
import TapeLang.Proofs.Semantics.Sequence
import TapeLang.Proofs.Session.Batch
import TapeLang.Proofs.Program.Spelling
import TapeLang.Proofs.Program.Canonical
import TapeLang.Proofs.Source.Location
import TapeLang.Proofs.Source.Lines
import TapeLang.Proofs.Program.Balance
import TapeLang.Proofs.Machine.Upkeep
import TapeLang.Proofs.Machine.Outcome
import TapeLang.Proofs.Session.Accounting
import TapeLang.Proofs.Machine.Failure
import TapeLang.Proofs.Session.Diagnosis
import TapeLang.Proofs.Session.Attachment
import TapeLang.Proofs.Machine.Writing
import TapeLang.Proofs.Session.Delivery
import TapeLang.Proofs.Program.LoopFree
import TapeLang.Proofs.Machine.Motion
import TapeLang.Proofs.Machine.Halting
import TapeLang.Proofs.Session.Halting
import TapeLang.Proofs.Log.Recording
import TapeLang.Proofs.Machine.Tracing
import TapeLang.Proofs.Machine.Verbosity
import TapeLang.Proofs.Session.Verbosity
import TapeLang.Proofs.Session.Tracing
import TapeLang.Proofs.Machine.Telling
import TapeLang.Proofs.Machine.Chronicle
import TapeLang.Proofs.Extension.Binding
import TapeLang.Proofs.Machine.ReportChange
import TapeLang.Proofs.Machine.Console
import TapeLang.Proofs.Cli.Arguments
import TapeLang.Proofs.Cli.FileRun
import TapeLang.Proofs.Cli.Literal
import TapeLang.Proofs.Machine.Inclusion
import TapeLang.Proofs.Extension.Loading
import TapeLang.Proofs.Machine.Origin
import TapeLang.Proofs.Session.Keyboard
import TapeLang.Proofs.Machine.Consumption
import TapeLang.Proofs.Cli.Turns
import TapeLang.Proofs.Cli.Survival
import TapeLang.Proofs.Cli.Typing
import TapeLang.Proofs.Program.Seam
import TapeLang.Proofs.Text.Words
import TapeLang.Proofs.Extension.Invocation
import TapeLang.Proofs.Tape.Strip
import TapeLang.Proofs.Machine.Deeds
import TapeLang.Proofs.Session.Unfolding
import TapeLang.Proofs.Machine.Exchange
import TapeLang.Proofs.Machine.Muting
import TapeLang.Proofs.Program.Unfinished
import TapeLang.Proofs.Program.Stepwise
import TapeLang.Proofs.Program.Remainder
import TapeLang.Proofs.Session.Columns
import TapeLang.Proofs.Session.Forwarding
import TapeLang.Proofs.Log.Chain
import TapeLang.Proofs.Log.Counting
