import SymbolSieve.Text.Utf8
import SymbolSieve.Text.Blank
import SymbolSieve.Candidate
import SymbolSieve.Record
import SymbolSieve.Text.Utf16
import SymbolSieve.Stream.Source
import SymbolSieve.Stream.Transcoder
import SymbolSieve.Stream.Lines
import SymbolSieve.Text.Printable
import SymbolSieve.Text.Quoted
import SymbolSieve.Fault
import SymbolSieve.Decoder
import SymbolSieve.Sink
import SymbolSieve.Sieve
import SymbolSieve.Yaml.Input
import SymbolSieve.Yaml.Token
import SymbolSieve.Yaml.Scanner
import SymbolSieve.Yaml.Event
import SymbolSieve.Text.Base64
import SymbolSieve.Yaml.Numeral
import SymbolSieve.Yaml.Timestamp
import SymbolSieve.Yaml.Scalar
import SymbolSieve.Yaml.Node
import SymbolSieve.Settings
import SymbolSieve.Host.Files
import SymbolSieve.Text.Decimal
import SymbolSieve.Host.Signal
import SymbolSieve.Host.Kernel
import SymbolSieve.Shell.Syntax
import SymbolSieve.Shell.Reader
import SymbolSieve.Shell.Number
import SymbolSieve.Shell.State
import SymbolSieve.Shell.Arith
import SymbolSieve.Shell.Pattern
import SymbolSieve.Shell.Test
import SymbolSieve.Shell.Expand
import SymbolSieve.Shell.Printf
import SymbolSieve.Shell.Builtins
import SymbolSieve.Shell.Redirect
import SymbolSieve.Shell.Eval
import SymbolSieve.Shell.Start
import SymbolSieve.Host.Printf
import SymbolSieve.Host.Exec
import SymbolSieve.Tool
import SymbolSieve.Log
import SymbolSieve.Job
import SymbolSieve.Cli.Flags
import SymbolSieve.Cli.Command
import SymbolSieve.Cli.Complete
import SymbolSieve.Cli.Script
import SymbolSieve.Cli.Script.Bash
import SymbolSieve.Cli.Script.Zsh
import SymbolSieve.Cli.Script.Fish
import SymbolSieve.Cli.Script.PowerShell
import SymbolSieve.Cli
import SymbolSieve.Main
import SymbolSieve.Proofs.LineSplit
import SymbolSieve.Proofs.Utf16Decoding
import SymbolSieve.Proofs.Transcoding
import SymbolSieve.Proofs.ReadFailure
import SymbolSieve.Proofs.DecodingReader
import SymbolSieve.Proofs.SieveFold
import SymbolSieve.Proofs.SieveRuns
import SymbolSieve.Proofs.SourceLines
import SymbolSieve.Proofs.FileJob
import SymbolSieve.Proofs.SinkLimit
import SymbolSieve.Proofs.BufferedOutput
import SymbolSieve.Proofs.CandidateLines
import SymbolSieve.Proofs.Cancellation
import SymbolSieve.Proofs.Utf8RoundTrip
import SymbolSieve.Proofs.RecordLayout
import SymbolSieve.Proofs.MissingTool
import SymbolSieve.Proofs.FaultKinds
import SymbolSieve.Proofs.ToolOutcomes
import SymbolSieve.Proofs.DebugLog
