import Fleet.AbortSignal
import Fleet.Address
import Fleet.Blank
import Fleet.Client
import Fleet.CommandLine.Config
import Fleet.CommandLine.Passes
import Fleet.CommandLine.Reader
import Fleet.CommandLine.Run
import Fleet.CommandLine.Switch
import Fleet.CommandLine.Targets
import Fleet.CommandTemplate
import Fleet.Console
import Fleet.Copy.Acknowledgement
import Fleet.Copy.Listing
import Fleet.Copy.Sender
import Fleet.Disk
import Fleet.Dispatch
import Fleet.Dispatch.Lane
import Fleet.Dispatch.Outcome
import Fleet.Dispatch.Preparation
import Fleet.Dispatch.Schedule
import Fleet.Dispatch.State
import Fleet.Dispatch.Statistics
import Fleet.Dispatch.Step
import Fleet.Error
import Fleet.ExitStatus
import Fleet.FilePath
import Fleet.FileSystem
import Fleet.Gate
import Fleet.Host
import Fleet.HostsFile
import Fleet.Interrupt
import Fleet.LabelColor
import Fleet.LetterCase
import Fleet.LineReader
import Fleet.Main
import Fleet.Numeral
import Fleet.Options
import Fleet.Phase
import Fleet.Record
import Fleet.Rehearsal
import Fleet.Relay
import Fleet.Session
import Fleet.Shell.Builtins
import Fleet.Shell.Evaluate
import Fleet.Shell.Format
import Fleet.Shell.Lexer
import Fleet.Shell.Machine
import Fleet.Shell.Perform
import Fleet.Shell.Reader
import Fleet.Shell.Syntax
import Fleet.Shell.Tools
import Fleet.ShellWords
import Fleet.Source
import Fleet.TargetList
import Fleet.Template.Element
import Fleet.Template.Helper
import Fleet.Template.Layout
import Fleet.Template.Nesting
import Fleet.Template.Reader
import Fleet.Template.Render
import Fleet.Template.Value
import Fleet.Utf8
import Fleet.Vigil
import Fleet.Waiting
import Fleet.Watchdog
import Fleet.Workplace
import Fleet.Yaml.Cursor
import Fleet.Yaml.Lexer
import Fleet.Yaml.Node
import Fleet.Yaml.Scalar
import Fleet.Yaml.Token
import Fleet.Yaml.Value
import Fleet.Proofs.Step
import Fleet.Proofs.Run
import Fleet.Proofs.Start
import Fleet.Proofs.Lifecycle
import Fleet.Proofs.Ending
import Fleet.Proofs.Fairness
import Fleet.Proofs.Fate
import Fleet.Proofs.Faults
import Fleet.Proofs.Latency
import Fleet.Proofs.Decoding
import Fleet.Proofs.Lines
import Fleet.Proofs.Labels
import Fleet.Proofs.Lockstep
import Fleet.Proofs.Relaying
import Fleet.Proofs.Reports
import Fleet.Proofs.Slots
import Fleet.Proofs.Stopping
import Fleet.Proofs.Probe
import Fleet.Proofs.Output
import Fleet.Proofs.Answers
import Fleet.Proofs.Exchange
import Fleet.Proofs.Wire
import Fleet.Proofs.Copying
import Fleet.Proofs.Naming
import Fleet.Proofs.Outlook
import Fleet.Proofs.Foretold
import Fleet.Proofs.Isolation
import Fleet.Proofs.Preflight
import Fleet.Proofs.Passes
import Fleet.Proofs.Patience
import Fleet.Proofs.Findings
import Fleet.Proofs.Statuses
import Fleet.Proofs.Waiting
import Fleet.Proofs.Gate
import Fleet.Proofs.Admission
import Fleet.Proofs.AddressUse
import Fleet.Proofs.Launching
import Fleet.Proofs.Warnings
import Fleet.Proofs.Extraction
import Fleet.Proofs.Precedence
import Fleet.Proofs.Chunking
import Fleet.Proofs.PathOrder
import Fleet.Proofs.Enumeration
import Fleet.Proofs.Quoting
import Fleet.Proofs.Rendering
import Fleet.Proofs.Lookups
import Fleet.Proofs.Cycles
import Fleet.Proofs.Interrupts
import Fleet.Proofs.HostText
import Fleet.Proofs.Selection
import Fleet.Proofs.CommandWords
import Fleet.Proofs.Substitution
import Fleet.Proofs.Timeline
import Fleet.Proofs.TimeLeft
import Fleet.Proofs.AbortSignal
