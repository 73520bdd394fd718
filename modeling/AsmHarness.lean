import AsmHarness.Main
import AsmHarness.Proofs.Banners
import AsmHarness.Proofs.Check
import AsmHarness.Proofs.Command
import AsmHarness.Proofs.Descriptor.Discovery
import AsmHarness.Proofs.Descriptor.Forms
import AsmHarness.Proofs.Descriptor.Independence
import AsmHarness.Proofs.Descriptor.Names
import AsmHarness.Proofs.Descriptor.Prepare
import AsmHarness.Proofs.Descriptor.Read
import AsmHarness.Proofs.Descriptor.Record
import AsmHarness.Proofs.Descriptor.SharedNames
import AsmHarness.Proofs.Descriptor.Sorting
import AsmHarness.Proofs.Diff.Hunks
import AsmHarness.Proofs.Diff.Patch
import AsmHarness.Proofs.Diff.Script
import AsmHarness.Proofs.Diff.Settle
import AsmHarness.Proofs.Diff.Shortest
import AsmHarness.Proofs.Diff.Unified
import AsmHarness.Proofs.Diff.Walk
import AsmHarness.Proofs.Effects
import AsmHarness.Proofs.Environment
import AsmHarness.Proofs.Environment.Started
import AsmHarness.Proofs.Execution
import AsmHarness.Proofs.Execution.Ends
import AsmHarness.Proofs.FileTree.Access
import AsmHarness.Proofs.FileTree.Alter
import AsmHarness.Proofs.FileTree.Content
import AsmHarness.Proofs.FileTree.Listing
import AsmHarness.Proofs.FileTree.Replace
import AsmHarness.Proofs.Hexdump
import AsmHarness.Proofs.Invocation
import AsmHarness.Proofs.Json.Fields
import AsmHarness.Proofs.Json.Parser
import AsmHarness.Proofs.Json.Printer
import AsmHarness.Proofs.Noted
import AsmHarness.Proofs.Pass
import AsmHarness.Proofs.Path
import AsmHarness.Proofs.Path.Steps
import AsmHarness.Proofs.Report
import AsmHarness.Proofs.Report.Content
import AsmHarness.Proofs.Reported
import AsmHarness.Proofs.RoundTrip
import AsmHarness.Proofs.Scaffold.Record
import AsmHarness.Proofs.Scaffold.Source
import AsmHarness.Proofs.Stopping
import AsmHarness.Proofs.Substitution
import AsmHarness.Proofs.Template
import AsmHarness.Proofs.Template.Again
import AsmHarness.Proofs.Text.ByteOrder
import AsmHarness.Proofs.Text.Lines
import AsmHarness.Proofs.Update
import AsmHarness.Proofs.Update.Again
import AsmHarness.Proofs.Update.Outcome
import AsmHarness.Proofs.Update.Permission
import AsmHarness.Proofs.Update.Stored
import AsmHarness.Proofs.Utf8
import AsmHarness.Proofs.Utf8.Lossy
import AsmHarness.Proofs.Utf8.Unfinished
import AsmHarness.Proofs.Verify
