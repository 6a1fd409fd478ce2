import QueryBridge.Completion
import QueryBridge.Main
import QueryBridge.Proofs.Session.LastWriter
import QueryBridge.Proofs.Session.Ledger
import QueryBridge.Proofs.View.Transitions
import QueryBridge.Proofs.Session.Commute
import QueryBridge.Proofs.Repl.Course
import QueryBridge.Proofs.Session.Separation
import QueryBridge.Proofs.Repl.KeptInput
import QueryBridge.Proofs.Repl.Leaving
import QueryBridge.Proofs.Repl.EntryNumber
import QueryBridge.Proofs.Terminal.Handshake
import QueryBridge.Proofs.CommandLine.Decoding
import QueryBridge.Proofs.Settings.Saving
import QueryBridge.Proofs.Settings.Answers
import QueryBridge.Proofs.Settings.Precedence
import QueryBridge.Proofs.OneShot.Query
import QueryBridge.Proofs.OneShot.Sending
import QueryBridge.Proofs.Unicode.Tables
import QueryBridge.Proofs.Unicode.Normal
import QueryBridge.Proofs.Url.Hosts
import QueryBridge.Proofs.Url.Requests
import QueryBridge.Proofs.View.Colors
import QueryBridge.Proofs.View.Rows
import QueryBridge.Proofs.Repl.Colors
import QueryBridge.Proofs.View.Batches
import QueryBridge.Proofs.Repl.Submitting
import QueryBridge.Proofs.Session.Resubmission
import QueryBridge.Proofs.Files.AllOrNothing
import QueryBridge.Proofs.Files.Leftover
import QueryBridge.Proofs.Reply.Precedence
import QueryBridge.Proofs.View.LineFeeds
import QueryBridge.Proofs.View.Previews
import QueryBridge.Proofs.View.Devices
import QueryBridge.Proofs.Repl.Scope
import QueryBridge.Proofs.Repl.Completing
