import DepartureRules.Text.Blank
import DepartureRules.Text.DecimalDigit
import DepartureRules.Text.Uppercase
import DepartureRules.Text.Quoted
import DepartureRules.Json.Text
import DepartureRules.Json.Number
import DepartureRules.Json.Reader
import DepartureRules.Json.Value
import DepartureRules.Moment
import DepartureRules.Rules.Document
import DepartureRules.Rules.Printer
import DepartureRules.Rules.Index
import DepartureRules.Outcome
import DepartureRules.Rules.Verdict
import DepartureRules.Selection.Ranking
import DepartureRules.Route.Parser
import DepartureRules.Route.Designator
import DepartureRules.FlightPlan.Message
import DepartureRules.Checker
import DepartureRules.Source.Snapshot
import DepartureRules.Polling.Backoff
import DepartureRules.Polling.Basic
import DepartureRules.Live.Event
import DepartureRules.Live.Server
import DepartureRules.CommandLine.Run
import DepartureRules.Main
import DepartureRules.Proofs.Selection.Choice
import DepartureRules.Proofs.Selection.Warning
import DepartureRules.Proofs.Live.Settling
import DepartureRules.Proofs.Live.Moves
import DepartureRules.Proofs.Live.Numbering
import DepartureRules.Proofs.Live.Tracking
import DepartureRules.Proofs.Live.Statuses
import DepartureRules.Proofs.Live.Outcome
import DepartureRules.Proofs.Live.Confluence
import DepartureRules.Proofs.Text.Words
import DepartureRules.Proofs.Route.Outlines
import DepartureRules.Proofs.Route.Itinerary
import DepartureRules.Proofs.Route.RoundTrip
import DepartureRules.Proofs.Route.Bare
import DepartureRules.Proofs.Route.Recorded
import DepartureRules.Proofs.Live.Isolation
import DepartureRules.Proofs.Live.Provenance
import DepartureRules.Proofs.FlightPlan.Points
import DepartureRules.Proofs.Json.Restored
import DepartureRules.Proofs.Json.Yielded
import DepartureRules.Proofs.Rules.RoundTrip
import DepartureRules.Proofs.Live.Serving
import DepartureRules.Proofs.Live.Online
import DepartureRules.Proofs.CommandLine.Horizon
import DepartureRules.Proofs.CommandLine.Agreement
import DepartureRules.Proofs.Live.Advance
import DepartureRules.Proofs.Live.Fetches
import DepartureRules.Proofs.Live.Loaded
import DepartureRules.Proofs.Guarded.Basic
import DepartureRules.Proofs.Guarded.Route
import DepartureRules.Proofs.Guarded.Selection
import DepartureRules.Proofs.Checker.Decisions
import DepartureRules.Proofs.Checker.Guarded
import DepartureRules.Proofs.Rules.LastRecord
import DepartureRules.Proofs.Rules.Daily
import DepartureRules.Proofs.Live.Deadline
import DepartureRules.Proofs.Text.Respaced
import DepartureRules.Proofs.FlightPlan.Fields
import DepartureRules.Proofs.FlightPlan.Relaid
import DepartureRules.Proofs.FlightPlan.RoundTrip
import DepartureRules.Proofs.Selection.Patterns
import DepartureRules.Proofs.Selection.Levels
import DepartureRules.Proofs.Checker.LetterCase
import DepartureRules.Proofs.Live.Refused
import DepartureRules.Proofs.Live.Refreshes
import DepartureRules.Proofs.Polling.Budget
import DepartureRules.Proofs.TimeOfDay.Forms
import DepartureRules.Proofs.Route.Plain
import DepartureRules.Proofs.Aircraft.Search
import DepartureRules.Proofs.Polling.Doubling
import DepartureRules.Proofs.Live.Spacing
