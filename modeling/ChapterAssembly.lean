import ChapterAssembly.Book.Basic
import ChapterAssembly.Book.Headers
import ChapterAssembly.Book.Json
import ChapterAssembly.Command.Arguments
import ChapterAssembly.Command.Basic
import ChapterAssembly.Command.Run
import ChapterAssembly.Content.Config
import ChapterAssembly.Content.Error
import ChapterAssembly.Content.Extract
import ChapterAssembly.Content.Format
import ChapterAssembly.Content.Pages
import ChapterAssembly.Content.Pool
import ChapterAssembly.Content.Run.Basic
import ChapterAssembly.Content.Run.Step
import ChapterAssembly.Content.Title
import ChapterAssembly.Content.Walk
import ChapterAssembly.Disk.Access
import ChapterAssembly.Disk.Basic
import ChapterAssembly.Disk.Fault
import ChapterAssembly.Error
import ChapterAssembly.Fetch.Basic
import ChapterAssembly.Fetch.Config
import ChapterAssembly.Fetch.Fetcher
import ChapterAssembly.Fetch.Quota
import ChapterAssembly.Fetch.Request
import ChapterAssembly.Html.Arena
import ChapterAssembly.Html.Builder.Body
import ChapterAssembly.Html.Builder.Foreign
import ChapterAssembly.Html.Builder.Formatting
import ChapterAssembly.Html.Builder.State
import ChapterAssembly.Html.Builder.Step
import ChapterAssembly.Html.Builder.Table
import ChapterAssembly.Html.Node
import ChapterAssembly.Html.Parse
import ChapterAssembly.Html.Print
import ChapterAssembly.Html.Reference
import ChapterAssembly.Html.Token
import ChapterAssembly.Json.Basic
import ChapterAssembly.Json.Read
import ChapterAssembly.Main
import ChapterAssembly.Notes.Diagnostic
import ChapterAssembly.Notes.Event
import ChapterAssembly.Notes.Journal
import ChapterAssembly.Notes.Log
import ChapterAssembly.Proofs.BestEffort
import ChapterAssembly.Proofs.Boundary
import ChapterAssembly.Proofs.Cancellation
import ChapterAssembly.Proofs.Catalog.Errands
import ChapterAssembly.Proofs.Catalog.History
import ChapterAssembly.Proofs.Catalog.Insert
import ChapterAssembly.Proofs.Catalog.Intact
import ChapterAssembly.Proofs.Catalog.Reading
import ChapterAssembly.Proofs.Catalog.Rebuilt
import ChapterAssembly.Proofs.Catalog.Turns
import ChapterAssembly.Proofs.Catalog.Update
import ChapterAssembly.Proofs.Confinement
import ChapterAssembly.Proofs.Course
import ChapterAssembly.Proofs.Deeds
import ChapterAssembly.Proofs.Detours
import ChapterAssembly.Proofs.Disk
import ChapterAssembly.Proofs.Drive
import ChapterAssembly.Proofs.Ending
import ChapterAssembly.Proofs.Failure
import ChapterAssembly.Proofs.FanOut
import ChapterAssembly.Proofs.Flatten
import ChapterAssembly.Proofs.Growth
import ChapterAssembly.Proofs.Headers
import ChapterAssembly.Proofs.Heading
import ChapterAssembly.Proofs.Html.Cells
import ChapterAssembly.Proofs.Html.Reading
import ChapterAssembly.Proofs.Html.Shape
import ChapterAssembly.Proofs.Images
import ChapterAssembly.Proofs.Isolation
import ChapterAssembly.Proofs.Lateness
import ChapterAssembly.Proofs.Layout
import ChapterAssembly.Proofs.Marker
import ChapterAssembly.Proofs.Occupancy
import ChapterAssembly.Proofs.Paragraphs
import ChapterAssembly.Proofs.Persistence
import ChapterAssembly.Proofs.Program
import ChapterAssembly.Proofs.Replace
import ChapterAssembly.Proofs.Rule.Agreement
import ChapterAssembly.Proofs.Rule.Cache
import ChapterAssembly.Proofs.Rule.Faults
import ChapterAssembly.Proofs.Rule.Spelling
import ChapterAssembly.Proofs.Run.Beside
import ChapterAssembly.Proofs.Run.Gathering
import ChapterAssembly.Proofs.Run.Guard
import ChapterAssembly.Proofs.Run.Plain
import ChapterAssembly.Proofs.Run.Queue
import ChapterAssembly.Proofs.Run.Resolver
import ChapterAssembly.Proofs.Run.Stage
import ChapterAssembly.Proofs.Run.Tasks
import ChapterAssembly.Proofs.Run.Twin
import ChapterAssembly.Proofs.Run.View
import ChapterAssembly.Proofs.Selector.Order
import ChapterAssembly.Proofs.Sharing
import ChapterAssembly.Proofs.Shelf
import ChapterAssembly.Proofs.Spots
import ChapterAssembly.Proofs.Storing
import ChapterAssembly.Proofs.Text.Cuts
import ChapterAssembly.Proofs.Text.Digits
import ChapterAssembly.Proofs.Text.Lines
import ChapterAssembly.Proofs.Text.Pieces
import ChapterAssembly.Proofs.Text.Utf8
import ChapterAssembly.Proofs.Time.Timestamp
import ChapterAssembly.Proofs.Title
import ChapterAssembly.Proofs.Url.Host
import ChapterAssembly.Proofs.Url.Parts
import ChapterAssembly.Proofs.Walk
import ChapterAssembly.Proofs.Ways
import ChapterAssembly.Proofs.Xml.Written
import ChapterAssembly.Regex.Basic
import ChapterAssembly.Regex.Class
import ChapterAssembly.Regex.Parse
import ChapterAssembly.Regex.Program
import ChapterAssembly.Regex.Replace
import ChapterAssembly.Rule.Basic
import ChapterAssembly.Rule.Evaluator
import ChapterAssembly.Rule.Parse
import ChapterAssembly.Rule.Resolve
import ChapterAssembly.Schedule.Trial
import ChapterAssembly.Schedule.Web
import ChapterAssembly.Selector.Basic
import ChapterAssembly.Selector.Match
import ChapterAssembly.Selector.Parse
import ChapterAssembly.Selector.Token
import ChapterAssembly.Store.Access
import ChapterAssembly.Store.Catalog
import ChapterAssembly.Store.Error
import ChapterAssembly.Store.Shelf
import ChapterAssembly.Text.Basic
import ChapterAssembly.Text.CaseFolding
import ChapterAssembly.Text.Category
import ChapterAssembly.Text.CharSet
import ChapterAssembly.Text.Normal
import ChapterAssembly.Text.Property
import ChapterAssembly.Text.Quoted
import ChapterAssembly.Text.Script
import ChapterAssembly.Text.Utf8
import ChapterAssembly.Time.Date
import ChapterAssembly.Time.Timestamp
import ChapterAssembly.Url.Basic
import ChapterAssembly.Url.Domain
import ChapterAssembly.Url.DomainTable
import ChapterAssembly.Url.Error
import ChapterAssembly.Url.Host
import ChapterAssembly.Url.Link
import ChapterAssembly.Url.Parse
import ChapterAssembly.Url.Percent
import ChapterAssembly.Url.Punycode
import ChapterAssembly.Xml.Element
import ChapterAssembly.Xml.Text
import ChapterAssembly.Xml.Token
