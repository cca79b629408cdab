import DebugOutline.Console.Memory
import DebugOutline.Main
import DebugOutline.Proofs.Lookup
import DebugOutline.Proofs.Change
import DebugOutline.Proofs.WellFormed
import DebugOutline.Proofs.Finish
import DebugOutline.Proofs.Links
import DebugOutline.Proofs.Placing
import DebugOutline.Proofs.Growth
import DebugOutline.Proofs.Tree
import DebugOutline.Proofs.Entries
import DebugOutline.Proofs.EntryTree
import DebugOutline.Proofs.Ancestry
import DebugOutline.Proofs.Walk
import DebugOutline.Proofs.Context
import DebugOutline.Proofs.Selected
import DebugOutline.Proofs.Storage
import DebugOutline.Proofs.SplitWhole
import DebugOutline.Proofs.Resolution
import DebugOutline.Proofs.Pruning
import DebugOutline.Proofs.SplitClash
import DebugOutline.Proofs.Renaming
import DebugOutline.Proofs.Parts
import DebugOutline.Proofs.Visits
import DebugOutline.Proofs.Completing
import DebugOutline.Proofs.Document
import DebugOutline.Proofs.Origin
import DebugOutline.Proofs.Joining
import DebugOutline.Proofs.Apart
import DebugOutline.Proofs.Searching
import DebugOutline.Proofs.Qualifying
import DebugOutline.Proofs.Described
import DebugOutline.Proofs.Spelled
import DebugOutline.Proofs.Moving
import DebugOutline.Proofs.MovedOutline
import DebugOutline.Proofs.MovedPasses
import DebugOutline.Proofs.MovedText
import DebugOutline.Proofs.Lines
import DebugOutline.Proofs.Fields
import DebugOutline.Proofs.Shape
import DebugOutline.Proofs.Tallied
import DebugOutline.Proofs.Declared
import DebugOutline.Proofs.NameRules
import DebugOutline.Proofs.Suffixes
import DebugOutline.Proofs.Globals
import DebugOutline.Proofs.Combining
import DebugOutline.Proofs.Sorting
import DebugOutline.Proofs.ShownRows
import DebugOutline.Proofs.Overriding
import DebugOutline.Proofs.Columns
import DebugOutline.Proofs.SplitStops
import DebugOutline.Proofs.Malformed
import DebugOutline.Proofs.Extents
import DebugOutline.Proofs.AttributeLists
import DebugOutline.Proofs.Nesting
import DebugOutline.Proofs.Progress
import DebugOutline.Proofs.UnitLayout
import DebugOutline.Proofs.Spans
import DebugOutline.Proofs.Scanning
import DebugOutline.Proofs.Following
import DebugOutline.Proofs.FollowingClasses
import DebugOutline.Proofs.FollowingPattern
import DebugOutline.Proofs.WholeNames
import DebugOutline.Proofs.Aliases
import DebugOutline.Proofs.Announcing
import DebugOutline.Proofs.CountedDocument
import DebugOutline.Proofs.NamingRuns
import DebugOutline.Proofs.ScopeTrails
import DebugOutline.Proofs.Quoting
import DebugOutline.Proofs.Table
import DebugOutline.Proofs.FileNumbers
