import LoopLesson.Command.Display
import LoopLesson.Command.Folder
import LoopLesson.Command.Invocation
import LoopLesson.Command.LogFilter
import LoopLesson.Command.Program
import LoopLesson.Command.Settings
import LoopLesson.Json.Value
import LoopLesson.Lesson.Catalogue
import LoopLesson.Lesson.Comparison
import LoopLesson.Lesson.Fault
import LoopLesson.Lesson.Kind
import LoopLesson.Lesson.Name
import LoopLesson.Lesson.Part
import LoopLesson.Lesson.Script
import LoopLesson.Loop.Clause
import LoopLesson.Loop.Counting
import LoopLesson.Loop.Items
import LoopLesson.Loop.Phrase
import LoopLesson.Loop.Visits
import LoopLesson.Main
import LoopLesson.Number.Binary64
import LoopLesson.Number.Decimal
import LoopLesson.Number.Display
import LoopLesson.Number.Integer
import LoopLesson.Number.Shortest
import LoopLesson.Pattern.Bracket
import LoopLesson.Pattern.CodeRanges
import LoopLesson.Pattern.Cursor
import LoopLesson.Pattern.Escape
import LoopLesson.Pattern.Fault
import LoopLesson.Pattern.Group
import LoopLesson.Pattern.Machine
import LoopLesson.Pattern.Meaning
import LoopLesson.Pattern.NamePattern
import LoopLesson.Pattern.Property
import LoopLesson.Pattern.PropertyValue
import LoopLesson.Pattern.Quoted
import LoopLesson.Pattern.Reading
import LoopLesson.Pattern.Repetition
import LoopLesson.Pattern.Room
import LoopLesson.Pattern.Syntax
import LoopLesson.Pattern.Tree
import LoopLesson.Playback.Counting
import LoopLesson.Playback.Event
import LoopLesson.Playback.Items
import LoopLesson.Playback.Json
import LoopLesson.Playback.Lesson
import LoopLesson.Proofs.Tutor.Playhead
import LoopLesson.Proofs.Tutor.Reactions
import LoopLesson.Proofs.Tutor.Runs
import LoopLesson.Statement.Arguments
import LoopLesson.Statement.Bindings
import LoopLesson.Statement.Console
import LoopLesson.Statement.Substitution
import LoopLesson.Text.Blank
import LoopLesson.Text.CharClass
import LoopLesson.Text.DecimalDigit
import LoopLesson.Text.Identifier
import LoopLesson.Text.Letter
import LoopLesson.Text.Search
import LoopLesson.Text.Word
import LoopLesson.Tour.Basic
import LoopLesson.Tour.Stage
import LoopLesson.Tutor.Basic
import LoopLesson.Tutor.Notice
import LoopLesson.Tutor.Playhead
import LoopLesson.Yaml.Character
import LoopLesson.Yaml.Document
import LoopLesson.Yaml.Node
import LoopLesson.Yaml.Property
import LoopLesson.Yaml.Scalar
import LoopLesson.Yaml.Token
import LoopLesson.Yaml.Tokens
import LoopLesson.Proofs.Tutor.Ownership
import LoopLesson.Proofs.Playback.Closing
import LoopLesson.Proofs.Tutor.Stepping
import LoopLesson.Proofs.Loop.Stages
import LoopLesson.Proofs.Loop.Visits
import LoopLesson.Proofs.Playback.CountingRun
import LoopLesson.Proofs.Loop.Grammar
import LoopLesson.Proofs.Loop.Reading
import LoopLesson.Proofs.Tutor.Locality
import LoopLesson.Proofs.Tutor.TourErasure
import LoopLesson.Proofs.Tutor.Isolation
import LoopLesson.Proofs.Tutor.Sharing
import LoopLesson.Proofs.Tutor.Display
import LoopLesson.Proofs.Tour.Progress
import LoopLesson.Proofs.Tour.Staging
import LoopLesson.Proofs.Tour.Occupancy
import LoopLesson.Proofs.Tour.Scheduling
import LoopLesson.Proofs.Playback.Wording
import LoopLesson.Proofs.Playback.Highlights
import LoopLesson.Proofs.Command.Loading
import LoopLesson.Proofs.Command.Running
import LoopLesson.Proofs.Command.Replaying
import LoopLesson.Proofs.Number.Rounding
import LoopLesson.Proofs.Number.Spelling
import LoopLesson.Proofs.Number.ReadBack
import LoopLesson.Proofs.Loop.Arrays
import LoopLesson.Proofs.Playback.RoundTrip
import LoopLesson.Proofs.Loop.Progression
import LoopLesson.Proofs.Statement.Splitting
import LoopLesson.Proofs.Statement.Logging
import LoopLesson.Proofs.Playback.ItemBodies
import LoopLesson.Proofs.Statement.Segmentation
import LoopLesson.Proofs.Text.Stretches
import LoopLesson.Proofs.Statement.WholeWords
import LoopLesson.Proofs.Statement.WholeIdentifiers
import LoopLesson.Proofs.Statement.Simultaneous
import LoopLesson.Proofs.Playback.BodyBindings
import LoopLesson.Proofs.Statement.Evaluated
import LoopLesson.Proofs.Tutor.Refusals
import LoopLesson.Proofs.Tutor.HighlightNotices
import LoopLesson.Proofs.Loop.ArrayReading
import LoopLesson.Proofs.Playback.ItemRun
import LoopLesson.Proofs.Tutor.Advances
import LoopLesson.Proofs.Command.PrintedBodies
import LoopLesson.Proofs.Tour.Walking
import LoopLesson.Proofs.Tour.Timing
