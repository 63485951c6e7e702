import HouseStyle.CommandLine.Run
import HouseStyle.Main
import HouseStyle.Pattern.Outcomes
import HouseStyle.Service.Request
import HouseStyle.Proofs.Lexing
import HouseStyle.Proofs.Answer
import HouseStyle.Proofs.Scan.Run
import HouseStyle.Proofs.Pattern.Reach
import HouseStyle.Proofs.Scan.Advance
import HouseStyle.Proofs.Scan.Invariant
import HouseStyle.Proofs.Scan.Insertion
import HouseStyle.Proofs.Rule.Sight
import HouseStyle.Proofs.Text
import HouseStyle.Proofs.Written
import HouseStyle.Proofs.Rule.Findings
import HouseStyle.Proofs.Scan.Findings
import HouseStyle.Proofs.Scan.Outcome
import HouseStyle.Proofs.Pattern.Shift
import HouseStyle.Proofs.Scan.Indented
import HouseStyle.Proofs.Indentation
import HouseStyle.Proofs.Scan.Parallel
import HouseStyle.Proofs.Scan.Reindent
import HouseStyle.Proofs.Scan.Depth
import HouseStyle.Proofs.File.Definitions
import HouseStyle.Proofs.File.Findings
import HouseStyle.Proofs.Lookup
import HouseStyle.Proofs.Check
import HouseStyle.Proofs.Limits
import HouseStyle.Proofs.Literals
import HouseStyle.Proofs.Characters
import HouseStyle.Proofs.Scan.Alike
import HouseStyle.Proofs.File.Alike
import HouseStyle.Proofs.Noninterference
import HouseStyle.Proofs.Scan.Layout
import HouseStyle.Proofs.Program.Row
import HouseStyle.Proofs.Program.Statement
import HouseStyle.Proofs.Program.Run
import HouseStyle.Proofs.Scan.Nesting
import HouseStyle.Proofs.Scan.Pending
import HouseStyle.Proofs.Braces
import HouseStyle.Proofs.Scan.Bodies
import HouseStyle.Proofs.Scan.Declarations
import HouseStyle.Proofs.Pattern.Blind
import HouseStyle.Proofs.Comments
import HouseStyle.Proofs.Inclusion
import HouseStyle.Proofs.File.Inclusions
import HouseStyle.Proofs.Scan.Reading
import HouseStyle.Proofs.CommentContents
import HouseStyle.Proofs.Scan.ListBraces
import HouseStyle.Proofs.Pattern.Room
import HouseStyle.Proofs.Rule.Spans
import HouseStyle.Proofs.Scan.Spans
import HouseStyle.Proofs.File.Spans
import HouseStyle.Proofs.Scan.Core
import HouseStyle.Proofs.Scan.LookAhead
import HouseStyle.Proofs.Scan.Beside
import HouseStyle.Proofs.Scan.PassedOver
import HouseStyle.Proofs.Scan.Edge
import HouseStyle.Proofs.Scan.Directives
import HouseStyle.Proofs.Excerpts
import HouseStyle.Proofs.Pattern.Captured
import HouseStyle.Proofs.Shown
import HouseStyle.Proofs.Quoted
import HouseStyle.Proofs.Rule.Quoted
import HouseStyle.Proofs.Scan.Origins
import HouseStyle.Proofs.Scan.TypeHeads
import HouseStyle.Proofs.Scan.CaseBraces
import HouseStyle.Proofs.Scan.Dropped
import HouseStyle.Proofs.Scan.Configured
import HouseStyle.Proofs.Scan.Quoted
import HouseStyle.Proofs.Configured
import HouseStyle.Proofs.Collection
import HouseStyle.Proofs.Configuration
import HouseStyle.Proofs.Foreign
import HouseStyle.Proofs.Naming
import HouseStyle.Proofs.LineEnds
import HouseStyle.Proofs.Pattern.Alphabet
import HouseStyle.Proofs.BareDirective
import HouseStyle.Proofs.Guard
import HouseStyle.Proofs.File.Heads
import HouseStyle.Proofs.File.PointerPlaces
import HouseStyle.Proofs.Pattern.Reading
import HouseStyle.Proofs.Rule.Markers
import HouseStyle.Proofs.Spread
import HouseStyle.Proofs.Rule.Operators
import HouseStyle.Proofs.Rule.Respaced
import HouseStyle.Proofs.Masking
import HouseStyle.Proofs.File.DefinitionBodies
import HouseStyle.Proofs.Scan.CaseBodies
import HouseStyle.Proofs.TypeDeclaration.Agreement
import HouseStyle.Proofs.File.Modification
import HouseStyle.Proofs.File.InclusionOrder
import HouseStyle.Proofs.Scan.BlankRuns
import HouseStyle.Proofs.Messages
import HouseStyle.Proofs.Scan.Told
import HouseStyle.Proofs.Duplicates
import HouseStyle.Proofs.Scan.Conditions
import HouseStyle.Proofs.File.Parameters
import HouseStyle.Proofs.Snippet
