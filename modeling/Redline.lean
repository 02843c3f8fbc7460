/-
  Redline — entries with a header, kept in a store, and previews of what is about to change in them.

  An entry is a document: a header of fields and a body.  A preview lays the text of a form beside
  the text that is stored, line by line, and saves it once that is confirmed.  The program is written
  over an access to files (`FileAccess`), so it runs in `IO` and, for its theory, on file trees as
  values.

  The modules of a topic stand together, first the program and then what is proved about it, each
  behind those that it builds on:

  1. **Texts** — blanks, numerals, pieces and quotes; JSON and TOML.
  2. **Documents** — ids and metadata; the header in front of a body, written and read back.
  3. **Differences** — the table, the alignment, its runs and its hunks; how they are shown.
  4. **Stores** — files and file trees; a store in memory and one in a directory, their entries, and
     what their calls leave behind.
  5. **Previews** — sessions that are prepared and confirmed, also where a store fails.
  6. **The program** — the values that it exchanges, its commands, and what they do to files.
-/
import Redline.Text.Blank
import Redline.Text.Double
import Redline.Text.Hexadecimal
import Redline.Text.Numeral
import Redline.Text.Pieces
import Redline.Text.Printable
import Redline.Text.Quoted
import Redline.Proofs.Text.Blank
import Redline.Proofs.Text.Pieces
import Redline.Proofs.Text.Numeral
import Redline.Json.Number
import Redline.Json.Value
import Redline.Json.Record
import Redline.Json.Token
import Redline.Json.Read
import Redline.Json.Write
import Redline.Proofs.Json.Text
import Redline.Proofs.Json.Tokens
import Redline.Proofs.Json.Read
import Redline.Proofs.Json.Record
import Redline.Toml.Scanner
import Redline.Toml.Value
import Redline.Toml.Moment
import Redline.Toml.Number
import Redline.Toml.Table
import Redline.Toml.Text
import Redline.Toml.Read
import Redline.Entry.Id
import Redline.Entry.Document
import Redline.Proofs.Entry.Id
import Redline.FrontMatter.Encode
import Redline.FrontMatter.Fields
import Redline.FrontMatter.Decode
import Redline.Proofs.FrontMatter.Header
import Redline.Proofs.FrontMatter.Grammar
import Redline.Proofs.FrontMatter.Written
import Redline.Proofs.FrontMatter.Lines
import Redline.Proofs.FrontMatter.Overrides
import Redline.Proofs.FrontMatter.RoundTrip
import Redline.Proofs.FrontMatter.Reread
import Redline.Proofs.FrontMatter.Dates
import Redline.Diff.Table
import Redline.Diff.Line
import Redline.Diff.Align
import Redline.Diff.Run
import Redline.Diff.Hunk
import Redline.Proofs.Diff.Subsequence
import Redline.Proofs.Diff.Table
import Redline.Proofs.Diff.Run
import Redline.Proofs.Diff.Script
import Redline.Proofs.Diff.Alignment
import Redline.Proofs.Diff.Counted
import Redline.Proofs.Diff.RunForm
import Redline.Proofs.Diff.Stretch
import Redline.Proofs.Diff.Tail
import Redline.Proofs.Diff.Block
import Redline.Proofs.Diff.Cells
import Redline.Proofs.Diff.Group
import Redline.Proofs.Diff.Identical
import Redline.Proofs.Diff.Latest
import Redline.Proofs.Diff.Removal
import Redline.Proofs.Diff.Hunk
import Redline.Proofs.Diff.Patch
import Redline.Proofs.Diff.Numbers
import Redline.Render.Style
import Redline.Render.Painter
import Redline.Proofs.Render.Color
import Redline.Proofs.Render.Reading
import Redline.Proofs.Render.Style
import Redline.Files.Path
import Redline.Files.Access
import Redline.Files.Tree
import Redline.Proofs.Files.Tree
import Redline.Proofs.Files.Operations
import Redline.Proofs.Files.Contents
import Redline.Proofs.Files.Distinct
import Redline.Store.Basic
import Redline.Store.Catalog
import Redline.Store.Faults
import Redline.Store.Memory
import Redline.Store.Directory
import Redline.Proofs.Store.Calls
import Redline.Proofs.Store.Catalog
import Redline.Proofs.Store.Memory
import Redline.Proofs.Store.Names
import Redline.Proofs.Store.Directory
import Redline.Proofs.Store.Equivalence
import Redline.Proofs.Store.Fresh
import Redline.Proofs.Store.Related
import Redline.Proofs.Store.Invariant
import Redline.Proofs.Store.Saved
import Redline.Proofs.Store.Atomic
import Redline.Proofs.Store.Listing
import Redline.Proofs.Store.Rooted
import Redline.Proofs.Store.Roots
import Redline.Proofs.Store.Closed
import Redline.Proofs.Store.Made
import Redline.Proofs.Store.Recorded
import Redline.Proofs.Store.Tenants
import Redline.Proofs.Store.Isolation
import Redline.Preview.Form
import Redline.Preview.Session
import Redline.Preview.Workflow
import Redline.Proofs.Preview.Requests
import Redline.Proofs.Preview.Calls
import Redline.Proofs.Preview.Clean
import Redline.Proofs.Preview.Interleaved
import Redline.Proofs.Preview.Body
import Redline.Proofs.Preview.Dates
import Redline.Proofs.Preview.Planned
import Redline.Proofs.Preview.Unchanged
import Redline.Proofs.Preview.Reopened
import Redline.Proofs.Preview.Renewed
import Redline.Proofs.Preview.Retry
import Redline.Exchange.Diff
import Redline.Exchange.Entry
import Redline.Exchange.Preview
import Redline.Proofs.Exchange.RoundTrip
import Redline.Console.Usage
import Redline.Console.Command
import Redline.Console.Report
import Redline.Console.Settings
import Redline.Console.Run
import Redline.Proofs.Console.Effects
import Redline.Proofs.Console.Differences
import Redline.Main
