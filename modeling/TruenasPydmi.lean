import TruenasPydmi.Foundation.Loop
import TruenasPydmi.Foundation.Separator
import TruenasPydmi.Foundation.Tiling
import TruenasPydmi.Errors
import TruenasPydmi.Models
import TruenasPydmi.Walk.Grammar
import TruenasPydmi.Walk.Faults
import TruenasPydmi.Walk.Limit
import TruenasPydmi.Decode.Total
import TruenasPydmi.Decode.Monotone
import TruenasPydmi.Decode.Wide
import TruenasPydmi.Decode.Bios
import TruenasPydmi.Decode.Reserved
import TruenasPydmi.Read.Outcome
import TruenasPydmi.Read.Interleave
import TruenasPydmi.Read.Caches
import TruenasPydmi.Read.Platform
import TruenasPydmi.Walk.Encoding
import TruenasPydmi.Sanitize.Rewrite
import TruenasPydmi.Sanitize.Run
import TruenasPydmi.Sanitize.Intact
import TruenasPydmi.Sanitize.Leak
import TruenasPydmi.Walk.Splice
import TruenasPydmi.Walk.Damage
import TruenasPydmi.Sanitize.Visits
import TruenasPydmi.Sanitize.Any
import TruenasPydmi.Sanitize.Log
import TruenasPydmi.Sanitize.Preserve
import TruenasPydmi.Foundation.Interaction
import TruenasPydmi.Read.World
import TruenasPydmi.Foundation.Cells
import TruenasPydmi.Image.Values
import TruenasPydmi.Image.Records
import TruenasPydmi.Image.RoundTrip
import TruenasPydmi.Image.Table
import TruenasPydmi.Image.Range
import TruenasPydmi.Python.Format
import TruenasPydmi.Python.Strptime
import TruenasPydmi.Image.Dates
import TruenasPydmi.Names
import TruenasPydmi.Decode.Names
import TruenasPydmi.Views
import TruenasPydmi.Decode.Views
import TruenasPydmi.Read.Merge
import TruenasPydmi.Read.Declared
import TruenasPydmi.Sanitize.Refine
import TruenasPydmi.Image.Redact
import TruenasPydmi.Sanitize.Splice
import TruenasPydmi.Sanitize.Faults
