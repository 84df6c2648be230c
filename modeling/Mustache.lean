import Mustache.Cache
import Mustache.Decimal.Fixed
import Mustache.Decimal.Notation
import Mustache.Decimal.Reading
import Mustache.Decimal.Shortest
import Mustache.Delimiters
import Mustache.Digest
import Mustache.Engine
import Mustache.Error
import Mustache.Error.Code
import Mustache.Error.Malformed
import Mustache.Error.Unrenderable
import Mustache.Escape
import Mustache.Files
import Mustache.Files.Pattern
import Mustache.Helpers
import Mustache.Helpers.Shared
import Mustache.Indent
import Mustache.Loader
import Mustache.Log
import Mustache.Log.Message
import Mustache.Options
import Mustache.Proofs.Text.Occurrence
import Mustache.Render
import Mustache.Session
import Mustache.Session.Call
import Mustache.Session.Compile
import Mustache.Session.Configure
import Mustache.Session.Described
import Mustache.Session.Listing
import Mustache.Session.Load
import Mustache.Session.Lookup
import Mustache.Session.Offer
import Mustache.Session.Storage
import Mustache.Signature
import Mustache.Signature.Written
import Mustache.Similar
import Mustache.Snippet
import Mustache.Template
import Mustache.Text.Blank
import Mustache.Text.Case
import Mustache.Text.Charset
import Mustache.Text.Charset.Chinese
import Mustache.Text.Charset.Grid
import Mustache.Text.Charset.Grid.Big5
import Mustache.Text.Charset.Grid.Cp932
import Mustache.Text.Charset.Grid.Gb2312
import Mustache.Text.Charset.Grid.Gbk
import Mustache.Text.Charset.Grid.Hkscs
import Mustache.Text.Charset.Grid.Jisx0208
import Mustache.Text.Charset.Grid.Jisx0212
import Mustache.Text.Charset.Grid.Jisx0213
import Mustache.Text.Charset.Grid.Ksx1001
import Mustache.Text.Charset.Japanese
import Mustache.Text.Charset.Korean
import Mustache.Text.Charset.Names
import Mustache.Text.Charset.Pages
import Mustache.Text.Charset.Spelled
import Mustache.Text.Charset.Stateless
import Mustache.Text.Charset.Switching
import Mustache.Text.Charset.Unicode
import Mustache.Text.Hex
import Mustache.Text.Lines
import Mustache.Text.Printable
import Mustache.Text.Quoted
import Mustache.Text.Search
import Mustache.Text.Wildcard
import Mustache.Token
import Mustache.Token.Scan
import Mustache.Tree
import Mustache.Tree.Build
import Mustache.Value
import Mustache.Value.Key
import Mustache.Value.Kind
import Mustache.Value.Operations
import Mustache.Value.Order
import Mustache.Value.Pairs
import Mustache.Value.Printed
import Mustache.Proofs.Delimiters
import Mustache.Proofs.Token.Decomposition
import Mustache.Proofs.Token.Margins
import Mustache.Proofs.Tree.Nesting
import Mustache.Proofs.Tree.Reads
import Mustache.Proofs.Tree.Traversal
import Mustache.Proofs.Session.Kept
import Mustache.Proofs.Session.Load
import Mustache.Proofs.Render.Kept
import Mustache.Proofs.Render.Twin
import Mustache.Proofs.Render.TextsApart
import Mustache.Proofs.Render.Alike
import Mustache.Proofs.Token.Boundary
import Mustache.Proofs.Token.ChangeTag
import Mustache.Proofs.Tree.Boundary
import Mustache.Proofs.Render.Boundary
import Mustache.Proofs.Render.Moved
import Mustache.Proofs.Session.Events
import Mustache.Proofs.Render.Frames
import Mustache.Proofs.Render.Complement
import Mustache.Proofs.Token.CommentLine
import Mustache.Proofs.Render.CommentLine
import Mustache.Proofs.Session.Texts
import Mustache.Proofs.Session.Twin
import Mustache.Proofs.Session.TwinCalls
import Mustache.Proofs.Render.LambdaText
import Mustache.Proofs.Token.Slice
import Mustache.Proofs.Tree.Slice
import Mustache.Proofs.Render.RawBody
import Mustache.Proofs.Token.Flush
import Mustache.Proofs.Render.Echo
import Mustache.Proofs.Cache.Key
import Mustache.Proofs.Text.Fields
import Mustache.Proofs.Cache.Directory
import Mustache.Proofs.Cache.Sound
import Mustache.Proofs.Cache.Uncached
import Mustache.Proofs.Cache.Stored
import Mustache.Proofs.Cache.Loaders
import Mustache.Proofs.Cache.Operation
import Mustache.Proofs.Cache.Fleet
import Mustache.Proofs.Session.Inert
import Mustache.Proofs.Session.Quiet
import Mustache.Proofs.Render.Outline
import Mustache.Proofs.Cache.Provided
import Mustache.Proofs.Render.Outlined
import Mustache.Proofs.Tree.Like
import Mustache.Proofs.Render.OutlineLike
import Mustache.Proofs.Token.Seam
import Mustache.Proofs.Render.Inline
import Mustache.Proofs.Text.Crlf
import Mustache.Proofs.Token.Crlf
import Mustache.Proofs.Render.Crlf
import Mustache.Proofs.Tree.DelimiterScope
import Mustache.Proofs.Session.Oblivious
import Mustache.Proofs.Session.ObliviousLoad
import Mustache.Proofs.Render.Oblivious
import Mustache.Proofs.Render.Shadowed
import Mustache.Proofs.Text.Markup
import Mustache.Proofs.Text.Bytes
import Mustache.Proofs.Text.Unescape
import Mustache.Proofs.Render.EscapesAs
import Mustache.Proofs.Render.Markup
import Mustache.Proofs.Cache.Recency
import Mustache.Proofs.Cache.Demand
import Mustache.Proofs.Cache.Accounts
import Mustache.Proofs.Render.Orphan
import Mustache.Proofs.Cache.Mirror
import Mustache.Proofs.Render.Course
import Mustache.Proofs.Veil.Operations
import Mustache.Proofs.Veil.Calls
import Mustache.Proofs.Veil.Render
import Mustache.Proofs.Token.Found
import Mustache.Proofs.Token.EmptyTag
import Mustache.Proofs.Token.Places
import Mustache.Proofs.Text.ShownLine
import Mustache.Proofs.Token.Shown
import Mustache.Proofs.Tree.Shown
import Mustache.Proofs.Tree.Places
import Mustache.Proofs.Render.Shown
import Mustache.Proofs.Files.Grown
import Mustache.Proofs.Files.Listing
import Mustache.Proofs.Files.Search
import Mustache.Proofs.Cache.Disk
import Mustache.Proofs.Session.Messages
import Mustache.Proofs.Cache.Traceless
import Mustache.Proofs.Session.Storing
import Mustache.Proofs.Session.Accords
import Mustache.Proofs.Session.Arity
import Mustache.Proofs.Render.Unwritten
import Mustache.Proofs.Cache.Collision
import Mustache.Proofs.Decimal.Equality
import Mustache.Proofs.Value.KeyForm
import Mustache.Proofs.Value.Table
import Mustache.Proofs.Loader.Table
import Mustache.Proofs.Loader.Union
import Mustache.Proofs.Helpers.History
import Mustache.Proofs.Helpers.Shared
import Mustache.Proofs.Render.Wrapped
import Mustache.Proofs.Session.Renumbered
import Mustache.Proofs.Session.RenumberedCalls
import Mustache.Proofs.Render.Renumbered
import Mustache.Proofs.Render.Append
import Mustache.Proofs.Text.Indent
import Mustache.Proofs.Log.Emission
import Mustache.Proofs.Session.Adapters
import Mustache.Proofs.Token.Machine
import Mustache.Proofs.Token.Progress
