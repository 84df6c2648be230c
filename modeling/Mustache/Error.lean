import Mustache.Error.Unrenderable
import Mustache.Escape
import Mustache.Text.Search

/-!
# Errors

Everything that can go wrong is a fault. Some faults are raised by the library with a message and
a code; the others are failures of a value that does not support what is asked of it, of a
callable, or of the file tree.

## Main definitions

* `Mustache.NotFound` — why a template is not found.
* `Mustache.BadOption` — why an option of an engine is refused.
* `Mustache.FileProblem`, `Mustache.UnwrittenCache` — why the cache could not be written.
* `Mustache.TemplateError` — the errors with a message and a code.
* `Mustache.Fault` — everything that can go wrong.
-/

namespace Mustache

/-! ## Templates that are not found -/

/-- What the error for an unknown name adds. -/
inductive NameHint where
  /-- A known name that is close to it. -/
  | similar (name : String)
  /-- The known names. -/
  | known (names : List String)
  deriving DecidableEq, Repr, Inhabited

/-- Why a template is not found. -/
inductive NotFound where
  /-- A table of templates does not have the name. -/
  | unlisted (name : String) (hint : NameHint)
  /-- No directory of the search path has the file. -/
  | noFile (name : String) (paths : List String)
  /-- None of several loaders has the name. -/
  | nowhere (name : String) (loaders : Nat)
  /-- A cause that is stated by the caller. -/
  | stated (text : String)
  deriving DecidableEq, Repr, Inhabited

/-- How many known names an error lists. -/
def listedNames : Nat := 10

/-- What is said of the known names. -/
def NameHint.text : NameHint → String
  | similar name => ". Did you mean '" ++ name ++ "'?"
  | known [] => ""
  | known names =>
    ". Available: " ++ ", ".intercalate (names.take listedNames) ++
      (if names.length > listedNames then " ... (" ++ toString names.length ++ " total)" else "")

/-- The text of the error. -/
def NotFound.message : NotFound → String
  | unlisted name hint => "Template '" ++ name ++ "' not found" ++ hint.text
  | noFile name paths => "Template '" ++ name ++ "' not found in: " ++ ", ".intercalate paths
  | nowhere name loaders =>
    "Template '" ++ name ++ "' not found in any of " ++ toString loaders ++ " loaders"
  | stated text => text

/-! ## Options that are refused -/

/-- Why an option of an engine is refused. -/
inductive BadOption where
  | escapeNotCallable
  | unknownCharset (name : String)
  /-- Neither the path of a directory nor a cache. -/
  | notACache (typeName : String)
  /-- A loader for the named option that cannot load. -/
  | notALoader (option typeName : String)
  /-- Partials for a loader that cannot store them. -/
  | fixedPartials (typeName : String)
  | notHelpers
  | notALogger (typeName : String)
  /-- A cause that is stated by the caller. -/
  | stated (text : String)
  deriving DecidableEq, Repr, Inhabited

/-- The text of the error. -/
def BadOption.message : BadOption → String
  | escapeNotCallable => "Engine escape option must be callable"
  | unknownCharset name => "Unknown charset '" ++ name ++ "'"
  | notACache typeName =>
    "Engine cache must be a directory path or a cache object, got " ++ typeName
  | notALoader option typeName =>
    "Engine " ++ option ++ " must implement get_source(name), got " ++ typeName
  | fixedPartials typeName =>
    "Unable to set partials on an immutable partials loader (" ++ typeName ++ ")"
  | notHelpers => "Engine helpers must be a mapping or iterable of pairs"
  | notALogger typeName =>
    "Engine logger must be a logging.Logger or logging.LoggerAdapter, got " ++ typeName
  | stated text => text

/-! ## Caches that are not written -/

/-- Why an operation on the file tree fails. -/
inductive FileFault where
  | noEntry
  /-- The mode of the file forbids it. -/
  | denied
  | alreadyThere
  | notADirectory
  | isADirectory
  | nameTooLong
  | notEmpty
  deriving DecidableEq, Repr, Inhabited

/-- The number and the description of the failure. -/
def FileFault.text : FileFault → String
  | noEntry => "[Errno 2] No such file or directory"
  | denied => "[Errno 13] Permission denied"
  | alreadyThere => "[Errno 17] File exists"
  | notADirectory => "[Errno 20] Not a directory"
  | isADirectory => "[Errno 21] Is a directory"
  | nameTooLong => "[Errno 36] File name too long"
  | notEmpty => "[Errno 39] Directory not empty"

/-- A failure with the path, or the two paths of a renaming. -/
structure FileProblem where
  fault : FileFault
  path : String
  target : Option String
  deriving DecidableEq, Repr, Inhabited

/-- The failure with its quoted paths. -/
def FileProblem.text (p : FileProblem) : String :=
  p.fault.text ++ ": " ++ Text.quoted p.path ++
    (p.target.map fun path => " -> " ++ Text.quoted path).getD ""

/-- Why the cache could not be written. -/
inductive UnwrittenCache where
  | directory (path : String) (problem : FileProblem)
  | file (path : String) (problem : FileProblem)
  /-- A cause that is stated by the caller. -/
  | stated (text : String) (path : Option String)
  deriving DecidableEq, Repr, Inhabited

/-- The text of the error. -/
def UnwrittenCache.message : UnwrittenCache → String
  | directory path problem =>
    "Failed to create cache directory '" ++ path ++ "': " ++ problem.text
  | file path problem => "Failed to write cache file '" ++ path ++ "': " ++ problem.text
  | stated text _ => text

/-- The path that could not be written. -/
def UnwrittenCache.path? : UnwrittenCache → Option String
  | directory path _ | file path _ => some path
  | stated _ path => path

/-! ## All errors -/

/-- The errors that carry a message and, but for the general one, a code. -/
inductive TemplateError where
  | general (text : String)
  | notFound (e : NotFound)
  | malformed (e : Malformed)
  | unrenderable (e : Unrenderable)
  | badOption (e : BadOption)
  | unwrittenCache (e : UnwrittenCache)
  deriving Inhabited

namespace TemplateError

/-- The text of the error. -/
def message : TemplateError → String
  | general text => text
  | notFound e => e.message
  | malformed e => e.message
  | unrenderable e => e.message
  | badOption e => e.message
  | unwrittenCache e => e.message

/-- The code of the error. -/
def code : TemplateError → Option ErrorCode
  | general _ => none
  | notFound _ => some .templateNotFound
  | malformed e => some e.cause.code
  | unrenderable e => some e.problem.code
  | badOption _ => some .invalidOption
  | unwrittenCache _ => some .cacheWrite

/-- Whether the first text occurs in the second. -/
def occursIn (pattern text : String) : Bool :=
  (Text.cut? pattern.toList text.toList).isSome

/-- The text of the error, with the code in front of it unless the text already holds it. -/
def compact (e : TemplateError) : String :=
  match e.code with
  | none => e.message
  | some code =>
    if occursIn code.text e.message then e.message else code.text ++ ": " ++ e.message

end TemplateError

/-- Everything that can go wrong. -/
inductive Fault where
  /-- An error with a message and a code. -/
  | template (e : TemplateError)
  /-- A failure that a callable raises as its own. -/
  | custom (message : String)
  /-- A key that a table does not have. -/
  | noKey (key : Value)
  /-- A value of the wrong kind, or a call with arguments that cannot be bound. -/
  | wrongKind
  /-- A value of the right kind that is not admissible. -/
  | wrongValue
  | noAttribute
  | outOfRange
  /-- A charset that is not known. -/
  | unknownCharset
  /-- Bytes that are not text in the expected charset. -/
  | undecodable
  /-- A charset refuses bytes or a text as a whole. -/
  | refusedText
  /-- A number that is too large for its purpose. -/
  | overflow
  /-- There is no room for so much. -/
  | outOfMemory
  /-- A failure of the file tree. -/
  | file (e : FileFault)
  /-- A template needs its engine, which is gone. -/
  | engineGone (name : Value)
  /-- Templates are nested too deeply. -/
  | tooDeep
  deriving Inhabited

namespace Fault

/-- The fault for a name that is not that of a charset. -/
def ofCharsetName : Text.Charset.NameFailure → Fault
  | .inadmissible => wrongValue
  | .unknown => unknownCharset

/-- The fault for bytes that are not text. -/
def ofDecoding : Text.DecodingFailure → Fault
  | .invalid => undecodable
  | .refused => refusedText

/-- The fault for a text that cannot be escaped. -/
def ofEscape : EscapeFailure → Fault
  | .charset e => ofCharsetName e
  | .text e => ofDecoding e

/-- The fault for a template that is not found. -/
def notFound (e : NotFound) : Fault := .template (.notFound e)

/-- The fault for a refused option. -/
def badOption (e : BadOption) : Fault := .template (.badOption e)

/-- The fault for a place that is put into words, if this cannot be done. -/
def ofPlace? (location : Option Value) : Option Fault :=
  match location with
  | none => some wrongKind
  | some v => if v.isUnwritable then some wrongValue else none

/-- The fault that reports a malformed template. -/
def malformed (e : Malformed) : Fault := (ofPlace? e.location?).getD (.template (.malformed e))

/-- The fault that reports what cannot be rendered. -/
def unrenderable (e : Unrenderable) : Fault :=
  match ofPlace? e.location? with
  | some f => f
  | none =>
    if e.values.any fun entry => entry.2.isUnwritable then wrongValue
    else .template (.unrenderable e)

/-- The fault for a caret that does not fit in. -/
def ofCaret? (column : Option Int) : Option Fault :=
  column.bind fun n =>
    if n < -sizeLimit ∨ sizeLimit ≤ n then some overflow
    else if roomLimit ≤ n then some outOfMemory
    else none

/-- The fault that reports an error which is made up by the caller, or why the error cannot be put
into words. -/
def ofError (e : TemplateError) : Fault :=
  let told : Fault × Option Int := match e with
    | .malformed m => (malformed m, m.caretColumn?)
    | .unrenderable u => (unrenderable u, u.snippet.bind Snippet.caretColumn?)
    | e => (.template e, none)
  match told with
  | (.template e, column) => (ofCaret? column).getD (.template e)
  | (fault, _) => fault

/-- Whether the fault says that a template is not found. -/
def isNotFound : Fault → Bool
  | .template (.notFound _) => true
  | _ => false

/-- Whether the fault says that there is no such attribute. -/
def isNoAttribute : Fault → Bool
  | noAttribute => true
  | _ => false

/-- Whether the fault is about a value of the wrong kind, or of the right kind but not
admissible. -/
def isUnfit : Fault → Bool
  | wrongKind | wrongValue | undecodable | refusedText | .template (.badOption _) => true
  | _ => false

/-- The message of the fault, where it has one. -/
def message? : Fault → Option String
  | template e => some e.message
  | custom message => some message
  | noKey key => some key.quoted
  | engineGone name =>
    some ("Engine has been garbage collected while rendering '" ++ (mentionedAs name).plain ++ "'")
  | _ => none

end Fault

end Mustache
