import Mustache.Files.Pattern
import Mustache.Similar
import Mustache.Text.Charset
import Mustache.Value.Order
import Mustache.Value.Pairs

/-!
# Loaders

A loader finds the source of a template by its name. The source may be the name itself, an entry
of a table, or a file in one of several directories; loaders can be tried one after the other.

## Main definitions

* `Mustache.Loader` — the kinds of loader.
* `Mustache.FileSearch` — directories that are searched for files with an extension.
* `Mustache.Found` — a source with the name of its origin.
* `Mustache.FileSearch.find`, `Mustache.findInTable` — what files and tables hold under a name.
* `Mustache.FileSearch.names` — the names of the template files.
* `Mustache.Loader.put?` — a loader with one more template in it.
-/

namespace Mustache

/-- Directories that are searched for template files. -/
structure FileSearch where
  paths : List Location
  /-- The ending of the names of the files. -/
  extension : String
  /-- The charset of the files. -/
  encoding : String
  deriving DecidableEq, Repr, Inhabited

/-- The kinds of loader. -/
inductive Loader where
  /-- The name is the source. -/
  | verbatim
  /-- A table of sources. -/
  | table (entries : Entries)
  /-- Files. -/
  | files (search : FileSearch)
  /-- Loaders that are tried in order. -/
  | choice (loaders : List Loader)
  /-- A table of sources and origins that cannot be listed or changed. -/
  | sealed (entries : List (String × Value × Value))
  /-- A value with a callable member for the purpose. -/
  | custom (v : Value)
  deriving Inhabited

/-- A source with the name of its origin, which may be null. -/
structure Found where
  source : Value
  origin : Value
  deriving Inhabited

namespace FileSearch

/-- The ending of template files by default. -/
def defaultExtension : String := ".mustache"

/-- The charset of template files by default. -/
def defaultEncoding : String := "utf-8"

/-- A search for files with an extension; a point in front of it may be left out. -/
def make (paths : List Location) (extension encoding : String) : FileSearch :=
  { paths, encoding
    extension :=
      if extension == "" || extension.startsWith "." then extension else "." ++ extension }

/-- The path of the file for a template. -/
def fileName (s : FileSearch) (name : String) : String :=
  if s.extension != "" && !name.endsWith s.extension then name ++ s.extension else name

end FileSearch

/-! ## Reading text files -/

/-- The text with every line ending written as a newline. -/
def unifyNewlines : List Char → List Char
  | '\r' :: '\n' :: cs => '\n' :: unifyNewlines cs
  | '\r' :: cs => '\n' :: unifyNewlines cs
  | c :: cs => c :: unifyNewlines cs
  | [] => []

/-- The name that stands for the charset of the surroundings. -/
def localName : String := "locale"

/-- The charset of a name for files. -/
def fileCharset (name : String) : Except Text.Charset.NameFailure Text.Charset :=
  Text.Charset.find (if name == localName then FileSearch.defaultEncoding else name)

/-- The text of a file. -/
def textOf (encoding : String) (content : Content) : Except Fault String :=
  match fileCharset encoding with
  | .error e => .error (.ofCharsetName e)
  | .ok charset =>
    match charset.coding, content with
    | .notText, _ => .error .unknownCharset
    | _, .stored _ => .error .undecodable
    | _, .bytes bs =>
      match charset.decode bs with
      | .error e => .error (.ofDecoding e)
      | .ok cs => .ok (String.ofList (unifyNewlines cs))

/-- The file for a template: that in the first directory which has it. -/
def FileSearch.find (s : FileSearch) (t : FileTree) (name : String) : Except Fault Found :=
  go s.paths
where
  /-- Searches the given directories. -/
  go : List Location → Except Fault Found
    | [] => .error (.notFound (.noFile name (s.paths.map fun p => p.text t.rootText)))
    | base :: others =>
      let path := base.join (s.fileName name)
      if !path.isAdmissible then go others
      else
        match t.isFile path with
        | .error e => .error (.file e)
        | .ok false => go others
        | .ok true =>
          match t.read path with
          | .error e => .error (.file e)
          | .ok content =>
            match textOf s.encoding content with
            | .error e => .error e
            | .ok text => .ok ⟨.text text, .text (path.text t.rootText)⟩

/-- The text without an ending. -/
def withoutSuffix (s suffix : String) : String :=
  if suffix != "" && s.endsWith suffix then
    String.ofList (s.toList.take (s.length - suffix.length))
  else s

/-- The names of the files below one directory, without the extension. Directories count as well;
an extension that ends with a slash stands for directories alone. -/
def FileSearch.namesBelow (s : FileSearch) (t : FileTree) (base : Location) :
    Except Fault (List String) :=
  match t.isDirectory base, base with
  | .error e, _ => .error (.file e)
  | .ok true, .below names =>
    match PathPattern.ofText? ("*" ++ s.extension) with
    | none => .error .wrongValue
    | some pattern =>
      match pattern.select t names with
      | .error e => .error (.file e)
      | .ok paths =>
        .ok (paths.map fun path => withoutSuffix ("/".intercalate path) s.extension)
  | _, _ => .ok []

/-- Sorted names without repetition. -/
def sortedUnique (names : List String) : List String :=
  (names.mergeSort fun s t => decide (s ≤ t)).eraseReps

/-- The names of the template files, sorted. -/
def FileSearch.names (s : FileSearch) (t : FileTree) : Except Fault (List String) :=
  (s.paths.mapM fun base => s.namesBelow t base).map fun found => sortedUnique found.flatten

/-! ## Tables of templates -/

/-- A value as text, if it is one. -/
def Value.text? : Value → Option String
  | text s => some s
  | _ => none

/-- Keys in their order, if there is an order between them. Texts are ordered by their
characters. -/
def sortedKeys (keys : List Value) : Except Fault (List Value) :=
  match keys.mapM Value.text? with
  | some names => .ok ((names.mergeSort fun s t => decide (s ≤ t)).map .text)
  | none =>
    match Value.sorted? keys with
    | some keys => .ok keys
    | none => .error .wrongKind

/-- The character that a value is, if it is one. -/
def Value.char? : Value → Option Char
  | text s =>
    match s.toList with
    | [c] => some c
    | _ => none
  | _ => none

/-- A key as a sequence that can be compared with the characters of a name. Integers are like no
character, so one of them stands for all that are in a range. -/
def spelling (key : Value) : Except Fault (List (Option Char)) :=
  match key with
  | .text s => .ok (s.toList.map some)
  | .tuple vs => .ok (vs.map Value.char?)
  | .bytes bs => .ok (bs.map fun _ => none)
  | .range start stop step => do
    if (← Value.lengthOfRange start stop step) = 0 then pure [] else pure [none]
  | _ => .error .wrongKind

/-- What the error for an unknown name adds, given the keys in their order. -/
def hintFor (name : String) (keys : List Value) : Except Fault NameHint := do
  let spelled ← keys.mapM fun key => do pure (← spelling key, key)
  match Similar.closest? (name.toList.map some) spelled with
  | some key => pure (.similar (← key.plainOrFault))
  | none =>
    if (keys.take listedNames).all fun key => key.text?.isSome then
      pure (.known (keys.map Value.plain))
    else throw .wrongKind

/-- The fault for a name that a table does not have. -/
def unlisted (entries : Entries) (name : String) : Fault :=
  match sortedKeys entries.keys >>= hintFor name with
  | .ok hint => .notFound (.unlisted name hint)
  | .error e => e

/-- The entry of a table. -/
def findInTable (entries : Entries) (name : String) : Except Fault Found :=
  match entries.find? name with
  | some source => .ok ⟨source, .null⟩
  | none => .error (unlisted entries name)

namespace Loader

/-- The name of the kind of loader. -/
def typeName : Loader → String
  | verbatim => "StringLoader"
  | table _ => "DictLoader"
  | files _ => "FileSystemLoader"
  | choice _ => "ChoiceLoader"
  | sealed _ => "FixedLoader"
  | custom v => v.typeName

/-- The loader for a table that a value offers; what counts as empty offers the empty table. -/
def ofValue (templates : Value) : Except Fault Loader := do
  if ← templates.vacant then pure (table []) else (Entries.ofValue templates).map table

/-- The loader with one more template; `none` unless the loader is a table. -/
def put? (l : Loader) (name : String) (source : Value) : Option Loader :=
  match l with
  | table entries => some (table (entries.insert (.text name) source))
  | _ => none

end Loader

end Mustache
