/-!
# Error codes

Every error that the library raises on its own account carries a code by which it can be looked
up. A code belongs to the stage of the work in which the error arises.

## Main definitions

* `Mustache.ErrorCode` — the codes, in their fixed order.
* `Mustache.ErrorCode.text` — the written form, such as `M-LEX-001`.
* `Mustache.ErrorCode.category` — the stage.
-/

namespace Mustache

/-- A code for errors of one kind. -/
inductive ErrorCode where
  | unclosedTag
  | invalidDelimiters
  | emptyTag
  | unexpectedClose
  | mismatchedClose
  | unclosedSection
  | unknownFilter
  | unprintableValue
  | runtimeError
  | templateNotFound
  | syntaxError
  | cacheWrite
  | invalidOption
  deriving DecidableEq, Repr, Inhabited

namespace ErrorCode

/-- The codes in order, each with its name, its written form and its category. -/
def table : List (ErrorCode × String × String × String) :=
  [(unclosedTag, "UNCLOSED_TAG", "M-LEX-001", "lexer"),
    (invalidDelimiters, "INVALID_DELIMITERS", "M-LEX-002", "lexer"),
    (emptyTag, "EMPTY_TAG", "M-LEX-003", "lexer"),
    (unexpectedClose, "UNEXPECTED_CLOSE", "M-PAR-001", "parser"),
    (mismatchedClose, "MISMATCHED_CLOSE", "M-PAR-002", "parser"),
    (unclosedSection, "UNCLOSED_SECTION", "M-PAR-003", "parser"),
    (unknownFilter, "UNKNOWN_FILTER", "M-RUN-001", "runtime"),
    (unprintableValue, "UNPRINTABLE_VALUE", "M-RUN-002", "runtime"),
    (runtimeError, "RUNTIME_ERROR", "M-RUN-003", "runtime"),
    (templateNotFound, "TEMPLATE_NOT_FOUND", "M-TPL-001", "template"),
    (syntaxError, "SYNTAX_ERROR", "M-TPL-002", "template"),
    (cacheWrite, "CACHE_WRITE", "M-TPL-003", "template"),
    (invalidOption, "INVALID_OPTION", "M-CFG-001", "configuration")]

/-- All codes in order. -/
def all : List ErrorCode := table.map Prod.fst

/-- The name of the code. -/
def name (c : ErrorCode) : String := ((table.lookup c).map fun row => row.1).getD ""

/-- The written form of the code. -/
def text (c : ErrorCode) : String := ((table.lookup c).map fun row => row.2.1).getD ""

/-- The stage of the work to which the code belongs. -/
def category (c : ErrorCode) : String := ((table.lookup c).map fun row => row.2.2).getD ""

/-- The code with a given written form. -/
def ofText? (s : String) : Option ErrorCode :=
  (table.find? fun row => row.2.2.1 == s).map Prod.fst

end ErrorCode

end Mustache
