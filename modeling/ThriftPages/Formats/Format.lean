/-
# Output formats

A format turns a document into text under a name. The built-in ones are the
Markdown page and the dump of its outline.

Key definitions: `FormatError`, `Format`, `Format.markdown`, `Format.json`.
-/
import ThriftPages.Page.Dump
import ThriftPages.Reference.Page

namespace ThriftPages

/-- Why a document is not written. -/
inductive FormatError
  | notFound (name : String)
  | failed (reason : String)
deriving DecidableEq

/-- The cause in words. -/
def FormatError.message : FormatError → String
  | notFound name => "Format '" ++ name ++ "' not found"
  | failed reason => "Serialization error: " ++ reason

/-- A format: its name, what it is, the extensions of its files, and the text of
a document that was read from a file. -/
structure Format where
  name : String
  description : String := ""
  extensions : List String := []
  write : (fileName : String) → Document → PageOptions → Except FormatError String

namespace Format

/-- The page as Markdown. -/
def markdown : Format where
  name := "markdown"
  description := "Markdown reference documentation"
  extensions := ["md", "markdown"]
  write fileName doc options := .ok (doc.markdown fileName options)

/-- The outline of the page as JSON. -/
def json : Format where
  name := "json"
  description := "Document tree as JSON, before rendering"
  extensions := ["json"]
  write fileName doc options := .ok (doc.outline fileName options).dump

end Format

end ThriftPages
