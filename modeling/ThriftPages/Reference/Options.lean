/-
# Page options

What can be chosen about a reference page.

Key definitions: `PageOptions`.
-/

namespace ThriftPages

/-- The choices that a page depends on besides the document. -/
structure PageOptions where
  /-- Whether the page has a mark for a table of contents after its title. -/
  tableOfContents : Bool := true
  /-- The mark for a table of contents. -/
  tocMarker : String := "[[_TOC_]]"
  /-- What stands for a line break in a table. -/
  lineBreakMarker : String := "<br/>"
  /-- The language that comments are shown in as code blocks. -/
  commentLanguage : String := ""
deriving DecidableEq

end ThriftPages
