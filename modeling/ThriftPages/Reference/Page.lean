/-
# The reference page of a document

The page is its sections in their fixed order. It depends on nothing but the
name of the file, the options and the document.

Key definitions: `Document.outline`, `Document.markdown`.
Key theorems: `Document.outline_of_sections`.
-/
import ThriftPages.Reference.Section

namespace ThriftPages

/-- The outline of the page: one part per section. -/
def Document.outline (fileName : String) (options : PageOptions) (doc : Document) : Outline :=
  .seq (Section.all.map (Section.outline fileName options doc))

/-- Documents with the same sections have the same page. -/
theorem Document.outline_of_sections {fileName : String} {options : PageOptions} {a b : Document}
    (h : ∀ s : Section, s.outline fileName options a = s.outline fileName options b) :
    a.outline fileName options = b.outline fileName options := by
  rw [outline, outline, funext h]

/-- The text of the page. -/
def Document.markdown (fileName : String) (options : PageOptions) (doc : Document) : String :=
  (doc.outline fileName options).text

end ThriftPages
