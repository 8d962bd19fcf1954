/-
# Views of a page

What is chosen of a page section by section. Beside headings a page holds quotes,
code blocks, tables and raw texts; a view that passes over quotes and raw texts
has nothing of the namespaces and the mark for a table of contents.

Key theorems: `Document.chosen_outline`.
-/
import ThriftPages.Proofs.Page.Views
import ThriftPages.Reference.Page

namespace ThriftPages

variable {α : Type} {choice : Piece → Option α}

/-- The view of a heading and of the declarations below it. -/
theorem chosen_headedOutline {β : Type} (title : String) (group : β → Outline)
    (declarations : List β) :
    (headedOutline title (declarations.map group)).chosen choice =
      (choice (.block (.heading .h2 title))).toList ++
        declarations.flatMap fun d => (group d).chosen choice := by
  simp [headedOutline, List.flatMap_map]

/-- Of the header such a view has the title only. -/
theorem chosen_headerOutline (hquote : ∀ text, choice (.block (.quote text)) = none)
    (hraw : ∀ text, choice (.raw text) = none) (fileName : String) (options : PageOptions)
    (doc : Document) :
    (headerOutline fileName options doc).chosen choice =
      (choice (.block (.heading .h1 (FilePath.title fileName)))).toList := by
  have hnamespaces : (Outline.ofBlocks
      (doc.namespaces.map fun n => .quote (.single n.name))).chosen choice = [] := by
    simp [hquote]
  have htoc : (tocOutline options).flatMap (Outline.chosen choice) = [] := by
    unfold tocOutline
    split
    · simp [hraw]
    · rfl
  simp [headerOutline, hnamespaces, htoc]

/-- **A view of a page is made section by section.** -/
theorem Document.chosen_outline (hquote : ∀ text, choice (.block (.quote text)) = none)
    (hraw : ∀ text, choice (.raw text) = none) (fileName : String) (options : PageOptions)
    (doc : Document) :
    let title text := (choice (.block (.heading .h2 text))).toList
    (doc.outline fileName options).chosen choice =
      (choice (.block (.heading .h1 (FilePath.title fileName)))).toList ++
      (title "Types" ++ doc.typedefs.flatMap fun t => t.outline.chosen choice) ++
      (title "Constants" ++ (choice (.block (.table ConstantDef.headers
        (doc.constants.map (ConstantDef.row options))))).toList) ++
      (title "Enumerations" ++
        doc.enumerations.flatMap fun e => (e.outline options).chosen choice) ++
      (title "Data Structures" ++ doc.structs.flatMap fun s => (s.outline options).chosen choice) ++
      (title "Services" ++ doc.services.flatMap fun s => s.outline.chosen choice) := by
  have hconstants : (Section.constants.outline fileName options doc).chosen choice =
      (choice (.block (.heading .h2 "Constants"))).toList ++ (choice (.block (.table
        ConstantDef.headers (doc.constants.map (ConstantDef.row options))))).toList := by
    simp [Section.outline, Outline.ofBlocks]
  simp only [Document.outline, Section.all, Outline.chosen_seq, List.flatMap_map,
    List.flatMap_cons, List.flatMap_nil, hconstants]
  simp only [Section.outline, chosen_headerOutline hquote hraw, chosen_headedOutline,
    List.append_nil, List.append_assoc]

end ThriftPages
