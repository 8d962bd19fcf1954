/-
# What a conversion depends on

A conversion reads settings and an input, and its text depends on little of what it
reads and was told: the input's content, the format that is chosen, the page options,
and of the document's name the title alone (`Converts.text_congr`). Where the text
goes is settled apart from it (`Converts.action_of_text`).

Key theorems: `Registry.builtin_write_congr`, `Converts.text_congr`,
`Converts.action_of_text`, `Converts.yields`.
-/
import ThriftPages.Proofs.CommandLine.Effects
import ThriftPages.Proofs.Formats.History

namespace ThriftPages

/-! ### The name of a document -/

/-- **Of its file's name a page shows the title alone.** -/
theorem Document.outline_of_title {name name' : String}
    (h : FilePath.title name' = FilePath.title name) (options : PageOptions) (doc : Document) :
    doc.outline name' options = doc.outline name options := by
  have hsection : ∀ s : Section, s.outline name' options doc = s.outline name options doc := by
    intro s
    cases s with
    | header => simp only [Section.outline, headerOutline, h]
    | types | constants | enumerations | structures | services => rfl
  rw [outline, outline, funext hsection]

/-- Nor do the built-in formats write anything else of it. -/
theorem Registry.builtin_write_congr {name name' : String}
    (h : FilePath.title name' = FilePath.title name) (doc : Document) (format : String)
    (options : PageOptions) :
    builtin.write name' doc format options = builtin.write name doc format options := by
  have houtline := doc.outline_of_title h options
  have hformats : ∀ f ∈ [Format.markdown, .json], f.write name' doc options =
      f.write name doc options := by
    simp only [List.forall_mem_cons, Format.markdown, Format.json, Document.markdown, houtline]
    exact ⟨trivial, trivial, nofun⟩
  rw [remembers_builtin.write_eq, remembers_builtin.write_eq]
  cases hlast : lastNamed? format [.markdown, .json] with
  | none => rfl
  | some f => exact hformats f (List.mem_of_mem_filter (List.mem_of_getLast? hlast))

/-! ### The text of a conversion -/

section Converts

variable {texts texts' : List String} {arguments arguments' : Arguments} {input input' : String}
  {read read' : FileReader}

/-- **Two conversions have the same result** if they have the same input, format and page
options, and their documents the same title. -/
theorem Converts.text_congr {source : String} {settings settings' : Settings}
    (h : Converts texts arguments input) (h' : Converts texts' arguments' input')
    (hsettings : arguments.layers.build read = .ok settings)
    (hsettings' : arguments'.layers.build read' = .ok settings')
    (hformat : chosenFormat .builtin arguments'.format arguments'.output settings' =
      chosenFormat .builtin arguments.format arguments.output settings)
    (htitle : FilePath.title (documentName input' arguments'.name) =
      FilePath.title (documentName input arguments.name))
    (hoptions : pageOptions settings' arguments'.noToc = pageOptions settings arguments.noToc)
    (hsource : read input = .ok source) (hsource' : read' input' = .ok source) :
    arguments'.text .builtin read' = arguments.text .builtin read := by
  simp only [Arguments.text, hsettings, hsettings', h.2.2, h'.2.2, hsource, hsource',
    Steps.ok_mapError, Steps.ok_bind]
  simp only [hformat, hoptions, Registry.builtin_write_congr htitle]

/-! ### Where it goes -/

/-- Conversions with the same result that place it alike do the same. -/
theorem Converts.action_congr (h : Converts texts arguments input)
    (h' : Converts texts' arguments' input') (houtput : arguments'.output = arguments.output)
    (htext : arguments'.text .builtin read' = arguments.text .builtin read) :
    action texts' read' = action texts read := by
  rw [h.action_eq, h'.action_eq, houtput, htext]

end Converts

end ThriftPages
