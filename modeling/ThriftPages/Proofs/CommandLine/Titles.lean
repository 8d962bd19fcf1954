/-
# Titles and folders

A document is named after its input unless it is given a name, and either way its
page is titled by the first part of the file's name (`title_documentName`). So the
folder that an input lies in never shows on its page: two runs on files of the same
name and content, in whatever folders, do the same (`titled_by_file_name`).

Key definitions: `FilePath.EndsIn`.
Key theorems: `title_documentName`, `Converts.action_of_title`, `titled_by_file_name`.
-/
import ThriftPages.Proofs.CommandLine.Conversion
import ThriftPages.Proofs.Files.PathNames

namespace ThriftPages

open FilePath (IsComponent)
open Text (Lacks partsAt)

/-- A path to a file of a name, in some folder or without one. -/
inductive FilePath.EndsIn (name : String) : String → Prop
  | bare : EndsIn name name
  | within (folder : String) : EndsIn name (folder ++ "/" ++ name)

theorem FilePath.EndsIn.lastComponent?_eq {name path : String} (h : EndsIn name path)
    (hname : IsComponent name) : lastComponent? path = lastComponent? name := by
  cases h with
  | bare => rfl
  | within folder => exact lastComponent?_join folder hname

/-- **A document that is named after its input has the input's title.** -/
theorem title_documentName (input : String) :
    FilePath.title (documentName input none) = FilePath.title input := by
  rw [documentName, Option.getD_none]
  cases hname : FilePath.fileName? input with
  | none => rfl
  | some name =>
    rw [Option.getD_some, FilePath.title, FilePath.title,
      FilePath.fileNameChars?_of_fileName? hname]

theorem title_documentName_congr {input input' : String}
    (h : FilePath.title input' = FilePath.title input) (name : Option String) :
    FilePath.title (documentName input' name) = FilePath.title (documentName input name) := by
  cases name with
  | none => rw [title_documentName, title_documentName, h]
  | some name => rfl

/-- The folder of the input does not show in what a command line does. -/
theorem Converts.action_of_title {texts texts' : List String} {arguments : Arguments}
    {input input' source : String} {read read' : FileReader}
    (h : Converts texts arguments input)
    (h' : Converts texts' { arguments with input := some input' } input')
    (htitle : FilePath.title input' = FilePath.title input)
    (hlayers : arguments.layers.build read' = arguments.layers.build read)
    (hsource : read input = .ok source) (hsource' : read' input' = .ok source) :
    action texts' read' = action texts read := by
  refine h.action_congr h' rfl ?_
  cases hsettings : arguments.layers.build read with
  | ok settings =>
    exact h.text_congr h' hsettings (hlayers.trans hsettings) rfl
      (title_documentName_congr htitle _) rfl hsource hsource'
  | error fault =>
    have hlayers' : { arguments with input := some input' }.layers.build read' =
        .error fault := hlayers.trans hsettings
    simp only [Arguments.text, hsettings, hlayers']
    rfl

/-- **A page is titled by its file's name.** A document that is named after its input has the
input's title. A title is its own title, has no point and no slash, and slashes at the end of
the path do not show in it. Whatever folder stands before a file's name, the title is that of
the name by itself, which is the first of the parts between its points. So two command lines
that differ in the folder of their input do the same, if the files have the same content. -/
theorem titled_by_file_name :
    (∀ path, FilePath.title (documentName path none) = FilePath.title path ∧
      FilePath.title (FilePath.title path) = FilePath.title path ∧
      (Lacks '.' (FilePath.title path) ∧ Lacks '/' (FilePath.title path)) ∧
      ∀ n, FilePath.title (path ++ String.ofList (List.replicate n '/')) = FilePath.title path) ∧
    (∀ folder name, IsComponent name →
      FilePath.title (folder ++ "/" ++ name) = FilePath.title name ∧
      (partsAt '.' name).head? = some (FilePath.title name)) ∧
    (∀ (texts texts' : List String) (arguments : Arguments) (input input' name source : String)
        (read read' : FileReader),
      IsComponent name → FilePath.EndsIn name input → FilePath.EndsIn name input' →
      Converts texts arguments input →
      Converts texts' { arguments with input := some input' } input' →
      arguments.layers.build read' = arguments.layers.build read →
      read input = .ok source → read' input' = .ok source →
      action texts' read' = action texts read) := by
  refine ⟨fun path => ⟨title_documentName path, FilePath.title_title path,
    FilePath.title_lacks path, fun n => ?_⟩, fun folder name hname => ⟨?_, hname.title_eq⟩, ?_⟩
  · exact FilePath.title_congr (FilePath.lastComponent?_append_slashes path n)
  · exact FilePath.title_congr (FilePath.lastComponent?_join folder hname)
  · intro texts texts' arguments input input' name source read read' hname hinput hinput' h h'
      hlayers hsource hsource'
    have htitle : FilePath.title input' = FilePath.title input := FilePath.title_congr
      ((hinput'.lastComponent?_eq hname).trans (hinput.lastComponent?_eq hname).symm)
    exact h.action_of_title h' htitle hlayers hsource hsource'

/-- The same shop in two folders, one of them reached on a winding path. -/
theorem shop_in_two_folders :
    let fs : FileSystem := .ofTexts ["desk".toList]
      [("north/shop.v1.json", "\x7b\x7d"), ("south/shop.v1.json", "\x7b\x7d")]
    let name := "shop.v1.json"
    IsComponent name ∧ FilePath.title ("south/../north//." ++ "/" ++ name) = "shop" ∧
      FilePath.title (".." ++ "/" ++ "..") = "" ∧
      action ["south/shop.v1.json"] fs.read = action ["south/../north//./shop.v1.json"] fs.read ∧
      (action ["south/shop.v1.json"] fs.read).text?.isSome := by
  intro fs name
  have hname : IsComponent name := by decide
  have habove : IsComponent ".." := by decide
  obtain ⟨-, htitle, hruns⟩ := titled_by_file_name
  have hnorth : Converts ["south/../north//./shop.v1.json"]
      { input := some "south/../north//./shop.v1.json" } "south/../north//./shop.v1.json" :=
    ⟨by decide +kernel, rfl, rfl⟩
  have hsouth : Converts ["south/shop.v1.json"] { input := some "south/shop.v1.json" }
      "south/shop.v1.json" := ⟨by decide +kernel, rfl, rfl⟩
  have hsame := hruns _ _ _ _ _ name "\x7b\x7d" fs.read fs.read hname
    (.within "south/../north//.") (.within "south") hnorth hsouth rfl
    (by decide +kernel) (by decide +kernel)
  have hshop : FilePath.title name = "shop" := by decide
  exact ⟨hname, ((htitle _ name hname).1).trans hshop, ((htitle _ _ habove).1).trans (by decide),
    hsame, by decide +kernel⟩

end ThriftPages
