/-
# The headings of a page

The headings of a page are an outline of its document: the title, one heading for
each section, below it one for each declaration of the section's kind, and below
a service one for each of its functions. They follow the order of the source and
repeat what the source repeats (`Document.headings_outline`).

A heading is at most one level deeper than the one before it. Down to the title
of the last section the levels are two and three, below it they are three and
four, and within two neighbouring levels any order will do (`isChain_of_depth`).

Key definitions: `Heading.Follows`, `sectionHeadings`, `Service.headings`,
`Document.headings`.
Key theorems: `Document.headings_outline`, `Document.headings_by_declaration`.
-/
import Mathlib.Data.List.Chain
import ThriftPages.Proofs.Reference.Insertion
import ThriftPages.Proofs.Reference.Views

namespace ThriftPages

/-- A heading may follow another if it is at most one level deeper. -/
def Heading.Follows (a b : Heading) : Prop := b.level.depth ≤ a.level.depth + 1

/-- The heading of a section and those of its declarations. -/
def sectionHeadings (title : String) (names : List String) : List Heading :=
  ⟨.h2, title⟩ :: names.map fun name => ⟨.h3, name⟩

/-- The heading of a service and those of its functions. -/
def Service.headings (s : Service) : List Heading :=
  ⟨.h3, s.name⟩ :: s.functions.map fun f => ⟨.h4, "Function: " ++ f.name⟩

namespace Document

/-- The headings from the first section to the title of the last. -/
def sections (doc : Document) : List Heading :=
  sectionHeadings "Types" (doc.typedefs.map Typedef.name) ++
    sectionHeadings "Constants" [] ++
    sectionHeadings "Enumerations" (doc.enumerations.map Enumeration.name) ++
    sectionHeadings "Data Structures" (doc.structs.map Struct.name) ++
    sectionHeadings "Services" []

/-- The title of a document, its sections, and the services below the last of them. -/
def headings (fileName : String) (doc : Document) : List Heading :=
  ⟨.h1, FilePath.title fileName⟩ :: (doc.sections ++ doc.services.flatMap Service.headings)

end Document

/-! ### Which headings there are -/

theorem Service.headings_outline (s : Service) : s.outline.headings = s.headings := by
  have hfunction : ∀ f : Function,
      f.outline.chosen Piece.heading? = [⟨.h4, "Function: " ++ f.name⟩] := fun f => by
    simp [Function.outline, Piece.heading?]
  have hfunctions : ((s.functions.map Function.outline).flatMap fun f => f.chosen Piece.heading?) =
      s.functions.map fun f => ⟨.h4, "Function: " ++ f.name⟩ := by
    simp only [List.flatMap_map, hfunction, ← List.map_eq_flatMap]
  simp [Service.outline, Outline.headings, headings, hfunctions, Piece.heading?]

/-- **The headings of a page** are those of its document, section by section. -/
theorem Document.headings_outline (fileName : String) (options : PageOptions) (doc : Document) :
    (doc.outline fileName options).headings = doc.headings fileName := by
  have htypedef : ∀ t : Typedef, t.outline.chosen Piece.heading? = [⟨.h3, t.name⟩] := fun t => by
    simp [Typedef.outline, Piece.heading?]
  have henumeration : ∀ e : Enumeration,
      (e.outline options).chosen Piece.heading? = [⟨.h3, e.name⟩] := fun e => by
    simp [Enumeration.outline, commentBlock, Piece.heading?]
  have hstruct : ∀ s : Struct, (s.outline options).chosen Piece.heading? = [⟨.h3, s.name⟩] :=
    fun s => by simp [Struct.outline, commentBlock, Piece.heading?]
  have hservice : ∀ s : Service, s.outline.chosen Piece.heading? = s.headings :=
    Service.headings_outline
  rw [Outline.headings, Document.chosen_outline (fun _ => rfl) (fun _ => rfl)]
  simp only [htypedef, henumeration, hstruct, hservice, ← List.map_eq_flatMap]
  simp [Piece.heading?, headings, sections, sectionHeadings, Function.comp_def]

/-! ### How deep they are -/

/-- Headings of two neighbouring levels may stand in any order. -/
theorem isChain_of_depth {headings : List Heading} (depth : Nat)
    (h : ∀ a ∈ headings, depth ≤ a.level.depth ∧ a.level.depth ≤ depth + 1) :
    headings.IsChain Heading.Follows := by
  apply List.Pairwise.isChain
  apply List.pairwise_of_forall_mem_list
  intro a ha b hb
  have hlow := (h a ha).1
  have hhigh := (h b hb).2
  unfold Heading.Follows
  omega

theorem sectionHeadings_depth (title : String) (names : List String) :
    ∀ a ∈ sectionHeadings title names, 2 ≤ a.level.depth ∧ a.level.depth ≤ 3 := by
  simp [sectionHeadings, HeadingLevel.depth]

theorem Service.headings_depth (s : Service) :
    ∀ a ∈ s.headings, 3 ≤ a.level.depth ∧ a.level.depth ≤ 4 := by
  simp [headings, HeadingLevel.depth]

namespace Document

variable (fileName : String) (doc : Document)

theorem sections_depth : ∀ a ∈ doc.sections, 2 ≤ a.level.depth ∧ a.level.depth ≤ 3 := by
  simp only [sections, List.forall_mem_append]
  exact ⟨⟨⟨⟨sectionHeadings_depth _ _, sectionHeadings_depth _ _⟩, sectionHeadings_depth _ _⟩,
    sectionHeadings_depth _ _⟩, sectionHeadings_depth _ _⟩

theorem services_depth :
    ∀ a ∈ doc.services.flatMap Service.headings, 3 ≤ a.level.depth ∧ a.level.depth ≤ 4 :=
  List.forall_mem_flatMap.2 fun s _ => s.headings_depth

/-- The first heading of the services is that of a service. -/
theorem head_services {a : Heading} (h : a ∈ (doc.services.flatMap Service.headings).head?) :
    a.level = .h3 := by
  rcases hservices : doc.services with _ | ⟨s, rest⟩
  · simp [hservices] at h
  · rw [hservices, List.flatMap_cons, Service.headings, List.cons_append, List.head?_cons,
      Option.mem_some_iff] at h
    rw [← h]

/-- No heading is more than one level deeper than the one before it. -/
theorem headings_follow : (doc.headings fileName).IsChain Heading.Follows := by
  have hsections := isChain_of_depth 2 doc.sections_depth
  have hservices := isChain_of_depth 3 doc.services_depth
  -- Where the services begin, the level goes from that of a section to that of a service.
  have hjoined : (doc.sections ++ doc.services.flatMap Service.headings).IsChain
      Heading.Follows := by
    apply hsections.append hservices
    intro a ha b hb
    have hlow := (doc.sections_depth a (List.mem_of_mem_getLast? ha)).1
    have hthird : b.level.depth = 3 := by rw [doc.head_services hb]; rfl
    unfold Heading.Follows
    omega
  apply List.IsChain.cons hjoined
  intro b hb
  have hsecond : b = ⟨.h2, "Types"⟩ := by simpa [sections, sectionHeadings] using hb.symm
  rw [hsecond]
  exact Nat.le_refl 2

/-! ### Which there are of one level -/

theorem filter_sections_h2 : doc.sections.filter (fun a => a.level = .h2) =
    [⟨.h2, "Types"⟩, ⟨.h2, "Constants"⟩, ⟨.h2, "Enumerations"⟩, ⟨.h2, "Data Structures"⟩,
      ⟨.h2, "Services"⟩] := by
  simp [sections, sectionHeadings, List.filter_map, Function.comp_def]

theorem filter_sections_h3 : doc.sections.filter (fun a => a.level = .h3) =
    (doc.typedefs.map Typedef.name ++ doc.enumerations.map Enumeration.name ++
      doc.structs.map Struct.name).map fun name => ⟨.h3, name⟩ := by
  simp [sections, sectionHeadings, List.filter_map, Function.comp_def]

theorem filter_services_h3 :
    (doc.services.flatMap Service.headings).filter (fun a => a.level = .h3) =
      (doc.services.map Service.name).map fun name => ⟨.h3, name⟩ := by
  have hservice : ∀ s : Service, s.headings.filter (fun a => a.level = .h3) = [⟨.h3, s.name⟩] :=
    fun s => by simp [Service.headings, List.filter_map, Function.comp_def]
  simp only [List.filter_flatMap, hservice, ← List.map_eq_flatMap, List.map_map, Function.comp_def]

/-- Nothing is on a level above all of some headings. -/
theorem filter_level_eq_nil {headings : List Heading} {level : HeadingLevel}
    (h : ∀ a ∈ headings, level.depth < a.level.depth) :
    headings.filter (fun a => a.level = level) = [] := by
  rw [List.filter_eq_nil_iff]
  intro a ha hlevel
  have hdeeper := h a ha
  rw [of_decide_eq_true hlevel] at hdeeper
  exact Nat.lt_irrefl _ hdeeper

theorem filter_headings_h1 :
    (doc.headings fileName).filter (fun a => a.level = .h1) =
      [⟨.h1, FilePath.title fileName⟩] := by
  have hbelow : ∀ a ∈ doc.sections ++ doc.services.flatMap Service.headings,
      HeadingLevel.h1.depth < a.level.depth := by
    rw [List.forall_mem_append]
    exact ⟨fun a ha => (doc.sections_depth a ha).1,
      fun a ha => Nat.lt_of_succ_lt (doc.services_depth a ha).1⟩
  rw [headings, List.filter_cons_of_pos rfl, filter_level_eq_nil hbelow]

theorem filter_headings_h2 :
    (doc.headings fileName).filter (fun a => a.level = .h2) =
      [⟨.h2, "Types"⟩, ⟨.h2, "Constants"⟩, ⟨.h2, "Enumerations"⟩, ⟨.h2, "Data Structures"⟩,
        ⟨.h2, "Services"⟩] := by
  have hbelow : ∀ a ∈ doc.services.flatMap Service.headings,
      HeadingLevel.h2.depth < a.level.depth := fun a ha => (doc.services_depth a ha).1
  rw [headings, List.filter_cons_of_neg (by simp), List.filter_append, filter_sections_h2,
    filter_level_eq_nil hbelow, List.append_nil]

/-- The third level has a heading for each declaration that is shown and no constant. -/
theorem length_filter_headings_h3 :
    ((doc.headings fileName).filter fun a => a.level = .h3).length =
      doc.count .typedef + doc.count .enumeration + doc.count .struct + doc.count .service := by
  have htypedefs : doc.typedefs.length = doc.count .typedef :=
    DeclarationKind.listedBy_typedefs.length doc.declarations
  have henumerations : doc.enumerations.length = doc.count .enumeration :=
    DeclarationKind.listedBy_enumerations.length doc.declarations
  have hstructs : doc.structs.length = doc.count .struct :=
    DeclarationKind.listedBy_structs.length doc.declarations
  have hservices : doc.services.length = doc.count .service :=
    DeclarationKind.listedBy_services.length doc.declarations
  rw [headings, List.filter_cons_of_neg (by simp), List.filter_append, filter_sections_h3,
    filter_services_h3, ← List.map_append, List.length_map]
  simp only [List.length_append, List.length_map]
  omega

/-- **A page is outlined by its document.** Its headings are the title, the titles of the five
sections, and below them the names of their declarations in order, below a service those of its
functions. So there is one title, there are those five sections, no heading is more than one
level deeper than the one before it, and there are as many of the third level as declarations
that are shown by a heading. -/
theorem headings_by_declaration (options : PageOptions) :
    let page := (doc.outline fileName options).headings
    let named (names : List String) : List Heading := names.map fun name => ⟨.h3, name⟩
    page = ⟨.h1, FilePath.title fileName⟩ ::
        (⟨.h2, "Types"⟩ :: named (doc.typedefs.map Typedef.name) ++
          ⟨.h2, "Constants"⟩ ::
          ⟨.h2, "Enumerations"⟩ :: named (doc.enumerations.map Enumeration.name) ++
          ⟨.h2, "Data Structures"⟩ :: named (doc.structs.map Struct.name) ++
          ⟨.h2, "Services"⟩ :: doc.services.flatMap fun s => ⟨.h3, s.name⟩ ::
            s.functions.map fun f => ⟨.h4, "Function: " ++ f.name⟩) ∧
      page.filter (fun a => a.level = .h1) = [⟨.h1, FilePath.title fileName⟩] ∧
      page.filter (fun a => a.level = .h2) =
        [⟨.h2, "Types"⟩, ⟨.h2, "Constants"⟩, ⟨.h2, "Enumerations"⟩, ⟨.h2, "Data Structures"⟩,
          ⟨.h2, "Services"⟩] ∧
      page.IsChain Heading.Follows ∧
      (page.filter fun a => a.level = .h3).length =
        doc.count .typedef + doc.count .enumeration + doc.count .struct + doc.count .service := by
  intro page named
  have hpage : page = doc.headings fileName := headings_outline fileName options doc
  rw [hpage]
  refine ⟨?_, doc.filter_headings_h1 fileName, doc.filter_headings_h2 fileName,
    doc.headings_follow fileName, doc.length_filter_headings_h3 fileName⟩
  have hservices : doc.services.flatMap Service.headings = doc.services.flatMap fun s =>
      ⟨.h3, s.name⟩ :: s.functions.map fun f => ⟨.h4, "Function: " ++ f.name⟩ := rfl
  rw [headings, hservices]
  simp [sections, sectionHeadings, named]

end Document

end ThriftPages
