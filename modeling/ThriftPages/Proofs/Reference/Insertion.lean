/-
# One declaration more

A declaration that is put into a document adds its own material to the outline
and changes nothing else: a namespace adds a quote to the header, a constant a
row to the table of constants, and a type, enumeration, structure or service a
group to its section; inclusions, unions and exceptions are not shown. The
place of what is added is the number of declarations of the same kind before it
(`Document.outline_insert`). So the order of declarations matters within a kind
only (`Document.outline_reordered`).

An addition is a relation between two outlines, which says where the new part
stands and that everything around it is the same in both: `Outline.ChangedAt`
follows a path of child indices down to the part that differs, and
`Outline.ChildAdded` and `Outline.RowAdded` are the two ways in which it does.

Key definitions: `Outline.ChangedAt`, `Outline.ChildAdded`, `Outline.RowAdded`,
`Declaration.AddedTo`, `Declaration.Reordered`.
Key theorems: `Document.outline_insert`, `Document.outline_reordered`,
`Document.one_declaration_more`.
-/
import ThriftPages.Page.Dump
import ThriftPages.Reference.Page

namespace ThriftPages

/-! ### What an addition is -/

namespace Outline

/-- The second outline has one child more than the first, at index `i`. -/
inductive ChildAdded (i : Nat) (child : Outline) : Outline → Outline → Prop
  | intro {before after : List Outline} (h : before.length = i) :
      ChildAdded i child (.seq (before ++ after)) (.seq (before ++ child :: after))

/-- The second table has one row more than the first, at index `i`. -/
inductive RowAdded (i : Nat) (row : List String) : Outline → Outline → Prop
  | intro {headers : List String} {before after : List (List String)} (h : before.length = i) :
      RowAdded i row (.block (.table headers (before ++ after)))
        (.block (.table headers (before ++ row :: after)))

/-- Two outlines that differ in one part, the one that a path of child indices
leads to. -/
inductive ChangedAt (change : Outline → Outline → Prop) : List Nat → Outline → Outline → Prop
  | here {t u : Outline} (h : change t u) : ChangedAt change [] t u
  | inside {path : List Nat} {t u : Outline} (before after : List Outline)
      (h : ChangedAt change path t u) :
      ChangedAt change (before.length :: path) (.seq (before ++ t :: after))
        (.seq (before ++ u :: after))

end Outline

open Outline

/-- What a declaration adds to an outline if `i` declarations of its kind stand
before it: the header, the types, the constants and so on are the children 0, 1, 2
of a page, and each has its declarations in its child 1. -/
def Declaration.AddedTo (options : PageOptions) (i : Nat) :
    Declaration → Outline → Outline → Prop
  | scope n => ChangedAt (ChildAdded i (.block (.quote (.single n.name)))) [0, 1]
  | typedef t => ChangedAt (ChildAdded i t.outline) [1, 1]
  | constant c => ChangedAt (RowAdded i (c.row options)) [2, 1]
  | enumeration e => ChangedAt (ChildAdded i (e.outline options)) [3, 1]
  | struct s => ChangedAt (ChildAdded i (s.outline options)) [4, 1]
  | service s => ChangedAt (ChildAdded i s.outline) [5, 1]
  | inclusion _ => Eq
  | cppInclusion _ => Eq
  | union _ => Eq
  | exception _ => Eq

/-! ### The declarations of one kind -/

/-- A list of what the declarations of one kind define, in their order. -/
structure DeclarationKind.ListedBy {α : Type} (kind : DeclarationKind)
    (listed : Document → List α) : Prop where
  append : ∀ ds es, listed ⟨ds ++ es⟩ = listed ⟨ds⟩ ++ listed ⟨es⟩
  single : ∀ d, (listed ⟨[d]⟩).length = if d.kind = kind then 1 else 0

namespace DeclarationKind

theorem listedBy_namespaces : scope.ListedBy Document.namespaces :=
  ⟨fun _ _ => List.filterMap_append, fun d => by cases d <;> rfl⟩

theorem listedBy_typedefs : typedef.ListedBy Document.typedefs :=
  ⟨fun _ _ => List.filterMap_append, fun d => by cases d <;> rfl⟩

theorem listedBy_constants : constant.ListedBy Document.constants :=
  ⟨fun _ _ => List.filterMap_append, fun d => by cases d <;> rfl⟩

theorem listedBy_enumerations : enumeration.ListedBy Document.enumerations :=
  ⟨fun _ _ => List.filterMap_append, fun d => by cases d <;> rfl⟩

theorem listedBy_structs : struct.ListedBy Document.structs :=
  ⟨fun _ _ => List.filterMap_append, fun d => by cases d <;> rfl⟩

theorem listedBy_services : service.ListedBy Document.services :=
  ⟨fun _ _ => List.filterMap_append, fun d => by cases d <;> rfl⟩

namespace ListedBy

variable {α : Type} {kind : DeclarationKind} {listed : Document → List α}

theorem cons (h : kind.ListedBy listed) (d : Declaration) (ds : List Declaration) :
    listed ⟨d :: ds⟩ = listed ⟨[d]⟩ ++ listed ⟨ds⟩ := h.append [d] ds

theorem nil (h : kind.ListedBy listed) : listed ⟨[]⟩ = [] := by
  have hnil := congrArg List.length (h.append [] [])
  rw [List.append_nil, List.length_append] at hnil
  exact List.eq_nil_of_length_eq_zero (by omega)

/-- Declarations of other kinds are not listed. -/
theorem single_of_ne (h : kind.ListedBy listed) {d : Declaration} (hd : d.kind ≠ kind) :
    listed ⟨[d]⟩ = [] := by
  apply List.eq_nil_of_length_eq_zero
  rw [h.single, if_neg hd]

/-- The list is as long as there are declarations of the kind. -/
theorem length (h : kind.ListedBy listed) (ds : List Declaration) :
    (listed ⟨ds⟩).length = Document.count ⟨ds⟩ kind := by
  unfold Document.count
  induction ds with
  | nil => rw [h.nil, List.length_nil, List.countP_nil]
  | cons d ds ih =>
    rw [h.cons, List.length_append, h.single, ih, List.countP_cons]
    by_cases hd : d.kind = kind
    · rw [if_pos hd, if_pos (by simpa using hd), Nat.add_comm]
    · rw [if_neg hd, if_neg (by simpa using hd), Nat.zero_add, Nat.add_zero]

/-- The list depends on the declarations of the kind only. -/
theorem ofKind (h : kind.ListedBy listed) (ds : List Declaration) :
    listed ⟨ds.filter fun d => d.kind = kind⟩ = listed ⟨ds⟩ := by
  induction ds with
  | nil => rfl
  | cons d ds ih =>
    by_cases hd : d.kind = kind
    · rw [List.filter_cons_of_pos (by simpa using hd), h.cons, ih, h.cons d ds]
    · rw [List.filter_cons_of_neg (by simpa using hd), ih, h.cons d ds, h.single_of_ne hd,
        List.nil_append]

variable {pre post : List Declaration} {d : Declaration} {a : α}

/-- A declaration of the kind stands after as many others as are before it. -/
theorem insert (h : kind.ListedBy listed) (hd : listed ⟨[d]⟩ = [a]) :
    listed ⟨pre ++ d :: post⟩ = listed ⟨pre⟩ ++ a :: listed ⟨post⟩ := by
  rw [h.append, h.cons, hd, List.singleton_append]

/-- A declaration of the kind adds a child where its kind is shown in groups. -/
theorem childAdded (h : kind.ListedBy listed) (group : α → Outline) (hd : listed ⟨[d]⟩ = [a]) :
    ChildAdded (Document.count ⟨pre⟩ kind) (group a)
      (.seq ((listed ⟨pre ++ post⟩).map group)) (.seq ((listed ⟨pre ++ d :: post⟩).map group)) := by
  rw [h.insert hd, h.append, List.map_append, List.map_append, List.map_cons]
  apply ChildAdded.intro
  rw [List.length_map, h.length]

/-- A declaration of the kind adds a row where its kind is shown in a table. -/
theorem rowAdded (h : kind.ListedBy listed) (headers : List String) (row : α → List String)
    (hd : listed ⟨[d]⟩ = [a]) :
    RowAdded (Document.count ⟨pre⟩ kind) (row a)
      (.block (.table headers ((listed ⟨pre ++ post⟩).map row)))
      (.block (.table headers ((listed ⟨pre ++ d :: post⟩).map row))) := by
  rw [h.insert hd, h.append, List.map_append, List.map_append, List.map_cons]
  apply RowAdded.intro
  rw [List.length_map, h.length]

end ListedBy

end DeclarationKind

open DeclarationKind

/-! ### The sections -/

namespace Section

variable (fileName : String) (options : PageOptions)

/-- The kind of declaration that a section shows. -/
def kind : Section → DeclarationKind
  | header => .scope
  | types => .typedef
  | constants => .constant
  | enumerations => .enumeration
  | structures => .struct
  | services => .service

/-- A section depends on the declarations of its kind only. -/
theorem outline_ofKind (s : Section) (ds : List Declaration) :
    s.outline fileName options ⟨ds.filter fun d => d.kind = s.kind⟩ =
      s.outline fileName options ⟨ds⟩ := by
  cases s with
  | header =>
    unfold outline headerOutline
    rw [show header.kind = .scope from rfl, listedBy_namespaces.ofKind]
  | types =>
    exact congrArg (fun found => headedOutline "Types" (found.map Typedef.outline))
      (listedBy_typedefs.ofKind ds)
  | constants =>
    exact congrArg (fun found => Outline.ofBlocks [.heading .h2 "Constants",
      .table ConstantDef.headers (found.map (ConstantDef.row options))])
      (listedBy_constants.ofKind ds)
  | enumerations =>
    exact congrArg
      (fun found => headedOutline "Enumerations" (found.map (Enumeration.outline options)))
      (listedBy_enumerations.ofKind ds)
  | structures =>
    exact congrArg
      (fun found => headedOutline "Data Structures" (found.map (Struct.outline options)))
      (listedBy_structs.ofKind ds)
  | services =>
    exact congrArg (fun found => headedOutline "Services" (found.map Service.outline))
      (listedBy_services.ofKind ds)

/-- Documents with the same declarations of a kind have the same section for it. -/
theorem outline_congr {s : Section} {ds es : List Declaration}
    (h : (ds.filter fun d => d.kind = s.kind) = es.filter fun d => d.kind = s.kind) :
    s.outline fileName options ⟨ds⟩ = s.outline fileName options ⟨es⟩ := by
  rw [← outline_ofKind, h, outline_ofKind]

/-- A declaration leaves the sections of other kinds alone. -/
theorem outline_insert_of_ne {s : Section} {d : Declaration} (h : d.kind ≠ s.kind)
    (pre post : List Declaration) :
    s.outline fileName options ⟨pre ++ d :: post⟩ = s.outline fileName options ⟨pre ++ post⟩ := by
  apply outline_congr
  rw [List.filter_append, List.filter_append, List.filter_cons_of_neg (by simpa using h)]

end Section

/-! ### The page -/

section Page

variable (fileName : String) (options : PageOptions)

/-- What a declaration changes in its section it changes in the page. -/
theorem changedAt_outline {change : Outline → Outline → Prop} {path : List Nat} {s : Section}
    {before after : List Section} (hall : Section.all = before ++ s :: after)
    (hother : ∀ s' ∈ before ++ after, s.kind ≠ s'.kind)
    {pre post : List Declaration} {d : Declaration} (hd : d.kind = s.kind)
    (h : ChangedAt change path (s.outline fileName options ⟨pre ++ post⟩)
      (s.outline fileName options ⟨pre ++ d :: post⟩)) :
    ChangedAt change (before.length :: path) (Document.outline fileName options ⟨pre ++ post⟩)
      (Document.outline fileName options ⟨pre ++ d :: post⟩) := by
  -- the sections on both sides are those of the other kinds
  have hsame : ∀ sections : List Section, (∀ s' ∈ sections, s.kind ≠ s'.kind) →
      sections.map (Section.outline fileName options ⟨pre ++ d :: post⟩) =
        sections.map (Section.outline fileName options ⟨pre ++ post⟩) := by
    intro sections hs
    apply List.map_congr_left
    intro s' hs'
    exact Section.outline_insert_of_ne fileName options (hd ▸ hs s' hs') pre post
  have hbefore := hsame before fun s' hs' => hother s' (List.mem_append_left _ hs')
  have hafter := hsame after fun s' hs' => hother s' (List.mem_append_right _ hs')
  have hlength : before.length =
      (before.map (Section.outline fileName options ⟨pre ++ post⟩)).length := by
    rw [List.length_map]
  rw [Document.outline, Document.outline, hall, List.map_append, List.map_append, List.map_cons,
    List.map_cons, hbefore, hafter, hlength]
  exact .inside _ _ h

/-- A declaration whose kind has no section changes nothing. -/
theorem outline_insert_hidden (kind : DeclarationKind) (h : ∀ s ∈ Section.all, kind ≠ s.kind)
    {d : Declaration} (hd : d.kind = kind) (pre post : List Declaration) :
    Document.outline fileName options ⟨pre ++ post⟩ =
      Document.outline fileName options ⟨pre ++ d :: post⟩ := by
  rw [Document.outline, Document.outline]
  congr 1
  apply List.map_congr_left
  intro s hs
  exact (Section.outline_insert_of_ne fileName options (hd ▸ h s hs) pre post).symm

/-- A change in what stands under a heading. -/
theorem changedAt_listed {change : Outline → Outline → Prop} {heading t u : Outline}
    {others : List Outline} (h : change t u) :
    ChangedAt change [1] (.seq (heading :: t :: others)) (.seq (heading :: u :: others)) :=
  .inside [heading] others (.here h)

theorem ofBlocks_map {α : Type} (block : α → Block) (items : List α) :
    ofBlocks (items.map block) = .seq (items.map fun item => .block (block item)) := by
  rw [ofBlocks, List.map_map]
  rfl

/-- **A declaration adds its own material and changes nothing else.** -/
theorem Document.outline_insert (pre post : List Declaration) (d : Declaration) :
    d.AddedTo options (Document.count ⟨pre⟩ d.kind)
      (Document.outline fileName options ⟨pre ++ post⟩)
      (Document.outline fileName options ⟨pre ++ d :: post⟩) := by
  have hheader : Section.all = [] ++ .header :: _ := rfl
  have htypes : Section.all = [.header] ++ .types :: _ := rfl
  have hconstants : Section.all = [.header, .types] ++ .constants :: _ := rfl
  have henumerations : Section.all = [.header, .types, .constants] ++ .enumerations :: _ := rfl
  have hstructures : Section.all =
    [.header, .types, .constants, .enumerations] ++ .structures :: _ := rfl
  have hservices : Section.all =
    [.header, .types, .constants, .enumerations, .structures] ++ .services :: _ := rfl
  cases d with
  | scope n =>
    apply changedAt_outline fileName options hheader (by decide) rfl
    unfold Section.outline headerOutline
    rw [ofBlocks_map, ofBlocks_map]
    exact changedAt_listed
      (listedBy_namespaces.childAdded (fun n => .block (.quote (.single n.name))) rfl)
  | typedef t =>
    apply changedAt_outline fileName options htypes (by decide) rfl
    exact changedAt_listed (listedBy_typedefs.childAdded Typedef.outline rfl)
  | constant c =>
    apply changedAt_outline fileName options hconstants (by decide) rfl
    exact changedAt_listed
      (listedBy_constants.rowAdded ConstantDef.headers (ConstantDef.row options) rfl)
  | enumeration e =>
    apply changedAt_outline fileName options henumerations (by decide) rfl
    exact changedAt_listed (listedBy_enumerations.childAdded (Enumeration.outline options) rfl)
  | struct s =>
    apply changedAt_outline fileName options hstructures (by decide) rfl
    exact changedAt_listed (listedBy_structs.childAdded (Struct.outline options) rfl)
  | service s =>
    apply changedAt_outline fileName options hservices (by decide) rfl
    exact changedAt_listed (listedBy_services.childAdded Service.outline rfl)
  | inclusion _ => exact outline_insert_hidden fileName options .inclusion (by decide) rfl pre post
  | cppInclusion _ =>
    exact outline_insert_hidden fileName options .cppInclusion (by decide) rfl pre post
  | union _ => exact outline_insert_hidden fileName options .union (by decide) rfl pre post
  | exception _ => exact outline_insert_hidden fileName options .exception (by decide) rfl pre post

/-- Documents that have the same declarations of each kind, in the same order, have
the same outline. -/
theorem Document.outline_congr {ds es : List Declaration}
    (h : ∀ kind, (ds.filter fun d => d.kind = kind) = es.filter fun d => d.kind = kind) :
    Document.outline fileName options ⟨ds⟩ = Document.outline fileName options ⟨es⟩ :=
  Document.outline_of_sections fun s => Section.outline_congr fileName options (h s.kind)

end Page

/-! ### The order of declarations -/

/-- Declarations in another order: those of different kinds are moved past each
other, one pair of neighbours after the other. -/
inductive Declaration.Reordered : List Declaration → List Declaration → Prop
  | refl (ds : List Declaration) : Reordered ds ds
  | swap {a b : Declaration} (h : a.kind ≠ b.kind) (before after : List Declaration) :
      Reordered (before ++ a :: b :: after) (before ++ b :: a :: after)
  | trans {ds es fs : List Declaration} (h : Reordered ds es) (h' : Reordered es fs) :
      Reordered ds fs

/-- Declarations of one kind keep their order. -/
theorem Declaration.Reordered.filter_eq {ds es : List Declaration} (h : Reordered ds es)
    (kind : DeclarationKind) :
    (ds.filter fun d => d.kind = kind) = es.filter fun d => d.kind = kind := by
  induction h with
  | refl ds => rfl
  | @swap a b hne before after =>
    rw [List.filter_append, List.filter_append]
    congr 1
    by_cases ha : a.kind = kind
    · have hb : b.kind ≠ kind := fun hb => hne (ha.trans hb.symm)
      simp [ha, hb]
    · simp [List.filter_cons, ha]
  | trans _ _ ih ih' => exact ih.trans ih'

/-- **The order of declarations matters within a kind only.** -/
theorem Document.outline_reordered {ds es : List Declaration} (h : Declaration.Reordered ds es)
    (fileName : String) (options : PageOptions) :
    Document.outline fileName options ⟨ds⟩ = Document.outline fileName options ⟨es⟩ :=
  Document.outline_congr fileName options h.filter_eq

/-- **One declaration more.** It adds its own material, at the place that the
declarations of its kind before it give, and nothing else changes. Moving
declarations of different kinds past each other changes neither the outline nor
the page nor the dump. -/
theorem Document.one_declaration_more (fileName : String) (options : PageOptions) :
    (∀ (pre post : List Declaration) (d : Declaration),
      d.AddedTo options (Document.count ⟨pre⟩ d.kind)
        (Document.outline fileName options ⟨pre ++ post⟩)
        (Document.outline fileName options ⟨pre ++ d :: post⟩)) ∧
    ∀ ds es : List Declaration, Declaration.Reordered ds es →
      Document.outline fileName options ⟨ds⟩ = Document.outline fileName options ⟨es⟩ ∧
      Document.markdown fileName options ⟨ds⟩ = Document.markdown fileName options ⟨es⟩ ∧
      (Document.outline fileName options ⟨ds⟩).dump =
        (Document.outline fileName options ⟨es⟩).dump := by
  refine ⟨Document.outline_insert fileName options, fun ds es h => ?_⟩
  have houtline := Document.outline_reordered h fileName options
  exact ⟨houtline, congrArg Outline.text houtline, congrArg Outline.dump houtline⟩

/-- An enumeration and a namespace in either order. -/
theorem Document.enumeration_and_namespace_reordered :
    Document.outline "shop.json" {}
        ⟨[.enumeration ⟨"Color", [], []⟩, .scope ⟨"java", "com.shop"⟩]⟩ =
      Document.outline "shop.json" {}
        ⟨[.scope ⟨"java", "com.shop"⟩, .enumeration ⟨"Color", [], []⟩]⟩ := by
  have hreordered : Declaration.Reordered
      [.enumeration ⟨"Color", [], []⟩, .scope ⟨"java", "com.shop"⟩]
      [.scope ⟨"java", "com.shop"⟩, .enumeration ⟨"Color", [], []⟩] :=
    .swap (by decide) [] []
  exact ((Document.one_declaration_more "shop.json" {}).2 _ _ hreordered).1

end ThriftPages
