/-
# The values in a document

The values in a document are those of its constants, those of the members of its enumerations,
and the default values of all its fields, parameters and exceptions. A page shows the values of
constants and the default values of the fields of structures, and of each of them no more than
its text. So a change that is made to every value leaves the page as it was if it leaves the
texts of the values as they were (`Document.outline_mapValues`).

Key definitions: `Document.values`, `Document.mapValues`, `Constant.ShownAlike`.
Key theorems: `Document.values_mapValues`, `Document.outline_mapValues`.
-/
import ThriftPages.Proofs.Reference.Details

namespace ThriftPages

/-- The default value of a field. -/
def Field.values (f : Field) : List Constant := f.default.toList

/-- The value of a member of an enumeration. -/
def Member.values (m : Member) : List Constant := m.value.toList

/-- The default values of the parameters and exceptions of a function. -/
def Function.values (f : Function) : List Constant :=
  (f.parameters ++ f.throws).flatMap Field.values

/-- The values in a declaration: that of a constant, those of the members of an enumeration, and
the default values of all fields. -/
def Declaration.values : Declaration → List Constant
  | constant c => [c.value]
  | enumeration e => e.members.flatMap Member.values
  | struct s | union s | exception s => s.fields.flatMap Field.values
  | service s => s.functions.flatMap Function.values
  | _ => []

/-- The values in a document. -/
def Document.values (doc : Document) : List Constant := doc.declarations.flatMap Declaration.values

section

variable (change : Constant → Constant)

/-- A field with its default value changed. -/
def Field.mapValues (f : Field) : Field := { f with default := f.default.map change }

/-- A member with its value changed. -/
def Member.mapValues (m : Member) : Member := { m with value := m.value.map change }

/-- A constant with its value changed. -/
def ConstantDef.mapValues (c : ConstantDef) : ConstantDef := { c with value := change c.value }

/-- An enumeration with the values of its members changed. -/
def Enumeration.mapValues (e : Enumeration) : Enumeration :=
  { e with members := e.members.map (Member.mapValues change) }

/-- A structure with its default values changed. -/
def Struct.mapValues (s : Struct) : Struct :=
  { s with fields := s.fields.map (Field.mapValues change) }

/-- A function with its default values changed. -/
def Function.mapValues (f : Function) : Function :=
  { f with
    parameters := f.parameters.map (Field.mapValues change)
    throws := f.throws.map (Field.mapValues change) }

/-- A service with the default values in its functions changed. -/
def Service.mapValues (s : Service) : Service :=
  { s with functions := s.functions.map (Function.mapValues change) }

/-- A declaration with every value in it changed. -/
def Declaration.mapValues : Declaration → Declaration
  | constant c => constant (c.mapValues change)
  | enumeration e => enumeration (e.mapValues change)
  | struct s => struct (s.mapValues change)
  | union s => union (s.mapValues change)
  | exception s => exception (s.mapValues change)
  | service s => service (s.mapValues change)
  | other => other

/-- A document with every value in it changed. -/
def Document.mapValues (doc : Document) : Document :=
  ⟨doc.declarations.map (Declaration.mapValues change)⟩

end

section

variable (change : Constant → Constant)

theorem Field.values_mapValues (f : Field) :
    (f.mapValues change).values = f.values.map change := by
  cases hgiven : f.default <;> simp [values, mapValues, hgiven]

theorem Member.values_mapValues (m : Member) :
    (m.mapValues change).values = m.values.map change := by
  cases hgiven : m.value <;> simp [values, mapValues, hgiven]

theorem Function.values_mapValues (f : Function) :
    (f.mapValues change).values = f.values.map change := by
  simp [values, mapValues, List.flatMap_map, List.map_flatMap, Field.values_mapValues]

theorem Declaration.values_mapValues (d : Declaration) :
    (d.mapValues change).values = d.values.map change := by
  cases d with
  | constant c => rfl
  | enumeration e =>
    simp [values, mapValues, Enumeration.mapValues, List.flatMap_map, List.map_flatMap,
      Member.values_mapValues]
  | struct s | union s | exception s =>
    simp [values, mapValues, Struct.mapValues, List.flatMap_map, List.map_flatMap,
      Field.values_mapValues]
  | service s =>
    simp [values, mapValues, Service.mapValues, List.flatMap_map, List.map_flatMap,
      Function.values_mapValues]
  | _ => rfl

/-- Every value in a document is changed. -/
theorem Document.values_mapValues (doc : Document) :
    (doc.mapValues change).values = doc.values.map change := by
  simp only [values, mapValues, List.flatMap_map, List.map_flatMap, Declaration.values_mapValues]

end

/-! ### A page shows texts of values -/

/-- Two values have the same text as the value of a constant and as a default value. -/
structure Constant.ShownAlike (a b : Constant) : Prop where
  value : ∀ declared, a.valueText declared = b.valueText declared
  default : ∀ declared, a.defaultText declared = b.defaultText declared

/-- Items are shown alike if a change to each of them does not show. -/
theorem map_shown {α β : Type} {change : α → α} {shown : α → β} {items : List α}
    (h : ∀ item ∈ items, shown (change item) = shown item) :
    (items.map change).map shown = items.map shown := by
  rw [List.map_map]
  exact List.map_congr_left h

section

variable {change : Constant → Constant} (options : PageOptions)

theorem ConstantDef.row_mapValues {c : ConstantDef} (h : (change c.value).ShownAlike c.value) :
    (c.mapValues change).row options = c.row options := by
  simp only [row, mapValues, h.value]

theorem Field.row_mapValues {f : Field} (h : ∀ v ∈ f.values, (change v).ShownAlike v) :
    (f.mapValues change).row options = f.row options := by
  have hdefault : (f.default.map change).map (Constant.defaultText f.type) =
      f.default.map (Constant.defaultText f.type) := by
    unfold values at h
    cases hgiven : f.default with
    | none => rfl
    | some value =>
      rw [hgiven] at h
      exact congrArg some ((h value (List.mem_singleton_self _)).default f.type)
  simp only [row, mapValues, hdefault]

theorem Struct.outline_mapValues {s : Struct}
    (h : ∀ f ∈ s.fields, ∀ v ∈ f.values, (change v).ShownAlike v) :
    (s.mapValues change).outline options = s.outline options := by
  rw [outline, outline, mapValues,
    map_shown fun f hf => Field.row_mapValues options (h f hf)]

/-- The values of members are not shown. -/
theorem Enumeration.outline_mapValues (e : Enumeration) :
    (e.mapValues change).outline options = e.outline options := by
  have hmember : ∀ m ∈ e.members, (m.mapValues change).row options = m.row options :=
    fun _ _ => rfl
  rw [outline, outline, mapValues, map_shown hmember]

/-- The default values of parameters and exceptions are not shown. -/
theorem Service.outline_mapValues (s : Service) : (s.mapValues change).outline = s.outline := by
  have hfields : ∀ fields : List Field,
      (fields.map (Field.mapValues change)).map Field.asParameter =
        fields.map Field.asParameter :=
    fun _ => map_shown fun _ _ => rfl
  have hfunction : ∀ f : Function, (f.mapValues change).withoutDetails = f.withoutDetails :=
    fun f => by simp only [Function.withoutDetails, Function.mapValues, hfields]
  have hservice : (s.mapValues change).withoutDetails = s.withoutDetails := by
    rw [withoutDetails, withoutDetails, mapValues, map_shown fun f _ => hfunction f]
  rw [← outline_withoutDetails, hservice, outline_withoutDetails]

namespace Document

variable (change) (doc : Document)

theorem namespaces_mapValues : (doc.mapValues change).namespaces = doc.namespaces := by
  have h : (doc.mapValues change).namespaces = doc.namespaces.map id :=
    filterMap_changed (fun d => by cases d <;> rfl) _
  rw [h, List.map_id]

theorem typedefs_mapValues : (doc.mapValues change).typedefs = doc.typedefs := by
  have h : (doc.mapValues change).typedefs = doc.typedefs.map id :=
    filterMap_changed (fun d => by cases d <;> rfl) _
  rw [h, List.map_id]

theorem constants_mapValues :
    (doc.mapValues change).constants = doc.constants.map (ConstantDef.mapValues change) :=
  filterMap_changed (fun d => by cases d <;> rfl) _

theorem enumerations_mapValues :
    (doc.mapValues change).enumerations = doc.enumerations.map (Enumeration.mapValues change) :=
  filterMap_changed (fun d => by cases d <;> rfl) _

theorem structs_mapValues :
    (doc.mapValues change).structs = doc.structs.map (Struct.mapValues change) :=
  filterMap_changed (fun d => by cases d <;> rfl) _

theorem services_mapValues :
    (doc.mapValues change).services = doc.services.map (Service.mapValues change) :=
  filterMap_changed (fun d => by cases d <;> rfl) _

variable {doc}

theorem mem_values_of_constant {c : ConstantDef} (h : c ∈ doc.constants) :
    c.value ∈ doc.values := by
  obtain ⟨d, hd, hlisted⟩ := List.mem_filterMap.1 h
  cases d with
  | constant c' =>
    obtain rfl := Option.some.inj hlisted
    exact List.mem_flatMap.2 ⟨_, hd, List.mem_singleton_self _⟩
  | _ => cases hlisted

theorem mem_values_of_struct {s : Struct} (h : s ∈ doc.structs) {f : Field} (hf : f ∈ s.fields)
    {v : Constant} (hv : v ∈ f.values) : v ∈ doc.values := by
  obtain ⟨d, hd, hlisted⟩ := List.mem_filterMap.1 h
  cases d with
  | struct s' =>
    obtain rfl := Option.some.inj hlisted
    exact List.mem_flatMap.2 ⟨_, hd, List.mem_flatMap.2 ⟨f, hf, hv⟩⟩
  | _ => cases hlisted

end Document

/-- No section shows more of the values than their texts. -/
theorem Section.outline_mapValues {doc : Document}
    (h : ∀ v ∈ doc.values, (change v).ShownAlike v) (fileName : String) (s : Section) :
    s.outline fileName options (doc.mapValues change) = s.outline fileName options doc := by
  cases s with
  | header => rw [outline, outline, headerOutline, headerOutline, doc.namespaces_mapValues]
  | types => rw [outline, outline, doc.typedefs_mapValues]
  | constants =>
    have hrows : ∀ c ∈ doc.constants, (c.mapValues change).row options = c.row options :=
      fun c hc => ConstantDef.row_mapValues options (h _ (Document.mem_values_of_constant hc))
    rw [outline, outline, doc.constants_mapValues, map_shown hrows]
  | enumerations =>
    have henumerations : ∀ e ∈ doc.enumerations,
        (e.mapValues change).outline options = e.outline options :=
      fun e _ => e.outline_mapValues options
    rw [outline, outline, doc.enumerations_mapValues, map_shown henumerations]
  | structures =>
    have hstructs : ∀ s ∈ doc.structs, (s.mapValues change).outline options = s.outline options :=
      fun s hs => Struct.outline_mapValues options fun f hf v hv =>
        h v (Document.mem_values_of_struct hs hf hv)
    rw [outline, outline, doc.structs_mapValues, map_shown hstructs]
  | services =>
    have hservices : ∀ s ∈ doc.services, (s.mapValues change).outline = s.outline :=
      fun s _ => s.outline_mapValues
    rw [outline, outline, doc.services_mapValues, map_shown hservices]

/-- **A page depends on the values in a document through their texts only.** -/
theorem Document.outline_mapValues {doc : Document}
    (h : ∀ v ∈ doc.values, (change v).ShownAlike v) (fileName : String) :
    (doc.mapValues change).outline fileName options = doc.outline fileName options :=
  outline_of_sections (Section.outline_mapValues options h fileName)

end

end ThriftPages
