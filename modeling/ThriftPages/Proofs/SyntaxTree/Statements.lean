/-
# The statements of a document

A document whose tree has a body and nothing else is loaded statement by statement: the
body of two lists of statements, one behind the other, is loaded as the first and then as
the second (`Document.statements_together`). So either every statement is loaded, each as
it would be alone, or none is.

A statement that is loaded becomes a declaration of the kind that its tag names, since
every kind of declaration is decoded by the variant of its own name
(`SyntaxTree.tag_of_named`). The ten kinds share out the declarations of a document
(`Document.sum_count`).

Key definitions: `SyntaxTree.bodyTree`, `SyntaxTree.TagNames`.
Key theorems: `Document.ofText_body`, `SyntaxTree.tagNames_of_statementOf`,
`Document.statements_together`.
-/
import Mathlib.Algebra.BigOperators.Group.List.Basic
import Mathlib.Algebra.GroupWithZero.Nat
import ThriftPages.Proofs.Json.Writing
import ThriftPages.Proofs.Steps
import ThriftPages.Proofs.SyntaxTree.Levels

namespace ThriftPages

open Steps (bind_eq_ok_iff mapError_eq_ok_iff mapM_eq_ok_iff)

namespace SyntaxTree

/-! ### Kinds -/

/-- The tag of a statement names the kind: it is the only value under its key, or the first
element. -/
inductive TagNames (kind : DeclarationKind) : Json → Prop
  | object {members : List (String × Json)}
      (h : valuesOf tagKey members = [.string (tagOfKind kind)]) : TagNames kind (.object members)
  | array (elements : List Json) : TagNames kind (.array (.string (tagOfKind kind) :: elements))

/-- What is decoded from fields to which a function is applied is a value of the function. -/
theorem decode_map {α β : Type} {g : α → β} {fields : Fields α} {shape : Shape} {content : Content}
    {b : β} (h : (g <$> fields).decode shape content = .ok b) : ∃ a, b = g a := by
  have hread : ∀ outer index, (g <$> fields).read outer index content =
      (fields.read outer (index + 0) content).map g := by
    intro outer index
    show both (.ok g) (fields.read outer (index + 0) content) = _
    cases fields.read outer (index + 0) content <;> rfl
  unfold Fields.decode at h
  obtain ⟨b', hb', h⟩ := bind_eq_ok_iff.1 h
  rw [mapError_eq_ok_iff, hread] at hb'
  cases hfields : fields.read ⟨shape, (g <$> fields).size⟩ (0 + 0) content with
  | error fault =>
    rw [hfields] at hb'
    cases hb'
  | ok a =>
    rw [hfields] at hb'
    obtain rfl : g a = b' := Except.ok.inj hb'
    refine ⟨a, ?_⟩
    cases content with
    | members members => exact (Except.ok.inj h).symm
    | elements elements =>
      by_cases hlength : (g <$> fields).size < elements.length
      · simp only [if_pos hlength] at h
        cases h
      · simp only [if_neg hlength] at h
        exact (Except.ok.inj h).symm

/-- Each variant decodes declarations of the kind that its name is the tag of. -/
theorem name_of_decode {variant : Variant Declaration} (hv : variant ∈ declarations)
    {content : Content} {d : Declaration} (h : variant.decode content = .ok d) :
    variant.name = tagOfKind d.kind := by
  simp only [declarations, List.mem_cons, List.not_mem_nil, or_false] at hv
  rcases hv with rfl | rfl | rfl | rfl | rfl | rfl | rfl | rfl | rfl | rfl <;>
    (obtain ⟨_, rfl⟩ := decode_map h; rfl)

/-- What the variant of a tag decodes is of the kind that the tag names. -/
theorem tag_of_named {tag : String} {variant : Variant Declaration}
    (hv : Variant.named declarations tag = .ok variant) {content : Content} {d : Declaration}
    (h : variant.decode content = .ok d) : tag = tagOfKind d.kind := by
  unfold Variant.named at hv
  cases hfind : declarations.find? fun v => v.name = tag with
  | none =>
    rw [hfind] at hv
    cases hv
  | some found =>
    rw [hfind] at hv
    obtain rfl := Except.ok.inj hv
    have hname : found.name = tag := by simpa using List.find?_some hfind
    rw [← hname]
    exact name_of_decode (List.mem_of_find?_eq_some hfind) h

/-- **A statement becomes a declaration of the kind that its tag names.** -/
theorem tagNames_of_statementOf {levels : Nat} {v : Json} {d : Declaration}
    (h : statementOf levels v = .ok d) : TagNames d.kind v := by
  obtain ⟨tag, variant, hnamed, ⟨members, rfl, htag, hdecode⟩ | ⟨elements, rfl, hdecode⟩⟩ :=
    of_statementOf h
  · exact .object (by rw [htag, tag_of_named hnamed hdecode])
  · rw [tag_of_named hnamed hdecode]
    exact .array elements

/-! ### Bodies -/

/-- The tree of a document with these statements and nothing else. -/
def bodyTree (statements : List Json) : Json := .object [(bodyKey, .array statements)]

/-- The brackets that may be open in a statement: those of the document and its body are
open around it. -/
def statementLimit : Nat := nestingLimit - 2

theorem documentOf_bodyTree (statements : List Json) :
    documentOf nestingLimit (bodyTree statements) =
      statements.mapM (statementOf statementLimit) := by
  show ((documentMember (nestingLimit - 1) none (bodyKey, .array statements) >>= pure).map
    fun found => found.getD []) = _
  rw [documentMember, readOnce, if_pos rfl, if_neg (by decide)]
  show (((statements.mapM (statementOf statementLimit)).map some >>= pure).map _) = _
  cases statements.mapM (statementOf statementLimit) <;> rfl

/-- Each of the first has its counterpart. -/
theorem exists_of_forall₂ {α β : Type} {R : α → β → Prop} {as : List α} {bs : List β}
    (h : List.Forall₂ R as bs) {a : α} (ha : a ∈ as) : ∃ b, R a b := by
  induction h with
  | nil => cases ha
  | cons hr _ ih =>
    rcases List.mem_cons.1 ha with rfl | ha
    · exact ⟨_, hr⟩
    · exact ih ha

end SyntaxTree

open SyntaxTree

/-- A document is loaded from the statements of its body. -/
theorem Document.ofText_body {statements : List Json} {text : String}
    (h : Json.SpellsText (bodyTree statements) text.toList) :
    Document.ofText text = (statements.mapM (statementOf statementLimit)).map Document.mk := by
  rw [Document.ofText_spelled h, documentOf_bodyTree]

/-- A document is loaded if each statement is read. -/
theorem Document.ofText_body_eq_ok_iff {statements : List Json} {text : String}
    (h : Json.SpellsText (bodyTree statements) text.toList) {doc : Document} :
    Document.ofText text = .ok doc ↔
      List.Forall₂ (fun v d => statementOf statementLimit v = .ok d) statements
        doc.declarations := by
  rw [← mapM_eq_ok_iff, Document.ofText_body h]
  cases statements.mapM (statementOf statementLimit) with
  | error fault => exact ⟨nofun, nofun⟩
  | ok ds => exact ⟨fun h => Except.ok.inj h ▸ rfl, fun h => Except.ok.inj h ▸ rfl⟩

/-- **The kinds share out the declarations.** -/
theorem Document.sum_count (doc : Document) :
    (DeclarationKind.all.map doc.count).sum = doc.declarations.length := by
  obtain ⟨ds⟩ := doc
  induction ds with
  | nil => rfl
  | cons d ds ih =>
    have hcount : Document.count ⟨d :: ds⟩ = fun kind =>
        Document.count ⟨ds⟩ kind + if d.kind = kind then 1 else 0 := by
      funext kind
      simp only [Document.count, List.countP_cons, decide_eq_true_eq]
    have hone : (DeclarationKind.all.map fun kind => if d.kind = kind then 1 else 0).sum = 1 := by
      cases d <;> rfl
    rw [hcount, List.sum_map_add, ih, hone, List.length_cons]

/-- **Loading is all or nothing, and keeps every statement.** Statements behind others are
loaded as both lists are, and refused if one of them is, for the fault that comes first; one
statement that cannot be read is enough. What is loaded has one declaration for each
statement, in their order: the one that the statement is alone, of the kind that its tag
names. The ten kinds share out the declarations. -/
theorem Document.statements_together {vs ws : List Json} {text first second : String}
    (ht : Json.SpellsText (bodyTree (vs ++ ws)) text.toList)
    (hf : Json.SpellsText (bodyTree vs) first.toList)
    (hs : Json.SpellsText (bodyTree ws) second.toList) :
    (Document.ofText text = do
      let a ← Document.ofText first
      let b ← Document.ofText second
      return ⟨a.declarations ++ b.declarations⟩) ∧
    ((∃ doc, Document.ofText text = .ok doc) ↔
      (∃ a, Document.ofText first = .ok a) ∧ ∃ b, Document.ofText second = .ok b) ∧
    (∀ v ∈ vs ++ ws, ∀ alone : String, Json.SpellsText (bodyTree [v]) alone.toList →
      (∃ fault, Document.ofText alone = .error fault) →
      ∃ fault, Document.ofText text = .error fault) ∧
    ∀ doc, Document.ofText text = .ok doc →
      List.Forall₂ (fun v d => TagNames d.kind v ∧
        ∀ alone : String, Json.SpellsText (bodyTree [v]) alone.toList →
          Document.ofText alone = .ok ⟨[d]⟩) (vs ++ ws) doc.declarations ∧
      (DeclarationKind.all.map doc.count).sum = (vs ++ ws).length := by
  have happend : Document.ofText text = (do
      let a ← Document.ofText first
      let b ← Document.ofText second
      return ⟨a.declarations ++ b.declarations⟩) := by
    rw [Document.ofText_body ht, Document.ofText_body hf, Document.ofText_body hs,
      List.mapM_append]
    cases vs.mapM (statementOf statementLimit) with
    | error fault => rfl
    | ok ds => cases ws.mapM (statementOf statementLimit) <;> rfl
  have hsole : ∀ {v d} {alone : String}, Json.SpellsText (bodyTree [v]) alone.toList →
      statementOf statementLimit v = .ok d → Document.ofText alone = .ok ⟨[d]⟩ :=
    fun halone hd => (Document.ofText_body_eq_ok_iff halone).2 (.cons hd .nil)
  refine ⟨happend, ?_, ?_, ?_⟩
  · constructor
    · rintro ⟨doc, hdoc⟩
      rw [happend] at hdoc
      obtain ⟨a, ha, hdoc⟩ := bind_eq_ok_iff.1 hdoc
      obtain ⟨b, hb, -⟩ := bind_eq_ok_iff.1 hdoc
      exact ⟨⟨a, ha⟩, b, hb⟩
    · rintro ⟨⟨a, ha⟩, b, hb⟩
      exact ⟨⟨a.declarations ++ b.declarations⟩, by rw [happend, ha, hb]; rfl⟩
  · intro v hv alone halone ⟨fault, hfault⟩
    cases hdoc : Document.ofText text with
    | error first => exact ⟨first, rfl⟩
    | ok doc =>
      -- were the document loaded, the statement would be loaded alone
      obtain ⟨d, hd⟩ := exists_of_forall₂ ((Document.ofText_body_eq_ok_iff ht).1 hdoc) hv
      rw [hsole halone hd] at hfault
      cases hfault
  · intro doc hdoc
    have hread := (Document.ofText_body_eq_ok_iff ht).1 hdoc
    have heach := hread.imp fun v d (hd : statementOf statementLimit v = .ok d) =>
      (⟨tagNames_of_statementOf hd, fun _ halone => hsole halone hd⟩ : TagNames d.kind v ∧
        ∀ alone : String, Json.SpellsText (bodyTree [v]) alone.toList →
          Document.ofText alone = .ok ⟨[d]⟩)
    refine ⟨heach, ?_⟩
    rw [Document.sum_count, hread.length_eq]

/-- An enumeration given as an object before a file's path given as an array, and the same
enumeration before a statement of no kind. -/
theorem Document.enumeration_and_inclusion_together :
    let color := Json.object [("name", .string "Color"), ("type", .string "EnumDefinition")]
    let shared := Json.array [.string "IncludeDefinition", .string "shared.thrift"]
    let bogus := Json.object [("type", .string "Bogus")]
    Document.ofText (bodyTree ([color] ++ [shared])).compact =
      .ok ⟨[.enumeration ⟨"Color", [], []⟩, .inclusion "shared.thrift"]⟩ ∧
    ∃ fault, Document.ofText (bodyTree ([color] ++ [bogus])).compact = .error fault := by
  intro color shared bogus
  have hspells : ∀ statements, (∀ v ∈ statements, v = color ∨ v = shared ∨ v = bogus) →
      Json.SpellsText (bodyTree statements) (bodyTree statements).compact.toList := by
    intro statements h
    refine Json.spellsText_of_spells (Json.spells_compact ?_)
    simp only [bodyTree, Json.exact_object_iff, Json.exact_array_iff, List.mem_singleton,
      forall_eq]
    intro v hv
    rcases h v hv with rfl | rfl | rfl <;>
      simp [color, shared, bogus, Json.exact_object_iff, Json.exact_array_iff, Json.Exact.string]
  have hcolor : Document.ofText (bodyTree [color]).compact =
      .ok ⟨[.enumeration ⟨"Color", [], []⟩]⟩ := by
    rw [Document.ofText_body (hspells _ (by simp))]
    rfl
  have hshared : Document.ofText (bodyTree [shared]).compact =
      .ok ⟨[.inclusion "shared.thrift"]⟩ := by
    rw [Document.ofText_body (hspells _ (by simp))]
    rfl
  have hbogus : ∃ fault, Document.ofText (bodyTree [bogus]).compact = .error fault :=
    ⟨_, by rw [Document.ofText_body (hspells _ (by simp))]; rfl⟩
  have hboth := statements_together (hspells ([color] ++ [shared]) (by simp))
    (hspells [color] (by simp)) (hspells [shared] (by simp))
  have hrefused := statements_together (hspells ([color] ++ [bogus]) (by simp))
    (hspells [color] (by simp)) (hspells [bogus] (by simp))
  refine ⟨?_, hrefused.2.2.1 bogus (by simp) _ (hspells [bogus] (by simp)) hbogus⟩
  rw [hboth.1, hcolor, hshared]
  rfl

end ThriftPages
