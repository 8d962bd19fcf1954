/-
# Altered documents are loaded alike

A document is loaded as before after its syntax tree has been altered: members of its
objects in another order, more or fewer members that are not read
(`Document.members_altered`), names and numbers bare or in objects
(`Document.values_wrapped`). An alteration may only make a tree too deep, or less so.

The proof follows the tree. What is read of a value is read of the altered one, for every
part that it may stand for (`Part.Alike`). This is shown of a record, tagged or not, from the
same for the parts under its keys (`Opened.alike`), and so of every value by induction on its
nesting (`Altered.alike`).

A requiredness is the one object that is not altered: a member more in it is refused
(`Document.requiredness_is_not_altered`). Nor may a member that is not read be anything: what
a text spells are values, and a number that is out of range or half of a surrogate pair spells
none (`Document.wrapped_beside_no_value`).

Key definitions: `SyntaxTree.Part.Alike`.
Key theorems: `SyntaxTree.Opened.alike`, `SyntaxTree.Altered.alike`,
`Document.members_altered`, `Document.values_wrapped`.
-/
import ThriftPages.Proofs.Json.Writing
import ThriftPages.Proofs.SyntaxTree.Declarations

namespace ThriftPages

namespace SyntaxTree

variable {α : Type} {rel : Part → Json → Json → Prop}

/-! ### Parts that are alike -/

/-- What is read of the first value, standing for the part, is read of the second. -/
def Part.Alike : Part → Json → Json → Prop
  | whole => Eq
  | name => Kept SyntaxTree.name
  | fieldId => Kept SyntaxTree.fieldId
  | type => Carried typeRef typeRef
  | constant => Kept SyntaxTree.constant
  | entry => Carried (entryOf SyntaxTree.constant) (entryOf SyntaxTree.constant)
  | comment => Carried SyntaxTree.comment SyntaxTree.comment
  | field => Carried SyntaxTree.field SyntaxTree.field
  | function => Carried SyntaxTree.function SyntaxTree.function
  | member => Carried SyntaxTree.member SyntaxTree.member
  | declaration => fun v w => ∀ d, Declares v d → Declares w d
  | document => fun v w => ∀ ds, Loads v ds → Loads w ds
  | list part => ListAlike part.Alike

theorem Part.read_alike : Part.Read Part.Alike where
  whole h := h
  list h := h
  name h := h
  fieldId h := h
  type h := h
  constant h := h
  comment h := h
  field h := h
  function h := h
  member h := h

theorem Part.alike_refl (part : Part) : ∀ v : Json, part.Alike v v := by
  induction part with
  | whole => exact fun _ => rfl
  | name | fieldId | constant => exact fun _ => ⟨Iff.rfl, fun _ ha => ha⟩
  | list part ih => exact fun v vs hv => ⟨vs, hv, List.forall₂_same.2 fun v _ => ih v⟩
  | _ => exact fun _ _ ha => ha

section Nodes

variable {bare? : Json → Option α} {x v w : Json} {members : List (String × Json)}

/-- What a bare value is read as. -/
def nodeOf (bare? : Json → Option α) (x : Json) : Except Fault α :=
  match bare? x with
  | some a => .ok a
  | none => .error (.noVariant "ValueNode")

theorem node_bare (hx : ∀ members, x ≠ .object members) : node bare? x = nodeOf bare? x := by
  cases x with
  | object members => exact absurd rfl (hx members)
  | _ => rfl

theorem node_sole (h : valuesOf "value" members = [x]) :
    node bare? (.object members) = nodeOf bare? x := by
  unfold valuesOf at h
  simp only [node, h]
  rfl

/-- A bare value stands for itself in an object, too. -/
theorem node_stands (hx : ∀ members, x ≠ .object members) (h : Stands x v) :
    node bare? v = nodeOf bare? x := by
  cases h with
  | bare => exact node_bare hx
  | wrapped h => exact node_sole h

/-- An object is read only if it has one value. -/
theorem of_node_object {a : α} (h : node bare? (.object members) = .ok a) :
    ∃ x, valuesOf "value" members = [x] := by
  cases hvalues : valuesOf "value" members with
  | nil =>
    unfold valuesOf at hvalues
    simp only [node, hvalues, reduceCtorEq] at h
  | cons x others =>
    cases others with
    | nil => exact ⟨x, rfl⟩
    | cons y others =>
      unfold valuesOf at hvalues
      simp only [node, hvalues, reduceCtorEq] at h

/-- An object is read from its value, an array not at all. -/
theorem Opened.node {part : Part} (h : Opened rel part v w)
    (hwhole : ∀ {v w : Json}, rel .whole v w → v = w)
    (hkeys : ∀ tags, (part.keysAs tags).lookup "value" = some .whole)
    (harray : ∀ vs, bare? (.array vs) = none) :
    Carried (SyntaxTree.node bare?) (SyntaxTree.node bare?) v w := by
  intro a ha
  cases h with
  | @object ms ns h =>
    cases h with
    | members h =>
      obtain ⟨x, hx⟩ := of_node_object ha
      obtain ⟨y, hy, heq⟩ := (h "value" .whole (hkeys _)).2 x hx
      rw [node_sole hy, ← hwhole heq, ← node_sole hx]
      exact ha
  | @array vs ws h =>
    have hflat : ∀ members, Json.array vs ≠ .object members := nofun
    rw [node_bare hflat, nodeOf, harray] at ha
    cases ha

end Nodes

theorem Part.Bare.ne_object {part : Part} {x : Json} (h : part.Bare x)
    (members : List (String × Json)) : x ≠ .object members := by
  rintro rfl
  cases part <;> exact h

theorem Stands.ne_null {part : Part} {x v : Json} (hx : part.Bare x) (h : Stands x v) :
    v ≠ .null := by
  cases h with
  | bare =>
    rintro rfl
    cases part <;> exact hx
  | wrapped => exact nofun

/-- It does not matter whether a value is bare. -/
theorem Part.alike_of_stands {part : Part} {x v w : Json} (hx : part.Bare x) (hv : Stands x v)
    (hw : Stands x w) : part.Alike v w := by
  have hnode : ∀ {α : Type} {bare? : Json → Option α}, Kept (node bare?) v w := by
    intro α bare?
    refine ⟨iff_of_false (hv.ne_null hx) (hw.ne_null hx), fun a ha => ?_⟩
    rw [node_stands hx.ne_object hw, ← node_stands hx.ne_object hv]
    exact ha
  cases part with
  | name | fieldId => exact hnode
  | _ => exact False.elim hx

theorem Opened.null_iff {part : Part} {v w : Json} (h : Opened rel part v w) :
    v = .null ↔ w = .null := by
  cases h <;> exact iff_of_false nofun nofun

/-- What is read of a record is read of one whose parts are alike. -/
theorem Opened.alike {part : Part} (hpart : part ≠ .whole) (hlist : ∀ element, part ≠ .list element)
    {v w : Json} (h : Opened Part.Alike part v w) : part.Alike v w := by
  have hlinked := Part.read_alike.toLinked
  cases part with
  | whole => exact absurd rfl hpart
  | list element => exact absurd rfl (hlist element)
  | name | fieldId =>
    exact ⟨h.null_iff, h.node id (fun _ => rfl) fun _ => rfl⟩
  | type =>
    intro t ht
    exact typeRef_iff.2 (h.tagged rfl hlinked (carry_type hlinked fun _ _ h => h) _ t
      (typeRef_iff.1 ht))
  | constant =>
    refine ⟨h.null_iff, fun c hc => ?_⟩
    have hcarry := carry_constant hlinked (fun _ _ (h : Part.Alike .constant _ _) => h.2)
      fun _ _ h => h
    exact constant_iff.2 (h.tagged rfl hlinked hcarry _ c (constant_iff.1 hc))
  | entry => exact h.entry fun _ _ h => h.2
  | comment => exact h.comment hlinked
  | field => exact h.field Part.read_alike
  | function => exact h.function Part.read_alike
  | member => exact h.member Part.read_alike
  | declaration => exact fun d hd => h.declares Part.read_alike hd
  | document => exact fun ds hds => h.loads id (fun _ _ h => h) hds

/-- The part at an index of a record is the one of the key. -/
theorem Part.nth_of_key {part inner : Part} (hlist : ∀ element, part ≠ .list element)
    {vs : List Json} {i : Nat} {key : String}
    (hkey : (part.keysAs (vs.take 1))[i]? = some (key, inner)) : part.nth vs i = inner := by
  unfold nth
  split
  · exact absurd rfl (hlist _)
  · rw [hkey]
    rfl

/-- **What is read of a value is read of the altered one.** -/
theorem Altered.alike {may : Change → Prop} {v : Json} : ∀ {part : Part} {w : Json},
    Altered may part v w → part.Alike v w := by
  induction v using Json.nested with
  | object ms ih =>
    intro part w h
    cases h with
    | same => exact part.alike_refl _
    | wrapped _ hx hv hw => exact Part.alike_of_stands hx hv hw
    | @object _ _ ns hpart h =>
      by_cases hlist : ∃ element, part = .list element
      · obtain ⟨element, rfl⟩ := hlist
        exact fun _ => nofun
      · refine Opened.alike hpart (fun element heq => hlist ⟨element, heq⟩) (.object (.members ?_))
        -- a key that is given once holds a value that is altered as its own part
        intro key inner hkey
        exact (h.sole hkey).imp fun v hv w halt => ih (key, v) (mem_valuesOf.1 hv) halt
  | array vs ih =>
    intro part w h
    cases h with
    | same => exact part.alike_refl _
    | wrapped _ hx hv hw => exact Part.alike_of_stands hx hv hw
    | @array _ _ ws hpart hlength h =>
      have hinner : ∀ (i : Nat) v w, vs[i]? = some v → ws[i]? = some w →
          (part.nth vs i).Alike v w := fun i v w hv hw =>
        ih v (List.mem_of_getElem? hv) (h i v w hv hw)
      by_cases hlist : ∃ element, part = .list element
      · obtain ⟨element, rfl⟩ := hlist
        rintro _ ⟨⟩
        refine ⟨ws, rfl, List.forall₂_iff_get.2 ⟨hlength, fun i hv hw => ?_⟩⟩
        exact hinner i _ _ (List.getElem?_eq_getElem hv) (List.getElem?_eq_getElem hw)
      · have hnotList : ∀ element, part ≠ .list element := fun element heq => hlist ⟨element, heq⟩
        refine Opened.alike hpart hnotList (.array (.elements hlength ?_))
        intro i key inner v w hkey hv hw
        exact Part.nth_of_key hnotList hkey ▸ hinner i v w hv hw
  | _ =>
    intro part w h
    cases h with
    | same => exact part.alike_refl _
    | wrapped _ hx hv hw => exact Part.alike_of_stands hx hv hw

end SyntaxTree

open SyntaxTree

/-- **An altered document is loaded as before**, unless it has become too deep. -/
theorem Document.ofText_altered {may : Change → Prop} {v w : Json}
    (h : Altered may .document v w) {text text' : String} (ht : Json.SpellsText v text.toList)
    (ht' : Json.SpellsText w text'.toList) (doc : Document)
    (hdoc : Document.ofText text = .ok doc) :
    Document.ofText text' = .ok doc ∨
      nestingLimit < w.depth ∧ Document.ofText text' = .error (.malformed .tooDeep) := by
  rw [Document.ofText_spelled ht] at hdoc
  rw [Document.ofText_spelled ht']
  cases hds : documentOf nestingLimit v with
  | error fault =>
    rw [hds] at hdoc
    cases hdoc
  | ok ds =>
    rw [hds] at hdoc
    obtain rfl : Document.mk ds = doc := Except.ok.inj hdoc
    obtain hloaded | ⟨hdepth, hdeep⟩ := h.alike ds (loads_of_documentOf hds) nestingLimit
    · rw [hloaded]
      exact .inl rfl
    · rw [hdeep]
      exact .inr ⟨hdepth, rfl⟩

/-- The tree of a document with one structure, which has one field with these members. -/
def SyntaxTree.fieldTree (field : List (String × Json)) : Json :=
  .object [("body", .array [.object [("type", .string "StructDefinition"),
    ("name", .string "Point"), ("fields", .array [.object field])]])]

theorem SyntaxTree.spellsText_fieldTree {field : List (String × Json)}
    (h : ∀ m ∈ field, m.2.Exact) :
    Json.SpellsText (fieldTree field) (fieldTree field).compact.toList := by
  refine Json.spellsText_of_spells (Json.spells_compact ?_)
  simpa [fieldTree, Json.exact_object_iff, Json.exact_array_iff, Json.Exact.string] using h

/-- **The order of members does not matter, nor do members that are not read.** A document
whose objects have their members in another order, or more or fewer of those that are not
read, is loaded as the same document, unless it has become too deep. A requiredness that is
an object is left as it is. -/
theorem Document.members_altered {v w : Json} (h : Altered (· ≠ .wrapping) .document v w)
    {text text' : String} (ht : Json.SpellsText v text.toList)
    (ht' : Json.SpellsText w text'.toList) {doc : Document}
    (hdoc : Document.ofText text = .ok doc) :
    Document.ofText text' = .ok doc ∨
      nestingLimit < w.depth ∧ Document.ofText text' = .error (.malformed .tooDeep) :=
  Document.ofText_altered h ht ht' doc hdoc

/-- A structure with its members backwards, so that the tag comes last, and with more members
at the document and at the field. -/
theorem Document.structure_backwards :
    let field :=
      [("name", Json.string "x"), ("fieldType", .object [("type", .string "I32Keyword")])]
    let tagged := ("type", .string "FieldDefinition") :: field
    let backwards := Json.object [("loc", .array []), ("body", .array [.object
      [("fields", .array [.object tagged]), ("name", .string "Point"),
        ("type", .string "StructDefinition")]])]
    let point : Document := ⟨[.struct ⟨"Point", [⟨none, "x", .i32, none, none, []⟩], []⟩]⟩
    Document.ofText (fieldTree field).compact = .ok point ∧
      Document.ofText backwards.compact = .ok point := by
  intro field tagged backwards point
  have hforwards : Json.SpellsText (fieldTree field) (fieldTree field).compact.toList :=
    spellsText_fieldTree (by simp [field, Json.exact_object_iff, Json.Exact.string])
  have hbackwards : Json.SpellsText backwards backwards.compact.toList := by
    refine Json.spellsText_of_spells (Json.spells_compact ?_)
    simp [backwards, tagged, field, Json.exact_object_iff, Json.exact_array_iff, Json.Exact.string]
  have hloaded : Document.ofText (fieldTree field).compact = .ok point := by
    rw [Document.ofText_spelled hforwards]
    rfl
  have horder : Change.order ≠ .wrapping := by decide
  have hunread : Change.unread ≠ .wrapping := by decide
  have hfield : Altered (· ≠ .wrapping) .field (.object field) (.object tagged) :=
    .object (by decide) (.added hunread rfl _ (.kept _ (.kept _ (.nil _))))
  have hfields : Altered (· ≠ .wrapping) (.list .field) (.array [.object field])
      (.array [.object tagged]) := .listed (.cons hfield .nil)
  have hstruct : Altered (· ≠ .wrapping) .declaration
      (.object [("type", .string "StructDefinition"), ("name", .string "Point"),
        ("fields", .array [.object field])])
      (.object [("fields", .array [.object tagged]), ("name", .string "Point"),
        ("type", .string "StructDefinition")]) :=
    .object (by decide) (.reordered horder (List.reverse_perm _).symm
      (.inside rfl hfields (.kept _ (.kept _ (.nil _)))) (List.Perm.refl _))
  have haltered : Altered (· ≠ .wrapping) .document (fieldTree field) backwards :=
    .object (by decide) (.added hunread rfl _ (.inside rfl (.listed (.cons hstruct .nil)) (.nil _)))
  refine ⟨hloaded, ?_⟩
  obtain hsame | ⟨hdepth, _⟩ := Document.members_altered haltered hforwards hbackwards hloaded
  · exact hsame
  · exact absurd hdepth (by decide)

/-- A requiredness that is an object is read with its name as the only member and nothing in
it. It is refused with a member more, beside the name or under it. -/
theorem Document.requiredness_is_not_altered :
    let tree := fun requiredness => fieldTree [("name", .string "x"),
      ("fieldType", .object [("type", .string "I32Keyword")]),
      ("requiredness", .object requiredness)]
    let point : Document := ⟨[.struct ⟨"Point", [⟨none, "x", .i32, some .required, none, []⟩], []⟩]⟩
    Document.ofText (tree [("required", .null)]).compact = .ok point ∧
    Document.ofText (tree [("required", .null), ("loc", .null)]).compact =
      .error (.refused (.invalidValue .map .singleKeyMap)) ∧
    Document.ofText (tree [("required", .object [])]).compact = .ok point ∧
    Document.ofText (tree [("required", .object [("loc", .null)])]).compact =
      .error (.refused (.invalidType .map .unit)) := by
  intro tree point
  have hspells : ∀ requiredness : List (String × Json), (∀ m ∈ requiredness, m.2.Exact) →
      Json.SpellsText (tree requiredness) (tree requiredness).compact.toList :=
    fun requiredness h => spellsText_fieldTree (by
      simpa [Json.exact_object_iff, Json.Exact.string] using h)
  refine ⟨?_, ?_, ?_, ?_⟩
  all_goals
    rw [Document.ofText_spelled (hspells _ (by simp [Json.exact_object_iff, Json.Exact.null]))]
    rfl

/-- **It does not matter whether a value is bare.** Names, scopes, paths, parents and field
numbers may go into objects under `value`, or out of them, in any places at once: the same
document is loaded, or none in both cases, unless one of the two is too deep. -/
theorem Document.values_wrapped {v w : Json} (h : Altered (· = .wrapping) .document v w)
    {text text' : String} (ht : Json.SpellsText v text.toList)
    (ht' : Json.SpellsText w text'.toList) :
    (v.depth ≤ nestingLimit → w.depth ≤ nestingLimit →
      (Document.ofText text).toOption = (Document.ofText text').toOption) ∧
    ∀ doc,
      (Document.ofText text = .ok doc → Document.ofText text' = .ok doc ∨
        nestingLimit < w.depth ∧ Document.ofText text' = .error (.malformed .tooDeep)) ∧
      (Document.ofText text' = .ok doc → Document.ofText text = .ok doc ∨
        nestingLimit < v.depth ∧ Document.ofText text = .error (.malformed .tooDeep)) := by
  have hthere := Document.ofText_altered h ht ht'
  have hback := Document.ofText_altered h.symm ht' ht
  refine ⟨fun hv hw => ?_, fun doc => ⟨hthere doc, hback doc⟩⟩
  cases hloaded : Document.ofText text with
  | ok doc =>
    obtain hsame | ⟨hdepth, _⟩ := hthere doc hloaded
    · rw [hsame]
    · exact absurd hdepth (Nat.not_lt.2 hw)
  | error fault =>
    cases hloaded' : Document.ofText text' with
    | error fault' => rfl
    | ok doc =>
      obtain hsame | ⟨hdepth, _⟩ := hback doc hloaded'
      · rw [hloaded] at hsame
        cases hsame
      · exact absurd hdepth (Nat.not_lt.2 hv)

/-- The name and the number of a field bare, and in objects: with a type the field is read, and
without one it is refused in both forms. -/
theorem Document.field_wrapped :
    let bare := fun more => fieldTree (("fieldID", .ofInt 1) :: ("name", .string "x") :: more)
    let wrapped := fun more => fieldTree (("fieldID", .object [("value", .ofInt 1)]) ::
      ("name", .object [("type", .string "Identifier"), ("value", .string "x")]) :: more)
    let type := [("fieldType", Json.object [("type", .string "I32Keyword")])]
    let point : Document := ⟨[.struct ⟨"Point", [⟨some 1, "x", .i32, none, none, []⟩], []⟩]⟩
    Document.ofText (bare type).compact = .ok point ∧
      Document.ofText (wrapped type).compact = .ok point ∧
      (Document.ofText (bare []).compact).toOption = none ∧
      (Document.ofText (wrapped []).compact).toOption = none := by
  intro bare wrapped type point
  have hone : (Json.ofInt 1).Exact := .number ⟨by decide, by decide⟩
  have hbare : ∀ more : List (String × Json), (∀ m ∈ more, m.2.Exact) →
      Json.SpellsText (bare more) (bare more).compact.toList := fun more hmore =>
    spellsText_fieldTree (by simpa [hone, Json.Exact.string] using hmore)
  have hwrapped : ∀ more : List (String × Json), (∀ m ∈ more, m.2.Exact) →
      Json.SpellsText (wrapped more) (wrapped more).compact.toList := fun more hmore =>
    spellsText_fieldTree (by
      simpa [hone, Json.exact_object_iff, Json.Exact.string] using hmore)
  have htype : ∀ m ∈ type, m.2.Exact := by simp [type, Json.exact_object_iff, Json.Exact.string]
  have hid : Altered (· = .wrapping) .fieldId (.ofInt 1) (.object [("value", .ofInt 1)]) :=
    .wrapped (x := .ofInt 1) rfl trivial .bare (.wrapped rfl)
  have hname : Altered (· = .wrapping) .name (.string "x")
      (.object [("type", .string "Identifier"), ("value", .string "x")]) :=
    .wrapped (x := .string "x") rfl trivial .bare (.wrapped rfl)
  have haltered : ∀ more, Altered (· = .wrapping) .document (bare more) (wrapped more) := by
    intro more
    have hfield : Altered (· = .wrapping) .field
        (.object (("fieldID", .ofInt 1) :: ("name", .string "x") :: more))
        (.object (("fieldID", .object [("value", .ofInt 1)]) ::
          ("name", .object [("type", .string "Identifier"), ("value", .string "x")]) :: more)) :=
      .object (by decide) (.inside rfl hid (.inside rfl hname (.refl _ more)))
    exact .object (by decide) (.inside rfl (.listed (.cons (.object (by decide) (.kept _ (.kept _
      (.inside rfl (.listed (.cons hfield .nil)) (.nil _))))) .nil)) (.nil _))
  have hread := Document.values_wrapped (haltered type) (hbare type htype) (hwrapped type htype)
  have hrefused :=
    Document.values_wrapped (haltered []) (hbare [] (by simp)) (hwrapped [] (by simp))
  have hloaded : Document.ofText (bare type).compact = .ok point := by
    rw [Document.ofText_spelled (hbare type htype)]
    rfl
  have hnone : (Document.ofText (bare []).compact).toOption = none := by
    rw [Document.ofText_spelled (hbare [] (by simp))]
    rfl
  refine ⟨hloaded, ?_, hnone, ?_⟩
  · obtain hsame | ⟨hdepth, _⟩ := (hread.2 point).1 hloaded
    · exact hsame
    · exact absurd hdepth (by decide)
  · rw [← hrefused.1 (by decide) (by decide), hnone]

/-- A path that is loaded bare is refused in an object, if a member beside it is a number that is
out of range or a string with half of a surrogate pair. -/
theorem Document.wrapped_beside_no_value :
    let text (path : String) :=
      "\x7b\"body\":[\x7b\"type\":\"IncludeDefinition\",\"path\":" ++ path ++ "\x7d]\x7d"
    Document.ofText (text "\"a.thrift\"") = .ok ⟨[.inclusion "a.thrift"]⟩ ∧
    Document.ofText (text "\x7b\"value\":\"a.thrift\",\"loc\":1e999\x7d") =
      .error (.malformed .numberOutOfRange) ∧
    Document.ofText (text "\x7b\"value\":\"a.thrift\",\"loc\":\"\\ud800\"\x7d") =
      .error (.malformed .unpairedSurrogate) := by
  decide +kernel

end ThriftPages
