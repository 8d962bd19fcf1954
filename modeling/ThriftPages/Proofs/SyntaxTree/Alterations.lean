/-
# Alterations of a syntax tree

A syntax tree may be altered in ways that do not matter: the members of its objects are put
in another order, members that nobody reads come in or go, and a bare name or number goes
into an object under `value`, or out of one. An alteration (`Altered`) makes any number of
these changes in any number of places at once. `may` says which changes it makes.

Which members are read depends on what an object stands for. A place of the tree holds a
`Part`, and a part has keys, each with the part that stands under it; those of a tagged
value depend on its tag. An array has its parts at the places of these keys.

Nothing is altered in a part that is read as a whole. In a well-formed tree these are texts
and flags, which are not nested, and requirednesses. A requiredness may be an object, but
one that must have a single member with nothing in it.

Key definitions: `SyntaxTree.Part`, `SyntaxTree.Part.keysAs`, `SyntaxTree.Change`,
`SyntaxTree.Altered`.
Key theorems: `SyntaxTree.Altered.symm`.
-/
import ThriftPages.Proofs.SyntaxTree.Carrying

namespace ThriftPages.SyntaxTree

/-! ### Parts and their keys -/

/-- What stands in a place of a syntax tree. -/
inductive Part
  /-- A value that is read as a whole: a tag, a text, a flag, a requiredness. -/
  | whole
  | name
  | fieldId
  | type
  | constant
  /-- An entry of a map. -/
  | entry
  | comment
  | field
  | function
  | member
  | declaration
  | document
  | list (element : Part)
deriving DecidableEq

namespace Part

/-- The key of a name, with nothing else. -/
def named : String × Part := ("name", name)

/-- The key of the comments at a declaration. -/
def commented : String × Part := ("comments", list comment)

/-- The keys of a part without a tag, in the order of its fields. -/
def keys : Part → List (String × Part)
  | name | fieldId => [("value", whole)]
  | entry => [("name", constant), ("initializer", constant)]
  | field =>
    [("fieldID", fieldId), named, ("fieldType", type), ("requiredness", whole),
      ("defaultValue", constant), commented]
  | function =>
    [named, ("returnType", type), ("fields", list field), ("throws", list field),
      ("oneway", whole), commented]
  | member => [named, ("initializer", constant), commented]
  | document => [("body", list declaration)]
  | _ => []

/-- The tags of a tagged part, each with the keys besides the tag. -/
def rows : Part → List (String × List (String × Part))
  | type =>
    [("VoidKeyword", []), ("ListType", [("valueType", type)]), ("SetType", [("valueType", type)]),
      ("MapType", [("keyType", type), ("valueType", type)]), ("StringKeyword", []),
      ("BinaryKeyword", []), ("BoolKeyword", []), ("ByteKeyword", []), ("DoubleKeyword", []),
      ("EnumKeyword", []), ("I8Keyword", []), ("I16Keyword", []), ("I32Keyword", []),
      ("I64Keyword", []), ("Identifier", [("value", whole)])]
  | constant =>
    [("StringLiteral", [("value", whole)]), ("BooleanLiteral", [("value", whole)]),
      ("IntegerLiteral", [("value", whole)]), ("HexLiteral", [("value", whole)]),
      ("FloatLiteral", [("value", whole)]), ("ExponentialLiteral", [("value", whole)]),
      ("IntConstant", [("value", constant)]), ("DoubleConstant", [("value", constant)]),
      ("ConstList", [("elements", list constant)]), ("ConstMap", [("properties", list entry)]),
      ("Identifier", [("value", whole)])]
  | comment => [("CommentBlock", [("value", whole)]), ("CommentLine", [("value", whole)])]
  | declaration =>
    [("NamespaceDefinition", [("scope", name), named]), ("IncludeDefinition", [("path", name)]),
      ("CppIncludeDefinition", [("path", name)]),
      ("TypedefDefinition", [named, ("definitionType", type), commented]),
      ("ConstDefinition", [named, ("fieldType", type), ("initializer", constant), commented]),
      ("EnumDefinition", [named, ("members", list member), commented]),
      ("StructDefinition", [named, ("fields", list field), commented]),
      ("UnionDefinition", [named, ("fields", list field), commented]),
      ("ExceptionDefinition", [named, ("fields", list field), commented]),
      ("ServiceDefinition",
        [named, ("extends", name), ("functions", list function), commented])]
  | _ => []

/-- The keys besides the tag. A value without a tag that selects some is refused; its keys are
those of every tag. -/
def keysBesides (part : Part) (tags : List Json) : List (String × Part) :=
  let all := part.rows.flatMap Prod.snd
  match tags with
  | [tag] => (keysOfTag part.rows tag).getD all
  | _ => all

/-- Whether values of the part have a tag. -/
def isTagged : Part → Bool
  | type | constant | comment | declaration => true
  | _ => false

/-- The keys that are read where the part is a record with these tags. -/
def keysAs (part : Part) (tags : List Json) : List (String × Part) :=
  if part.isTagged then (tagKey, whole) :: part.keysBesides tags else part.keys

/-- The part at an index of an array: an element of a list, or what the key at the index
stands for in a record. -/
def nth (part : Part) (elements : List Json) (index : Nat) : Part :=
  match part with
  | list element => element
  | _ => ((part.keysAs (elements.take 1))[index]?.map Prod.snd).getD whole

/-- The value stands for the part by itself: a text for a name, a number for that of a
field. -/
def Bare : Part → Json → Prop
  | name, .string _ => True
  | fieldId, .number _ => True
  | _, _ => False

/-- A tag is read as a whole. -/
theorem lookup_tagKey {part : Part} (h : part.isTagged = true) (tags : List Json) :
    (part.keysAs tags).lookup tagKey = some whole := by
  rw [keysAs, if_pos h]
  rfl

theorem nth_zero {part : Part} (h : part.isTagged = true) (vs : List Json) :
    part.nth vs 0 = whole := by
  cases part <;> first | rfl | cases h

/-- The keys depend on the tag alone. -/
theorem keysAs_congr {part : Part} {tags tags' : List Json}
    (h : part.isTagged = true → ∀ tag, tags = [tag] ↔ tags' = [tag]) :
    part.keysAs tags' = part.keysAs tags := by
  by_cases htagged : part.isTagged = true
  · rw [keysAs, keysAs, if_pos htagged, if_pos htagged]
    congr 1
    unfold keysBesides
    by_cases hone : ∃ tag, tags = [tag]
    · obtain ⟨tag, htag⟩ := hone
      rw [htag, (h htagged tag).1 htag]
    · have hone' : ¬∃ tag, tags' = [tag] := fun ⟨tag, htag⟩ => hone ⟨tag, (h htagged tag).2 htag⟩
      split
      · exact absurd ⟨_, rfl⟩ hone'
      · split
        · exact absurd ⟨_, rfl⟩ hone
        · rfl
  · rw [keysAs, keysAs, if_neg htagged, if_neg htagged]

/-- The part at an index depends on the tag alone, which comes first. -/
theorem nth_congr {part : Part} {vs ws : List Json} (hlength : vs.length = ws.length)
    (h : part.isTagged = true → ∀ v w, vs[0]? = some v → ws[0]? = some w → v = w) (index : Nat) :
    part.nth ws index = part.nth vs index := by
  have htags : part.isTagged = true → ∀ tag, vs.take 1 = [tag] ↔ ws.take 1 = [tag] := by
    intro htagged tag
    cases vs with
    | nil => rw [List.eq_nil_of_length_eq_zero hlength.symm]
    | cons v vs =>
      cases ws with
      | nil => cases hlength
      | cons w ws => rw [h htagged v w rfl rfl]; rfl
  unfold nth
  cases part with
  | list element => rfl
  | _ => rw [keysAs_congr htags]

end Part

/-! ### Changes -/

/-- A kind of change. -/
inductive Change
  /-- The members of an object are put in another order. -/
  | order
  /-- A member whose key is not read comes in or goes. -/
  | unread
  /-- A bare value goes into an object, or out of it. -/
  | wrapping
deriving DecidableEq

/-- A bare value stands somewhere by itself, or in an object as the only value under
`value`. -/
inductive Stands (x : Json) : Json → Prop
  | bare : Stands x x
  | wrapped {members : List (String × Json)} (h : valuesOf "value" members = [x]) :
      Stands x (.object members)

mutual

/-- The second value is the first one altered, both standing for the part, by changes of the
kinds that may be made. -/
inductive Altered (may : Change → Prop) : Part → Json → Json → Prop
  | same (part : Part) (v : Json) : Altered may part v v
  | wrapped {part : Part} {x v w : Json} (hmay : may .wrapping) (hx : part.Bare x)
      (hv : Stands x v) (hw : Stands x w) : Altered may part v w
  | object {part : Part} {ms ns : List (String × Json)} (hpart : part ≠ .whole)
      (h : AlteredMembers may (part.keysAs (valuesOf tagKey ms)) ms ns) :
      Altered may part (.object ms) (.object ns)
  | array {part : Part} {vs ws : List Json} (hpart : part ≠ .whole)
      (hlength : vs.length = ws.length)
      (h : ∀ (i : Nat) v w, vs[i]? = some v → ws[i]? = some w →
        Altered may (part.nth vs i) v w) :
      Altered may part (.array vs) (.array ws)

/-- The second members are the first ones altered, these keys being read. -/
inductive AlteredMembers (may : Change → Prop) :
    List (String × Part) → List (String × Json) → List (String × Json) → Prop
  | nil (keys : List (String × Part)) : AlteredMembers may keys [] []
  | kept {keys : List (String × Part)} {ms ns : List (String × Json)} (m : String × Json)
      (h : AlteredMembers may keys ms ns) : AlteredMembers may keys (m :: ms) (m :: ns)
  | inside {keys : List (String × Part)} {key : String} {part : Part} {v w : Json}
      {ms ns : List (String × Json)} (hkey : keys.lookup key = some part)
      (hv : Altered may part v w) (h : AlteredMembers may keys ms ns) :
      AlteredMembers may keys ((key, v) :: ms) ((key, w) :: ns)
  | added {keys : List (String × Part)} {key : String} {ms ns : List (String × Json)}
      (hmay : may .unread) (hkey : keys.lookup key = none) (v : Json)
      (h : AlteredMembers may keys ms ns) : AlteredMembers may keys ms ((key, v) :: ns)
  | removed {keys : List (String × Part)} {key : String} {ms ns : List (String × Json)}
      (hmay : may .unread) (hkey : keys.lookup key = none) (v : Json)
      (h : AlteredMembers may keys ms ns) : AlteredMembers may keys ((key, v) :: ms) ns
  | reordered {keys : List (String × Part)} {ms ms' ns ns' : List (String × Json)}
      (hmay : may .order) (hms : ms.Perm ms') (h : AlteredMembers may keys ms' ns')
      (hns : ns'.Perm ns) : AlteredMembers may keys ms ns

end

/-! ### Values under a key -/

/-- The same members in another order have the same values under a key, in another order. -/
theorem valuesOf_perm {ms ns : List (String × Json)} (h : ms.Perm ns) (key : String) :
    (valuesOf key ms).Perm (valuesOf key ns) := (h.filter _).map _

variable {may : Change → Prop}

/-- The values under a key that is read are altered as the part that stands there. -/
theorem AlteredMembers.sole {keys : List (String × Part)} {ms ns : List (String × Json)}
    (h : AlteredMembers may keys ms ns) : ∀ {key : String} {part : Part},
      keys.lookup key = some part →
        Sole (Altered may part) (valuesOf key ms) (valuesOf key ns) := by
  refine AlteredMembers.rec (motive_1 := fun _ _ _ _ => True)
    (motive_2 := fun keys ms ns _ => ∀ {key : String} {part : Part},
      keys.lookup key = some part → Sole (Altered may part) (valuesOf key ms) (valuesOf key ns))
    (fun _ _ => trivial) (fun _ _ _ _ => trivial) (fun _ _ _ => trivial)
    (fun _ _ _ _ => trivial) ?nil ?kept ?inside ?added ?removed ?reordered h
  case nil => exact fun keys key part hkey => ⟨fun _ => rfl, nofun⟩
  case kept =>
    intro keys ms ns m _ ih key part hkey
    rw [valuesOf_cons, valuesOf_cons]
    split
    · exact (ih hkey).cons (.same part m.2)
    · exact ih hkey
  case inside =>
    intro keys own inner v w ms ns hown hv _ _ ih key part hkey
    rw [valuesOf_cons, valuesOf_cons]
    split
    · rename_i heq
      obtain rfl : own = key := heq
      obtain rfl := Option.some.inj (hown.symm.trans hkey)
      exact (ih hkey).cons hv
    · exact ih hkey
  case added | removed =>
    intro keys own ms ns _ hown v _ ih key part hkey
    have hne : own ≠ key := by
      rintro rfl
      rw [hown] at hkey
      cases hkey
    rw [valuesOf_cons, if_neg hne]
    exact ih hkey
  case reordered =>
    intro keys ms ms' ns ns' _ hms _ hns ih key part hkey
    exact (ih hkey).perm (valuesOf_perm hms key) (valuesOf_perm hns key)

/-! ### Alterations -/

/-- Nothing is altered in what is read as a whole. -/
theorem Altered.eq_of_whole {v w : Json} (h : Altered may .whole v w) : v = w := by
  cases h with
  | same => rfl
  | wrapped _ hx => cases hx
  | object hpart => exact absurd rfl hpart
  | array hpart => exact absurd rfl hpart

/-- Nothing has to be altered. -/
theorem AlteredMembers.refl (keys : List (String × Part)) : ∀ ms : List (String × Json),
    AlteredMembers may keys ms ms
  | [] => .nil keys
  | m :: ms => .kept m (refl keys ms)

/-- A list is altered element by element. -/
theorem Altered.listed {element : Part} {vs ws : List Json}
    (h : List.Forall₂ (Altered may element) vs ws) :
    Altered may (.list element) (.array vs) (.array ws) := by
  refine .array nofun h.length_eq fun i v w hv hw => ?_
  obtain ⟨hi, rfl⟩ := List.getElem?_eq_some_iff.1 hv
  obtain ⟨hi', rfl⟩ := List.getElem?_eq_some_iff.1 hw
  exact h.get hi hi'

/-- The tag of an object is kept. -/
theorem AlteredMembers.tag_eq {part : Part} {tags : List Json} {ms ns : List (String × Json)}
    (h : AlteredMembers may (part.keysAs tags) ms ns) (hpart : part.isTagged = true) {tag : Json}
    (htag : valuesOf tagKey ms = [tag]) : valuesOf tagKey ns = [tag] := by
  obtain ⟨tag', htag', heq⟩ := (h.sole (Part.lookup_tagKey hpart tags)).2 tag htag
  rw [htag', heq.eq_of_whole]

/-- An alteration may be undone. -/
theorem Altered.symm {part : Part} {v w : Json} (h : Altered may part v w) :
    Altered may part w v := by
  refine Altered.rec (motive_1 := fun part v w _ => Altered may part w v)
    (motive_2 := fun keys ms ns _ => AlteredMembers may keys ns ms)
    .same (fun hmay hx hv hw => .wrapped hmay hx hw hv) ?object ?array .nil
    (fun m _ ih => .kept m ih) (fun hkey _ _ hw ih => .inside hkey hw ih)
    (fun hmay hkey v _ ih => .removed hmay hkey v ih)
    (fun hmay hkey v _ ih => .added hmay hkey v ih)
    (fun hmay hms _ hns ih => .reordered hmay hns.symm ih hms.symm) h
  case object =>
    intro part ms ns hpart h ih
    -- the tag is kept, so the same keys are read in both objects
    have hkeys : part.keysAs (valuesOf tagKey ns) = part.keysAs (valuesOf tagKey ms) :=
      Part.keysAs_congr fun htagged tag =>
        ⟨fun htag => h.tag_eq htagged htag, fun htag => ih.tag_eq htagged htag⟩
    rw [← hkeys] at ih
    exact .object hpart ih
  case array =>
    intro part vs ws hpart hlength h ih
    have hnth := Part.nth_congr hlength fun htagged v w hv hw =>
      (Part.nth_zero htagged vs ▸ h 0 v w hv hw : Altered may .whole v w).eq_of_whole
    refine .array hpart hlength.symm fun i w v hw hv => ?_
    rw [hnth]
    exact ih i v w hv hw

end ThriftPages.SyntaxTree
