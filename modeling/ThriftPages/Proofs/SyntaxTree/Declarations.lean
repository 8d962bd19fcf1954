/-
# The readers of declarations and documents

What is read of a field, a function or a declaration follows from what is read of the values
under its keys, for any relation of these values that the readers of the parts respect
(`Part.Read`). A statement declares what its tag and its parts do, and a document loads what
the statements of its body declare.

Key definitions: `SyntaxTree.Kept`, `SyntaxTree.Part.Read`.
Key theorems: `SyntaxTree.carry_declaration`, `SyntaxTree.Opened.declares`,
`SyntaxTree.Opened.loads`.
-/
import ThriftPages.Proofs.SyntaxTree.Levels
import ThriftPages.Proofs.SyntaxTree.Readers

namespace ThriftPages.SyntaxTree

open Fields (carries_field)

variable {α : Type} {rel : Part → Json → Json → Prop}

/-! ### Records -/

/-- What is read of the first value is read of the second, and only null is related to
null. -/
def Kept (read : Json → Except Fault α) (v w : Json) : Prop :=
  (v = .null ↔ w = .null) ∧ Carried read read v w

theorem Kept.nullable {read : Json → Except Fault α} {v w : Json} (h : Kept read v w) :
    Carried (nullable read) (nullable read) v w := Carried.nullable h.1 h.2

/-- What is read of a value that stands for a part is read of every related one. -/
structure Part.Read (rel : Part → Json → Json → Prop) : Prop extends Part.Linked rel where
  name : ∀ {v w : Json}, rel .name v w → Kept SyntaxTree.name v w
  fieldId : ∀ {v w : Json}, rel .fieldId v w → Kept SyntaxTree.fieldId v w
  type : ∀ {v w : Json}, rel .type v w → Carried typeRef typeRef v w
  constant : ∀ {v w : Json}, rel .constant v w → Kept SyntaxTree.constant v w
  comment : ∀ {v w : Json}, rel .comment v w → Carried SyntaxTree.comment SyntaxTree.comment v w
  field : ∀ {v w : Json}, rel .field v w → Carried SyntaxTree.field SyntaxTree.field v w
  function : ∀ {v w : Json}, rel .function v w →
    Carried SyntaxTree.function SyntaxTree.function v w
  member : ∀ {v w : Json}, rel .member v w → Carried SyntaxTree.member SyntaxTree.member v w

namespace Part.Read

variable {keys : List (String × Part)} {key : String} {start : Nat} (hrel : Part.Read rel)
include hrel

theorem carries_name {absent : Option String} (hindex : keys[start]? = some (key, .name))
    (hkey : keys.lookup key = some .name) :
    (Fields.field key absent SyntaxTree.name).Carries rel keys start
      (Fields.field key absent SyntaxTree.name) :=
  carries_field hindex hkey fun _ _ h => (hrel.name h).2

theorem carries_type {absent : Option TypeRef} (hindex : keys[start]? = some (key, .type))
    (hkey : keys.lookup key = some .type) :
    (Fields.field key absent typeRef).Carries rel keys start (Fields.field key absent typeRef) :=
  carries_field hindex hkey fun _ _ h => hrel.type h

theorem carries_default {absent : Option (Option Constant)}
    (hindex : keys[start]? = some (key, .constant)) (hkey : keys.lookup key = some .constant) :
    (Fields.field key absent (SyntaxTree.nullable SyntaxTree.constant)).Carries rel keys start
      (Fields.field key absent (SyntaxTree.nullable SyntaxTree.constant)) :=
  carries_field hindex hkey fun _ _ h => (hrel.constant h).nullable

theorem carries_comments (hindex : keys[start]? = some Part.commented)
    (hkey : keys.lookup "comments" = some (.list .comment)) :
    comments.Carries rel keys start comments := by
  unfold comments Fields.optional
  exact carries_list hrel.toLinked hindex hkey fun _ _ h => hrel.comment h

theorem carries_fields (hindex : keys[start]? = some (key, .list .field))
    (hkey : keys.lookup key = some (.list .field)) :
    (fields key).Carries rel keys start (fields key) := by
  unfold fields Fields.optional
  exact carries_list hrel.toLinked hindex hkey fun _ _ h => hrel.field h

end Part.Read

section Records

variable (hrel : Part.Read rel) {v w : Json}
include hrel

theorem Opened.field (h : Opened rel .field v w) : Carried field field v w :=
  h.record rfl (((((((carries_field rfl rfl fun _ _ h => (hrel.fieldId h).nullable).map
    Field.mk).seq (hrel.carries_name rfl rfl)).seq (hrel.carries_type rfl rfl)).seq
    (carries_whole hrel.toLinked rfl rfl)).seq (hrel.carries_default rfl rfl)).seq
    (hrel.carries_comments rfl rfl)) _

theorem Opened.function (h : Opened rel .function v w) : Carried function function v w :=
  h.record rfl (((((((hrel.carries_name rfl rfl).map Function.mk).seq
    (hrel.carries_type rfl rfl)).seq (hrel.carries_fields rfl rfl)).seq
    (hrel.carries_fields rfl rfl)).seq (carries_whole hrel.toLinked rfl rfl)).seq
    (hrel.carries_comments rfl rfl)) _

theorem Opened.member (h : Opened rel .member v w) : Carried member member v w :=
  h.record rfl ((((hrel.carries_name rfl rfl).map Member.mk).seq
    (hrel.carries_default rfl rfl)).seq (hrel.carries_comments rfl rfl)) _

omit hrel in
theorem decodes_declaration {keys : List (String × Part)} {parts : Fields Declaration}
    (h : parts.Carries rel keys 0 parts) (tag record : String) :
    Variant.Decodes rel keys (declarationVariant tag record parts)
      (declarationVariant tag record parts) := fun hc _ ha => h.decode hc ha

/-- The kinds of declarations, with the keys of each. -/
theorem carry_declaration :
    Variant.Carry rel (Part.rows .declaration) declarations declarations := by
  have hpath : ∀ (tag : String) (kind : String → Declaration), Variant.Decodes rel
      [("path", .name)] (declarationVariant tag "IncludeDefinition" (kind <$> inclusion))
      (declarationVariant tag "IncludeDefinition" (kind <$> inclusion)) :=
    fun tag kind => decodes_declaration ((hrel.carries_name rfl rfl).map kind) _ _
  have hstruct : ∀ (tag : String) (kind : Struct → Declaration), Variant.Decodes rel
      [Part.named, ("fields", .list .field), Part.commented]
      (declarationVariant tag "StructDefinition" (kind <$> struct))
      (declarationVariant tag "StructDefinition" (kind <$> struct)) :=
    fun tag kind => decodes_declaration (((((hrel.carries_name rfl rfl).map Struct.mk).seq
      (hrel.carries_fields rfl rfl)).seq (hrel.carries_comments rfl rfl)).map kind) _ _
  refine .cons rfl rfl (decodes_declaration ((((hrel.carries_name rfl rfl).map Namespace.mk).seq
      (hrel.carries_name rfl rfl)).map Declaration.scope) _ _) <|
    .cons rfl rfl (hpath _ _) <| .cons rfl rfl (hpath _ _) <|
    .cons rfl rfl (decodes_declaration (((((hrel.carries_name rfl rfl).map Typedef.mk).seq
      (hrel.carries_type rfl rfl)).seq (hrel.carries_comments rfl rfl)).map
      Declaration.typedef) _ _) <|
    .cons rfl rfl (decodes_declaration ((((((hrel.carries_name rfl rfl).map ConstantDef.mk).seq
      (hrel.carries_type rfl rfl)).seq (carries_field rfl rfl fun _ _ h =>
      (hrel.constant h).2)).seq (hrel.carries_comments rfl rfl)).map Declaration.constant) _ _) <|
    .cons rfl rfl (decodes_declaration (((((hrel.carries_name rfl rfl).map Enumeration.mk).seq
      (carries_list hrel.toLinked rfl rfl fun _ _ h => hrel.member h)).seq
      (hrel.carries_comments rfl rfl)).map Declaration.enumeration) _ _) <|
    .cons rfl rfl (hstruct _ _) <| .cons rfl rfl (hstruct _ _) <| .cons rfl rfl (hstruct _ _) <|
    .cons rfl rfl (decodes_declaration ((((((hrel.carries_name rfl rfl).map Service.mk).seq
      (carries_field rfl rfl fun _ _ h => (hrel.name h).nullable)).seq
      (carries_list hrel.toLinked rfl rfl fun _ _ h => hrel.function h)).seq
      (hrel.carries_comments rfl rfl)).map Declaration.service) _ _) .nil

end Records

/-! ### Statements and documents -/

theorem Part.read_eq : Part.Read fun _ => Eq where
  whole h := h
  list := by
    rintro part v _ rfl vs rfl
    exact ⟨vs, rfl, List.forall₂_same.2 fun _ _ => rfl⟩
  name h := ⟨h ▸ Iff.rfl, fun _ ha => h ▸ ha⟩
  fieldId h := ⟨h ▸ Iff.rfl, fun _ ha => h ▸ ha⟩
  type h _ ha := h ▸ ha
  constant h := ⟨h ▸ Iff.rfl, fun _ ha => h ▸ ha⟩
  comment h _ ha := h ▸ ha
  field h _ ha := h ▸ ha
  function h _ ha := h ▸ ha
  member h _ ha := h ▸ ha

/-- No kind of declaration reads its tag again. -/
theorem decode_parts_iff {tag : String} {variant : Variant Declaration}
    (h : Variant.named declarations tag = .ok variant) {members : List (String × Json)}
    {d : Declaration} :
    variant.decode (.members (parts members)) = .ok d ↔
      variant.decode (.members members) = .ok d := by
  obtain ⟨variant', keys, hnamed, hkeys, hdecodes⟩ := (carry_declaration Part.read_eq).named h
  obtain rfl := Except.ok.inj (h.symm.trans hnamed)
  have hrows : keysOfTag (Part.rows .declaration) (.string tag) = some keys := hkeys
  obtain ⟨row, hrow, rfl⟩ := mem_of_keysOfTag hrows
  have hvalues : ∀ {key : String} {part : Part}, row.2.lookup key = some part →
      valuesOf key (parts members) = valuesOf key members := by
    intro key part hkey
    refine valuesOf_parts ?_ members
    rintro rfl
    rw [Part.tagKey_notMem_rows _ row hrow] at hkey
    cases hkey
  exact ⟨hdecodes (.members fun key part hkey => hvalues hkey ▸ .refl (fun _ => rfl) _),
    hdecodes (.members fun key part hkey => hvalues hkey ▸ .refl (fun _ => rfl) _)⟩

/-- A statement declares what its tag and the parts under the keys of the tag do. -/
theorem Opened.declares (hrel : Part.Read rel) {v w : Json} (h : Opened rel .declaration v w)
    {d : Declaration} (hd : Declares v d) : Declares w d := by
  have hcarried := h.tagged rfl hrel.toLinked (carry_declaration hrel) "ThriftStatement" d
  cases h with
  | @object ms ns h =>
    obtain ⟨tag, variant, hnamed, htag, hdecode⟩ := declares_object_iff.1 hd
    have htag' : valuesOf tagKey ns = [.string tag] := by
      cases h with
      | members h =>
        obtain ⟨_, htag', heq⟩ := (h tagKey .whole (Part.lookup_tagKey rfl _)).2 _ htag
        rw [htag', ← hrel.whole heq]
    rw [tagged_named _ htag hnamed, tagged_named _ htag' hnamed] at hcarried
    exact declares_of_members htag' hnamed
      ((decode_parts_iff hnamed).2 (hcarried ((decode_parts_iff hnamed).1 hdecode)))
  | @array vs ws h =>
    obtain ⟨tag, variant, others, hnamed, rfl, hdecode⟩ := declares_array_iff.1 hd
    cases h with
    | elements hlength h =>
      cases ws with
      | nil => cases hlength
      | cons first ws =>
        obtain rfl := hrel.whole (h 0 tagKey .whole _ first rfl rfl rfl)
        have htagged : ∀ others, SyntaxTree.tagged "ThriftStatement" declarations
            (.array (.string tag :: others)) = variant.decode (.elements others) := by
          intro others
          simp only [SyntaxTree.tagged, Variant.select, hnamed, bind, Except.bind]
        rw [htagged, htagged] at hcarried
        exact declares_of_elements hnamed (hcarried hdecode)

/-- A document loads what the statements of its body declare. -/
theorem Opened.loads (hlist : ∀ {v w : Json}, rel (.list .declaration) v w →
      ListAlike (rel .declaration) v w)
    (hdeclares : ∀ v w, rel .declaration v w → ∀ d, Declares v d → Declares w d) {v w : Json}
    (h : Opened rel .document v w) {ds : List Declaration} (hds : Loads v ds) : Loads w ds := by
  have hgiven : ∀ {vs : List Json} {w : Json}, rel (.list .declaration) (.array vs) w →
      List.Forall₂ Declares vs ds → Bodies [w] ds := by
    intro vs w hw hvs
    obtain ⟨ws, rfl, hws⟩ := hlist hw vs rfl
    exact .given (forall₂_of_related hdeclares hws hvs)
  cases h with
  | @object ms ns h =>
    cases h with
    | members h =>
      obtain ⟨hnone, hone⟩ := h bodyKey (.list .declaration) rfl
      refine loads_of_members ?_
      rw [loads_object_iff] at hds
      generalize hms : valuesOf bodyKey ms = given at hds
      cases hds with
      | absent =>
        rw [hnone hms]
        exact .absent
      | given hvs =>
        obtain ⟨w, hw, hrel⟩ := hone _ hms
        rw [hw]
        exact hgiven hrel hvs
  | @array vs ws h =>
    cases h with
    | elements hlength h =>
      refine loads_of_elements ?_
      rw [loads_array_iff] at hds
      cases hds with
      | absent =>
        rw [List.eq_nil_of_length_eq_zero hlength.symm]
        exact .absent
      | given hvs =>
        obtain ⟨w, rfl⟩ := List.length_eq_one_iff.1 hlength.symm
        exact hgiven (h 0 bodyKey (.list .declaration) _ w rfl rfl rfl) hvs

end ThriftPages.SyntaxTree
