/-
# A document is loaded from what describes it

Every description of a document is decoded as that document, as long as it is not
nested too deeply. A record is decoded key by key, so its proof is put together as
its fields are; a statement is decoded as the kind that its only tag names, from its
other members.

Key definitions: `SyntaxTree.Decodes`.
Key theorems: `SyntaxTree.statementOf_described`, `SyntaxTree.documentOf_described`,
`Document.ofText_described`.
-/
import ThriftPages.Proofs.SyntaxTree.Description
import ThriftPages.Proofs.SyntaxTree.Loading

namespace ThriftPages

namespace SyntaxTree

open Fields (Reads reads_field reads_absent)
open Json (within)

/-! ### Keys -/

/-- What describes a part is decoded as that part. -/
def Decodes {α : Type} (read : Json → Except Fault α) (describes : Json → α → Prop) : Prop :=
  ∀ v a, describes v a → read v = .ok a

section Keys

variable {α : Type} {describes : Json → α → Prop} {members : List (String × Json)} {key : String}
  {read : Json → Except Fault α}

theorem Decodes.given (hr : Decodes read describes) {a : α}
    (h : Given describes members key a) :
    (Fields.required key read).Reads (.members members) a := by
  obtain ⟨v, hv, hd⟩ := h
  exact reads_field hv (hr v a hd)

theorem Decodes.ifPresent (hr : Decodes read describes) (hnull : ∀ a, ¬describes .null a) :
    ∀ {a : Option α}, GivenIfPresent describes members key a →
      (Fields.optional key none (nullable read)).Reads (.members members) a
  | some a, ⟨v, hv, hd⟩ => by
    have hread : nullable read v = .ok (some a) := by
      cases v with
      | null => exact absurd hd (hnull a)
      | _ => simp only [nullable, hr _ a hd, Except.map]
    exact reads_field hv hread
  | none, .inl hv => by
    have hread : nullable read .null = .ok none := rfl
    exact reads_field hv hread
  | none, .inr hv => reads_absent hv

theorem Decodes.mapM (hr : Decodes read describes) {vs : List Json} {as : List α}
    (h : List.Forall₂ describes vs as) : vs.mapM read = .ok as := by
  induction h with
  | nil => rfl
  | cons hd _ ih =>
    rw [List.mapM_cons, hr _ _ hd, ih]
    rfl

theorem Decodes.all (hr : Decodes read describes) {as : List α}
    (h : GivenAll describes members key as) :
    (Fields.optional key [] (listOf read)).Reads (.members members) as := by
  rcases h with ⟨vs, hv, hd⟩ | ⟨rfl, hv⟩
  · have hread : listOf read (.array vs) = .ok as := hr.mapM hd
    exact reads_field hv hread
  · exact reads_absent hv

theorem reads_flag {b : Bool} (h : GivenFlag members key b) :
    (Fields.optional key false boolean).Reads (.members members) b := by
  rcases h with hv | ⟨rfl, hv⟩
  · have hread : boolean (.boolean b) = .ok b := rfl
    exact reads_field hv hread
  · exact reads_absent hv

end Keys

/-! ### Records -/

theorem decodes_name : Decodes name DescribesName := by
  rintro v s rfl
  rfl

theorem decodes_typeRef : Decodes typeRef DescribesType := fun _ _ => typeRef_described

theorem decodes_constant : Decodes constant DescribesConstant := fun _ _ => constant_described

theorem decodes_fieldId : Decodes fieldId DescribesId := by
  rintro v id rfl
  have hbounds : Int64.minValue.toInt ≤ id.toInt ∧ id.toInt ≤ Int64.maxValue.toInt :=
    ⟨id.minValue_le_toInt, id.toInt_le⟩
  simp only [fieldId, node, Json.ofInt, if_pos hbounds, Int64.ofInt_toInt]

theorem decodes_requiredness : Decodes requiredness DescribesRequiredness := by
  rintro v r rfl
  cases r <;> rfl

theorem mapM_text : ∀ texts : List String, (texts.map Json.string).mapM text = .ok texts
  | [] => rfl
  | s :: texts => by
    rw [List.map_cons, List.mapM_cons, mapM_text texts]
    rfl

theorem decodes_comment : Decodes comment DescribesComment := by
  intro v c h
  cases h with
  | @block segments members h hv =>
    have hsegments : listOf text (.array (segments.map .string)) = .ok segments :=
      mapM_text segments
    rw [comment, tagged_named _ h rfl]
    exact ((reads_field hv hsegments).map Comment.block).decode _
  | @line s members h hv =>
    have hs : text (.string s) = .ok s := rfl
    rw [comment, tagged_named _ h rfl]
    exact ((reads_field hv hs).map Comment.line).decode _

theorem reads_comments {members : List (String × Json)} {cs : List Comment}
    (h : GivenAll DescribesComment members "comments" cs) : comments.Reads (.members members) cs :=
  decodes_comment.all h

theorem not_describes_null (c : Constant) : ¬DescribesConstant .null c := nofun

theorem decodes_field : Decodes field DescribesField := by
  intro v f h
  cases h with
  | @object f members id hname type hrequiredness default hcomments =>
    have hid := decodes_fieldId.ifPresent (fun _ => nofun) id
    have hreq := decodes_requiredness.ifPresent (fun _ => nofun) hrequiredness
    have hdefault := decodes_constant.ifPresent not_describes_null default
    exact ((((((hid.map Field.mk).seq (decodes_name.given hname)).seq
      (decodes_typeRef.given type)).seq hreq).seq hdefault).seq (reads_comments hcomments)).ofJson _

theorem reads_fields {members : List (String × Json)} {key : String} {fs : List Field}
    (h : GivenAll DescribesField members key fs) : (fields key).Reads (.members members) fs :=
  decodes_field.all h

/-- The fields of a structure, union or exception. -/
theorem reads_struct {members : List (String × Json)} {s : Struct} (h : DescribesStruct members s) :
    struct.Reads (.members members) s := by
  obtain ⟨hname, hfields, hcomments⟩ := h
  exact (((decodes_name.given hname).map Struct.mk).seq (reads_fields hfields)).seq
    (reads_comments hcomments)

theorem decodes_function : Decodes function DescribesFunction := by
  intro v f h
  cases h with
  | object hname result parameters throws oneway hcomments =>
    exact (((((((decodes_name.given hname).map Function.mk).seq (decodes_typeRef.given result)).seq
      (reads_fields parameters)).seq (reads_fields throws)).seq (reads_flag oneway)).seq
      (reads_comments hcomments)).ofJson _

theorem decodes_member : Decodes member DescribesMember := by
  intro v m h
  cases h with
  | object hname value hcomments =>
    exact ((((decodes_name.given hname).map Member.mk).seq
      (decodes_constant.ifPresent not_describes_null value)).seq
      (reads_comments hcomments)).ofJson _

/-! ### Declarations -/

theorem valuesOf_parts {key : String} (h : key ≠ tagKey) (members : List (String × Json)) :
    valuesOf key (parts members) = valuesOf key members := by
  rw [valuesOf, parts, List.filter_filter]
  congr 2
  funext m
  by_cases hm : m.1 = key <;> simp [hm, h]

section Parts

variable {α : Type} {describes : Json → α → Prop} {members : List (String × Json)} {key : String}

theorem Given.parts {a : α} (hkey : key ≠ tagKey) (h : Given describes members key a) :
    Given describes (parts members) key a := by
  rwa [Given, valuesOf_parts hkey]

theorem GivenIfPresent.parts (hkey : key ≠ tagKey) : ∀ {a : Option α},
    GivenIfPresent describes members key a → GivenIfPresent describes (parts members) key a
  | some _, h => Given.parts hkey h
  | none, h => by rwa [GivenIfPresent, valuesOf_parts hkey]

theorem GivenAll.parts {as : List α} (hkey : key ≠ tagKey) (h : GivenAll describes members key as) :
    GivenAll describes (parts members) key as := by
  rwa [GivenAll, valuesOf_parts hkey]

theorem DescribesStruct.parts {s : Struct} (h : DescribesStruct members s) :
    DescribesStruct (parts members) s :=
  ⟨h.1.parts (by decide), h.2.1.parts (by decide), h.2.2.parts (by decide)⟩

end Parts

/-- A description is one without the tag. -/
theorem describesParts_parts {members : List (String × Json)} {d : Declaration}
    (h : DescribesParts members d) : DescribesParts (parts members) d := by
  cases d with
  | scope n =>
    obtain ⟨hscope, hname⟩ := h
    exact ⟨hscope.parts (by decide), hname.parts (by decide)⟩
  | inclusion path => exact Given.parts (by decide) h
  | cppInclusion path => exact Given.parts (by decide) h
  | typedef t =>
    obtain ⟨hname, htype, hcomments⟩ := h
    exact ⟨hname.parts (by decide), htype.parts (by decide), hcomments.parts (by decide)⟩
  | constant c =>
    obtain ⟨hname, htype, hvalue, hcomments⟩ := h
    exact ⟨hname.parts (by decide), htype.parts (by decide), hvalue.parts (by decide),
      hcomments.parts (by decide)⟩
  | enumeration e =>
    obtain ⟨hname, hmembers, hcomments⟩ := h
    exact ⟨hname.parts (by decide), hmembers.parts (by decide), hcomments.parts (by decide)⟩
  | struct s => exact DescribesStruct.parts h
  | union s => exact DescribesStruct.parts h
  | exception s => exact DescribesStruct.parts h
  | service s =>
    obtain ⟨hname, hparent, hfunctions, hcomments⟩ := h
    exact ⟨hname.parts (by decide), hparent.parts (by decide), hfunctions.parts (by decide),
      hcomments.parts (by decide)⟩

section Once

variable {α : Type} {key : String} {read : Json → Except LoadError α}
  {pass : Json → Except LoadError Unit} {members : List (String × Json)}

/-- Members without the key are passed over. -/
theorem foldlM_readOnce_absent (h : valuesOf key members = [])
    (hp : ∀ m ∈ members, pass m.2 = .ok ()) (found : Option α) :
    members.foldlM (readOnce key read pass) found = .ok found := by
  induction members with
  | nil => rfl
  | cons m members ih =>
    rw [valuesOf_cons] at h
    by_cases hkey : m.1 = key
    · simp [hkey] at h
    · rw [if_neg hkey] at h
      rw [List.foldlM_cons, readOnce, if_neg hkey, hp m (List.mem_cons_self ..)]
      exact ih h fun m' hm => hp m' (List.mem_cons_of_mem _ hm)

/-- A key that is given once is read, wherever it stands. -/
theorem foldlM_readOnce_sole {value : Json} (h : valuesOf key members = [value])
    (hp : ∀ m ∈ members, m.1 ≠ key → pass m.2 = .ok ()) :
    members.foldlM (readOnce key read pass) none = (read value).map some := by
  induction members with
  | nil => cases h
  | cons m members ih =>
    rw [valuesOf_cons] at h
    rw [List.foldlM_cons, readOnce]
    by_cases hkey : m.1 = key
    · rw [if_pos hkey] at h ⊢
      obtain ⟨rfl, hnone⟩ := List.cons.inj h
      have hothers : ∀ m' ∈ members, pass m'.2 = .ok () := by
        intro m' hm
        refine hp m' (List.mem_cons_of_mem _ hm) fun hkey' => ?_
        have hmem := mem_valuesOf.2 (hkey' ▸ hm : (key, m'.2) ∈ members)
        rw [hnone] at hmem
        cases hmem
      rw [Option.isSome_none, if_neg Bool.false_ne_true]
      cases read m.2 with
      | error fault => rfl
      | ok a => exact foldlM_readOnce_absent hnone hothers (some a)
    · rw [if_neg hkey] at h ⊢
      rw [hp m (List.mem_cons_self ..) hkey]
      exact ih h fun m' hm => hp m' (List.mem_cons_of_mem _ hm)

/-- Once the key has been read it is not given again. -/
theorem of_foldlM_readOnce_some {a a' : α}
    (h : members.foldlM (readOnce key read pass) (some a') = .ok (some a)) :
    a' = a ∧ valuesOf key members = [] := by
  induction members with
  | nil => exact ⟨Option.some.inj (Except.ok.inj h), rfl⟩
  | cons m members ih =>
    rw [List.foldlM_cons, readOnce] at h
    by_cases hkey : m.1 = key
    · rw [if_pos hkey, Option.isSome_some, if_pos rfl] at h
      cases h
    · rw [if_neg hkey] at h
      rw [valuesOf_cons, if_neg hkey]
      cases hpass : pass m.2 with
      | error fault =>
        rw [hpass] at h
        cases h
      | ok _ =>
        rw [hpass] at h
        exact ih h

/-- What has been read of a key is read from its only value. -/
theorem of_foldlM_readOnce_none {a : α}
    (h : members.foldlM (readOnce key read pass) none = .ok (some a)) :
    ∃ value, valuesOf key members = [value] ∧ read value = .ok a := by
  induction members with
  | nil => cases h
  | cons m members ih =>
    rw [List.foldlM_cons, readOnce] at h
    rw [valuesOf_cons]
    by_cases hkey : m.1 = key
    · rw [if_pos hkey, Option.isSome_none, if_neg Bool.false_ne_true] at h
      rw [if_pos hkey]
      cases hread : read m.2 with
      | error fault =>
        rw [hread] at h
        cases h
      | ok a' =>
        rw [hread] at h
        obtain ⟨rfl, hnone⟩ := of_foldlM_readOnce_some h
        exact ⟨m.2, by rw [hnone], hread⟩
    · rw [if_neg hkey] at h ⊢
      cases hpass : pass m.2 with
      | error fault =>
        rw [hpass] at h
        cases h
      | ok _ =>
        rw [hpass] at h
        exact ih h

end Once

/-- The variant of a kind decodes what describes a declaration of the kind. -/
theorem variant_described {members : List (String × Json)} {d : Declaration}
    (h : DescribesParts members d) :
    ∃ variant, Variant.named declarations (tagOfKind d.kind) = .ok variant ∧
      variant.decode (.members members) = .ok d := by
  cases d with
  | scope n =>
    obtain ⟨hscope, hname⟩ := h
    exact ⟨_, rfl, ((((decodes_name.given hscope).map Namespace.mk).seq
      (decodes_name.given hname)).map Declaration.scope).decode _⟩
  | inclusion path => exact ⟨_, rfl, ((decodes_name.given h).map Declaration.inclusion).decode _⟩
  | cppInclusion path =>
    exact ⟨_, rfl, ((decodes_name.given h).map Declaration.cppInclusion).decode _⟩
  | typedef t =>
    obtain ⟨hname, htype, hcomments⟩ := h
    exact ⟨_, rfl, (((((decodes_name.given hname).map Typedef.mk).seq
      (decodes_typeRef.given htype)).seq (reads_comments hcomments)).map
      Declaration.typedef).decode _⟩
  | constant c =>
    obtain ⟨hname, htype, hvalue, hcomments⟩ := h
    exact ⟨_, rfl, ((((((decodes_name.given hname).map ConstantDef.mk).seq
      (decodes_typeRef.given htype)).seq (decodes_constant.given hvalue)).seq
      (reads_comments hcomments)).map Declaration.constant).decode _⟩
  | enumeration e =>
    obtain ⟨hname, hmembers, hcomments⟩ := h
    exact ⟨_, rfl, (((((decodes_name.given hname).map Enumeration.mk).seq
      (decodes_member.all hmembers)).seq (reads_comments hcomments)).map
      Declaration.enumeration).decode _⟩
  | struct s => exact ⟨_, rfl, ((reads_struct h).map Declaration.struct).decode _⟩
  | union s => exact ⟨_, rfl, ((reads_struct h).map Declaration.union).decode _⟩
  | exception s => exact ⟨_, rfl, ((reads_struct h).map Declaration.exception).decode _⟩
  | service s =>
    obtain ⟨hname, hparent, hfunctions, hcomments⟩ := h
    exact ⟨_, rfl, ((((((decodes_name.given hname).map Service.mk).seq
      (decodes_name.ifPresent (fun _ => nofun) hparent)).seq (decodes_function.all hfunctions)).seq
      (reads_comments hcomments)).map Declaration.service).decode _⟩

/-- **The description of a declaration is decoded as that declaration.** -/
theorem statementOf_described {v : Json} {d : Declaration} (h : DescribesDeclaration v d)
    {levels : Nat} (hd : v.depth ≤ levels) : statementOf levels v = .ok d := by
  cases h with
  | @object _ members h hp =>
    cases levels with
    | zero => simp [Json.depth] at hd
    | succ levels =>
      rw [Json.depth, Nat.add_le_add_iff_right, Json.depthOfMembers_le_iff] at hd
      obtain ⟨variant, hvariant, hdecode⟩ := variant_described (describesParts_parts hp)
      have htag : tagOf (.string (tagOfKind d.kind)) = .ok variant := by
        rw [tagOf, hvariant]
        rfl
      have hfound : members.foldlM (memberOf levels) none = .ok (some variant) := by
        rw [memberOf, foldlM_readOnce_sole h, htag]
        · rfl
        · intro m hm _
          rw [Json.within_of_le (hd m hm)]
          rfl
      rw [statementOf, statementOfMembers, hfound]
      simp only [bind, Except.bind, hdecode]
      rfl

/-! ### Documents -/

theorem statements_described {vs : List Json} {ds : List Declaration}
    (h : List.Forall₂ DescribesDeclaration vs ds) {levels : Nat}
    (hd : ∀ v ∈ vs, v.depth ≤ levels) : vs.mapM (statementOf levels) = .ok ds := by
  induction h with
  | nil => rfl
  | cons hv _ ih =>
    rw [List.mapM_cons, statementOf_described hv (hd _ (List.mem_cons_self ..)),
      ih fun v hv => hd v (List.mem_cons_of_mem _ hv)]
    rfl

/-- The description of a document is decoded as that document. -/
theorem documentOf_described {v : Json} {doc : Document} (h : DescribesDocument v doc)
    {levels : Nat} (hd : v.depth ≤ levels) : documentOf levels v = .ok doc.declarations := by
  cases h with
  | @object _ members h =>
    obtain ⟨levels, rfl, hdepth⟩ := depth_object hd
    rw [documentOf, documentMember, show bodyKey = "body" from rfl]
    rcases h with ⟨vs, hv, hstatements⟩ | ⟨hnone, hv⟩
    · obtain ⟨k, rfl, helements⟩ := depth_array (hdepth hv)
      have hbody : bodyOf (k + 1) (.array vs) = .ok doc.declarations :=
        statements_described hstatements helements
      rw [foldlM_readOnce_sole hv fun _ _ _ => rfl, hbody]
      rfl
    · rw [foldlM_readOnce_absent hv (fun _ _ => rfl) none, hnone]
      rfl

end SyntaxTree

/-- A document is loaded from every text of what describes it, within the limit. -/
theorem Document.ofText_described {doc : Document} {v : Json} {text : String}
    (h : SyntaxTree.DescribesDocument v doc) (hd : v.depth ≤ SyntaxTree.nestingLimit)
    (ht : Json.SpellsText v text.toList) : Document.ofText text = .ok doc := by
  rw [Document.ofText_spelled ht, SyntaxTree.documentOf_described h hd]
  rfl

end ThriftPages
