/-
# Null in place of an absent key

Some objects of a syntax tree have keys that may be left out. Under a key that may be
null, null is the same as no key at all: the document is loaded as before, or refused
as before, wherever the object is. Under the key of a list or of a flag null is a fault,
so that a document that is loaded without the key is refused with it.

The null may be far inside the document. A path to it goes through lists of records
(`NullAdded`), and by induction on the path every record on it is read as before, or
refused for the null, unless an earlier fault refuses it anyway.

Key definitions: `SyntaxTree.Role`, `SyntaxTree.Role.keys`, `SyntaxTree.NullAdded`.
Key theorems: `SyntaxTree.NullAdded.turned`, `Document.null_added`.
-/
import ThriftPages.Proofs.Json.Writing
import ThriftPages.Proofs.SyntaxTree.Changes
import ThriftPages.Proofs.SyntaxTree.ReadingBack

namespace ThriftPages

namespace SyntaxTree

open Json (within)

/-! ### Objects with optional keys -/

/-- What an object is read as. -/
inductive Role
  | document
  | declaration (kind : DeclarationKind)
  | function
  | field
  | member
deriving DecidableEq

namespace Role

/-- The keys of an object, in the order of its fields, and which of them must be given. -/
def keys : Role → List (String × Presence)
  | .document => [("body", .list)]
  | .declaration .scope => [("scope", .required), ("name", .required)]
  | .declaration .inclusion | .declaration .cppInclusion => [("path", .required)]
  | .declaration .typedef =>
    [("name", .required), ("definitionType", .required), ("comments", .list)]
  | .declaration .constant =>
    [("name", .required), ("fieldType", .required), ("initializer", .required),
      ("comments", .list)]
  | .declaration .enumeration => [("name", .required), ("members", .list), ("comments", .list)]
  | .declaration .struct | .declaration .union | .declaration .exception =>
    [("name", .required), ("fields", .list), ("comments", .list)]
  | .declaration .service =>
    [("name", .required), ("extends", .nullable), ("functions", .list), ("comments", .list)]
  | .function =>
    [("name", .required), ("returnType", .required), ("fields", .list), ("throws", .list),
      ("oneway", .flag), ("comments", .list)]
  | .field =>
    [("fieldID", .nullable), ("name", .required), ("fieldType", .required),
      ("requiredness", .nullable), ("defaultValue", .nullable), ("comments", .list)]
  | .member => [("name", .required), ("initializer", .nullable), ("comments", .list)]

/-- The key, and the place among the fields, under which objects of another role are
listed. -/
inductive Lists : Role → String → Nat → Role → Prop
  | body (kind : DeclarationKind) : Lists .document "body" 0 (.declaration kind)
  | members : Lists (.declaration .enumeration) "members" 1 .member
  | structFields : Lists (.declaration .struct) "fields" 1 .field
  | unionFields : Lists (.declaration .union) "fields" 1 .field
  | exceptionFields : Lists (.declaration .exception) "fields" 1 .field
  | functions : Lists (.declaration .service) "functions" 2 .function
  | parameters : Lists .function "fields" 2 .field
  | throws : Lists .function "throws" 3 .field

/-- The members may be those of an object of the role: a declaration names its kind. -/
def Admits : Role → List (String × Json) → Prop
  | .declaration kind, members => .string (tagOfKind kind) ∈ valuesOf tagKey members
  | _, _ => True

/-- What stands before the fields if the object is given as an array. -/
def lead : Role → List Json
  | .declaration kind => [.string (tagOfKind kind)]
  | _ => []

end Role

/-- An object of the role `target` that does not have the key has it in the second value,
with null; nothing else differs. The object is the value itself or in a list of it. -/
inductive NullAdded (key : String) (target : Role) : Role → Json → Json → Prop
  | here {before others : List (String × Json)} (ha : target.Admits (before ++ others))
      (h : valuesOf key (before ++ others) = []) :
      NullAdded key target target (.object (before ++ others))
        (.object (before ++ (key, .null) :: others))
  | inObject {role inner : Role} {list : String} {index : Nat} {v w : Json}
      {before others : List (String × Json)} {vs vs' : List Json}
      (hl : role.Lists list index inner)
      (ha : role.Admits (before ++ (list, .array (vs ++ v :: vs')) :: others))
      (h : NullAdded key target inner v w) :
      NullAdded key target role (.object (before ++ (list, .array (vs ++ v :: vs')) :: others))
        (.object (before ++ (list, .array (vs ++ w :: vs')) :: others))
  | inArray {role inner : Role} {list : String} {v w : Json} {before others vs vs' : List Json}
      (hl : role.Lists list before.length inner) (h : NullAdded key target inner v w) :
      NullAdded key target role (.array (role.lead ++ before ++ .array (vs ++ v :: vs') :: others))
        (.array (role.lead ++ before ++ .array (vs ++ w :: vs') :: others))

/-! ### Depth -/

/-- Null is not nested. -/
theorem NullAdded.depth_eq {key : String} {target role : Role} {v w : Json}
    (h : NullAdded key target role v w) : w.depth = v.depth := by
  induction h with
  | here =>
    simp only [Json.depth, Json.depthOfMembers_append, Json.depthOfMembers, Nat.zero_max]
  | inObject hl ha h ih =>
    simp only [Json.depth, Json.depthOfMembers_append, Json.depthOfMembers,
      Json.depthOfElements_append, Json.depthOfElements, ih]
  | inArray hl h ih =>
    simp only [Json.depth, Json.depthOfElements_append, Json.depthOfElements, ih]

/-! ### Records -/

/-- The fields of an object that is decoded as a record. -/
def Role.slots : Role → List Slot
  | .document => []
  | .declaration .scope => [.required "scope" name, .required "name" name]
  | .declaration .inclusion | .declaration .cppInclusion => [.required "path" name]
  | .declaration .typedef =>
    [.required "name" name, .required "definitionType" typeRef, .list "comments" comment]
  | .declaration .constant =>
    [.required "name" name, .required "fieldType" typeRef, .required "initializer" constant,
      .list "comments" comment]
  | .declaration .enumeration =>
    [.required "name" name, .list "members" SyntaxTree.member, .list "comments" comment]
  | .declaration .struct | .declaration .union | .declaration .exception =>
    [.required "name" name, .list "fields" SyntaxTree.field, .list "comments" comment]
  | .declaration .service =>
    [.required "name" name, .nullable "extends" name, .list "functions" SyntaxTree.function,
      .list "comments" comment]
  | .function =>
    [.required "name" name, .required "returnType" typeRef, .list "fields" SyntaxTree.field,
      .list "throws" SyntaxTree.field, .flag "oneway", .list "comments" comment]
  | .field =>
    [.nullable "fieldID" fieldId, .required "name" name, .required "fieldType" typeRef,
      .nullable "requiredness" requiredness, .nullable "defaultValue" constant,
      .list "comments" comment]
  | .member =>
    [.required "name" name, .nullable "initializer" constant, .list "comments" comment]

theorem Role.keys_slots {role : Role} (h : role ≠ .document) :
    role.slots.map (fun slot => (slot.key, slot.presence)) = role.keys := by
  cases role with
  | document => exact absurd rfl h
  | declaration kind => cases kind <;> rfl
  | _ => rfl

theorem Role.nodup_slots (role : Role) : (role.slots.map Slot.key).Nodup := by
  cases role with
  | declaration kind => cases kind <;> decide
  | _ => decide

theorem Role.tagKey_notMem_slots (role : Role) : tagKey ∉ role.slots.map Slot.key := by
  cases role with
  | declaration kind => cases kind <;> decide
  | _ => decide

open Fields (follows_required follows_nullable follows_list follows_flag)

theorem follows_comments : comments.Follows [.list "comments" comment] := follows_list

theorem follows_fields {key : String} : (fields key).Follows [.list key field] := follows_list

theorem follows_struct :
    struct.Follows [.required "name" name, .list "fields" field, .list "comments" comment] :=
  ((follows_required.map _).seq follows_fields).seq follows_comments

/-- A field is decoded from its slots. -/
theorem follows_field : ∃ parts : Fields Field,
    field = parts.ofJson "FieldDefinition" ∧ parts.Follows (Role.slots .field) :=
  ⟨_, rfl, (((((follows_nullable.map _).seq follows_required).seq follows_required).seq
    follows_nullable).seq follows_nullable).seq follows_comments⟩

theorem follows_function : ∃ parts : Fields Function,
    function = parts.ofJson "FunctionDefinition" ∧ parts.Follows (Role.slots .function) :=
  ⟨_, rfl, (((((follows_required.map _).seq follows_required).seq follows_fields).seq
    follows_fields).seq follows_flag).seq follows_comments⟩

theorem follows_member : ∃ parts : Fields Member,
    member = parts.ofJson "EnumMember" ∧ parts.Follows (Role.slots .member) :=
  ⟨_, rfl, ((follows_required.map _).seq follows_nullable).seq follows_comments⟩

/-- A declaration of a kind is decoded from its slots. -/
theorem follows_declaration (kind : DeclarationKind) :
    ∃ (variant : Variant Declaration) (parts : Fields Declaration) (shape : Shape),
      Variant.named declarations (tagOfKind kind) = .ok variant ∧
      variant.decode = parts.decode shape ∧ parts.Follows (Role.slots (.declaration kind)) := by
  cases kind with
  | scope => exact ⟨_, _, _, rfl, rfl, ((follows_required.map _).seq follows_required).map _⟩
  | inclusion => exact ⟨_, _, _, rfl, rfl, follows_required.map _⟩
  | cppInclusion => exact ⟨_, _, _, rfl, rfl, follows_required.map _⟩
  | typedef =>
    exact ⟨_, _, _, rfl, rfl, (((follows_required.map _).seq follows_required).seq
      follows_comments).map _⟩
  | constant =>
    exact ⟨_, _, _, rfl, rfl, ((((follows_required.map _).seq follows_required).seq
      follows_required).seq follows_comments).map _⟩
  | enumeration =>
    exact ⟨_, _, _, rfl, rfl, (((follows_required.map _).seq follows_list).seq
      follows_comments).map _⟩
  | struct => exact ⟨_, _, _, rfl, rfl, follows_struct.map _⟩
  | union => exact ⟨_, _, _, rfl, rfl, follows_struct.map _⟩
  | exception => exact ⟨_, _, _, rfl, rfl, follows_struct.map _⟩
  | service =>
    exact ⟨_, _, _, rfl, rfl, ((((follows_required.map _).seq follows_nullable).seq
      follows_list).seq follows_comments).map _⟩

/-! ### Readings -/

namespace Role

/-- What becomes of what an object of the role is read as. -/
def Turned (fault : Option Fault) (v w : Json) : Role → Prop
  | .document => ∀ levels, SyntaxTree.Turned (fault.map Json.ReadError.refused)
      (documentOf levels v) (documentOf levels w)
  | .declaration _ => ∀ levels, SyntaxTree.Turned (fault.map Json.ReadError.refused)
      (statementOf levels v) (statementOf levels w)
  | .function => SyntaxTree.Turned fault (SyntaxTree.function v) (SyntaxTree.function w)
  | .field => SyntaxTree.Turned fault (SyntaxTree.field v) (SyntaxTree.field w)
  | .member => SyntaxTree.Turned fault (SyntaxTree.member v) (SyntaxTree.member w)

/-- An object of the role with these parts. -/
def given (role : Role) : Content → Json
  | .members members => .object members
  | .elements elements => .array (role.lead ++ elements)

end Role

section Declarations

variable {key : String} {index place : Nat} {old : Option Json} {new : Json}
  {members members' : List (String × Json)} {fault : Option Fault}

/-- The tag is found as before if the new part is as deep as the old one. -/
theorem foldlM_memberOf_changed
    (h : Content.Changed key index place old new (.members members) (.members members'))
    (hkey : key ≠ tagKey) (hdepth : new.depth = old.elim 0 Json.depth) (levels : Nat)
    (found : Option (Variant Declaration)) :
    members'.foldlM (memberOf levels) found = members.foldlM (memberOf levels) found := by
  cases h with
  | added =>
    have hwithin : within (ε := Fault) levels new = .ok new :=
      Json.within_of_le (hdepth ▸ Nat.zero_le levels)
    rw [List.foldlM_append, List.foldlM_append]
    refine bind_congr fun found => ?_
    rw [List.foldlM_cons, memberOf_other hkey, hwithin]
    exact pure_bind found _
  | member before others v =>
    rw [List.foldlM_append, List.foldlM_append]
    refine bind_congr fun found => ?_
    rw [List.foldlM_cons, List.foldlM_cons, memberOf_other hkey, memberOf_other hkey]
    have hiff : new.depth ≤ levels ↔ v.depth ≤ levels := by rw [hdepth]; rfl
    by_cases hle : v.depth ≤ levels
    · rw [Json.within_of_le hle, Json.within_of_le (hiff.2 hle)]
      rfl
    · rw [Json.within_of_lt hle, Json.within_of_lt fun hle' => hle (hiff.1 hle')]

theorem parts_append (before others : List (String × Json)) :
    parts (before ++ others) = parts before ++ parts others := List.filter_append ..

theorem parts_cons_other (h : key ≠ tagKey) (v : Json) (others : List (String × Json)) :
    parts ((key, v) :: others) = (key, v) :: parts others :=
  List.filter_cons_of_pos (by simpa using h)

/-- The parts of a statement are changed as its members are. -/
theorem changed_parts
    (h : Content.Changed key index place old new (.members members) (.members members'))
    (hkey : key ≠ tagKey) :
    ∃ place', Content.Changed key index place' old new (.members (parts members))
      (.members (parts members')) := by
  cases h with
  | @added before others hnone =>
    refine ⟨(parts before).length, ?_⟩
    rw [← valuesOf_parts hkey, parts_append] at hnone
    rw [parts_append, parts_append, parts_cons_other hkey]
    exact .added hnone new
  | member before others v =>
    refine ⟨(parts before).length, ?_⟩
    rw [parts_append, parts_append, parts_cons_other hkey, parts_cons_other hkey]
    exact .member _ _ v new

/-- A declaration given as an object is read as the field of the changed slot is. -/
theorem statementOfMembers_turned {kind : DeclarationKind} {slot : Slot} (levels : Nat)
    (ha : .string (tagOfKind kind) ∈ valuesOf tagKey members)
    (hslot : (Role.slots (.declaration kind))[index]? = some slot)
    (hc : Content.Changed slot.key index place old new (.members members) (.members members'))
    (hdepth : new.depth = old.elim 0 Json.depth) (hr : slot.Rereads fault old new) :
    Turned (fault.map Json.ReadError.refused) (statementOfMembers levels members)
      (statementOfMembers levels members') := by
  have hkey : slot.key ≠ tagKey := fun hkey => Role.tagKey_notMem_slots (.declaration kind)
    (hkey ▸ List.mem_map_of_mem (List.mem_of_getElem? hslot))
  unfold statementOfMembers
  rw [foldlM_memberOf_changed hc hkey hdepth]
  cases hfound : members.foldlM (memberOf levels) none with
  | error first => exact .of_failed ⟨first, rfl⟩
  | ok found =>
    cases found with
    | none => exact .of_failed ⟨_, rfl⟩
    | some variant =>
      -- the only tag names the kind, so its slots are decoded
      obtain ⟨tag, htag, hvariant⟩ := of_foldlM_readOnce_none hfound
      rw [htag, List.mem_singleton] at ha
      obtain ⟨named, parts, shape, hnamed, hdecode, hfollows⟩ := follows_declaration kind
      rw [← ha, tagOf, hnamed] at hvariant
      obtain rfl : named = variant := Except.ok.inj hvariant
      obtain ⟨place', hparts⟩ := changed_parts hc hkey
      have hturned := hfollows.turned (Role.nodup_slots _) hslot hparts hr shape
      rw [← hdecode] at hturned
      exact hturned.mapError Json.ReadError.refused

/-- A declaration given as an array is read as the field of the changed slot is. -/
theorem statementOfElements_turned {kind : DeclarationKind} {slot : Slot} (levels : Nat)
    {elements elements' : List Json}
    (hslot : (Role.slots (.declaration kind))[index]? = some slot)
    (hc : Content.Changed slot.key index place old new (.elements elements) (.elements elements'))
    (hdepth : new.depth = old.elim 0 Json.depth) (hr : slot.Rereads fault old new) :
    Turned (fault.map Json.ReadError.refused)
      (statementOfElements levels (.string (tagOfKind kind) :: elements))
      (statementOfElements levels (.string (tagOfKind kind) :: elements')) := by
  obtain ⟨variant, parts, shape, hnamed, hdecode, hfollows⟩ := follows_declaration kind
  have htag : tagOf (.string (tagOfKind kind)) = .ok variant := by
    rw [tagOf, hnamed]
    rfl
  have hdepths : Json.depthOfElements elements' = Json.depthOfElements elements := by
    cases hc with
    | element hlength others v =>
      have hv : new.depth = v.depth := hdepth
      rw [Json.depthOfElements_append, Json.depthOfElements_append, Json.depthOfElements,
        Json.depthOfElements, hv]
  have hturned := hfollows.turned (Role.nodup_slots _) hslot hc hr shape
  rw [← hdecode] at hturned
  simp only [statementOfElements]
  rw [htag, Json.mapM_within, Json.mapM_within, hdepths]
  by_cases hle : Json.depthOfElements elements ≤ levels
  · rw [if_pos hle, if_pos hle]
    exact hturned.mapError Json.ReadError.refused
  · rw [if_neg hle, if_neg hle]
    exact .of_failed ⟨_, rfl⟩

end Declarations

/-- **A record, in whatever form, is read as the field of its changed slot is.** -/
theorem Role.turned_changed {role : Role} (hrole : role ≠ .document) {slot : Slot}
    {index place : Nat} {old : Option Json} {new : Json} {c c' : Content} {fault : Option Fault}
    (ha : ∀ members, c = .members members → role.Admits members)
    (hslot : role.slots[index]? = some slot)
    (hc : Content.Changed slot.key index place old new c c')
    (hdepth : new.depth = old.elim 0 Json.depth) (hr : slot.Rereads fault old new) :
    role.Turned fault (role.given c) (role.given c') := by
  have record : ∀ {α : Type} {read : Json → Except Fault α} {name : String},
      (∃ parts : Fields α, read = parts.ofJson name ∧ parts.Follows role.slots) →
      role.lead = [] → SyntaxTree.Turned fault (read (role.given c)) (read (role.given c')) := by
    rintro α read name ⟨parts, rfl, hfollows⟩ hlead
    have hturned := hfollows.turned role.nodup_slots hslot hc hr (.struct name)
    unfold given
    rw [hlead]
    cases hc <;> exact hturned
  cases role with
  | document => exact absurd rfl hrole
  | declaration kind =>
    intro levels
    cases levels with
    | zero => cases hc <;> exact .of_failed ⟨_, rfl⟩
    | succ levels =>
      cases c with
      | members members =>
        cases hc with
        | added hnone =>
          exact statementOfMembers_turned levels (ha _ rfl) hslot (.added hnone new) hdepth hr
        | member before others v =>
          exact statementOfMembers_turned levels (ha _ rfl) hslot (.member before others v new)
            hdepth hr
      | elements elements =>
        cases hc with
        | element hlength others v =>
          exact statementOfElements_turned levels hslot (.element hlength others v new) hdepth hr
  | function => exact record follows_function rfl
  | field => exact record follows_field rfl
  | member => exact record follows_member rfl

/-! ### Documents -/

section Documents

variable {fault : Option Fault} {v w : Json}

/-- A body is read as one of its statements is. -/
theorem bodyOf_turned {kind : DeclarationKind} (h : (Role.declaration kind).Turned fault v w)
    (vs vs' : List Json) (levels : Nat) :
    Turned (fault.map Json.ReadError.refused) (bodyOf levels (.array (vs ++ v :: vs')))
      (bodyOf levels (.array (vs ++ w :: vs'))) := by
  cases levels with
  | zero => exact .of_failed ⟨_, rfl⟩
  | succ levels => exact Turned.mapM_mid (h levels) vs vs'

theorem documentMember_turned {levels : Nat} {failure : Option LoadError}
    (h : Turned failure (bodyOf levels v) (bodyOf levels w)) (found : Option (List Declaration)) :
    Turned failure (documentMember levels found (bodyKey, v))
      (documentMember levels found (bodyKey, w)) := by
  unfold documentMember readOnce
  rw [if_pos rfl, if_pos rfl]
  by_cases hfound : found.isSome
  · rw [if_pos hfound, if_pos hfound]
    exact .of_failed ⟨_, rfl⟩
  · rw [if_neg hfound, if_neg hfound]
    exact h.map some

/-- A document whose body is changed. -/
theorem document_turned {c c' : Content} {place : Nat} (hc : Content.Changed "body" 0 place
      (some v) w c c')
    (h : ∀ levels, Turned (fault.map Json.ReadError.refused) (bodyOf levels v) (bodyOf levels w)) :
    Role.document.Turned fault (Role.document.given c) (Role.document.given c') := by
  intro levels
  cases levels with
  | zero => cases hc <;> exact .of_failed ⟨_, rfl⟩
  | succ levels =>
    cases hc with
    | member before others =>
      exact (Turned.foldlM_mid (documentMember_turned (h levels)) before others none).map _
    | @element before hlength others =>
      obtain rfl := List.length_eq_zero_iff.1 hlength
      cases others with
      | nil => exact h levels
      | cons next others => exact (h levels).bind _

/-- A document without a body is empty, and one whose body is null is refused. -/
theorem document_null {before others : List (String × Json)}
    (h : valuesOf "body" (before ++ others) = []) :
    Role.document.Turned Presence.list.onNull (.object (before ++ others))
      (.object (before ++ ("body", .null) :: others)) := by
  intro levels
  cases levels with
  | zero => exact .of_failed ⟨_, rfl⟩
  | succ levels =>
    have hbefore : before.foldlM (documentMember levels) none = .ok none := by
      rw [valuesOf_append, List.append_eq_nil_iff] at h
      exact foldlM_readOnce_absent h.1 (fun _ _ => rfl) none
    have hrefused : documentOf (levels + 1) (.object (before ++ ("body", .null) :: others)) =
        .error (.refused Presence.list.refusal) := by
      rw [documentOf, List.foldlM_append, hbefore]
      rfl
    rw [hrefused]
    exact .refused _ _

end Documents

/-! ### Paths -/

/-- Every optional key of an object but a document's belongs to a slot. -/
theorem Role.slot_of_mem_keys {role : Role} (hrole : role ≠ .document) {key : String}
    {presence : Presence} (h : (key, presence) ∈ role.keys) :
    ∃ (slot : Slot) (index : Nat), role.slots[index]? = some slot ∧ slot.key = key ∧
      slot.presence = presence := by
  rw [← keys_slots hrole] at h
  obtain ⟨slot, hslot, heq⟩ := List.mem_map.1 h
  obtain ⟨index, hindex⟩ := List.mem_iff_getElem?.1 hslot
  exact ⟨slot, index, hindex, congrArg Prod.fst heq, congrArg Prod.snd heq⟩

/-- A list of records is read as one of them is. -/
theorem listOf_turned {α : Type} {read : Json → Except Fault α} {fault : Option Fault} {v w : Json}
    (h : Turned fault (read v) (read w)) (vs vs' : List Json) :
    Turned fault (listOf read (.array (vs ++ v :: vs'))) (listOf read (.array (vs ++ w :: vs'))) :=
  Turned.mapM_mid h vs vs'

/-- Under the key of a list, one of its objects is reread. -/
theorem Role.Lists.rereads {role inner : Role} {key : String} {index : Nat}
    (hl : role.Lists key index inner) (hrole : role ≠ .document) {fault : Option Fault} {v w : Json}
    (h : inner.Turned fault v w) (vs vs' : List Json) :
    ∃ slot : Slot, role.slots[index]? = some slot ∧ slot.key = key ∧
      slot.Rereads fault (some (.array (vs ++ v :: vs'))) (.array (vs ++ w :: vs')) := by
  cases hl with
  | body kind => exact absurd rfl hrole
  | members => exact ⟨.list "members" SyntaxTree.member, rfl, rfl, listOf_turned h vs vs'⟩
  | structFields | unionFields | exceptionFields | parameters =>
    exact ⟨.list "fields" SyntaxTree.field, rfl, rfl, listOf_turned h vs vs'⟩
  | functions => exact ⟨.list "functions" SyntaxTree.function, rfl, rfl, listOf_turned h vs vs'⟩
  | throws => exact ⟨.list "throws" SyntaxTree.field, rfl, rfl, listOf_turned h vs vs'⟩

/-- One step of a path: an object is read as one that it lists is. -/
theorem Role.Lists.turned {role inner : Role} {key : String} {index place : Nat}
    (hl : role.Lists key index inner) {fault : Option Fault} {v w : Json}
    (hdepth : w.depth = v.depth) (h : inner.Turned fault v w) {vs vs' : List Json} {c c' : Content}
    (ha : ∀ members, c = .members members → role.Admits members)
    (hc : Content.Changed key index place (some (.array (vs ++ v :: vs')))
      (.array (vs ++ w :: vs')) c c') :
    role.Turned fault (role.given c) (role.given c') := by
  by_cases hrole : role = .document
  · subst hrole
    cases hl with
    | body kind => exact document_turned hc (bodyOf_turned h vs vs')
  · obtain ⟨slot, hslot, rfl, hr⟩ := hl.rereads hrole h vs vs'
    refine turned_changed hrole ha hslot hc ?_ hr
    simp only [Option.elim, Json.depth, Json.depthOfElements_append, Json.depthOfElements, hdepth]

/-- **Wherever an optional key is null, the value is read as without the key, or refused
for it.** -/
theorem NullAdded.turned {key : String} {target role : Role} {presence : Presence} {v w : Json}
    (h : NullAdded key target role v w) (hkey : (key, presence) ∈ target.keys)
    (hoptional : presence ≠ .required) : role.Turned presence.onNull v w := by
  induction h with
  | @here before others ha hnone =>
    by_cases hrole : target = .document
    · subst hrole
      obtain ⟨rfl, rfl⟩ : key = "body" ∧ presence = .list := by simpa [Role.keys] using hkey
      exact document_null hnone
    · obtain ⟨slot, index, hslot, rfl, rfl⟩ := Role.slot_of_mem_keys hrole hkey
      refine Role.turned_changed hrole ?_ hslot (.added hnone .null) rfl (slot.null hoptional)
      rintro members ⟨⟩
      exact ha
  | inObject hl ha h ih =>
    refine hl.turned h.depth_eq ih ?_ (.member _ _ _ _)
    rintro members ⟨⟩
    exact ha
  | @inArray role inner list v w before others vs vs' hl h ih =>
    rw [List.append_assoc, List.append_assoc]
    refine hl.turned h.depth_eq ih ?_ (.element rfl others _ _)
    rintro members ⟨⟩

end SyntaxTree

open SyntaxTree in
/-- **A null under an optional key.** If the key may be null, the document is loaded as
without the key, with the same result. Otherwise a document that is loaded without the
key is refused for the null, and one that is refused without the key stays refused, for
the same fault or for the null. -/
theorem Document.null_added {key : String} {target : Role} {presence : Presence}
    (hkey : (key, presence) ∈ target.keys) (hoptional : presence ≠ .required) {v w : Json}
    (h : NullAdded key target .document v w) {text text' : String}
    (ht : Json.SpellsText v text.toList) (ht' : Json.SpellsText w text'.toList) :
    (presence = .nullable → Document.ofText text' = Document.ofText text) ∧
    (presence ≠ .nullable →
      (∀ doc, Document.ofText text = .ok doc →
        Document.ofText text' = .error (.refused presence.refusal)) ∧
      ∀ first, Document.ofText text = .error first →
        Document.ofText text' = .error first ∨
          Document.ofText text' = .error (.refused presence.refusal)) := by
  have hturned : Turned (presence.onNull.map Json.ReadError.refused) (Document.ofText text)
      (Document.ofText text') := by
    rw [Document.ofText_spelled ht, Document.ofText_spelled ht']
    exact (h.turned hkey hoptional nestingLimit).map _
  generalize Document.ofText text = result at hturned
  generalize Document.ofText text' = result' at hturned
  refine ⟨fun hpresence => ?_, fun hpresence => ?_⟩
  · subst hpresence
    cases hturned with
    | same => rfl
  · have honNull : presence.onNull = some presence.refusal := by
      cases presence with
      | nullable => exact absurd rfl hpresence
      | _ => rfl
    rw [honNull] at hturned
    cases hturned with
    | earlier _ first => exact ⟨fun _ h => (nomatch h), fun _ h => .inl h⟩
    | refused => exact ⟨fun _ _ => rfl, fun _ _ => .inr rfl⟩

/-- The tree of a document with one service. -/
def SyntaxTree.serviceTree (more : List (String × Json)) : Json :=
  .object [("body", .array [.object
    ([("type", .string "ServiceDefinition"), ("name", .string "Ping")] ++ more)])]

open SyntaxTree in
/-- A service whose parent is null has none, and one whose functions are null is refused. -/
theorem Document.service_with_nulls :
    Document.ofText (serviceTree [("extends", .null)]).compact =
      Document.ofText (serviceTree []).compact ∧
    Document.ofText (serviceTree [("functions", .null)]).compact =
      .error (.refused (.invalidType .null .sequence)) := by
  have hspells : ∀ more : List (String × Json), (∀ m ∈ more, m.2 = .null) →
      Json.SpellsText (serviceTree more) (serviceTree more).compact.toList := by
    intro more hmore
    have hexact : ∀ m ∈ more, m.2.Exact := fun m hm => hmore m hm ▸ Json.Exact.null
    refine Json.spellsText_of_spells (Json.spells_compact ?_)
    simpa [serviceTree, Json.exact_object_iff, Json.exact_array_iff, Json.Exact.string] using hexact
  have hadded : ∀ key : String,
      valuesOf key [("type", .string "ServiceDefinition"), ("name", .string "Ping")] = [] →
      NullAdded key (.declaration .service) .document (serviceTree [])
        (serviceTree [(key, .null)]) := by
    intro key hkey
    have hservice : NullAdded key (.declaration .service) (.declaration .service)
        (.object ([("type", .string "ServiceDefinition"), ("name", .string "Ping")] ++ []))
        (.object ([("type", .string "ServiceDefinition"), ("name", .string "Ping")] ++
          (key, .null) :: [])) :=
      .here (List.mem_singleton_self _) hkey
    have hbody : Role.Lists .document "body" 0 (.declaration .service) := .body .service
    exact @NullAdded.inObject key _ _ _ _ _ _ _ [] [] [] [] hbody trivial hservice
  have hloaded : Document.ofText (serviceTree []).compact =
      .ok ⟨[.service ⟨"Ping", none, [], []⟩]⟩ := by
    rw [Document.ofText_spelled (hspells [] (by simp))]
    rfl
  have hextends : ("extends", .nullable) ∈ (Role.declaration .service).keys := by decide
  have hfunctions : ("functions", .list) ∈ (Role.declaration .service).keys := by decide
  have hparent := Document.null_added hextends (by decide) (hadded "extends" rfl)
    (hspells [] (by simp)) (hspells [_] (by simp))
  have hrefused := Document.null_added hfunctions (by decide) (hadded "functions" rfl)
    (hspells [] (by simp)) (hspells [_] (by simp))
  exact ⟨hparent.1 rfl, (hrefused.2 (by decide)).1 _ hloaded⟩

end ThriftPages
