/-
# The readers of types, constants and comments

A tagged value is read from the values under the keys of its part, and from nothing else
(`Opened.tagged`); what the readers of a type or constant make of it follows from what they
make of its parts. Types and constants are nested, and read down to the depth of the value.
More depth makes no difference (`Deepens.read_iff`), so a type is read as its parts are,
each down to its own depth.

Key definitions: `SyntaxTree.Opened`, `SyntaxTree.Part.Linked`, `SyntaxTree.Deepens`.
Key theorems: `SyntaxTree.Opened.tagged`, `SyntaxTree.typeRef_iff`,
`SyntaxTree.constant_iff`.
-/
import ThriftPages.Proofs.SyntaxTree.Alterations

namespace ThriftPages.SyntaxTree

open Fields (carries_field)

variable {α : Type} {rel : Part → Json → Json → Prop}

/-! ### Objects and arrays of a part -/

/-- Two objects, or two arrays, with related parts in the places of the keys that are read. -/
inductive Opened (rel : Part → Json → Json → Prop) (part : Part) : Json → Json → Prop
  | object {ms ns : List (String × Json)}
      (h : Content.Alike rel (part.keysAs (valuesOf tagKey ms)) (.members ms) (.members ns)) :
      Opened rel part (.object ms) (.object ns)
  | array {vs ws : List Json}
      (h : Content.Alike rel (part.keysAs (vs.take 1)) (.elements vs) (.elements ws)) :
      Opened rel part (.array vs) (.array ws)

/-- The relation of what is read as a whole is equality, and lists are related element by
element. -/
structure Part.Linked (rel : Part → Json → Json → Prop) : Prop where
  whole : ∀ {v w : Json}, rel .whole v w → v = w
  list : ∀ {part : Part} {v w : Json}, rel (.list part) v w → ListAlike (rel part) v w

/-- No part has its tag for another key. -/
theorem Part.tagKey_notMem_rows (part : Part) : ∀ row ∈ part.rows, row.2.lookup tagKey = none := by
  cases part with
  | list => exact nofun
  | _ => decide

/-- The keys that a tag selects are those of one of the rows. -/
theorem mem_of_keysOfTag {ι : Type} {rows : List (String × List (String × ι))} {tag : Json}
    {keys : List (String × ι)} (h : keysOfTag rows tag = some keys) :
    ∃ row ∈ rows, row.2 = keys := by
  unfold keysOfTag at h
  split at h
  · rename_i name
    obtain ⟨before, others, rfl, _⟩ := List.lookup_eq_some_iff.1 h
    exact ⟨(name, keys), List.mem_append_right _ (List.mem_cons_self ..), rfl⟩
  · obtain ⟨row, hrow, rfl⟩ := Option.map_eq_some_iff.1 h
    exact ⟨row, List.mem_of_getElem? hrow, rfl⟩
  · cases h

/-- The keys of a value with a tag. -/
theorem Part.keysAs_tag {part : Part} (hpart : part.isTagged = true) {tag : Json}
    {keys : List (String × Part)} (hkeys : keysOfTag part.rows tag = some keys) :
    part.keysAs [tag] = (tagKey, .whole) :: keys := by
  rw [Part.keysAs, if_pos hpart, Part.keysBesides, hkeys]
  rfl

/-- A tagged value is read from what stands under its keys. -/
theorem Opened.tagged {part : Part} {v w : Json} (h : Opened rel part v w)
    (hpart : part.isTagged = true) (hrel : Part.Linked rel) {variants variants' : List (Variant α)}
    (hcarry : Variant.Carry rel part.rows variants variants') (enum : String) :
    Carried (tagged enum variants) (tagged enum variants') v w := by
  intro a ha
  cases h with
  | @object ms ns h =>
    cases h with
    | members h =>
      have htag := (h tagKey .whole (Part.lookup_tagKey hpart _)).imp fun _ _ _ => hrel.whole
      refine hcarry.tagged_members htag (fun tag keys hms hkeys => .members ?_) ha
      -- a key of the selected variant is not the tag, so it is read of the part as well
      intro key inner hkey
      refine h key inner ?_
      obtain ⟨row, hrow, rfl⟩ := mem_of_keysOfTag hkeys
      have hne : key ≠ tagKey := by
        rintro rfl
        rw [Part.tagKey_notMem_rows part row hrow] at hkey
        cases hkey
      rw [hms, Part.keysAs_tag hpart hkeys, List.lookup_cons, beq_false_of_ne hne]
      exact hkey
  | @array vs ws h =>
    cases h with
    | elements hlength h =>
      cases vs with
      | nil => cases ha
      | cons tag vs =>
        cases ws with
        | nil => cases hlength
        | cons tag' ws =>
          have hzero : ∀ tags, (part.keysAs tags)[0]? = some (tagKey, .whole) := by
            intro tags
            rw [Part.keysAs, if_pos hpart]
            rfl
          obtain rfl := hrel.whole (h 0 tagKey .whole tag tag' (hzero _) rfl rfl)
          refine hcarry.tagged_elements (fun keys hkeys => ?_) ha
          refine .elements (Nat.succ.inj hlength) fun i key inner v w hkey hv hw => ?_
          refine h (i + 1) key inner v w ?_ hv hw
          show (part.keysAs [tag])[i + 1]? = _
          rw [Part.keysAs_tag hpart hkeys]
          exact hkey

/-- A record without a tag is read from what stands under its keys. -/
theorem Opened.record {part : Part} {v w : Json} (h : Opened rel part v w)
    (hpart : part.isTagged = false) {fields fields' : Fields α}
    (hf : fields.Carries rel part.keys 0 fields') (name : String) :
    Carried (fields.ofJson name) (fields'.ofJson name) v w := by
  have hkeys : ∀ tags, part.keysAs tags = part.keys := fun tags => by simp [Part.keysAs, hpart]
  intro a ha
  cases h with
  | object h => exact hf.decode (hkeys _ ▸ h) ha
  | array h => exact hf.decode (hkeys _ ▸ h) ha

/-! ### Variants -/

theorem decodes_record {keys : List (String × Part)} {fields fields' : Fields α}
    (h : fields.Carries rel keys 0 fields') (enum name : String) :
    Variant.Decodes rel keys (Variant.record enum name fields)
      (Variant.record enum name fields') := fun hc _ ha => h.decode hc ha

section

variable {keys : List (String × Part)} {key : String} {start : Nat} {absent : Option α}
  {read read' : Json → Except Fault α}

/-- A field that is read as a whole is the same. -/
theorem carries_whole (hrel : Part.Linked rel) (hindex : keys[start]? = some (key, .whole))
    (hkey : keys.lookup key = some .whole) :
    (Fields.field key absent read).Carries rel keys start (Fields.field key absent read) :=
  carries_field hindex hkey fun _ _ h _ ha => hrel.whole h ▸ ha

/-- A field with a list is read as the elements are. -/
theorem carries_list (hrel : Part.Linked rel) {absent : Option (List α)} {part : Part}
    (hindex : keys[start]? = some (key, .list part)) (hkey : keys.lookup key = some (.list part))
    (h : ∀ v w, rel part v w → Carried read read' v w) :
    (Fields.field key absent (listOf read)).Carries rel keys start
      (Fields.field key absent (listOf read')) :=
  carries_field hindex hkey fun _ _ hlist => Carried.listOf h (hrel.list hlist)

end

/-- A type is read as the types in it are. -/
theorem carry_type (hrel : Part.Linked rel) {part part' : Json → Except Fault TypeRef}
    (h : ∀ v w, rel .type v w → Carried part part' v w) :
    Variant.Carry rel (Part.rows .type) (typeVariants part) (typeVariants part') := by
  have hunit : ∀ (name : String) (value : TypeRef),
      Variant.Decodes rel [] (Variant.unit "FieldType" name value)
        (Variant.unit "FieldType" name value) :=
    fun name value => decodes_record (Fields.Carries.pure 0 value) _ _
  have hvalue : ∀ (name : String) (container : TypeRef → TypeRef),
      Variant.Decodes rel [("valueType", .type)]
        (Variant.record "FieldType" name (container <$> Fields.required "valueType" part))
        (Variant.record "FieldType" name (container <$> Fields.required "valueType" part')) :=
    fun name container => decodes_record ((carries_field rfl rfl h).map container) _ _
  refine .cons rfl rfl (hunit _ _) <| .cons rfl rfl (hvalue _ _) <| .cons rfl rfl (hvalue _ _) <|
    .cons rfl rfl (decodes_record
      (((carries_field rfl rfl h).map TypeRef.map).seq (carries_field rfl rfl h)) _ _) <|
    .cons rfl rfl (hunit _ _) <| .cons rfl rfl (hunit _ _) <| .cons rfl rfl (hunit _ _) <|
    .cons rfl rfl (hunit _ _) <| .cons rfl rfl (hunit _ _) <| .cons rfl rfl (hunit _ _) <|
    .cons rfl rfl (hunit _ _) <| .cons rfl rfl (hunit _ _) <| .cons rfl rfl (hunit _ _) <|
    .cons rfl rfl (hunit _ _) <| .cons rfl rfl (decodes_record
      ((carries_whole hrel rfl rfl).map TypeRef.named) _ _) .nil

/-- An entry of a map whose parts are read by `part`. -/
def entryOf (part : Json → Except Fault Constant) : Json → Except Fault (Constant × Constant) :=
  (Prod.mk <$> Fields.required "name" part
    <*> Fields.required "initializer" part : Fields (Constant × Constant)).ofJson
    "PropertyAssignment"

theorem Opened.entry {part part' : Json → Except Fault Constant}
    (h : ∀ v w, rel .constant v w → Carried part part' v w) {v w : Json}
    (hv : Opened rel .entry v w) : Carried (entryOf part) (entryOf part') v w :=
  hv.record rfl (((carries_field rfl rfl h).map Prod.mk).seq (carries_field rfl rfl h)) _

/-- A constant is read as the constants in it are. -/
theorem carry_constant (hrel : Part.Linked rel) {part part' : Json → Except Fault Constant}
    (h : ∀ v w, rel .constant v w → Carried part part' v w)
    (hentry : ∀ v w, rel .entry v w → Carried (entryOf part) (entryOf part') v w) :
    Variant.Carry rel (Part.rows .constant) (constantVariants part) (constantVariants part') := by
  have hliteral : ∀ (name : String) (literal : String → Constant),
      Variant.Decodes rel [("value", .whole)]
        (Variant.record "ConstValue" name (literal <$> Fields.required "value" text))
        (Variant.record "ConstValue" name (literal <$> Fields.required "value" text)) :=
    fun name literal => decodes_record ((carries_whole hrel rfl rfl).map literal) _ _
  have hnumber : ∀ (name : String) (wrapper : Constant → Constant),
      Variant.Decodes rel [("value", .constant)]
        (Variant.record "ConstValue" name (wrapper <$> Fields.required "value" part))
        (Variant.record "ConstValue" name (wrapper <$> Fields.required "value" part')) :=
    fun name wrapper => decodes_record ((carries_field rfl rfl h).map wrapper) _ _
  refine .cons rfl rfl (hliteral _ _) <|
    .cons rfl rfl (decodes_record ((carries_whole hrel rfl rfl).map Constant.boolean) _ _) <|
    .cons rfl rfl (hliteral _ _) <| .cons rfl rfl (hliteral _ _) <|
    .cons rfl rfl (hliteral _ _) <| .cons rfl rfl (hliteral _ _) <|
    .cons rfl rfl (hnumber _ _) <| .cons rfl rfl (hnumber _ _) <|
    .cons rfl rfl (decodes_record ((carries_list hrel rfl rfl h).map Constant.list) _ _) <|
    .cons rfl rfl (decodes_record ((carries_list hrel rfl rfl hentry).map Constant.map) _ _) <|
    .cons rfl rfl (hliteral _ _) .nil

theorem Opened.comment (hrel : Part.Linked rel) {v w : Json} (hv : Opened rel .comment v w) :
    Carried comment comment v w :=
  hv.tagged rfl hrel (.cons rfl rfl
    (decodes_record ((carries_whole hrel rfl rfl).map Comment.block) _ _) <| .cons rfl rfl
    (decodes_record ((carries_whole hrel rfl rfl).map Comment.line) _ _) .nil) _

/-! ### Depth -/

/-- Values are read down to a number of levels, the reader of one more level reading parts by
the one of this level; it passes the values in an object or array to it, and no others. -/
structure Deepens (of : (Json → Except Fault α) → Json → Except Fault α)
    (read : Nat → Json → Except Fault α) : Prop where
  zero : ∃ fault : Json → Fault, read 0 = of fun v => .error (fault v)
  succ : ∀ levels, read (levels + 1) = of (read levels)
  inside : ∀ {part part' : Json → Except Fault α} {v : Json},
    (∀ inner : Json, inner.depth < v.depth → Carried part part' inner inner) →
    Carried (of part) (of part') v v

namespace Deepens

variable {of : (Json → Except Fault α) → Json → Except Fault α}
  {read : Nat → Json → Except Fault α} (h : Deepens of read)
include h

/-- What is read at one level is read at deeper ones. -/
theorem carried_succ : ∀ (levels : Nat) (v : Json), Carried (read levels) (read (levels + 1)) v v
  | 0, v => by
    obtain ⟨fault, hzero⟩ := h.zero
    rw [h.succ, hzero]
    exact h.inside fun _ _ => nofun
  | levels + 1, v => by
    rw [h.succ levels, h.succ (levels + 1)]
    exact h.inside fun inner _ => carried_succ levels inner

theorem carried_of_le {levels levels' : Nat} (hle : levels ≤ levels') (v : Json) :
    Carried (read levels) (read levels') v v := by
  induction hle with
  | refl => exact fun _ ha => ha
  | step _ ih => exact fun a ha => h.carried_succ _ v a (ih a ha)

/-- The depth of a value is deep enough if the parts are read no deeper than they are. -/
theorem carried_depth {part : Json → Except Fault α} {v : Json}
    (hpart : ∀ inner : Json, inner.depth < v.depth →
      Carried part (read inner.depth) inner inner) : Carried (of part) (read v.depth) v v := by
  cases hdepth : v.depth with
  | zero =>
    obtain ⟨fault, hzero⟩ := h.zero
    rw [hzero]
    exact h.inside fun inner hinner => absurd hinner (by omega)
  | succ levels =>
    rw [h.succ]
    exact h.inside fun inner hinner a ha =>
      h.carried_of_le (by omega) inner a (hpart inner hinner a ha)

/-- What is read at some level is read at the depth of the value. -/
theorem carried_to_depth : ∀ (levels : Nat) (v : Json), Carried (read levels) (read v.depth) v v
  | 0, v => h.carried_of_le (Nat.zero_le _) v
  | levels + 1, v => by
    rw [h.succ]
    exact h.carried_depth fun inner _ => carried_to_depth levels inner

/-- A value is read down to its depth as its parts are down to theirs. -/
theorem read_iff (v : Json) (a : α) :
    read v.depth v = .ok a ↔ of (fun inner => read inner.depth inner) v = .ok a := by
  refine ⟨fun ha => ?_, h.carried_depth (fun _ _ _ hb => hb) a⟩
  -- one level more reads the parts at a level that is deep enough for each of them
  have hdeeper := h.carried_succ v.depth v a ha
  rw [h.succ] at hdeeper
  exact h.inside (fun inner _ => h.carried_to_depth v.depth inner) a hdeeper

end Deepens

/-- The same value, with no more than so many levels. -/
def SameWithin (levels : Nat) (_ : Part) (v w : Json) : Prop := v = w ∧ v.depth < levels

theorem SameWithin.linked (levels : Nat) : Part.Linked (SameWithin levels) where
  whole h := h.1
  list := by
    rintro part v _ ⟨rfl, hdepth⟩ vs rfl
    refine ⟨vs, rfl, List.forall₂_same.2 fun v hv => ⟨rfl, ?_⟩⟩
    have hle := (Json.depthOfElements_le_iff vs).1 (Nat.le_refl _) v hv
    rw [Json.depth] at hdepth
    omega

/-- The parts of a value are less deep. -/
theorem SameWithin.opened {part : Part} {v : Json} (h : ¬v.depth = 0) {levels : Nat}
    (hdepth : v.depth ≤ levels) : Opened (SameWithin levels) part v v := by
  cases v with
  | object ms =>
    refine .object (.members fun key inner _ => ⟨id, fun v hv => ⟨v, hv, rfl, ?_⟩⟩)
    obtain ⟨m, hm, hle⟩ := depth_object hdepth
    have := hle hv
    omega
  | array vs =>
    refine .array (.elements rfl fun i key inner v w _ hv hw => ⟨?_, ?_⟩)
    · exact Option.some.inj (hv.symm.trans hw)
    · have hle := (Json.depthOfElements_le_iff vs).1 (Nat.le_refl _) v (List.mem_of_getElem? hv)
      rw [Json.depth] at hdepth
      omega
  | _ => exact absurd rfl h

/-- A value that is not nested is no tagged one. -/
theorem carried_tagged_flat {enum : String} {variants variants' : List (Variant α)} {v : Json}
    (h : v.depth = 0) : Carried (tagged enum variants) (tagged enum variants') v v := by
  intro a ha
  cases v with
  | object ms => simp [Json.depth] at h
  | array vs => simp [Json.depth] at h
  | _ => cases ha

theorem deepens_type : Deepens typeOf typeWithin where
  zero := ⟨_, rfl⟩
  succ _ := rfl
  inside := by
    intro part part' v hinner
    by_cases hdepth : v.depth = 0
    · exact carried_tagged_flat hdepth
    · have hparts : ∀ inner inner', SameWithin v.depth .type inner inner' →
          Carried part part' inner inner' := by
        rintro inner _ ⟨rfl, hlt⟩
        exact hinner inner hlt
      exact (SameWithin.opened hdepth (Nat.le_refl _)).tagged rfl (SameWithin.linked _)
        (carry_type (SameWithin.linked _) hparts) _

/-- A type is read as the types in it are. -/
theorem typeRef_iff {v : Json} {t : TypeRef} : typeRef v = .ok t ↔ typeOf typeRef v = .ok t :=
  deepens_type.read_iff v t

theorem deepens_constant : Deepens constantOf constantWithin where
  zero := ⟨_, rfl⟩
  succ _ := rfl
  inside := by
    intro part part' v hinner
    by_cases hdepth : v.depth = 0
    · exact carried_tagged_flat hdepth
    · have hparts : ∀ inner inner', SameWithin v.depth .constant inner inner' →
          Carried part part' inner inner' := by
        rintro inner _ ⟨rfl, hlt⟩
        exact hinner inner hlt
      have hentries : ∀ inner inner', SameWithin v.depth .entry inner inner' →
          Carried (entryOf part) (entryOf part') inner inner' := by
        rintro inner _ ⟨rfl, hlt⟩
        by_cases hflat : inner.depth = 0
        · intro a ha
          cases inner <;> first | cases ha | simp [Json.depth] at hflat
        · exact (SameWithin.opened hflat (Nat.le_of_lt hlt)).entry hparts
      exact (SameWithin.opened hdepth (Nat.le_refl _)).tagged rfl (SameWithin.linked _)
        (carry_constant (SameWithin.linked _) hparts hentries) _

/-- A constant is read as the constants in it are. -/
theorem constant_iff {v : Json} {c : Constant} :
    constant v = .ok c ↔ constantOf constant v = .ok c := deepens_constant.read_iff v c

end ThriftPages.SyntaxTree
