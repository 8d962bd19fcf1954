/-
# Readings carried from one value to another

Two readers may be such that whatever the first reads of a value the second reads of
another value (`Carried`). That this holds of a record follows from its fields: a field
sees the values under its key, or the element at its index, and nothing else of the
object or array (`Content.Alike`). So it is said once of a field, then of fields one behind
the other, of records, of variants and of tagged values.

What the values under a key have to do with each other is left open: `rel` relates them by
the kind of part that stands there. The two readers may differ as well, in how deep they
go.

Key definitions: `SyntaxTree.Carried`, `SyntaxTree.Sole`, `SyntaxTree.Content.Alike`,
`SyntaxTree.Fields.Carries`, `SyntaxTree.Variant.Carry`.
Key theorems: `SyntaxTree.Fields.carries_field`, `SyntaxTree.Fields.Carries.seq`,
`SyntaxTree.Fields.Carries.decode`, `SyntaxTree.Variant.Carry.tagged_members`,
`SyntaxTree.Variant.Carry.tagged_elements`.
-/
import Mathlib.Data.List.Forall2
import ThriftPages.Proofs.Steps
import ThriftPages.Proofs.SyntaxTree.Records
import ThriftPages.SyntaxTree.Decode

namespace ThriftPages.SyntaxTree

open Steps (bind_eq_ok_iff mapError_eq_ok_iff mapM_eq_ok_iff)

variable {α β ι : Type}

/-! ### Readers -/

/-- What the first reader reads of the first value the second reads of the second. -/
def Carried (read read' : Json → Except Fault α) (v w : Json) : Prop :=
  ∀ a, read v = .ok a → read' w = .ok a

theorem Carried.nullable {read read' : Json → Except Fault α} {v w : Json}
    (hnull : v = .null ↔ w = .null) (h : Carried read read' v w) :
    Carried (nullable read) (nullable read') v w := by
  intro a ha
  by_cases hv : v = .null
  · rw [hnull.1 hv]
    rwa [hv] at ha
  · have hread : ∀ {read : Json → Except Fault α} {v : Json}, v ≠ .null →
        SyntaxTree.nullable read v = (read v).map some := by
      intro read v hv
      cases v <;> first | rfl | exact absurd rfl hv
    rw [hread hv] at ha
    rw [hread (mt hnull.2 hv)]
    cases hb : read v with
    | error fault =>
      rw [hb] at ha
      cases ha
    | ok b =>
      rw [hb] at ha
      rw [h b hb]
      exact ha

/-- A list is related to a list of related elements. -/
def ListAlike (R : Json → Json → Prop) (v w : Json) : Prop :=
  ∀ vs, v = .array vs → ∃ ws, w = .array ws ∧ List.Forall₂ R vs ws

/-- What follows for related elements follows for related lists. -/
theorem forall₂_of_related {γ : Type} {R : α → β → Prop} {P : α → γ → Prop} {Q : β → γ → Prop}
    (h : ∀ a b, R a b → ∀ c, P a c → Q b c) {as : List α} {bs : List β} {cs : List γ}
    (hr : List.Forall₂ R as bs) (hp : List.Forall₂ P as cs) : List.Forall₂ Q bs cs := by
  induction hr generalizing cs with
  | nil =>
    cases hp
    exact .nil
  | @cons a b as bs hab _ ih =>
    cases hp with
    | cons hac hp => exact .cons (h a b hab _ hac) (ih hp)

theorem Carried.listOf {R : Json → Json → Prop} {read read' : Json → Except Fault α}
    (h : ∀ v w, R v w → Carried read read' v w) {v w : Json} (hlist : ListAlike R v w) :
    Carried (listOf read) (listOf read') v w := by
  intro as has
  cases v with
  | array vs =>
    obtain ⟨ws, rfl, hvs⟩ := hlist vs rfl
    exact mapM_eq_ok_iff.2 (forall₂_of_related h hvs (mapM_eq_ok_iff.1 has))
  | _ => cases has

/-! ### Contents -/

/-- A key that is left out is left out, and one that is given once is given once, with a
related value. -/
def Sole (R : Json → Json → Prop) (vs ws : List Json) : Prop :=
  (vs = [] → ws = []) ∧ ∀ v, vs = [v] → ∃ w, ws = [w] ∧ R v w

section Sole

variable {R : Json → Json → Prop} {vs vs' ws ws' : List Json} {v w : Json}

theorem Sole.refl (h : ∀ v, R v v) (vs : List Json) : Sole R vs vs :=
  ⟨id, fun v hv => ⟨v, hv, h v⟩⟩

theorem Sole.cons (h : Sole R vs ws) (hr : R v w) : Sole R (v :: vs) (w :: ws) := by
  refine ⟨nofun, fun x hx => ?_⟩
  obtain ⟨rfl, rfl⟩ := List.cons.inj hx
  exact ⟨w, by rw [h.1 rfl], hr⟩

/-- Order does not matter where there is at most one. -/
theorem Sole.perm (h : Sole R vs' ws') (hvs : vs.Perm vs') (hws : ws'.Perm ws) :
    Sole R vs ws := by
  constructor
  · rintro rfl
    rw [List.nil_perm] at hvs
    rw [h.1 hvs, List.nil_perm] at hws
    exact hws
  · rintro v rfl
    rw [List.singleton_perm] at hvs
    obtain ⟨w, hw, hr⟩ := h.2 v hvs.symm
    rw [hw, List.singleton_perm] at hws
    exact ⟨w, hws.symm, hr⟩

theorem Sole.imp {S : Json → Json → Prop} (h : Sole R vs ws)
    (hrs : ∀ v ∈ vs, ∀ w, R v w → S v w) : Sole S vs ws := by
  refine ⟨h.1, ?_⟩
  rintro v rfl
  obtain ⟨w, hw, hr⟩ := h.2 v rfl
  exact ⟨w, hw, hrs v (List.mem_singleton_self v) w hr⟩

end Sole

/-- Two objects have related values under each of these keys, or two arrays at the index
of each; the keys are listed in the order of the record's fields, each with the kind of
part that stands there. -/
inductive Content.Alike (rel : ι → Json → Json → Prop) (keys : List (String × ι)) :
    Content → Content → Prop
  | members {ms ns : List (String × Json)}
      (h : ∀ key part, keys.lookup key = some part →
        Sole (rel part) (valuesOf key ms) (valuesOf key ns)) :
      Alike rel keys (.members ms) (.members ns)
  | elements {vs ws : List Json} (hlength : vs.length = ws.length)
      (h : ∀ (i : Nat) key part v w, keys[i]? = some (key, part) → vs[i]? = some v →
        ws[i]? = some w → rel part v w) :
      Alike rel keys (.elements vs) (.elements ws)

variable {rel : ι → Json → Json → Prop} {keys : List (String × ι)}

namespace Fields

/-- What fields of the keys from an index on read of one content, other fields read of
every content like it. -/
structure Carries (rel : ι → Json → Json → Prop) (keys : List (String × ι)) (start : Nat)
    (fields fields' : Fields α) : Prop where
  size : fields'.size = fields.size
  read : ∀ {c c' : Content}, c.Alike rel keys c' → ∀ {outer outer' : Outer} {a : α},
    fields.read outer start c = .ok a → fields'.read outer' start c' = .ok a

/-- A field is read from its only value, or has its default. -/
theorem of_read_field {key : String} {absent : Option α} {read : Json → Except Fault α}
    {outer : Outer} {index : Nat} {members : List (String × Json)} {a : α}
    (h : (field key absent read).read outer index (.members members) = .ok a) :
    (valuesOf key members = [] ∧ absent = some a) ∨
      ∃ v, valuesOf key members = [v] ∧ read v = .ok a := by
  have hvalues : (occurrences key members).map Prod.fst = valuesOf key members :=
    map_fst_occurrencesFrom key 0 members
  simp only [field] at h
  cases hfound : occurrences key members with
  | nil =>
    rw [hfound] at h hvalues
    cases absent with
    | none => cases h
    | some value => exact .inl ⟨hvalues.symm, congrArg some (Except.ok.inj h)⟩
  | cons first others =>
    obtain ⟨v, place⟩ := first
    rw [hfound] at h hvalues
    cases hread : read v with
    | error fault => simp only [hread, reduceCtorEq] at h
    | ok value =>
      cases others with
      | nil =>
        simp only [hread] at h
        exact .inr ⟨v, hvalues.symm, hread.trans (congrArg Except.ok (Except.ok.inj h))⟩
      | cons second others => simp only [hread, reduceCtorEq] at h

theorem carries_field {key : String} {part : ι} {start : Nat} {absent : Option α}
    {read read' : Json → Except Fault α} (hindex : keys[start]? = some (key, part))
    (hkey : keys.lookup key = some part) (h : ∀ v w, rel part v w → Carried read read' v w) :
    (field key absent read).Carries rel keys start (field key absent read') where
  size := rfl
  read := by
    intro c c' hc outer outer' a ha
    cases hc with
    | members hkeys =>
      obtain ⟨hnone, hone⟩ := hkeys key part hkey
      rcases of_read_field ha with ⟨hvalues, rfl⟩ | ⟨v, hvalues, hread⟩
      · exact reads_absent (hnone hvalues) outer' start
      · obtain ⟨w, hw, hrel⟩ := hone v hvalues
        exact reads_field hw (h v w hrel a hread) outer' start
    | @elements vs ws hlength helements =>
      simp only [field] at ha ⊢
      cases hv : vs[start]? with
      | none =>
        have hw : ws[start]? = Option.none := by
          rw [List.getElem?_eq_none_iff] at hv ⊢
          omega
        rw [hv] at ha
        rw [hw]
        cases absent with
        | none => cases ha
        | some value => exact ha
      | some v =>
        have hlt : start < ws.length := by
          have hlt := (List.getElem?_eq_some_iff.1 hv).1
          omega
        have hw := List.getElem?_eq_getElem hlt
        rw [hv] at ha
        rw [hw]
        exact mapError_eq_ok_iff.2
          (h v _ (helements start key part v _ hindex hv hw) a (mapError_eq_ok_iff.1 ha))

theorem of_both {f : Except Located (α → β)} {x : Except Located α} {b : β}
    (h : both f x = .ok b) : ∃ g a, f = .ok g ∧ x = .ok a ∧ b = g a := by
  cases f <;> cases x <;> cases h
  exact ⟨_, _, rfl, rfl, rfl⟩

theorem Carries.pure (start : Nat) (a : α) :
    (pure a : Fields α).Carries rel keys start (pure a) where
  size := rfl
  read _ _ _ _ h := h

theorem Carries.seq {start : Nat} {f f' : Fields (α → β)} {x x' : Fields α}
    (hf : f.Carries rel keys start f') (hx : x.Carries rel keys (start + f.size) x') :
    (f <*> x).Carries rel keys start (f' <*> x') where
  size := by
    show f'.size + x'.size = f.size + x.size
    rw [hf.size, hx.size]
  read := by
    intro c c' hc outer outer' b hb
    obtain ⟨g, a, hg, ha, rfl⟩ := of_both hb
    show both (f'.read outer' start c') (x'.read outer' (start + f'.size) c') = _
    rw [hf.read hc hg, hf.size, hx.read hc ha]
    rfl

theorem Carries.map {start : Nat} (g : α → β) {x x' : Fields α}
    (hx : x.Carries rel keys start x') : (g <$> x).Carries rel keys start (g <$> x') :=
  (Carries.pure start g).seq hx

/-- A record is read of a content like the one that it was read of. -/
theorem Carries.decode {fields fields' : Fields α} (h : fields.Carries rel keys 0 fields')
    {c c' : Content} (hc : c.Alike rel keys c') {shape : Shape} {a : α}
    (ha : fields.decode shape c = .ok a) : fields'.decode shape c' = .ok a := by
  unfold Fields.decode at ha ⊢
  obtain ⟨value, hvalue, ha⟩ := bind_eq_ok_iff.1 ha
  refine bind_eq_ok_iff.2
    ⟨value, mapError_eq_ok_iff.2 (h.read hc (mapError_eq_ok_iff.1 hvalue)), ?_⟩
  cases hc with
  | members => exact ha
  | elements hlength =>
    simp only [h.size, ← hlength]
    exact ha

end Fields

/-! ### Tagged values -/

/-- The keys of the variant that a tag selects, from the keys of every variant. -/
def keysOfTag (rows : List (String × List (String × ι))) : Json → Option (List (String × ι))
  | .string name => rows.lookup name
  | .number (.integer (.ofNat index)) => rows[index]?.map Prod.snd
  | _ => none

namespace Variant

/-- What a variant with these keys decodes of one content, the other decodes of every
content like it. -/
def Decodes (rel : ι → Json → Json → Prop) (keys : List (String × ι))
    (variant variant' : Variant α) : Prop :=
  ∀ {c c' : Content}, c.Alike rel keys c' → ∀ {a : α}, variant.decode c = .ok a →
    variant'.decode c' = .ok a

/-- Variants of the same names, one by one with the same keys. -/
inductive Carry (rel : ι → Json → Json → Prop) :
    List (String × List (String × ι)) → List (Variant α) → List (Variant α) → Prop
  | nil : Carry rel [] [] []
  | cons {name : String} {keys : List (String × ι)} {variant variant' : Variant α}
      {rows : List (String × List (String × ι))} {variants variants' : List (Variant α)}
      (hname : variant.name = name) (hname' : variant'.name = name)
      (h : Decodes rel keys variant variant') (hs : Carry rel rows variants variants') :
      Carry rel ((name, keys) :: rows) (variant :: variants) (variant' :: variants')

variable {rows : List (String × List (String × ι))} {variants variants' : List (Variant α)}
  {variant : Variant α}

theorem named_eq_ok_iff {name : String} :
    named variants name = .ok variant ↔
      variants.find? (fun v => v.name = name) = some variant := by
  unfold named
  cases variants.find? (fun v => v.name = name) with
  | none => exact ⟨nofun, nofun⟩
  | some found =>
    exact ⟨fun h => congrArg some (Except.ok.inj h),
      fun h => congrArg Except.ok (Option.some.inj h)⟩

theorem Carry.named (h : Carry rel rows variants variants') {name : String}
    (hv : Variant.named variants name = .ok variant) :
    ∃ variant' keys, Variant.named variants' name = .ok variant' ∧
      rows.lookup name = some keys ∧ Decodes rel keys variant variant' := by
  rw [named_eq_ok_iff] at hv
  simp only [named_eq_ok_iff]
  induction h with
  | nil => cases hv
  | @cons own keys first first' rows others others' hname hname' hdecodes _ ih =>
    rw [List.find?_cons] at hv
    by_cases heq : own = name
    · subst heq
      simp only [hname, decide_true, Option.some.injEq] at hv
      subst hv
      exact ⟨first', keys, by simp [hname'], by simp, hdecodes⟩
    · simp only [hname, heq, decide_false] at hv
      obtain ⟨variant', keys, hfind, hlookup, hdecodes⟩ := ih hv
      refine ⟨variant', keys, by simp [hname', heq, hfind], ?_, hdecodes⟩
      rw [List.lookup_cons, beq_false_of_ne (Ne.symm heq)]
      exact hlookup

theorem Carry.nth (h : Carry rel rows variants variants') {index : Nat}
    (hv : variants[index]? = some variant) :
    ∃ variant' keys, variants'[index]? = some variant' ∧
      rows[index]?.map Prod.snd = some keys ∧ Decodes rel keys variant variant' := by
  induction h generalizing index with
  | nil => cases hv
  | cons hname hname' hdecodes _ ih =>
    cases index with
    | zero =>
      obtain rfl := Option.some.inj hv
      exact ⟨_, _, rfl, rfl, hdecodes⟩
    | succ index => exact ih hv

/-- A tag selects variants with the same keys. -/
theorem Carry.select (h : Carry rel rows variants variants') {tag : Json}
    (hv : Variant.select variants tag = .ok variant) :
    ∃ variant' keys, Variant.select variants' tag = .ok variant' ∧
      keysOfTag rows tag = some keys ∧ Decodes rel keys variant variant' := by
  unfold Variant.select at hv
  split at hv
  · exact h.named hv
  · rename_i index
    cases hindex : variants[index]? with
    | none =>
      rw [hindex] at hv
      cases hv
    | some found =>
      rw [hindex] at hv
      obtain rfl := Except.ok.inj hv
      obtain ⟨variant', keys, hfind, hkeys, hdecodes⟩ := h.nth hindex
      refine ⟨variant', keys, ?_, hkeys, hdecodes⟩
      simp only [Variant.select, hfind]
  · cases hv

/-- The tag of an object is its only one. -/
theorem ofMembers_eq_ok_iff {members : List (String × Json)} :
    ofMembers variants members = .ok variant ↔
      ∃ tag, valuesOf tagKey members = [tag] ∧ select variants tag = .ok variant := by
  cases hvalues : valuesOf tagKey members with
  | nil =>
    unfold valuesOf at hvalues
    simp only [ofMembers, hvalues, reduceCtorEq, false_and, exists_false]
  | cons tag others =>
    unfold valuesOf at hvalues
    simp only [ofMembers, hvalues, List.cons.injEq]
    constructor
    · intro h
      obtain ⟨found, hfound, h⟩ := bind_eq_ok_iff.1 h
      cases others with
      | nil => exact ⟨tag, ⟨rfl, rfl⟩, hfound.trans h⟩
      | cons _ _ => cases h
    · rintro ⟨_, ⟨rfl, rfl⟩, hselect⟩
      exact bind_eq_ok_iff.2 ⟨variant, hselect, rfl⟩

variable {enum : String} {a : α}

/-- A tagged object is read of an object with the same tag in which the values under the keys
of the tag are related. -/
theorem Carry.tagged_members (h : Carry rel rows variants variants')
    {ms ns : List (String × Json)} (htag : Sole Eq (valuesOf tagKey ms) (valuesOf tagKey ns))
    (hkeys : ∀ tag keys, valuesOf tagKey ms = [tag] → keysOfTag rows tag = some keys →
      Content.Alike rel keys (.members ms) (.members ns))
    (ha : tagged enum variants (.object ms) = .ok a) :
    tagged enum variants' (.object ns) = .ok a := by
  obtain ⟨variant, hvariant, ha⟩ := bind_eq_ok_iff.1 ha
  obtain ⟨tag, hms, hselect⟩ := ofMembers_eq_ok_iff.1 hvariant
  obtain ⟨variant', keys, hselect', hrow, hdecodes⟩ := h.select hselect
  obtain ⟨_, hns, rfl⟩ := htag.2 tag hms
  exact bind_eq_ok_iff.2 ⟨variant', ofMembers_eq_ok_iff.2 ⟨tag, hns, hselect'⟩,
    hdecodes (hkeys tag keys hms hrow) ha⟩

/-- The same of an array that starts with the tag. -/
theorem Carry.tagged_elements (h : Carry rel rows variants variants') {tag : Json}
    {vs ws : List Json}
    (hkeys : ∀ keys, keysOfTag rows tag = some keys →
      Content.Alike rel keys (.elements vs) (.elements ws))
    (ha : tagged enum variants (.array (tag :: vs)) = .ok a) :
    tagged enum variants' (.array (tag :: ws)) = .ok a := by
  obtain ⟨variant, hselect, ha⟩ := bind_eq_ok_iff.1 ha
  obtain ⟨variant', keys, hselect', hrow, hdecodes⟩ := h.select hselect
  exact bind_eq_ok_iff.2 ⟨variant', hselect', hdecodes (hkeys keys hrow) ha⟩

end Variant

end ThriftPages.SyntaxTree
