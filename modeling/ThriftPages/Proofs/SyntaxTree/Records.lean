/-
# How records are read

A record that is given as an object is read key by key: what matters to a field
are the values under its key (`valuesOf`), wherever they stand. A field that
finds one value reads it, and a field that may be left out and finds none has its
default; fields that are read so one by one are read so together (`Fields.Reads`).

Key definitions: `SyntaxTree.valuesOf`, `SyntaxTree.Fields.Reads`.
Key theorems: `SyntaxTree.Fields.Reads.seq`, `SyntaxTree.Fields.Reads.decode`,
`SyntaxTree.tagged_named`.
-/
import ThriftPages.Proofs.Json.Nesting
import ThriftPages.SyntaxTree.Tagged

namespace ThriftPages.SyntaxTree

/-- The values under a key, in their order. -/
def valuesOf (key : String) (members : List (String × Json)) : List Json :=
  (members.filter fun m => m.1 = key).map Prod.snd

theorem valuesOf_cons (key : String) (m : String × Json) (members : List (String × Json)) :
    valuesOf key (m :: members) =
      if m.1 = key then m.2 :: valuesOf key members else valuesOf key members := by
  unfold valuesOf
  by_cases h : m.1 = key <;> simp [h]

theorem valuesOf_append (key : String) (before after : List (String × Json)) :
    valuesOf key (before ++ after) = valuesOf key before ++ valuesOf key after := by
  rw [valuesOf, List.filter_append, List.map_append]
  rfl

theorem mem_valuesOf {key : String} {members : List (String × Json)} {value : Json} :
    value ∈ valuesOf key members ↔ (key, value) ∈ members := by
  simp [valuesOf]

/-- What is found in an object is less deep. -/
theorem depth_object {n : Nat} {members : List (String × Json)}
    (hd : (Json.object members).depth ≤ n) :
    ∃ m, n = m + 1 ∧ ∀ {key value}, valuesOf key members = [value] → value.depth ≤ m := by
  cases n with
  | zero => simp [Json.depth] at hd
  | succ m =>
    refine ⟨m, rfl, fun {key value} h => ?_⟩
    rw [Json.depth, Nat.add_le_add_iff_right, Json.depthOfMembers_le_iff] at hd
    exact hd (key, value) (mem_valuesOf.1 (by rw [h]; exact List.mem_singleton_self value))

namespace Fields

/-! ### Occurrences of a key -/

/-- The values of a key with their places, the first of which is given. -/
def occurrencesFrom (key : String) (start : Nat) (members : List (String × Json)) :
    List (Json × Nat) :=
  (members.zipIdx start).filterMap fun ((k, value), place) =>
    if k = key then some (value, place) else Option.none

theorem occurrencesFrom_cons (key : String) (start : Nat) (m : String × Json)
    (members : List (String × Json)) :
    occurrencesFrom key start (m :: members) =
      if m.1 = key then (m.2, start) :: occurrencesFrom key (start + 1) members
      else occurrencesFrom key (start + 1) members := by
  unfold occurrencesFrom
  by_cases h : m.1 = key <;> simp [h]

theorem map_fst_occurrencesFrom (key : String) : ∀ (start : Nat) (members : List (String × Json)),
    (occurrencesFrom key start members).map Prod.fst = valuesOf key members
  | _, [] => rfl
  | start, m :: members => by
    rw [occurrencesFrom_cons, valuesOf_cons, ← map_fst_occurrencesFrom key (start + 1) members]
    by_cases h : m.1 = key <;> simp [h]

/-- A key that is not given occurs nowhere. -/
theorem occurrences_of_absent {key : String} {members : List (String × Json)}
    (h : valuesOf key members = []) : occurrences key members = [] := by
  rw [← map_fst_occurrencesFrom key 0] at h
  exact List.map_eq_nil_iff.1 h

/-- A key that is given once occurs once. -/
theorem occurrences_of_sole {key : String} {members : List (String × Json)} {value : Json}
    (h : valuesOf key members = [value]) : ∃ place, occurrences key members = [(value, place)] := by
  rw [← map_fst_occurrencesFrom key 0] at h
  obtain ⟨⟨found, place⟩, hfound, rfl⟩ := List.map_eq_singleton_iff.1 h
  exact ⟨place, hfound⟩

/-! ### Fields that are read without a fault -/

/-- Wherever the fields stand in their record, they are read as this value. -/
def Reads {α : Type} (fields : Fields α) (content : Content) (a : α) : Prop :=
  ∀ outer index, fields.read outer index content = .ok a

section

variable {α β : Type} {content : Content} {members : List (String × Json)} {key : String}
  {read : Json → Except Fault α} {value : Json} {a absent : α}

theorem Reads.pure (a : α) : Reads (pure a) content a := fun _ _ => rfl

theorem Reads.seq {f : Fields (α → β)} {x : Fields α} {g : α → β} (hf : f.Reads content g)
    (hx : x.Reads content a) : (f <*> x).Reads content (g a) := by
  intro outer index
  show both (f.read outer index content) (x.read outer (index + f.size) content) = _
  rw [hf, hx]
  rfl

theorem Reads.map (g : α → β) {x : Fields α} (hx : x.Reads content a) :
    (g <$> x).Reads content (g a) := (Reads.pure g).seq hx

/-- A key that is given once is read. -/
theorem reads_field {absent : Option α} (h : valuesOf key members = [value])
    (hr : read value = .ok a) : (field key absent read).Reads (.members members) a := by
  intro outer index
  obtain ⟨place, hplace⟩ := occurrences_of_sole h
  simp only [field, hplace, hr]

/-- A key that is left out has its default. -/
theorem reads_absent (h : valuesOf key members = []) :
    (optional key absent read).Reads (.members members) absent := by
  intro outer index
  simp only [optional, field, occurrences_of_absent h]

/-- A record is what its fields are read as. -/
theorem Reads.decode {fields : Fields α} (h : fields.Reads (.members members) a) (shape : Shape) :
    fields.decode shape (.members members) = .ok a := by
  rw [Fields.decode, h]
  rfl

theorem Reads.ofJson {fields : Fields α} (h : fields.Reads (.members members) a) (name : String) :
    fields.ofJson name (.object members) = .ok a := h.decode (.struct name)

end

end Fields

/-! ### Tags -/

/-- A tagged object is read as the variant that its only tag names. -/
theorem tagged_named {α : Type} (enum : String) {tag : String} {variants : List (Variant α)}
    {variant : Variant α} {members : List (String × Json)}
    (h : valuesOf tagKey members = [.string tag])
    (hv : Variant.named variants tag = .ok variant) :
    tagged enum variants (.object members) = variant.decode (.members members) := by
  have hmembers : Variant.ofMembers variants members = .ok variant := by
    unfold valuesOf at h
    simp only [Variant.ofMembers, h, Variant.select, hv, bind, Except.bind]
    rfl
  simp only [tagged, hmembers, bind, Except.bind]

end ThriftPages.SyntaxTree
