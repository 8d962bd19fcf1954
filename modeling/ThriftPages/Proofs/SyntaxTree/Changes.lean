/-
# Records that are changed in one part

A value may be put into a record under a key that it does not have, or take the place
of another (`Content.Changed`). The fields of other keys do not see the change, and the
field of this key reads the new value; what it makes of it becomes of the whole record.
This is said once of every field, of fields one behind the other, and of records.

Key definitions: `SyntaxTree.Content.Changed`, `SyntaxTree.Slot`,
`SyntaxTree.Fields.Follows`.
Key theorems: `SyntaxTree.Fields.agrees_other`, `SyntaxTree.Fields.turns_field`,
`SyntaxTree.Fields.Follows.seq`, `SyntaxTree.Fields.Follows.turned`.
-/
import ThriftPages.Proofs.SyntaxTree.Records
import ThriftPages.Proofs.SyntaxTree.Refusals
import ThriftPages.SyntaxTree.Decode

namespace ThriftPages.SyntaxTree

/-! ### Contents -/

/-- The new content has a value in one place that the old one does not have there: one
more, under a key that the old one does not have, or one that takes the place of
another, under the key or at the index. -/
inductive Content.Changed (key : String) (index : Nat) :
    (place : Nat) → (old : Option Json) → (new : Json) → Content → Content → Prop
  | added {before others : List (String × Json)} (h : valuesOf key (before ++ others) = [])
      (new : Json) : Changed key index before.length none new (.members (before ++ others))
        (.members (before ++ (key, new) :: others))
  | member (before others : List (String × Json)) (old new : Json) :
      Changed key index before.length (some old) new (.members (before ++ (key, old) :: others))
        (.members (before ++ (key, new) :: others))
  | element {before : List Json} (h : before.length = index) (others : List Json)
      (old new : Json) : Changed key index index (some old) new
        (.elements (before ++ old :: others)) (.elements (before ++ new :: others))

/-- How the places of other faults are moved by the change. -/
def moves : Option Json → Nat → Nat → Nat
  | none, place => shift place
  | some _, _ => id

theorem keepsOrder_moves (old : Option Json) (place : Nat) : KeepsOrder (moves old place) := by
  cases old with
  | none => exact keepsOrder_shift place
  | some _ => exact keepsOrder_id

namespace Fields

variable {α β : Type} {key key' : String} {index index' place start : Nat} {old : Option Json}
  {new v w : Json} {c c' : Content} {fault : Option Fault} {absent : Option α}
  {read : Json → Except Fault α}

/-! ### Fields of other keys -/

theorem occurrencesFrom_append (key : String) (start : Nat) (before others : List (String × Json)) :
    occurrencesFrom key start (before ++ others) =
      occurrencesFrom key start before ++ occurrencesFrom key (start + before.length) others := by
  rw [occurrencesFrom, List.zipIdx_append, List.filterMap_append]
  rfl

/-- What a field that is read from its first value finds. -/
def found (key : String) (absent : Option α) (read : Json → Except Fault α) (size : Nat) :
    List (Json × Nat) → Except Located α
  | [] =>
    match absent with
    | some value => .ok value
    | Option.none => .error ⟨size, .missingField key⟩
  | (first, place) :: others =>
    match read first, others with
    | .error fault, _ => .error ⟨place, fault⟩
    | .ok value, [] => .ok value
    | .ok _, (_, place) :: _ => .error ⟨place, .duplicateField key⟩

theorem read_field_members (outer : Outer) (members : List (String × Json)) :
    (field key absent read).read outer index (.members members) =
      found key absent read members.length (occurrencesFrom key 0 members) := rfl

theorem found_moved {move : Nat → Nat} (size : Nat) : ∀ os : List (Json × Nat),
    found key absent read (move size) (os.map fun o => (o.1, move o.2)) =
      (found key absent read size os).mapError (Located.moved move)
  | [] => by cases absent <;> rfl
  | [first] => by
    simp only [List.map_cons, List.map_nil, found]
    cases read first.1 <;> rfl
  | first :: second :: os => by
    simp only [List.map_cons, found]
    cases read first.1 <;> rfl

/-- Places before the added member are kept. -/
theorem map_shift_before (key : String) (stop : Nat) : ∀ (start : Nat)
    (before : List (String × Json)), start + before.length ≤ stop →
    (occurrencesFrom key start before).map (fun o => (o.1, shift stop o.2)) =
      occurrencesFrom key start before
  | _, [], _ => rfl
  | start, m :: before, h => by
    rw [List.length_cons] at h
    have hplace : shift stop start = start := if_pos (by omega)
    have hothers := map_shift_before key stop (start + 1) before (by omega)
    rw [occurrencesFrom_cons]
    by_cases hkey : m.1 = key
    · rw [if_pos hkey, List.map_cons, hothers, hplace]
    · rw [if_neg hkey, hothers]

/-- Places after the added member are moved. -/
theorem map_shift_after (key : String) (stop : Nat) : ∀ (start : Nat)
    (others : List (String × Json)), stop ≤ start →
    (occurrencesFrom key start others).map (fun o => (o.1, shift stop o.2)) =
      occurrencesFrom key (start + 1) others
  | _, [], _ => rfl
  | start, m :: others, h => by
    have hplace : shift stop start = start + 1 := if_neg (by omega)
    have hothers := map_shift_after key stop (start + 1) others (by omega)
    rw [occurrencesFrom_cons, occurrencesFrom_cons]
    by_cases hkey : m.1 = key
    · rw [if_pos hkey, if_pos hkey, List.map_cons, hothers, hplace]
    · rw [if_neg hkey, if_neg hkey, hothers]

/-- Fields that start at the index find the same in both contents, and the same faults in
places that are moved. -/
def Agrees (fields : Fields α) (index : Nat) (move : Nat → Nat) (c c' : Content) : Prop :=
  ∀ outer, fields.read outer index c' = (fields.read outer index c).mapError (Located.moved move)

theorem agrees_added (hkey : key ≠ key') (before others : List (String × Json)) :
    (field key' absent read).Agrees index (shift before.length) (.members (before ++ others))
      (.members (before ++ (key, new) :: others)) := by
  intro outer
  have hoccurrences : occurrencesFrom key' 0 (before ++ (key, new) :: others) =
      (occurrencesFrom key' 0 (before ++ others)).map fun o =>
        (o.1, shift before.length o.2) := by
    rw [occurrencesFrom_append, occurrencesFrom_append, occurrencesFrom_cons, if_neg hkey,
      List.map_append, map_shift_before _ _ _ _ (by omega), map_shift_after _ _ _ _ (by omega)]
  have hsize : (before ++ (key, new) :: others).length =
      shift before.length (before ++ others).length := by
    rw [shift, if_neg (by simp)]
    simp only [List.length_append, List.length_cons]
    omega
  rw [read_field_members, read_field_members, hoccurrences, hsize, found_moved]

theorem getElem?_replaced {before others : List Json} (h : before.length ≠ index) :
    (before ++ w :: others)[index]? = (before ++ v :: others)[index]? := by
  rcases Nat.lt_or_ge index before.length with hlt | hge
  · rw [List.getElem?_append_left hlt, List.getElem?_append_left hlt]
  · rw [List.getElem?_append_right hge, List.getElem?_append_right hge]
    obtain ⟨k, hk⟩ : ∃ k, index - before.length = k + 1 := ⟨index - before.length - 1, by omega⟩
    rw [hk, List.getElem?_cons_succ, List.getElem?_cons_succ]

/-- The field of another key, at another index, does not see the change. -/
theorem agrees_other (h : Content.Changed key index place old new c c') (hkey : key ≠ key')
    (hindex : index ≠ index') : (field key' absent read).Agrees index' (moves old place) c c' := by
  cases h with
  | @added before others => exact agrees_added hkey before others
  | member before others v =>
    intro outer
    show _ = Except.mapError (Located.moved id) _
    rw [mapError_id, read_field_members, read_field_members, occurrencesFrom_append,
      occurrencesFrom_append, occurrencesFrom_cons, occurrencesFrom_cons, if_neg hkey, if_neg hkey,
      List.length_append, List.length_append]
    rfl
  | @element before hlength others v =>
    intro outer
    show _ = Except.mapError (Located.moved id) _
    rw [mapError_id]
    simp only [field]
    rw [getElem?_replaced (hlength ▸ hindex)]

/-! ### The field of the key -/

/-- Fields that start at the index are read as before, but for the fault in the place. -/
def Turns (fields : Fields α) (fault : Option Fault) (index : Nat) (move : Nat → Nat)
    (place : Nat) (c c' : Content) : Prop :=
  ∀ outer, TurnedAt move place fault (fields.read outer index c) (fields.read outer index c')

/-- Where the field finds no value before the changed one, that one is read. -/
theorem found_first (h : Turned fault (read v) (read w)) {others : List (Json × Nat)}
    (hplaces : ∀ o ∈ others, place ≤ o.2) (size : Nat) :
    TurnedAt id place fault (found key absent read size ((v, place) :: others))
      (found key absent read size ((w, place) :: others)) := by
  generalize hv : read v = result at h
  generalize hw : read w = result' at h
  cases h with
  | same =>
    have hsame : found key absent read size ((w, place) :: others) =
        found key absent read size ((v, place) :: others) := by
      simp only [found, hv, hw]
    rw [hsame]
    exact .same_id _
  | earlier fault first =>
    simp only [found, hv, hw]
    exact .earlier fault ⟨place, first⟩
  | refused fault =>
    simp only [found, hw]
    refine .refused fault fun first hfirst => ?_
    cases result with
    | error fault' =>
      simp only [hv] at hfirst
      cases hfirst
      exact Nat.le_refl _
    | ok a =>
      cases others with
      | nil =>
        simp only [hv] at hfirst
        cases hfirst
      | cons second others =>
        simp only [hv] at hfirst
        cases hfirst
        exact hplaces second (List.mem_cons_self ..)

/-- A second value under the key is a fault, whatever it is. -/
theorem found_later (first : Json × Nat) (before others : List (Json × Nat)) (v w : Json)
    (size : Nat) :
    TurnedAt id place fault
      (found key absent read size (first :: before ++ (v, place) :: others))
      (found key absent read size (first :: before ++ (w, place) :: others)) := by
  cases before with
  | nil =>
    simp only [List.cons_append, List.nil_append, found]
    cases read first.1 <;> exact .of_failed_id ⟨_, rfl⟩
  | cons second before =>
    simp only [List.cons_append, found]
    cases read first.1 <;> exact .of_failed_id ⟨_, rfl⟩

theorem le_of_mem_occurrencesFrom {o : Json × Nat} : ∀ {start : Nat}
    {members : List (String × Json)}, o ∈ occurrencesFrom key start members → start ≤ o.2
  | start, m :: members, h => by
    rw [occurrencesFrom_cons] at h
    by_cases hkey : m.1 = key
    · rw [if_pos hkey] at h
      rcases List.mem_cons.1 h with rfl | h
      · exact Nat.le_refl _
      · exact Nat.le_of_succ_le (le_of_mem_occurrencesFrom h)
    · rw [if_neg hkey] at h
      exact Nat.le_of_succ_le (le_of_mem_occurrencesFrom h)

/-- What the field of a key makes of a value in place of the old one, or of its default. -/
def Reread (absent : Option α) (read : Json → Except Fault α) (fault : Option Fault) :
    Option Json → Json → Prop
  | Option.none, new => ∃ a, absent = some a ∧ Turned fault (.ok a) (read new)
  | some old, new => Turned fault (read old) (read new)

/-- The field of the key reads the new value. -/
theorem turns_field (h : Content.Changed key index place old new c c')
    (hr : Reread absent read fault old new) :
    (field key absent read).Turns fault index (moves old place) place c c' := by
  intro outer
  cases h with
  | @added before others hnone =>
    obtain ⟨a, rfl, hturned⟩ := hr
    have habsent : occurrencesFrom key 0 (before ++ others) = [] :=
      occurrences_of_absent hnone
    have hsole : occurrencesFrom key 0 (before ++ (key, new) :: others) =
        [(new, before.length)] := by
      rw [occurrencesFrom_append, List.append_eq_nil_iff] at habsent
      have hothers : occurrencesFrom key (0 + before.length + 1) others = [] := by
        rw [← map_shift_after key 0 _ _ (by omega), habsent.2]
        rfl
      rw [occurrencesFrom_append, occurrencesFrom_cons, if_pos rfl, habsent.1, hothers,
        Nat.zero_add]
      rfl
    rw [read_field_members, read_field_members, habsent, hsole]
    generalize hread : read new = result at hturned
    cases hturned with
    | same =>
      simp only [found, hread]
      exact .same (.ok a)
    | refused fault =>
      simp only [found, hread]
      exact .refused fault nofun
  | member before others v =>
    rw [read_field_members, read_field_members, occurrencesFrom_append, occurrencesFrom_append,
      occurrencesFrom_cons, occurrencesFrom_cons, if_pos rfl, if_pos rfl, List.length_append,
      List.length_append, Nat.zero_add]
    cases occurrencesFrom key 0 before with
    | nil =>
      exact found_first hr (fun o ho => Nat.le_of_succ_le (le_of_mem_occurrencesFrom ho)) _
    | cons first firsts => exact found_later first firsts _ v new _
  | @element before hlength others v =>
    have helement : ∀ u : Json, (field key absent read).read outer index
        (.elements (before ++ u :: others)) = (read u).mapError fun fault => ⟨index, fault⟩ := by
      intro u
      simp only [field]
      rw [← hlength, List.getElem?_append_right (Nat.le_refl _), Nat.sub_self]
      rfl
    rw [helement, helement]
    have hturned : Turned fault (read v) (read new) := hr
    generalize read v = result at hturned
    generalize read new = result' at hturned
    cases hturned with
    | same => exact .same_id _
    | earlier fault first => exact .earlier fault ⟨index, first⟩
    | refused fault =>
      refine .refused fault fun first hfirst => ?_
      cases result with
      | ok a => cases hfirst
      | error first' =>
        cases hfirst
        exact Nat.le_refl _

end Fields

/-! ### Several fields -/

/-- Whether a key of a record must be given, and what it stands for. -/
inductive Presence
  | required
  /-- A value or null, which is also what it is without the key. -/
  | nullable
  /-- A list, empty without the key. -/
  | list
  /-- A truth value, false without the key. -/
  | flag
deriving DecidableEq

/-- How null is refused where it is no value. -/
def Presence.refusal : Presence → Fault
  | .flag => .invalidType .null .boolean
  | _ => .invalidType .null .sequence

/-- The fault of a null that takes the place of nothing. -/
def Presence.onNull : Presence → Option Fault
  | .nullable => none
  | presence => some presence.refusal

/-- A field of a record: its key, and what becomes of it when its value is changed. -/
structure Slot where
  key : String
  presence : Presence
  Rereads : Option Fault → Option Json → Json → Prop
  null : presence ≠ .required → Rereads presence.onNull none .null

namespace Slot

variable {α : Type} (key : String) (read : Json → Except Fault α)

/-- The slot of a field that must be given. -/
def required : Slot := ⟨key, .required, Fields.Reread none read, fun h => absurd rfl h⟩

/-- The slot of a field that may be null. -/
def nullable : Slot :=
  ⟨key, .nullable, Fields.Reread (some none) (SyntaxTree.nullable read),
    fun _ => ⟨none, rfl, .same _⟩⟩

/-- The slot of a list. -/
def list : Slot :=
  ⟨key, .list, Fields.Reread (some []) (listOf read), fun _ => ⟨[], rfl, .refused _ _⟩⟩

/-- The slot of a truth value. -/
def flag : Slot :=
  ⟨key, .flag, Fields.Reread (some false) boolean, fun _ => ⟨false, rfl, .refused _ _⟩⟩

end Slot

namespace Fields

variable {α β : Type}

/-- The fields read the slots in their order, whichever of them is changed. -/
structure Follows (fields : Fields α) (slots : List Slot) : Prop where
  size : fields.size = slots.length
  /-- A change of none of the slots is not seen. -/
  agrees : ∀ {start key index place old new c c'}, Content.Changed key index place old new c c' →
    key ∉ slots.map Slot.key → index < start ∨ start + slots.length ≤ index →
    fields.Agrees start (moves old place) c c'
  /-- A change of one of the slots is read by its field. -/
  turns : (slots.map Slot.key).Nodup → ∀ {slot i start place old new c c' fault},
    slots[i]? = some slot → Content.Changed slot.key (start + i) place old new c c' →
    slot.Rereads fault old new → fields.Turns fault start (moves old place) place c c'

theorem Agrees.seq {move : Nat → Nat} (hm : KeepsOrder move) {f : Fields (α → β)} {x : Fields α}
    {index : Nat} {c c' : Content} (hf : f.Agrees index move c c')
    (hx : x.Agrees (index + f.size) move c c') : (f <*> x).Agrees index move c c' := by
  intro outer
  show both (f.read outer index c') (x.read outer (index + f.size) c') = _
  rw [hf, hx, both_moved hm]
  rfl

theorem Follows.pure (a : α) : (pure a : Fields α).Follows [] where
  size := rfl
  agrees := by
    intro _ _ _ _ _ _ _ _ _ _ _ _
    rfl
  turns := by
    intro _ slot i _ _ _ _ _ _ _ hslot
    rw [List.getElem?_nil] at hslot
    cases hslot

theorem follows_field (slot : Slot) {absent : Option α} {read : Json → Except Fault α}
    (hslot : slot.Rereads = Reread absent read) : (field slot.key absent read).Follows [slot] where
  size := rfl
  agrees := by
    intro start key index place old new c c' h hkey hindex
    refine agrees_other h ?_ ?_
    · exact fun hkey' => hkey (List.mem_singleton.2 hkey')
    · rw [List.length_singleton] at hindex
      omega
  turns := by
    intro _ slot' i start place old new c c' fault hi h hr
    cases i with
    | zero =>
      obtain rfl := Option.some.inj hi
      exact turns_field h (hslot ▸ hr)
    | succ i => cases hi

/-- Fields one behind the other read their slots one behind the other. -/
theorem Follows.seq {f : Fields (α → β)} {x : Fields α} {slots slots' : List Slot}
    (hf : f.Follows slots) (hx : x.Follows slots') : (f <*> x).Follows (slots ++ slots') where
  size := by
    show f.size + x.size = _
    rw [hf.size, hx.size, List.length_append]
  agrees := by
    intro start key index place old new c c' h hkey hindex
    rw [List.map_append, List.mem_append, not_or] at hkey
    rw [List.length_append] at hindex
    refine (hf.agrees h hkey.1 (by omega)).seq (keepsOrder_moves old place) ?_
    exact hx.agrees h hkey.2 (by rw [hf.size]; omega)
  turns := by
    intro hnodup slot i start place old new c c' fault hslot h hr outer
    rw [List.map_append, List.nodup_append] at hnodup
    obtain ⟨hnodup, hnodup', hdisjoint⟩ := hnodup
    show TurnedAt _ _ _ (both (f.read outer start c) (x.read outer (start + f.size) c))
      (both (f.read outer start c') (x.read outer (start + f.size) c'))
    rcases Nat.lt_or_ge i slots.length with hlt | hge
    · -- the changed slot is among the first ones
      rw [List.getElem?_append_left hlt] at hslot
      have hmem : slot.key ∈ slots.map Slot.key :=
        List.mem_map_of_mem (List.mem_of_getElem? hslot)
      have hother : x.Agrees (start + f.size) (moves old place) c c' :=
        hx.agrees h (fun hmem' => hdisjoint _ hmem _ hmem' rfl) (by rw [hf.size]; omega)
      rw [hother]
      exact (hf.turns hnodup hslot h hr outer).left (keepsOrder_moves old place) _
    · rw [List.getElem?_append_right hge] at hslot
      have hmem : slot.key ∈ slots'.map Slot.key :=
        List.mem_map_of_mem (List.mem_of_getElem? hslot)
      have hother : f.Agrees start (moves old place) c c' :=
        hf.agrees h (fun hmem' => hdisjoint _ hmem' _ hmem rfl) (by omega)
      have hindex : start + i = start + f.size + (i - slots.length) := by
        rw [hf.size]
        omega
      rw [hindex] at h
      rw [hother]
      exact (hx.turns hnodup' hslot h hr outer).right (keepsOrder_moves old place) _

theorem Follows.map (g : α → β) {x : Fields α} {slots : List Slot} (hx : x.Follows slots) :
    (g <$> x).Follows slots := (Follows.pure g).seq hx

variable {key : String} {read : Json → Except Fault α}

theorem follows_required : (required key read).Follows [.required key read] :=
  follows_field (.required key read) rfl

theorem follows_nullable :
    (optional key Option.none (nullable read)).Follows [.nullable key read] :=
  follows_field (.nullable key read) rfl

theorem follows_list : (optional key [] (listOf read)).Follows [.list key read] :=
  follows_field (.list key read) rfl

theorem follows_flag : (optional key false boolean).Follows [.flag key] :=
  follows_field (.flag key) rfl

/-- **A record in which a slot is changed is read as its field reads the slot.** -/
theorem Follows.turned {fields : Fields α} {slots : List Slot} (h : fields.Follows slots)
    (hnodup : (slots.map Slot.key).Nodup) {slot : Slot} {index place : Nat} {old : Option Json}
    {new : Json} {c c' : Content} {fault : Option Fault} (hslot : slots[index]? = some slot)
    (hc : Content.Changed slot.key index place old new c c') (hr : slot.Rereads fault old new)
    (shape : Shape) : Turned fault (fields.decode shape c) (fields.decode shape c') := by
  have hread : fields.Turns fault 0 (moves old place) place c c' :=
    h.turns hnodup hslot ((Nat.zero_add index).symm ▸ hc) hr
  have hturned := (hread ⟨shape, fields.size⟩).turned
  unfold Fields.decode
  cases hc with
  | added => exact hturned.bind _
  | member => exact hturned.bind _
  | element =>
    simp only [List.length_append, List.length_cons]
    exact hturned.bind _

end Fields

end ThriftPages.SyntaxTree
