/-
# What a value describes within any limit

The limit on nesting decides whether a value is loaded, but not as what. A value that
describes a declaration within some limit describes the same one within every limit that it
keeps, and is refused as too deep within the others (`Declares`). A document keeps a limit
if its statements do: what else it has is passed over however deep it is (`Loads`).

So what a value describes can be said without a limit: a statement by its tag and its parts,
a document by the statements of its body.

Key definitions: `SyntaxTree.Declares`, `SyntaxTree.Loads`.
Key theorems: `SyntaxTree.declares_object_iff`, `SyntaxTree.declares_array_iff`,
`SyntaxTree.loads_object_iff`, `SyntaxTree.loads_array_iff`.
-/
import ThriftPages.Proofs.SyntaxTree.ReadingBack

namespace ThriftPages.SyntaxTree

open Json (within malformed)
open Steps (bind_eq_ok_iff mapError_eq_ok_iff mapM_eq_ok_iff)

/-! ### Declarations -/

/-- The value describes the declaration within every limit that it keeps. -/
def Declares (v : Json) (d : Declaration) : Prop :=
  ∀ levels, statementOf levels v = (within levels v).map fun _ => d

section Tags

variable {members : List (String × Json)}

/-- Members without a tag are passed over if they are within the limit. -/
theorem foldlM_memberOf_absent (h : valuesOf tagKey members = []) (levels : Nat)
    (found : Option (Variant Declaration)) :
    members.foldlM (memberOf levels) found =
      if Json.depthOfMembers members ≤ levels then .ok found else malformed .tooDeep := by
  induction members with
  | nil => exact (if_pos (Nat.zero_le _)).symm
  | cons m members ih =>
    rw [valuesOf_cons] at h
    by_cases hkey : m.1 = tagKey
    · simp [hkey] at h
    · rw [if_neg hkey] at h
      rw [List.foldlM_cons, memberOf_other hkey, Json.depthOfMembers]
      by_cases hdepth : m.2.depth ≤ levels
      · rw [Json.within_of_le hdepth]
        refine (ih h).trans ?_
        simp only [Nat.max_le, hdepth, true_and]
      · rw [Json.within_of_lt hdepth, if_neg fun hmax => hdepth (Nat.max_le.1 hmax).1]
        rfl

/-- The tag is found wherever it stands, if the members are within the limit. -/
theorem foldlM_memberOf_sole {tag : String} {variant : Variant Declaration}
    (h : valuesOf tagKey members = [.string tag])
    (hvariant : Variant.named declarations tag = .ok variant) (levels : Nat) :
    members.foldlM (memberOf levels) none =
      if Json.depthOfMembers members ≤ levels then .ok (some variant)
      else malformed .tooDeep := by
  induction members with
  | nil => cases h
  | cons m members ih =>
    obtain ⟨key, value⟩ := m
    rw [valuesOf_cons] at h
    rw [List.foldlM_cons, Json.depthOfMembers]
    by_cases hkey : key = tagKey
    · rw [if_pos hkey] at h
      obtain ⟨rfl, hnone⟩ := List.cons.inj h
      have htag : memberOf levels none (key, .string tag) = .ok (some variant) := by
        rw [memberOf, readOnce, if_pos hkey, tagOf, hvariant]
        rfl
      rw [htag]
      refine (foldlM_memberOf_absent hnone levels (some variant)).trans ?_
      simp only [Json.depth, Nat.zero_max]
    · rw [if_neg hkey] at h
      rw [memberOf_other hkey]
      by_cases hdepth : value.depth ≤ levels
      · rw [Json.within_of_le hdepth]
        refine (ih h).trans ?_
        simp only [Nat.max_le, hdepth, true_and]
      · rw [Json.within_of_lt hdepth, if_neg fun hmax => hdepth (Nat.max_le.1 hmax).1]
        rfl

end Tags

section Statements

variable {tag : String} {variant : Variant Declaration} {d : Declaration}

theorem declares_of_members {members : List (String × Json)}
    (htag : valuesOf tagKey members = [.string tag])
    (hvariant : Variant.named declarations tag = .ok variant)
    (hdecode : variant.decode (.members (parts members)) = .ok d) :
    Declares (.object members) d := by
  intro levels
  cases levels with
  | zero => rfl
  | succ levels =>
    rw [statementOf, statementOfMembers, foldlM_memberOf_sole htag hvariant, within, Json.depth]
    simp only [Nat.add_le_add_iff_right]
    split
    · simp only [bind, Except.bind, hdecode]
      rfl
    · rfl

theorem declares_of_elements {elements : List Json}
    (hvariant : Variant.named declarations tag = .ok variant)
    (hdecode : variant.decode (.elements elements) = .ok d) :
    Declares (.array (.string tag :: elements)) d := by
  intro levels
  cases levels with
  | zero => rfl
  | succ levels =>
    rw [statementOf, statementOfElements, Json.mapM_within, tagOf, hvariant, within]
    simp only [Json.depth, Json.depthOfElements, Nat.add_le_add_iff_right, Nat.zero_max]
    split
    · simp only [Except.mapError, bind, Except.bind, hdecode]
      rfl
    · rfl

end Statements

/-- What is read as a statement within some limit has a tag, and the variant of the tag
decodes its parts. -/
theorem of_statementOf {levels : Nat} {v : Json} {d : Declaration}
    (h : statementOf levels v = .ok d) :
    ∃ tag variant, Variant.named declarations tag = .ok variant ∧
      ((∃ members, v = .object members ∧ valuesOf tagKey members = [.string tag] ∧
        variant.decode (.members (parts members)) = .ok d) ∨
      ∃ elements, v = .array (.string tag :: elements) ∧
        variant.decode (.elements elements) = .ok d) := by
  cases levels with
  | zero => cases v <;> cases h
  | succ levels =>
    cases v with
    | object members =>
      obtain ⟨found, hfound, hdecode⟩ := bind_eq_ok_iff.1 h
      cases found with
      | none => cases hdecode
      | some variant =>
        obtain ⟨value, hvalue, hvariant⟩ := of_foldlM_readOnce_none hfound
        obtain ⟨tag, rfl, hnamed⟩ := eq_string_of_tagOf hvariant
        exact ⟨tag, variant, hnamed, .inl ⟨members, rfl, hvalue, mapError_eq_ok_iff.1 hdecode⟩⟩
    | array elements =>
      cases elements with
      | nil => cases h
      | cons first elements =>
        obtain ⟨variant, hvariant, hrest⟩ := bind_eq_ok_iff.1 h
        obtain ⟨elements', helements, hdecode⟩ := bind_eq_ok_iff.1 hrest
        obtain ⟨tag, rfl, hnamed⟩ := eq_string_of_tagOf hvariant
        rw [Json.mapM_within] at helements
        split at helements
        · obtain rfl := Except.ok.inj helements
          exact ⟨tag, variant, hnamed, .inr ⟨elements, rfl, mapError_eq_ok_iff.1 hdecode⟩⟩
        · cases helements
    | _ => cases h

/-- **The limit does not matter to what is declared.** -/
theorem declares_of_statementOf {levels : Nat} {v : Json} {d : Declaration}
    (h : statementOf levels v = .ok d) : Declares v d := by
  obtain ⟨tag, variant, hnamed, ⟨members, rfl, htag, hdecode⟩ | ⟨elements, rfl, hdecode⟩⟩ :=
    of_statementOf h
  · exact declares_of_members htag hnamed hdecode
  · exact declares_of_elements hnamed hdecode

theorem Declares.statementOf_depth {v : Json} {d : Declaration} (h : Declares v d) :
    statementOf v.depth v = .ok d := by
  rw [h, Json.within_of_le (Nat.le_refl _)]
  rfl

theorem declares_object_iff {members : List (String × Json)} {d : Declaration} :
    Declares (.object members) d ↔
      ∃ tag variant, Variant.named declarations tag = .ok variant ∧
        valuesOf tagKey members = [.string tag] ∧
        variant.decode (.members (parts members)) = .ok d := by
  constructor
  · intro h
    obtain ⟨tag, variant, hnamed, ⟨_, ⟨⟩, htag, hdecode⟩ | ⟨_, ⟨⟩, _⟩⟩ :=
      of_statementOf h.statementOf_depth
    exact ⟨tag, variant, hnamed, htag, hdecode⟩
  · rintro ⟨tag, variant, hnamed, htag, hdecode⟩
    exact declares_of_members htag hnamed hdecode

theorem declares_array_iff {elements : List Json} {d : Declaration} :
    Declares (.array elements) d ↔
      ∃ tag variant others, Variant.named declarations tag = .ok variant ∧
        elements = .string tag :: others ∧ variant.decode (.elements others) = .ok d := by
  constructor
  · intro h
    obtain ⟨tag, variant, hnamed, ⟨_, ⟨⟩, _⟩ | ⟨others, ⟨⟩, hdecode⟩⟩ :=
      of_statementOf h.statementOf_depth
    exact ⟨tag, variant, others, hnamed, rfl, hdecode⟩
  · rintro ⟨tag, variant, others, hnamed, rfl, hdecode⟩
    exact declares_of_elements hnamed hdecode

/-! ### Documents -/

/-- The value describes the declarations within every limit that its statements keep. -/
def Loads (v : Json) (ds : List Declaration) : Prop :=
  ∀ levels, documentOf levels v = .ok ds ∨
    levels < v.depth ∧ documentOf levels v = malformed .tooDeep

/-- What is given for the body, if anything, is an array of the declarations' statements. -/
inductive Bodies : List Json → List Declaration → Prop
  | absent : Bodies [] []
  | given {vs : List Json} {ds : List Declaration} (h : List.Forall₂ Declares vs ds) :
      Bodies [.array vs] ds

theorem mapM_statementOf {vs : List Json} {ds : List Declaration}
    (h : List.Forall₂ Declares vs ds) (levels : Nat) :
    vs.mapM (statementOf levels) = (vs.mapM (within levels)).map fun _ => ds := by
  induction h with
  | nil => rfl
  | @cons v d vs ds hv _ ih =>
    rw [List.mapM_cons, List.mapM_cons, hv, ih]
    cases within (ε := Fault) levels v with
    | error fault => rfl
    | ok _ => cases vs.mapM (within (ε := Fault) levels) <;> rfl

theorem bodyOf_declares {vs : List Json} {ds : List Declaration}
    (h : List.Forall₂ Declares vs ds) (levels : Nat) :
    bodyOf levels (.array vs) = (within levels (.array vs)).map fun _ => ds := by
  cases levels with
  | zero => rfl
  | succ levels =>
    rw [bodyOf, mapM_statementOf h, Json.within_array]
    cases vs.mapM (within (ε := Fault) levels) <;> rfl

theorem bodies_of_bodyOf {levels : Nat} {v : Json} {ds : List Declaration}
    (h : bodyOf levels v = .ok ds) : Bodies [v] ds := by
  cases v with
  | array vs =>
    cases levels with
    | zero => cases h
    | succ levels =>
      exact .given ((mapM_eq_ok_iff.1 h).imp fun _ _ hd => declares_of_statementOf hd)
  | _ => cases levels <;> cases h

/-- A body within the limit is loaded. -/
theorem bodyOf_within {vs : List Json} {ds : List Declaration}
    (h : List.Forall₂ Declares vs ds) (levels : Nat) :
    bodyOf levels (.array vs) = .ok ds ∨
      levels < (Json.array vs).depth ∧ bodyOf levels (.array vs) = malformed .tooDeep := by
  rw [bodyOf_declares h]
  by_cases hdepth : (Json.array vs).depth ≤ levels
  · rw [Json.within_of_le hdepth]
    exact .inl rfl
  · rw [Json.within_of_lt hdepth]
    exact .inr ⟨Nat.lt_of_not_le hdepth, rfl⟩

/-- A key that has been read has been given. -/
theorem isSome_of_foldlM_readOnce {α : Type} {key : String} {read : Json → Except LoadError α}
    {pass : Json → Except LoadError Unit} {members : List (String × Json)} {found result : Option α}
    (h : members.foldlM (readOnce key read pass) found = .ok result) :
    result.isSome = (found.isSome || !(valuesOf key members).isEmpty) := by
  induction members generalizing found with
  | nil =>
    obtain rfl : found = result := Except.ok.inj h
    exact (Bool.or_false _).symm
  | cons m members ih =>
    obtain ⟨next, hnext, h⟩ := bind_eq_ok_iff.1 h
    rw [readOnce] at hnext
    rw [valuesOf_cons, ih h]
    by_cases hkey : m.1 = key
    · rw [if_pos hkey] at hnext ⊢
      split at hnext
      · cases hnext
      · cases hread : read m.2 with
        | error fault =>
          rw [hread] at hnext
          cases hnext
        | ok a =>
          rw [hread] at hnext
          obtain rfl : some a = next := Except.ok.inj hnext
          simp
    · rw [if_neg hkey] at hnext ⊢
      cases hpass : pass m.2 with
      | error fault =>
        rw [hpass] at hnext
        cases hnext
      | ok _ =>
        rw [hpass] at hnext
        obtain rfl : found = next := Except.ok.inj hnext
        rfl

/-- What is loaded within some limit is loaded from its body. -/
theorem bodies_of_documentOf {levels : Nat} {v : Json} {ds : List Declaration}
    (h : documentOf levels v = .ok ds) :
    (∃ members, v = .object members ∧ Bodies (valuesOf bodyKey members) ds) ∨
      ∃ elements, v = .array elements ∧ Bodies elements ds := by
  cases levels with
  | zero => cases v <;> cases h
  | succ levels =>
    cases v with
    | object members =>
      refine .inl ⟨members, rfl, ?_⟩
      change (members.foldlM (documentMember levels) none).map (fun found => found.getD []) = _ at h
      cases hfound : members.foldlM (documentMember levels) none with
      | error fault =>
        rw [hfound] at h
        cases h
      | ok found =>
        rw [hfound] at h
        obtain rfl : found.getD [] = ds := Except.ok.inj h
        cases found with
        | none =>
          have hempty := isSome_of_foldlM_readOnce hfound
          simp only [Option.isSome_none, Bool.false_or, Bool.false_eq, Bool.not_eq_false',
            List.isEmpty_iff] at hempty
          rw [hempty]
          exact .absent
        | some ds =>
          obtain ⟨value, hvalue, hbody⟩ := of_foldlM_readOnce_none hfound
          rw [hvalue]
          exact bodies_of_bodyOf hbody
    | array elements =>
      refine .inr ⟨elements, rfl, ?_⟩
      match elements, h with
      | [], h =>
        obtain rfl := Except.ok.inj h
        exact .absent
      | [body], h => exact bodies_of_bodyOf h
      | body :: _ :: _, h =>
        obtain ⟨_, _, h⟩ := bind_eq_ok_iff.1 h
        cases h
    | _ => cases h

theorem loads_of_members {members : List (String × Json)} {ds : List Declaration}
    (h : Bodies (valuesOf bodyKey members) ds) : Loads (.object members) ds := by
  intro levels
  cases levels with
  | zero => exact .inr ⟨Nat.succ_pos _, rfl⟩
  | succ levels =>
    rw [documentOf, documentMember]
    generalize hgiven : valuesOf bodyKey members = given at h
    cases h with
    | absent =>
      rw [foldlM_readOnce_absent hgiven (fun _ _ => rfl)]
      exact .inl rfl
    | @given vs ds h =>
      rw [foldlM_readOnce_sole hgiven fun _ _ _ => rfl]
      obtain hbody | ⟨hdepth, hbody⟩ := bodyOf_within h levels
      · rw [hbody]
        exact .inl rfl
      · rw [hbody]
        refine .inr ⟨?_, rfl⟩
        have hle : (Json.array vs).depth ≤ Json.depthOfMembers members :=
          (Json.depthOfMembers_le_iff members).1 (Nat.le_refl _) (bodyKey, .array vs)
            (mem_valuesOf.1 (hgiven ▸ List.mem_singleton_self _))
        rw [Json.depth]
        omega

theorem loads_of_elements {elements : List Json} {ds : List Declaration}
    (h : Bodies elements ds) : Loads (.array elements) ds := by
  intro levels
  cases levels with
  | zero => exact .inr ⟨Nat.succ_pos _, rfl⟩
  | succ levels =>
    cases h with
    | absent => exact .inl rfl
    | @given vs ds h =>
      obtain hbody | ⟨hdepth, hbody⟩ := bodyOf_within h levels
      · exact .inl hbody
      · refine .inr ⟨?_, hbody⟩
        rw [Json.depth, Json.depthOfElements, Json.depthOfElements, Nat.max_zero]
        omega

/-- **The limit does not matter to what is loaded.** -/
theorem loads_of_documentOf {levels : Nat} {v : Json} {ds : List Declaration}
    (h : documentOf levels v = .ok ds) : Loads v ds := by
  obtain ⟨members, rfl, hbodies⟩ | ⟨elements, rfl, hbodies⟩ := bodies_of_documentOf h
  · exact loads_of_members hbodies
  · exact loads_of_elements hbodies

theorem Loads.documentOf_depth {v : Json} {ds : List Declaration} (h : Loads v ds) :
    documentOf v.depth v = .ok ds := by
  obtain hok | ⟨hlt, _⟩ := h v.depth
  · exact hok
  · exact absurd hlt (Nat.lt_irrefl _)

theorem loads_object_iff {members : List (String × Json)} {ds : List Declaration} :
    Loads (.object members) ds ↔ Bodies (valuesOf bodyKey members) ds := by
  refine ⟨fun h => ?_, loads_of_members⟩
  obtain ⟨_, ⟨⟩, hbodies⟩ | ⟨_, ⟨⟩, _⟩ := bodies_of_documentOf h.documentOf_depth
  exact hbodies

theorem loads_array_iff {elements : List Json} {ds : List Declaration} :
    Loads (.array elements) ds ↔ Bodies elements ds := by
  refine ⟨fun h => ?_, loads_of_elements⟩
  obtain ⟨_, ⟨⟩, _⟩ | ⟨_, ⟨⟩, hbodies⟩ := bodies_of_documentOf h.documentOf_depth
  exact hbodies

end ThriftPages.SyntaxTree
