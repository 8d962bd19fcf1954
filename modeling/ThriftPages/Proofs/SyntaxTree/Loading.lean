/-
# The loader as a function of the value

The loader goes through a text once, and reports the first fault in reading
order. What it finds depends on the value that the text spells only, not on how
it is spelled: `documentOf` decodes the value, in the order of its members, and
the loader gives the same document or the same error for every text of it
(`Document.ofText_spelled`). What holds of loading is proved of `documentOf`.

Key definitions: `SyntaxTree.statementOf`, `SyntaxTree.bodyOf`,
`SyntaxTree.documentOf`.
Key theorems: `SyntaxTree.statement_spelled`, `Document.ofText_spelled`.
-/
import ThriftPages.Proofs.Json.Passing
import ThriftPages.Proofs.Json.Values
import ThriftPages.Proofs.Steps
import ThriftPages.SyntaxTree.Load

namespace ThriftPages

namespace SyntaxTree

open Json (Blanks Spells SpellsElements SpellsMembers SpellsMore EndsNumber ReadsAs ReadsMember
  lead within malformed refused skipBlanks skipBlanks_append skipBlanks_cons)
open Text (Taken run run_eq_ok_iff run_eq_error_iff)

/-! ### The decoder -/

/-- The kind of statement that a tag names. -/
def tagOf : Json → Except LoadError (Variant Declaration)
  | .string tag => (Variant.named declarations tag).mapError .refused
  | value => refused (.invalidType value.found .variantIdentifier)

/-- A member of an object in which one key is read, once, and others are passed over. -/
def readOnce {α : Type} (key : String) (read : Json → Except LoadError α)
    (pass : Json → Except LoadError Unit) (found : Option α) (m : String × Json) :
    Except LoadError (Option α) :=
  if m.1 = key then
    if found.isSome then refused (.duplicateField key) else (read m.2).map some
  else (pass m.2).map fun _ => found

/-- A member of a statement: its tag, or a part that is within the limit. -/
def memberOf (levels : Nat) :
    Option (Variant Declaration) → String × Json →
      Except LoadError (Option (Variant Declaration)) :=
  readOnce tagKey tagOf fun value => (within levels value).map fun _ => ()

/-- The members of a statement besides its tag. -/
def parts (members : List (String × Json)) : List (String × Json) :=
  members.filter fun m => m.1 ≠ tagKey

/-- The statement that an array describes. -/
def statementOfElements (levels : Nat) : List Json → Except LoadError Declaration
  | [] => refused (.missingField tagKey)
  | tag :: elements => do
    let variant ← tagOf tag
    let elements ← elements.mapM (within levels)
    (variant.decode (.elements elements)).mapError .refused

/-- The statement that an object describes. -/
def statementOfMembers (levels : Nat) (members : List (String × Json)) :
    Except LoadError Declaration := do
  match ← members.foldlM (memberOf levels) none with
  | none => refused (.missingField tagKey)
  | some variant => (variant.decode (.members (parts members))).mapError .refused

/-- The statement that a value describes. -/
def statementOf (levels : Nat) (value : Json) : Except LoadError Declaration :=
  match value, levels with
  | .array elements, levels + 1 => statementOfElements levels elements
  | .object members, levels + 1 => statementOfMembers levels members
  | .array _, 0 | .object _, 0 => malformed .tooDeep
  | value, _ => refused (.invalidType value.found (.taggedEnum "ThriftStatement"))

/-- The statements that a body describes. -/
def bodyOf (levels : Nat) (value : Json) : Except LoadError (List Declaration) :=
  match value, levels with
  | .array statements, levels + 1 => statements.mapM (statementOf levels)
  | .array _, 0 => malformed .tooDeep
  | value, _ => refused (.invalidType value.found .sequence)

/-- A member of a document: its body, or something that nobody asks for. -/
def documentMember (levels : Nat) :
    Option (List Declaration) → String × Json → Except LoadError (Option (List Declaration)) :=
  readOnce bodyKey (bodyOf levels) fun _ => .ok ()

/-- The declarations that an array describes: it may have no element but the body. -/
def documentOfElements (levels : Nat) : List Json → Except LoadError (List Declaration)
  | [] => .ok []
  | [body] => bodyOf levels body
  | body :: _ :: _ => bodyOf levels body >>= fun _ => malformed .trailingCharacters

/-- The declarations that a document describes. -/
def documentOf (levels : Nat) (value : Json) : Except LoadError (List Declaration) :=
  match value, levels with
  | .array elements, levels + 1 => documentOfElements levels elements
  | .object members, levels + 1 =>
    (members.foldlM (documentMember levels) none).map fun found => found.getD []
  | .array _, 0 | .object _, 0 => malformed .tooDeep
  | value, _ => refused (.invalidType value.found (.record (.struct "ThriftDocument")))

/-- Only a text is the tag of a statement. -/
theorem eq_string_of_tagOf {value : Json} {variant : Variant Declaration}
    (h : tagOf value = .ok variant) :
    ∃ tag, value = .string tag ∧ Variant.named declarations tag = .ok variant := by
  cases value with
  | string tag => exact ⟨tag, rfl, Steps.mapError_eq_ok_iff.1 h⟩
  | _ => cases h

/-- What is not the tag is passed over if it is within the limit. -/
theorem memberOf_other {m : String × Json} (h : m.1 ≠ tagKey) (levels : Nat)
    (found : Option (Variant Declaration)) :
    memberOf levels found m = (within levels m.2).map fun _ => found := by
  rw [memberOf, readOnce, if_neg h]
  cases within (ε := Fault) levels m.2 <;> rfl

/-! ### Statements -/

/-- A tag is read as it is spelled. -/
theorem statementTag_spelled (value : Json) : ReadsAs statementTag value (tagOf value) := by
  intro before text rest hb h hr
  cases value with
  | string tag =>
    obtain ⟨_, hlead⟩ := run_eq_ok_iff.1
      (Json.run_lead_scalar (ε := Fault) (by simp) (by simp) hb h hr)
    simp only [run, statementTag, hlead, bind, Except.bind, tagOf]
    cases Variant.named declarations tag <;> rfl
  | _ =>
    obtain ⟨left, hlead⟩ := Json.run_lead_of (ε := Fault) hb h hr
    obtain ⟨_, hlead⟩ := run_eq_ok_iff.1 hlead
    simp only [run, statementTag, hlead, bind, Except.bind]
    rfl

/-- A member is added to the draft of a statement. -/
def draftMember (levels : Nat) (draft : Draft) (m : String × Json) : Except LoadError Draft :=
  (memberOf levels draft.tag m).map fun tag =>
    ⟨tag, if m.1 = tagKey then draft.members else m :: draft.members⟩

theorem readsMember_statement (levels : Nat) (m : String × Json) :
    ReadsMember (onStatementKey (Json.value levels)) m fun draft => draftMember levels draft m := by
  intro draft
  unfold onStatementKey draftMember memberOf readOnce
  by_cases hkey : m.1 = tagKey
  · by_cases htag : draft.tag.isSome
    · simp only [if_pos hkey, if_pos htag]
      rfl
    · simp only [if_pos hkey, if_neg htag]
      have hread := (statementTag_spelled m.2).map fun tag => (⟨some tag, draft.members⟩ : Draft)
      cases htagOf : tagOf m.2 <;> simpa [htagOf, Except.map] using hread
  · simp only [if_neg hkey]
    have hread := (Json.value_spelled (ε := Fault) m.2 levels).map fun v =>
      (⟨draft.tag, (m.1, v) :: draft.members⟩ : Draft)
    by_cases hdepth : m.2.depth ≤ levels
    · simpa [Json.within_of_le hdepth, Except.map] using hread
    · simpa [Json.within_of_lt hdepth, Except.map, malformed] using hread

/-- The draft of a statement has its tag and its parts, the last one first. -/
theorem foldlM_draftMember (levels : Nat) (members : List (String × Json)) (draft : Draft) :
    members.foldlM (draftMember levels) draft =
      (members.foldlM (memberOf levels) draft.tag).map fun tag =>
        ⟨tag, (parts members).reverse ++ draft.members⟩ := by
  induction members generalizing draft with
  | nil => rfl
  | cons m members ih =>
    rw [List.foldlM_cons, List.foldlM_cons, draftMember]
    cases memberOf levels draft.tag m with
    | error fault => rfl
    | ok tag =>
      refine (ih _).trans ?_
      by_cases hkey : m.1 = tagKey <;> simp [parts, hkey] <;> rfl

theorem statementMembers_spelled {levels : Nat} {members : List (String × Json)}
    {text : List Char} (h : SpellsMembers members text) (rest : List Char) :
    run (statementMembers (Json.value levels)) (text ++ '}' :: rest) =
      (statementOfMembers levels members).map fun d => (d, rest) := by
  have hmembers := Json.members_spelled h (fun m _ => readsMember_statement levels m)
    (⟨none, []⟩ : Draft) rest
  rw [foldlM_draftMember] at hmembers
  cases htag : members.foldlM (memberOf levels) none with
  | error fault =>
    rw [htag] at hmembers
    have hread := run_eq_error_iff.1 hmembers
    simp only [run, statementMembers, statementOfMembers, htag, hread, bind, Except.bind]
    rfl
  | ok tag =>
    rw [htag] at hmembers
    obtain ⟨_, hread⟩ := run_eq_ok_iff.1 hmembers
    simp only [run, statementMembers, statementOfMembers, htag, hread, bind, Except.bind,
      List.append_nil, List.reverse_reverse]
    cases tag with
    | none => rfl
    | some variant =>
      cases hdecode : variant.decode (.members (parts members)) <;> simp only [hdecode] <;> rfl

/-- A statement that is an array starts with its tag. -/
theorem statementElements_some {value : Json.Reader Fault Json} {text others : List Char} {c : Char}
    (h : skipBlanks text = c :: others) (hne : c ≠ ']') :
    statementElements value text = (do
      let tag ← statementTag text
      let others ← Json.moreElements value tag.rest
      match tag.value.decode (.elements others.value) with
      | .ok declaration => return (tag.and others).map fun _ => declaration
      | .error fault => refused fault) := by
  unfold statementElements
  split
  · rename_i hnil
    rw [h] at hnil
    cases hnil
  · rename_i hclose
    rw [h] at hclose
    exact absurd (List.cons.inj hclose).1 hne
  · rfl

theorem statementElements_spelled {levels : Nat} {values : List Json} {text : List Char}
    (h : SpellsElements values text) (rest : List Char) :
    run (statementElements (Json.value levels)) (text ++ ']' :: rest) =
      (statementOfElements levels values).map fun d => (d, rest) := by
  cases values with
  | nil =>
    cases h with
    | nil hb =>
      have hskip : skipBlanks (text ++ ']' :: rest) = ']' :: rest := by
        rw [skipBlanks_append hb, skipBlanks_cons (by decide)]
      simp only [run, statementElements, hskip]
      rfl
  | cons value values =>
    obtain ⟨c, others, hskip, hne⟩ := h.skipBlanks (']' :: rest)
    obtain ⟨before, inner, more, hb, hv, hm, rfl⟩ := h.first
    have htag := statementTag_spelled value before inner _ hb hv (hm.endsNumber rest)
    have hmore := Json.moreElements_spelled hm
      (fun v _ => Json.value_spelled (ε := Fault) v levels) rest
    rw [List.append_assoc, List.append_assoc] at hskip ⊢
    unfold run
    rw [statementElements_some hskip hne]
    cases hvariant : tagOf value with
    | error fault =>
      rw [hvariant] at htag
      simp only [run_eq_error_iff.1 htag, statementOfElements, hvariant, bind, Except.bind]
      rfl
    | ok variant =>
      rw [hvariant] at htag
      obtain ⟨_, hreadTag⟩ := run_eq_ok_iff.1 htag
      simp only [hreadTag, statementOfElements, hvariant, bind, Except.bind]
      cases helements : values.mapM (within levels) with
      | error fault =>
        rw [helements] at hmore
        simp only [run_eq_error_iff.1 hmore]
        rfl
      | ok elements =>
        rw [helements] at hmore
        obtain ⟨_, hreadMore⟩ := run_eq_ok_iff.1 hmore
        simp only [hreadMore]
        cases variant.decode (.elements elements) <;> rfl

/-- **A statement is decoded as it is spelled.** -/
theorem statement_spelled (value : Json) (levels : Nat) :
    ReadsAs (statement levels) value (statementOf levels value) := by
  intro before text rest hb h hr
  cases value with
  | array values =>
    cases h with
    | @array _ text h =>
      rw [List.cons_append, List.append_assoc, List.singleton_append]
      obtain ⟨_, hlead⟩ := run_eq_ok_iff.1
        (Json.run_lead_array (ε := Fault) hb (text ++ ']' :: rest))
      cases levels with
      | zero =>
        simp only [run, statement, hlead, bind, Except.bind]
        rfl
      | succ levels =>
        simp only [run, statement, hlead, bind, Except.bind]
        rw [statementOf, ← statementElements_spelled h rest]
        unfold run
        cases statementElements (Json.value levels) (text ++ ']' :: rest) <;> rfl
  | object members =>
    cases h with
    | @object _ text h =>
      rw [List.cons_append, List.append_assoc, List.singleton_append]
      obtain ⟨_, hlead⟩ := run_eq_ok_iff.1
        (Json.run_lead_object (ε := Fault) hb (text ++ '}' :: rest))
      cases levels with
      | zero =>
        simp only [run, statement, hlead, bind, Except.bind]
        rfl
      | succ levels =>
        simp only [run, statement, hlead, bind, Except.bind]
        rw [statementOf, ← statementMembers_spelled h rest]
        unfold run
        cases statementMembers (Json.value levels) (text ++ '}' :: rest) <;> rfl
  | _ =>
    obtain ⟨_, hlead⟩ := run_eq_ok_iff.1
      (Json.run_lead_scalar (ε := Fault) (by simp) (by simp) hb h hr)
    simp only [run, statement, hlead, bind, Except.bind]
    rfl

/-! ### Documents -/

/-- A body is decoded as it is spelled. -/
theorem body_spelled (value : Json) (levels : Nat) :
    ReadsAs (body levels) value (bodyOf levels value) := by
  intro before text rest hb h hr
  cases value with
  | array values =>
    cases h with
    | @array _ text h =>
      rw [List.cons_append, List.append_assoc, List.singleton_append]
      obtain ⟨_, hlead⟩ := run_eq_ok_iff.1
        (Json.run_lead_array (ε := Fault) hb (text ++ ']' :: rest))
      cases levels with
      | zero =>
        simp only [run, body, hlead, bind, Except.bind]
        rfl
      | succ levels =>
        simp only [run, body, hlead, bind, Except.bind]
        have helements := Json.elements_spelled h (fun v _ => statement_spelled v levels) rest
        rw [bodyOf, ← helements]
        unfold run
        cases Json.elements (statement levels) (text ++ ']' :: rest) <;> rfl
  | _ =>
    obtain ⟨left, hlead⟩ := Json.run_lead_of (ε := Fault) hb h hr
    obtain ⟨_, hlead⟩ := run_eq_ok_iff.1 hlead
    simp only [run, body, hlead, bind, Except.bind]
    rfl

theorem readsMember_document (levels : Nat) (m : String × Json) :
    ReadsMember (onDocumentKey levels) m fun found => documentMember levels found m := by
  intro found
  unfold onDocumentKey documentMember readOnce
  by_cases hkey : m.1 = bodyKey
  · by_cases hfound : found.isSome
    · simp only [if_pos hkey, if_pos hfound]
    · simp only [if_pos hkey, if_neg hfound]
      exact (body_spelled m.2 levels).map some
  · simp only [if_neg hkey]
    exact (Json.skip_spelled m.2).map fun _ => found

theorem documentEnd_spelled {values : List Json} {more : List Char} (h : SpellsMore values more)
    (rest : List Char) :
    documentEnd (more ++ ']' :: rest) =
      if values.isEmpty then .ok rest else malformed .trailingCharacters := by
  unfold documentEnd
  cases values with
  | nil =>
    rw [skipBlanks_append h, skipBlanks_cons (by decide)]
    rfl
  | cons next values =>
    obtain ⟨after, others, ha, rfl, ho⟩ := h
    rw [List.append_assoc, skipBlanks_append ha, List.cons_append, skipBlanks_cons (by decide)]
    exact if_neg (ho.head (']' :: rest))

/-- A document that is an array has its body for its first element. -/
theorem documentElements_some {levels : Nat} {text others : List Char} {c : Char}
    (h : skipBlanks text = c :: others) (hne : c ≠ ']') :
    documentElements levels text = (do
      let statements ← body levels text
      let rest ← documentEnd statements.rest
      return (statements.value, rest)) := by
  unfold documentElements
  split
  · rename_i hnil
    rw [h] at hnil
    cases hnil
  · rename_i hclose
    rw [h] at hclose
    exact absurd (List.cons.inj hclose).1 hne
  · rfl

theorem documentElements_spelled {levels : Nat} {values : List Json} {text : List Char}
    (h : SpellsElements values text) (rest : List Char) :
    documentElements levels (text ++ ']' :: rest) =
      (documentOfElements levels values).map fun ds => (ds, rest) := by
  cases values with
  | nil =>
    cases h with
    | nil hb =>
      have hskip : skipBlanks (text ++ ']' :: rest) = ']' :: rest := by
        rw [skipBlanks_append hb, skipBlanks_cons (by decide)]
      simp only [documentElements, hskip]
      rfl
  | cons value values =>
    obtain ⟨c, others, hskip, hne⟩ := h.skipBlanks (']' :: rest)
    obtain ⟨before, inner, more, hb, hv, hm, rfl⟩ := h.first
    have hbody := body_spelled value levels before inner _ hb hv (hm.endsNumber rest)
    have hend := documentEnd_spelled hm rest
    rw [List.append_assoc, List.append_assoc] at hskip ⊢
    rw [documentElements_some hskip hne]
    cases hstatements : bodyOf levels value with
    | error fault =>
      rw [hstatements] at hbody
      simp only [run_eq_error_iff.1 hbody, bind, Except.bind]
      cases values <;> simp only [documentOfElements, hstatements, bind, Except.bind] <;> rfl
    | ok statements =>
      rw [hstatements] at hbody
      obtain ⟨_, hread⟩ := run_eq_ok_iff.1 hbody
      simp only [hread, bind, Except.bind, hend]
      cases values <;> simp only [documentOfElements, hstatements, bind, Except.bind] <;> rfl

/-- A document is decoded as it is spelled. -/
theorem document_spelled {value : Json} {before text rest : List Char} (levels : Nat)
    (hb : Blanks before) (h : Spells value text) (hr : EndsNumber rest) :
    document levels (before ++ (text ++ rest)) =
      (documentOf levels value).map fun ds => (ds, rest) := by
  cases value with
  | array values =>
    cases h with
    | @array _ text h =>
      rw [List.cons_append, List.append_assoc, List.singleton_append]
      obtain ⟨_, hlead⟩ := run_eq_ok_iff.1
        (Json.run_lead_array (ε := Fault) hb (text ++ ']' :: rest))
      cases levels with
      | zero =>
        simp only [document, hlead, bind, Except.bind]
        rfl
      | succ levels =>
        simp only [document, hlead, bind, Except.bind]
        exact documentElements_spelled h rest
  | object members =>
    cases h with
    | @object _ text h =>
      rw [List.cons_append, List.append_assoc, List.singleton_append]
      obtain ⟨_, hlead⟩ := run_eq_ok_iff.1
        (Json.run_lead_object (ε := Fault) hb (text ++ '}' :: rest))
      cases levels with
      | zero =>
        simp only [document, hlead, bind, Except.bind]
        rfl
      | succ levels =>
        have hmembers := Json.members_spelled h (fun m _ => readsMember_document levels m) none rest
        simp only [document, hlead, bind, Except.bind, documentOf]
        cases hfound : members.foldlM (documentMember levels) none with
        | error fault =>
          rw [hfound] at hmembers
          simp only [run_eq_error_iff.1 hmembers]
          rfl
        | ok found =>
          rw [hfound] at hmembers
          obtain ⟨_, hread⟩ := run_eq_ok_iff.1 hmembers
          simp only [hread]
          rfl
  | _ =>
    obtain ⟨_, hlead⟩ := run_eq_ok_iff.1
      (Json.run_lead_scalar (ε := Fault) (by simp) (by simp) hb h hr)
    simp only [document, hlead, bind, Except.bind]
    rfl

end SyntaxTree

/-- **A document is loaded from the value that its text spells.** -/
theorem Document.ofText_spelled {value : Json} {text : String}
    (h : Json.SpellsText value text.toList) :
    Document.ofText text =
      (SyntaxTree.documentOf SyntaxTree.nestingLimit value).map Document.mk := by
  obtain ⟨before, inner, after, hb, hs, ha, ht⟩ := h
  have hread := SyntaxTree.document_spelled SyntaxTree.nestingLimit hb hs
    (by simpa using Json.endsNumber_nil.append ha)
  rw [Document.ofText, ht, hread]
  cases SyntaxTree.documentOf SyntaxTree.nestingLimit value with
  | error fault => rfl
  | ok declarations =>
    simp only [Except.map, bind, Except.bind, Json.skipBlanks_blanks ha]
    rfl

end ThriftPages
