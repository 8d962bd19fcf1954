/-
# Reading signatures back

A signature puts its parts together with spaces, commas and round brackets. Names of letters,
digits, `_` and `.` hold none of these marks, and if no name in a function does, its signature
can be read from left to right: the result up to the first space, the name up to the opening
bracket, then the parameters one by one. The type of a parameter may hold round brackets, since
links do, but no space, so it goes up to the next space; and its name goes up to the comma in
front of the next parameter or the bracket that ends them all. Exceptions follow in the same way
if there are any.

So functions with such names have the same signature if and only if they have the same name,
and the same result, parameters and exceptions but for the key types of maps
(`Function.signature_eq_iff`).

Key definitions: `Text.IsSignatureMark`, `Function.HasPlainNames`.
Key theorems: `Field.parameterList_inj`, `Function.signature_eq_iff`.
-/
import ThriftPages.Proofs.Reference.TypeTexts
import ThriftPages.Proofs.Reference.Words

namespace ThriftPages

open Text

/-! ### Names without marks -/

/-- The marks that a signature has between its names. -/
def Text.IsSignatureMark (c : Char) : Prop := c = ' ' ∨ c = ',' ∨ c = '(' ∨ c = ')'

instance : DecidablePred IsSignatureMark := fun c =>
  inferInstanceAs (Decidable (c = ' ' ∨ c = ',' ∨ c = '(' ∨ c = ')'))

/-- A name without these marks. -/
abbrev Text.IsPlainName (name : String) : Prop := Each (fun c => ¬ IsSignatureMark c) name

/-- Letters, digits, `_` and `.` make plain names. -/
theorem isPlainName_of_alphanum {name : String}
    (h : Each (fun c => c.isAlphanum ∨ c = '_' ∨ c = '.') name) : IsPlainName name := by
  rintro c hc (rfl | rfl | rfl | rfl) <;> exact absurd (h _ hc) (by decide)

/-- The names that a parameter or exception shows. -/
def Field.parameterNames (f : Field) : List String := f.name :: f.type.names

/-- The names that a signature shows are plain: those of the function, of its parameters and
exceptions, and of the types. -/
structure Function.HasPlainNames (f : Function) : Prop where
  name : IsPlainName f.name
  result : ∀ name ∈ f.result.names, IsPlainName name
  parameters : ∀ p ∈ f.parameters, ∀ name ∈ p.parameterNames, IsPlainName name
  throws : ∀ p ∈ f.throws, ∀ name ∈ p.parameterNames, IsPlainName name

/-! ### Types and names in a row -/

/-- A type whose names are plain is written without a space. -/
theorem TypeRef.space_notMem_text {type : TypeRef} (h : ∀ name ∈ type.names, IsPlainName name) :
    ∀ c ∈ type.text.toList, ¬ c = ' ' := by
  have hmarks : ∀ mark ∈ inlineMarks, Each (fun c => ¬ c = ' ') mark := by decide
  exact (type.each_text hmarks).2 fun name hname c hc hspace =>
    h name hname c hc (.inl hspace)

/-- No type starts with a closing bracket. -/
theorem TypeRef.text_ne_close (type : TypeRef) (r s : List Char) :
    type.text.toList ++ ' ' :: r ≠ ')' :: s := by
  cases type <;> simp [text, link]

/-- The type in front of a space is determined by the text, but for the key types of maps. -/
theorem TypeRef.text_space_inj {a b : TypeRef} (ha : ∀ name ∈ a.names, IsPlainName name)
    (hb : ∀ name ∈ b.names, IsPlainName name) {r s : List Char}
    (h : a.text.toList ++ ' ' :: r = b.text.toList ++ ' ' :: s) :
    a.withoutKeys = b.withoutKeys ∧ r = s := by
  obtain ⟨htext, hrest⟩ :=
    append_mark_inj (space_notMem_text ha) (space_notMem_text hb) rfl rfl h
  exact ⟨withoutKeys_of_text (String.toList_inj.1 htext), (List.cons.inj hrest).2⟩

namespace Field

/-- What follows the name of a parameter: the bracket that ends the parameters, or a comma and
the parameters that are left. -/
def afterName (rest : List Field) (tail : List Char) : List Char :=
  match rest with
  | [] => ')' :: tail
  | next :: others => ',' :: ' ' :: ((parameterList (next :: others)).toList ++ ')' :: tail)

theorem parameterList_cons (f : Field) (rest : List Field) (tail : List Char) :
    (parameterList (f :: rest)).toList ++ ')' :: tail =
      f.type.text.toList ++ ' ' :: (f.name.toList ++ afterName rest tail) := by
  cases rest with
  | nil => simp [parameterList, afterName]
  | cons next others => simp [parameterList, afterName, String.intercalate_cons_cons]

/-- What follows a name starts with a mark. -/
theorem exists_afterName (rest : List Field) (tail : List Char) :
    ∃ c left, afterName rest tail = c :: left ∧ IsSignatureMark c := by
  cases rest with
  | nil => exact ⟨')', tail, rfl, by decide⟩
  | cons next others => exact ⟨',', _, rfl, by decide⟩

/-- The name in front of what follows it is determined by the text. -/
theorem name_afterName_inj {a b : String} (ha : IsPlainName a) (hb : IsPlainName b)
    {fs gs : List Field} {r s : List Char}
    (h : a.toList ++ afterName fs r = b.toList ++ afterName gs s) :
    a = b ∧ afterName fs r = afterName gs s := by
  obtain ⟨c, left, hleft, hc⟩ := exists_afterName fs r
  obtain ⟨d, right, hright, hd⟩ := exists_afterName gs s
  rw [hleft, hright] at h ⊢
  obtain ⟨hname, hrest⟩ := append_mark_inj ha hb hc hd h
  exact ⟨String.toList_inj.1 hname, hrest⟩

/-- The first parameter is determined by the text, and so is what follows its name. -/
theorem first_parameter_inj {f g : Field} (hf : ∀ name ∈ f.parameterNames, IsPlainName name)
    (hg : ∀ name ∈ g.parameterNames, IsPlainName name) {fs gs : List Field} {r s : List Char}
    (h : (parameterList (f :: fs)).toList ++ ')' :: r =
      (parameterList (g :: gs)).toList ++ ')' :: s) :
    f.asParameter = g.asParameter ∧ afterName fs r = afterName gs s := by
  obtain ⟨hfname, hftype⟩ := List.forall_mem_cons.1 hf
  obtain ⟨hgname, hgtype⟩ := List.forall_mem_cons.1 hg
  rw [parameterList_cons, parameterList_cons] at h
  obtain ⟨htype, h⟩ := TypeRef.text_space_inj hftype hgtype h
  obtain ⟨hname, hafter⟩ := name_afterName_inj hfname hgname h
  exact ⟨by rw [asParameter, asParameter, htype, hname], hafter⟩

/-- After a name a comma says that another parameter follows, and a bracket that none does. -/
theorem afterName_inj {fs gs : List Field}
    (hf : ∀ f ∈ fs, ∀ name ∈ f.parameterNames, IsPlainName name)
    (hg : ∀ g ∈ gs, ∀ name ∈ g.parameterNames, IsPlainName name) {r s : List Char}
    (h : afterName fs r = afterName gs s) : fs.map asParameter = gs.map asParameter ∧ r = s := by
  induction fs generalizing gs with
  | nil =>
    cases gs with
    | nil => exact ⟨rfl, (List.cons.inj h).2⟩
    | cons g gs => exact absurd (List.cons.inj h).1 (by decide)
  | cons f fs ih =>
    cases gs with
    | nil => exact absurd (List.cons.inj h).1 (by decide)
    | cons g gs =>
      obtain ⟨hfirst, hf⟩ := List.forall_mem_cons.1 hf
      obtain ⟨hfirst', hg⟩ := List.forall_mem_cons.1 hg
      obtain ⟨hparameter, hafter⟩ :=
        first_parameter_inj hfirst hfirst' (List.cons.inj (List.cons.inj h).2).2
      obtain ⟨hrest, htail⟩ := ih hf hg hafter
      exact ⟨by rw [List.map_cons, List.map_cons, hparameter, hrest], htail⟩

/-- **Parameters are read one by one** up to the bracket that ends them. -/
theorem parameterList_inj {fs gs : List Field}
    (hf : ∀ f ∈ fs, ∀ name ∈ f.parameterNames, IsPlainName name)
    (hg : ∀ g ∈ gs, ∀ name ∈ g.parameterNames, IsPlainName name) {r s : List Char}
    (h : (parameterList fs).toList ++ ')' :: r = (parameterList gs).toList ++ ')' :: s) :
    fs.map asParameter = gs.map asParameter ∧ r = s := by
  cases fs with
  | nil =>
    cases gs with
    | nil => exact ⟨rfl, (List.cons.inj h).2⟩
    | cons g gs =>
      rw [parameterList_cons] at h
      exact absurd h.symm (g.type.text_ne_close _ _)
  | cons f fs =>
    cases gs with
    | nil =>
      rw [parameterList_cons] at h
      exact absurd h (f.type.text_ne_close _ _)
    | cons g gs =>
      have hcomma : afterName (f :: fs) r = afterName (g :: gs) s := by
        rw [afterName, afterName, h]
      exact afterName_inj hf hg hcomma

/-- What follows the bracket: the exceptions, if there are any. -/
def throwsClause : List Field → String
  | [] => ""
  | first :: rest => " throws " ++ parameterList (first :: rest)

/-- Exceptions are read like parameters, and where there are none nothing is shown. -/
theorem throwsClause_inj {fs gs : List Field}
    (hf : ∀ f ∈ fs, ∀ name ∈ f.parameterNames, IsPlainName name)
    (hg : ∀ g ∈ gs, ∀ name ∈ g.parameterNames, IsPlainName name)
    (h : throwsClause fs = throwsClause gs) : fs.map asParameter = gs.map asParameter := by
  cases fs with
  | nil =>
    cases gs with
    | nil => rfl
    | cons g gs => simp [throwsClause] at h
  | cons f fs =>
    cases gs with
    | nil => simp [throwsClause] at h
    | cons g gs =>
      rw [throwsClause, throwsClause, String.append_right_inj] at h
      have hclosed : (parameterList (f :: fs)).toList ++ [')'] =
          (parameterList (g :: gs)).toList ++ [')'] := by rw [h]
      exact (parameterList_inj hf hg hclosed).1

end Field

/-! ### Signatures -/

namespace Function

theorem toList_signature (f : Function) :
    f.signature.toList = f.result.text.toList ++ ' ' :: (f.name.toList ++ '(' ::
      ((Field.parameterList f.parameters).toList ++
          ')' :: (Field.throwsClause f.throws).toList)) := by
  unfold signature
  cases f.throws <;> simp [Field.throwsClause]

/-- The parts of a signature are determined by its text, but for the key types of maps. -/
theorem parts_of_signature {f g : Function} (hf : f.HasPlainNames) (hg : g.HasPlainNames)
    (h : f.signature = g.signature) :
    f.name = g.name ∧ f.result.withoutKeys = g.result.withoutKeys ∧
      f.parameters.map Field.asParameter = g.parameters.map Field.asParameter ∧
      f.throws.map Field.asParameter = g.throws.map Field.asParameter := by
  have hchars := congrArg String.toList h
  rw [toList_signature, toList_signature] at hchars
  obtain ⟨hresult, hchars⟩ := TypeRef.text_space_inj hf.result hg.result hchars
  have hopen : IsSignatureMark '(' := by decide
  obtain ⟨hname, hchars⟩ := append_mark_inj hf.name hg.name hopen hopen hchars
  obtain ⟨hparameters, hthrows⟩ :=
    Field.parameterList_inj hf.parameters hg.parameters (List.cons.inj hchars).2
  exact ⟨String.toList_inj.1 hname, hresult, hparameters,
    Field.throwsClause_inj hf.throws hg.throws (String.toList_inj.1 hthrows)⟩

/-- **Signatures are uniquely readable.** Two functions whose names are plain have the same
signature if and only if they have the same name, the same result, the same parameters in order
and the same exceptions in order, types being compared without the key types of maps. So a
function that throws nothing has no signature of one that does. -/
theorem signature_eq_iff {f g : Function} (hf : f.HasPlainNames) (hg : g.HasPlainNames) :
    (f.signature = g.signature ↔
      f.name = g.name ∧ f.result.withoutKeys = g.result.withoutKeys ∧
        f.parameters.map Field.asParameter = g.parameters.map Field.asParameter ∧
        f.throws.map Field.asParameter = g.throws.map Field.asParameter) ∧
    (f.signature = g.signature → (f.throws = [] ↔ g.throws = [])) := by
  refine ⟨⟨parts_of_signature hf hg, ?_⟩, fun h => ?_⟩
  · rintro ⟨hname, hresult, hparameters, hthrows⟩
    have hshown : f.withoutDetails = g.withoutDetails := by
      rw [withoutDetails, withoutDetails, hname, hresult, hparameters, hthrows]
    calc f.signature = f.withoutDetails.signature := f.signature_withoutDetails.symm
      _ = g.withoutDetails.signature := by rw [hshown]
      _ = g.signature := g.signature_withoutDetails
  · have hthrows := (parts_of_signature hf hg h).2.2.2
    rw [← List.map_eq_nil_iff, hthrows, List.map_eq_nil_iff]

/-- Key types, ids and default values make no difference to a signature; exceptions do. -/
theorem signature_of_lookup :
    let lookup : Function := ⟨"lookup", .map .string (.named "Meta.Data"),
      [⟨some 1, "key", .string, none, none, []⟩, ⟨some 2, "limits", .list (.map .i32 .i64), none,
        none, []⟩], [⟨some 1, "ex_1", .named "MetaException", none, none, []⟩], false, []⟩
    let other : Function := ⟨"lookup", .map .i64 (.named "Meta.Data"),
      [⟨none, "key", .string, some .required, some (.string "a"), []⟩, ⟨none, "limits",
        .list (.map .binary .i64), none, none, []⟩],
      [⟨none, "ex_1", .named "MetaException", none, none, []⟩], false, [.line "later"]⟩
    let silent : Function := { lookup with throws := [] }
    lookup.HasPlainNames ∧ other.HasPlainNames ∧ silent.HasPlainNames ∧
      lookup.signature = other.signature ∧ lookup.signature ≠ silent.signature := by
  intro lookup other silent
  have hname : IsPlainName "lookup" := isPlainName_of_alphanum (by decide)
  have hlookup : lookup.HasPlainNames := ⟨hname, by decide, by decide, by decide⟩
  have hother : other.HasPlainNames := ⟨hname, by decide, by decide, by decide⟩
  have hsilent : silent.HasPlainNames := ⟨hname, by decide, by decide, by decide⟩
  refine ⟨hlookup, hother, hsilent, (signature_eq_iff hlookup hother).1.2 ?_, fun h => ?_⟩
  · decide
  · exact absurd (((signature_eq_iff hlookup hsilent).2 h).2 rfl) (by decide)

/-- A name with a comma can pass for two parameters. -/
example :
    let parameter (name : String) : Field := ⟨none, name, .i32, none, none, []⟩
    Field.parameterList [parameter "a, i32 b"] =
      Field.parameterList [parameter "a", parameter "b"] := by
  decide

end Function

end ThriftPages
