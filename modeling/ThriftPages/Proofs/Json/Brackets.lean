/-
# Arrays and objects are read as they are spelled

An array is read by a reader of its elements and an object by a reader for every
key. If these read each part as it is spelled (`ReadsAs`, `ReadsMember`), then
the whole is read as the parts are, one after the other up to the first failure:
a `mapM` over the elements, a `foldlM` over the members.

Key definitions: `Json.ReadsAs`, `Json.ReadsMember`.
Key theorems: `Json.elements_spelled`, `Json.members_spelled`.
-/
import ThriftPages.Json.Object
import ThriftPages.Proofs.Json.Literals

namespace ThriftPages.Json

open Text (Taken outcome run outcome_eq_ok_iff run_eq_ok_iff outcome_bind)

variable {ε α σ : Type}

/-- Wherever the value is spelled, blanks before it included, the reader has this
result, and leaves what follows. -/
def ReadsAs (read : Reader ε α) (value : Json) (result : Except (ReadError ε) α) : Prop :=
  ∀ before text rest, Blanks before → Spells value text → EndsNumber rest →
    run read (before ++ (text ++ rest)) = result.map fun a => (a, rest)

theorem ReadsAs.map {β : Type} {read : Reader ε α} {value : Json}
    {result : Except (ReadError ε) α} (h : ReadsAs read value result) (f : α → β) :
    ReadsAs (read.map f) value (result.map f) := by
  intro before text rest hb ht hr
  have hread := h before text rest hb ht hr
  refine (Text.run_map f read).trans ?_
  rw [hread]
  cases result <;> rfl

/-! ### Where a value ends -/

theorem isBlank_iff {c : Char} : isBlank c = true ↔ c = ' ' ∨ c = '\t' ∨ c = '\n' ∨ c = '\r' := by
  simp only [isBlank, Bool.or_eq_true, decide_eq_true_eq, or_assoc]

theorem EndsNumber.append {blanks rest : List Char} (h : Blanks blanks) (hr : EndsNumber rest) :
    EndsNumber (blanks ++ rest) := by
  cases blanks with
  | nil => exact hr
  | cons c others =>
    intro d hd
    obtain rfl : c = d := by simpa using hd
    rcases isBlank_iff.1 (h c (List.mem_cons_self ..)) with rfl | rfl | rfl | rfl <;> decide

theorem endsNumber_comma (rest : List Char) : EndsNumber (',' :: rest) := by
  intro c hc
  obtain rfl : ',' = c := by simpa using hc
  decide

theorem endsNumber_square (rest : List Char) : EndsNumber (']' :: rest) := by
  intro c hc
  obtain rfl : ']' = c := by simpa using hc
  decide

theorem endsNumber_curly (rest : List Char) : EndsNumber ('}' :: rest) := by
  intro c hc
  obtain rfl : '}' = c := by simpa using hc
  decide

/-- A value starts with neither a blank nor a closing bracket. -/
theorem Spells.head {value : Json} {text : List Char} (h : Spells value text) :
    ∃ c others, text = c :: others ∧ isBlank c = false ∧ c ≠ ']' := by
  cases h with
  | number h =>
    obtain ⟨literal, -, hspelled⟩ := h
    obtain ⟨c, others, he, hc⟩ := hspelled.head []
    refine ⟨c, others, by simpa using he, ?_, ?_⟩
    · rw [← Bool.not_eq_true, isBlank_iff]
      rintro (rfl | rfl | rfl | rfl) <;> simp at hc
    · rintro rfl
      simp at hc
  | @boolean value => cases value <;> exact ⟨_, _, rfl, by decide, by decide⟩
  | null | string | array | object => exact ⟨_, _, rfl, by decide, by decide⟩

theorem Spells.skipBlanks_before {value : Json} {before text : List Char} (h : Spells value text)
    (hb : Blanks before) (rest : List Char) :
    skipBlanks (before ++ (text ++ rest)) = text ++ rest := by
  obtain ⟨c, others, rfl, hc, -⟩ := h.head
  rw [skipBlanks_append hb, List.cons_append, skipBlanks_cons hc]

theorem run_afterBlanks {φ : Type} (read : (text : List Char) → Except φ (Taken α text))
    (text : List Char) : run (afterBlanks read) text = run read (skipBlanks text) :=
  Text.outcome_widen _ _

/-! ### Arrays -/

section Array

variable (element : Reader ε α)

/-- One element and those that follow it. -/
def someElements (text : List Char) : Except (ReadError ε) (List α × List Char) :=
  run element text >>= fun first =>
    (run (moreElements element) first.2).map fun others => (first.1 :: others.1, others.2)

theorem run_moreElements (text : List Char) :
    run (moreElements element) text = run (nextElement element) text >>= fun
      | (.inr _, rest) => .ok ([], rest)
      | (.inl a, rest) =>
        (run (moreElements element) rest).map fun found => (a :: found.1, found.2) := by
  have hmore : ∀ text, run (moreElements element) text =
      (run (Text.row (nextElement element)) text).map fun found => (found.1.1, found.2) :=
    fun text => Text.outcome_map _ _
  have hrow := Text.run_row (nextElement element) text
  simp only [hmore, hrow]
  cases run (nextElement element) text with
  | error fault => rfl
  | ok found =>
    obtain ⟨a | _, rest⟩ := found
    · simp only [bind, Except.bind]
      cases run (Text.row (nextElement element)) rest <;> rfl
    · rfl

theorem run_moreElements_close {blanks : List Char} (h : Blanks blanks) (rest : List Char) :
    run (moreElements element) (blanks ++ ']' :: rest) = .ok ([], rest) := by
  rw [run_moreElements, nextElement, run_afterBlanks, skipBlanks_append h,
    skipBlanks_cons (by decide)]
  rfl

theorem run_moreElements_comma {blanks text : List Char} (h : Blanks blanks)
    (hne : (skipBlanks text).head? ≠ some ']') :
    run (moreElements element) (blanks ++ ',' :: text) = someElements element text := by
  rw [run_moreElements, nextElement, run_afterBlanks, skipBlanks_append h,
    skipBlanks_cons (by decide)]
  simp only [run, if_neg hne, Text.outcome_map_after, someElements]
  cases element text <;> rfl

theorem run_elements_close {blanks : List Char} (h : Blanks blanks) (rest : List Char) :
    run (elements element) (blanks ++ ']' :: rest) = .ok ([], rest) := by
  rw [elements, run_afterBlanks, skipBlanks_append h, skipBlanks_cons (by decide)]
  rfl

/-- An array that does not close at once has some elements. -/
theorem run_elements_some {blanks others : List Char} {c : Char} (h : Blanks blanks)
    (hc : isBlank c = false) (hne : c ≠ ']') :
    run (elements element) (blanks ++ c :: others) = someElements element (c :: others) := by
  rw [elements, run_afterBlanks, skipBlanks_append h, skipBlanks_cons hc]
  simp only [run, List.cons.injEq, hne, false_and, imp_self, implies_true]
  refine outcome_bind fun first => ?_
  obtain ⟨a, left, hlt⟩ := first
  simp only [Taken.parts, run]
  cases moreElements element left <;> rfl

variable {element} {f : Json → Except (ReadError ε) α}

/-- The blanks before the first element are no part of what it starts with. -/
theorem SpellsElements.trim {value : Json} {values : List Json} {text : List Char}
    (h : SpellsElements (value :: values) text) :
    ∃ before c others, Blanks before ∧ text = before ++ c :: others ∧ isBlank c = false ∧
      c ≠ ']' ∧ SpellsElements (value :: values) (c :: others) := by
  cases h with
  | one hb h ha =>
    obtain ⟨c, others, rfl, hc, hne⟩ := h.head
    exact ⟨_, c, _, hb, rfl, hc, hne, .one blanks_nil h ha⟩
  | cons hb h ha ho =>
    obtain ⟨c, others, rfl, hc, hne⟩ := h.head
    exact ⟨_, c, _, hb, rfl, hc, hne, .cons blanks_nil h ha ho⟩

/-- What elements start with does not close their array. -/
theorem SpellsElements.skipBlanks {value : Json} {values : List Json} {text : List Char}
    (h : SpellsElements (value :: values) text) (rest : List Char) :
    ∃ c others, Json.skipBlanks (text ++ rest) = c :: others ∧ c ≠ ']' := by
  obtain ⟨before, c, others, hb, rfl, hc, hne, -⟩ := h.trim
  rw [List.append_assoc, List.cons_append, skipBlanks_append hb, skipBlanks_cons hc]
  exact ⟨c, _, rfl, hne⟩

theorem SpellsElements.head {value : Json} {values : List Json} {text : List Char}
    (h : SpellsElements (value :: values) text) (rest : List Char) :
    (Json.skipBlanks (text ++ rest)).head? ≠ some ']' := by
  obtain ⟨c, others, hskip, hne⟩ := h.skipBlanks rest
  simpa [hskip] using hne

/-- The text after an element: nothing but blanks, or a comma and the others. -/
def SpellsMore : List Json → List Char → Prop
  | [], text => Blanks text
  | next :: values, text =>
    ∃ after others, Blanks after ∧ text = after ++ ',' :: others ∧
      SpellsElements (next :: values) others

/-- Some elements are the first, and what follows it. -/
theorem SpellsElements.first {value : Json} {values : List Json} {text : List Char}
    (h : SpellsElements (value :: values) text) :
    ∃ before inner more, Blanks before ∧ Spells value inner ∧ SpellsMore values more ∧
      text = before ++ (inner ++ more) := by
  cases h with
  | one hb h ha => exact ⟨_, _, _, hb, h, ha, rfl⟩
  | cons hb h ha ho => exact ⟨_, _, _, hb, h, ⟨_, _, ha, rfl, ho⟩, rfl⟩

/-- An element ends where others follow or the array closes. -/
theorem SpellsMore.endsNumber {values : List Json} {more : List Char} (h : SpellsMore values more)
    (rest : List Char) : EndsNumber (more ++ ']' :: rest) := by
  cases values with
  | nil => exact (endsNumber_square rest).append h
  | cons next values =>
    obtain ⟨after, others, ha, rfl, -⟩ := h
    rw [List.append_assoc]
    exact (endsNumber_comma _).append ha

/-- The elements after one of the array are read one by one. -/
theorem moreElements_spelled {values : List Json} {more : List Char} (h : SpellsMore values more)
    (hr : ∀ v ∈ values, ReadsAs element v (f v)) (rest : List Char) :
    run (moreElements element) (more ++ ']' :: rest) =
      (values.mapM f).map fun as => (as, rest) := by
  induction values generalizing more with
  | nil => exact run_moreElements_close element h rest
  | cons value values ih =>
    obtain ⟨after, others, ha, rfl, ho⟩ := h
    have hcomma := run_moreElements_comma element ha (ho.head (']' :: rest))
    obtain ⟨before, inner, more, hb, hv, hm, rfl⟩ := ho.first
    have hfirst := hr value (List.mem_cons_self ..) before inner _ hb hv (hm.endsNumber rest)
    have hmore := ih hm fun v hv => hr v (List.mem_cons_of_mem _ hv)
    rw [List.append_assoc, List.cons_append, hcomma, List.append_assoc, List.append_assoc,
      someElements, hfirst, List.mapM_cons]
    cases f value with
    | error fault => rfl
    | ok a =>
      simp only [bind, Except.bind, Except.map, hmore]
      cases List.mapM f values <;> rfl

theorem someElements_spelled {value : Json} {values : List Json} {text : List Char}
    (h : SpellsElements (value :: values) text)
    (hr : ∀ v ∈ value :: values, ReadsAs element v (f v)) (rest : List Char) :
    someElements element (text ++ ']' :: rest) =
      ((value :: values).mapM f).map fun as => (as, rest) := by
  have hcomma := run_moreElements_comma element blanks_nil (h.head (']' :: rest))
  have hmore : SpellsMore (value :: values) (',' :: text) := ⟨[], text, blanks_nil, rfl, h⟩
  exact hcomma.symm.trans (moreElements_spelled hmore hr rest)

/-- An array is read element by element. -/
theorem elements_spelled {values : List Json} {text : List Char} (h : SpellsElements values text)
    (hr : ∀ v ∈ values, ReadsAs element v (f v)) (rest : List Char) :
    run (elements element) (text ++ ']' :: rest) =
      (values.mapM f).map fun as => (as, rest) := by
  cases values with
  | nil =>
    cases h with
    | nil hb => exact run_elements_close element hb rest
  | cons value values =>
    obtain ⟨before, c, others, hb, rfl, hc, hne, htrim⟩ := h.trim
    rw [← someElements_spelled htrim hr, List.append_assoc, List.cons_append,
      run_elements_some element hb hc hne]

end Array

/-! ### Objects -/

section Object

variable (onKey : OnKey ε σ)

/-- In every state a member has this effect: either its key is refused, or its value is
read into the next state. -/
def ReadsMember (m : String × Json) (effect : σ → Except (ReadError ε) σ) : Prop :=
  ∀ state, match onKey state m.1 with
    | .error reason => effect state = refused reason
    | .ok read => ReadsAs read m.2 (effect state)

/-- One member, its opening quotation mark having been read, and those that follow. -/
def someMembers (state : σ) (text : List Char) : Except (ReadError ε) (σ × List Char) :=
  run (member onKey state) text >>= fun first => run (moreMembers onKey first.1) first.2

theorem run_moreMembers (state : σ) (text : List Char) :
    run (moreMembers onKey state) text = run (nextMember onKey state) text >>= fun
      | (.inr last, rest) => .ok (last, rest)
      | (.inl next, rest) => run (moreMembers onKey next) rest := by
  refine (Text.run_loop (nextMember onKey) state text).trans ?_
  cases run (nextMember onKey state) text with
  | error fault => rfl
  | ok found =>
    obtain ⟨next | last, rest⟩ := found <;> rfl

theorem run_moreMembers_close {blanks : List Char} (h : Blanks blanks) (state : σ)
    (rest : List Char) :
    run (moreMembers onKey state) (blanks ++ '}' :: rest) = .ok (state, rest) := by
  rw [run_moreMembers, nextMember, run_afterBlanks, skipBlanks_append h,
    skipBlanks_cons (by decide)]
  rfl

theorem run_moreMembers_comma {blanks before : List Char} (h : Blanks blanks)
    (hb : Blanks before) (text : List Char) (state : σ) :
    run (moreMembers onKey state) (blanks ++ ',' :: (before ++ '"' :: text)) =
      someMembers onKey state text := by
  have hafter : run (memberAfterComma onKey state) (before ++ '"' :: text) =
      run (member onKey state) text := by
    rw [memberAfterComma, run_afterBlanks, skipBlanks_append hb, skipBlanks_cons (by decide)]
    exact Text.outcome_after _
  have hnext : run (nextMember onKey state) (blanks ++ ',' :: (before ++ '"' :: text)) =
      (run (member onKey state) text).map fun found => (.inl found.1, found.2) := by
    rw [nextMember, run_afterBlanks, skipBlanks_append h, skipBlanks_cons (by decide), ← hafter]
    exact Text.outcome_map_after _ _
  rw [run_moreMembers, hnext, someMembers]
  cases run (member onKey state) text <;> rfl

theorem run_members_close {blanks : List Char} (h : Blanks blanks) (state : σ)
    (rest : List Char) : run (members onKey state) (blanks ++ '}' :: rest) = .ok (state, rest) := by
  rw [members, run_afterBlanks, skipBlanks_append h, skipBlanks_cons (by decide)]
  rfl

theorem run_members_some {before : List Char} (h : Blanks before) (state : σ)
    (text : List Char) :
    run (members onKey state) (before ++ '"' :: text) = someMembers onKey state text := by
  rw [members, run_afterBlanks, skipBlanks_append h, skipBlanks_cons (by decide), someMembers]
  refine outcome_bind (s := '"' :: text) fun first => ?_
  obtain ⟨next, left, hlt⟩ := first
  simp only [Taken.parts, run]
  cases moreMembers onKey next left <;> rfl

variable {onKey} {g : String × Json → σ → Except (ReadError ε) σ}

theorem run_afterColon {read : Reader ε α} {value : Json} {result : Except (ReadError ε) α}
    {beforeColon afterColon text rest : List Char} (h : ReadsAs read value result)
    (hc : Blanks beforeColon) (hd : Blanks afterColon) (ht : Spells value text)
    (hr : EndsNumber rest) :
    run (Json.afterColon read) (beforeColon ++ ':' :: (afterColon ++ (text ++ rest))) =
      result.map fun a => (a, rest) := by
  rw [Json.afterColon, run_afterBlanks, skipBlanks_append hc, skipBlanks_cons (by decide),
    ← h _ _ _ hd ht hr]
  exact Text.outcome_after _

/-- A member is read from its key on. -/
theorem run_member {key : String} {value : Json} {keyText beforeColon afterColon text
    rest : List Char} (h : ReadsMember onKey (key, value) (g (key, value)))
    (hk : SpellsString key keyText) (hc : Blanks beforeColon) (hd : Blanks afterColon)
    (ht : Spells value text) (hr : EndsNumber rest) (state : σ) :
    run (member onKey state)
        (keyText ++ '"' :: (beforeColon ++ ':' :: (afterColon ++ (text ++ rest)))) =
      (g (key, value) state).map fun next => (next, rest) := by
  obtain ⟨_, hkey⟩ := run_eq_ok_iff.1 (run_stringRest (ε := ε) hk
    (beforeColon ++ ':' :: (afterColon ++ (text ++ rest))))
  have hstate := h state
  simp only [run, member, hkey, bind, Except.bind]
  cases hon : onKey state key with
  | error reason =>
    simp only [hon] at hstate
    rw [hstate]
    rfl
  | ok read =>
    simp only [hon] at hstate
    have hcolon := run_afterColon hstate hc hd ht hr
    have hread : (Except.ok read).mapError (ReadError.refused (ε := ε)) = .ok read := rfl
    simp only [hread, ← hcolon, run]
    cases Json.afterColon read (beforeColon ++ ':' :: (afterColon ++ (text ++ rest))) <;> rfl

/-- Members follow a quotation mark. -/
theorem someMembers_spelled {m : String × Json} {members : List (String × Json)}
    {text : List Char} (h : SpellsMembers (m :: members) text)
    (hr : ∀ m' ∈ m :: members, ReadsMember onKey m' (g m')) (rest : List Char) :
    ∃ before others, Blanks before ∧ text = before ++ '"' :: others ∧ ∀ state,
      someMembers onKey state (others ++ '}' :: rest) =
        ((m :: members).foldlM (fun s m => g m s) state).map fun last => (last, rest) := by
  induction members generalizing m text with
  | nil =>
    cases h with
    | one h =>
      obtain ⟨hb, hk, hc, hd, hv, ha⟩ := h
      refine ⟨_, _, hb, rfl, fun state => ?_⟩
      have hfirst := run_member (hr _ (List.mem_cons_self ..)) hk hc hd hv
        ((endsNumber_curly rest).append ha) state
      have hclose := fun state => run_moreMembers_close onKey ha state rest
      simp only [List.append_assoc, List.cons_append, someMembers, hfirst, List.foldlM_cons,
        List.foldlM_nil]
      cases g _ state with
      | error fault => rfl
      | ok next => simp only [bind, Except.bind, Except.map, hclose, pure, Except.pure]
  | cons next members ih =>
    cases h with
    | cons h ho =>
      obtain ⟨hb, hk, hc, hd, hv, ha⟩ := h
      obtain ⟨before, others, hblanks, rfl, hothers⟩ :=
        ih ho fun m' hm => hr m' (List.mem_cons_of_mem _ hm)
      refine ⟨_, _, hb, by rw [List.append_assoc, List.cons_append], fun state => ?_⟩
      have hfirst := run_member (hr _ (List.mem_cons_self ..)) hk hc hd hv
        ((endsNumber_comma (before ++ '"' :: (others ++ '}' :: rest))).append ha) state
      have hcomma := fun state =>
        run_moreMembers_comma onKey ha hblanks (others ++ '}' :: rest) state
      rw [List.foldlM_cons]
      simp only [List.append_assoc, List.cons_append, someMembers, hfirst]
      cases g _ state with
      | error fault => rfl
      | ok next => simp only [bind, Except.bind, Except.map, hcomma, hothers]

/-- An object is read member by member. -/
theorem members_spelled {ms : List (String × Json)} {text : List Char}
    (h : SpellsMembers ms text) (hr : ∀ m ∈ ms, ReadsMember onKey m (g m)) (state : σ)
    (rest : List Char) :
    run (members onKey state) (text ++ '}' :: rest) =
      (ms.foldlM (fun s m => g m s) state).map fun last => (last, rest) := by
  cases ms with
  | nil =>
    cases h with
    | nil hb => exact run_members_close onKey hb state rest
  | cons m ms =>
    obtain ⟨before, others, hb, rfl, hothers⟩ := someMembers_spelled h hr rest
    rw [← hothers, List.append_assoc, List.cons_append, run_members_some onKey hb]

end Object

end ThriftPages.Json
