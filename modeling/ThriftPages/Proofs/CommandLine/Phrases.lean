/-
# Phrases of a command line

A command line is made of phrases: the input, an option with its value, a switch. A
phrase takes one or two words, and most can be spelled in more than one way
(`Phrase.Spelled`). Whatever order the phrases come in and however each is spelled, the
command line is read as saying just these phrases (`Arguments.read_any_order`), as long
as no two of them are about the same option or switch and there is one input at most.

An option whose value is a word of its own is settled only when the next phrase comes,
so what a reading has taken in is not what its arguments hold. The invariant is therefore
about the arguments with the pending option settled (`Reading.StandsAt`). Each phrase
takes a reading from where it stands to the arguments that say the phrase as well
(`Reading.StandsAt.foldlM_spelled`), and by induction so does a row of them
(`Reading.StandsAt.foldlM_row`). That the order is lost is then a fact about arguments:
they are known by what they say (`Arguments.eq_of_says`).

Not covered: values attached to the letter of an option, and inputs after two dashes.

Key definitions: `Phrase`, `Phrase.Spelled`, `Arguments.Says`, `Arguments.Admits`.
Key theorems: `Reading.StandsAt.foldlM_spelled`, `Arguments.says_foldl_saying_iff`,
`Arguments.read_any_order`.
-/
import ThriftPages.Proofs.CommandLine.Spelling

namespace ThriftPages

/-! ### Phrases -/

/-- What is said at one place of a command line. -/
inductive Phrase
  | input (path : String)
  | option (option : ValueOption) (value : String)
  | switch (switch : Switch)
deriving DecidableEq

/-- What a phrase is about: an option, a switch, or else the input. -/
def Phrase.flag? : Phrase → Option Flag
  | input _ => none
  | option which _ => some (.value which)
  | switch which => some (.switch which)

/-- A text that does not start with a dash. -/
def IsUndashed (text : String) : Prop := text.toList.head? ≠ some '-'

instance (text : String) : Decidable (IsUndashed text) := inferInstanceAs (Decidable (_ ≠ _))

/-- The words that a phrase can be spelled in. A text that is a word of its own must not start
with a dash, while a value after an equals sign may be anything. -/
inductive Phrase.Spelled : Phrase → List String → Prop
  | input {path : String} (h : IsUndashed path) : Spelled (.input path) [path]
  | switch (switch : Switch) : Spelled (.switch switch) [switch.word]
  | joined (option : ValueOption) (value : String) :
      Spelled (.option option value) [option.word value]
  | apart (option : ValueOption) {value : String} (h : IsUndashed value) :
      Spelled (.option option value) ["--" ++ option.longName, value]
  | letter {value : String} (h : IsUndashed value) : Spelled (.option .output value) ["-o", value]

namespace Word

theorem ofText_of_isUndashed {text : String} (h : IsUndashed text) : ofText text = .plain := by
  unfold IsUndashed at h
  unfold ofText
  split
  case h_4 => rfl
  all_goals
    rename_i hchars
    rw [hchars] at h
    exact absurd rfl h

theorem ofText_longName (option : ValueOption) :
    ofText ("--" ++ option.longName) = .flag (.value option) none := by
  cases option <;> decide

end Word

/-! ### What arguments say -/

namespace Arguments

/-- Whether arguments say a phrase. -/
def Says (arguments : Arguments) : Phrase → Prop
  | .input path => arguments.input = some path
  | .option option value => arguments.value? option = some value
  | .switch switch => arguments.isOn switch = true

/-- The arguments that say a phrase as well. -/
def saying (arguments : Arguments) : Phrase → Arguments
  | .input path => { arguments with input := some path }
  | .option option value => arguments.withValue value option
  | .switch switch => arguments.switchedOn switch

/-- Nothing is said yet about what a phrase is about. -/
def LeavesOpen (arguments : Arguments) : Phrase → Prop
  | .input _ => arguments.input = none
  | .option option _ => arguments.value? option = none
  | .switch switch => arguments.isOn switch = false

section Updates

variable (arguments : Arguments) (value : String) (option option' : ValueOption)
  (switch switch' : Switch)

@[simp] theorem input_withValue : (arguments.withValue value option).input = arguments.input := by
  cases option <;> rfl

@[simp] theorem value?_withValue : (arguments.withValue value option).value? option' =
    if option' = option then some value else arguments.value? option' := by
  cases option <;> cases option' <;> rfl

@[simp] theorem isOn_withValue :
    (arguments.withValue value option).isOn switch = arguments.isOn switch := by
  cases option <;> cases switch <;> rfl

@[simp] theorem input_switchedOn : (arguments.switchedOn switch).input = arguments.input := by
  cases switch <;> rfl

@[simp] theorem value?_switchedOn :
    (arguments.switchedOn switch).value? option = arguments.value? option := by
  cases switch <;> cases option <;> rfl

@[simp] theorem isOn_switchedOn : (arguments.switchedOn switch).isOn switch' =
    if switch' = switch then true else arguments.isOn switch' := by
  cases switch <;> cases switch' <;> rfl

@[simp] theorem value?_withInput (path : Option String) :
    { arguments with input := path }.value? option = arguments.value? option := by
  cases option <;> rfl

@[simp] theorem isOn_withInput (path : Option String) :
    { arguments with input := path }.isOn switch = arguments.isOn switch := by
  cases switch <;> rfl

@[simp] theorem value?_start : ({} : Arguments).value? option = none := by
  cases option <;> rfl

@[simp] theorem isOn_start : ({} : Arguments).isOn switch = false := by
  cases switch <;> rfl

end Updates

variable {arguments arguments' : Arguments} {phrase other : Phrase} {phrases : List Phrase}

theorem leavesOpen_start (phrase : Phrase) : ({} : Arguments).LeavesOpen phrase := by
  cases phrase <;> simp [LeavesOpen]

theorem not_says_start (phrase : Phrase) : ¬({} : Arguments).Says phrase := by
  cases phrase <;> simp [Says]

/-- A phrase leaves open what another one is about. -/
theorem LeavesOpen.saying (h : arguments.LeavesOpen other) (hflag : other.flag? ≠ phrase.flag?) :
    (arguments.saying phrase).LeavesOpen other := by
  cases phrase <;> cases other <;>
    simp_all [LeavesOpen, Arguments.saying, Phrase.flag?]

/-- What was open is closed by the phrase, and nothing else is different. -/
theorem says_saying_iff (h : arguments.LeavesOpen phrase) :
    (arguments.saying phrase).Says other ↔ other = phrase ∨ arguments.Says other := by
  cases phrase with
  | input path =>
    have hnone : arguments.input = none := h
    cases other with
    | input path' => simp [saying, Says, hnone, eq_comm]
    | option option value => simp [saying, Says]
    | switch switch => simp [saying, Says]
  | option option value =>
    have hnone : arguments.value? option = none := h
    cases other with
    | input path => simp [saying, Says]
    | option option' value' =>
      by_cases hsame : option' = option
      · simp [saying, Says, hsame, hnone, eq_comm]
      · simp [saying, Says, hsame]
    | switch switch => simp [saying, Says]
  | switch switch =>
    cases other with
    | input path => simp [saying, Says]
    | option option value => simp [saying, Says]
    | switch switch' =>
      by_cases hsame : switch' = switch <;> simp [saying, Says, hsame]

/-- Each phrase of a row finds open what it is about. -/
def Admits (arguments : Arguments) : List Phrase → Prop
  | [] => True
  | phrase :: phrases => arguments.LeavesOpen phrase ∧ (arguments.saying phrase).Admits phrases

/-- Phrases about different things do not close what the others are about. -/
theorem admits_of_nodup (hdistinct : (phrases.map Phrase.flag?).Nodup)
    (hopen : ∀ phrase ∈ phrases, arguments.LeavesOpen phrase) : arguments.Admits phrases := by
  induction phrases generalizing arguments with
  | nil => trivial
  | cons phrase phrases ih =>
    rw [List.map_cons, List.nodup_cons] at hdistinct
    obtain ⟨hphrase, hphrases⟩ := List.forall_mem_cons.1 hopen
    refine ⟨hphrase, ih hdistinct.2 fun other hother => ?_⟩
    have hflag : other.flag? ≠ phrase.flag? := fun hsame =>
      hdistinct.1 (hsame ▸ List.mem_map_of_mem hother)
    exact (hphrases other hother).saying hflag

theorem says_foldl_saying_iff (h : arguments.Admits phrases) :
    (phrases.foldl saying arguments).Says other ↔ other ∈ phrases ∨ arguments.Says other := by
  induction phrases generalizing arguments with
  | nil => simp
  | cons phrase phrases ih =>
    rw [List.foldl_cons, ih h.2, says_saying_iff h.1, List.mem_cons, or_left_comm, or_assoc]

/-- Arguments are known by what they say. -/
theorem eq_of_says (h : ∀ phrase, arguments.Says phrase ↔ arguments'.Says phrase) :
    arguments = arguments' := by
  have hinput : arguments.input = arguments'.input := Option.ext fun path => h (.input path)
  have hvalue (option : ValueOption) : arguments.value? option = arguments'.value? option :=
    Option.ext fun value => h (.option option value)
  have hswitch (switch : Switch) : arguments.isOn switch = arguments'.isOn switch :=
    Bool.eq_iff_iff.2 (h (.switch switch))
  cases arguments
  cases arguments'
  obtain rfl := hinput
  obtain rfl := hvalue .format
  obtain rfl := hvalue .output
  obtain rfl := hvalue .name
  obtain rfl := hvalue .settings
  obtain rfl := hswitch .noToc
  obtain rfl := hswitch .listFormats
  rfl

/-- The arguments that say the phrases of a row. -/
def ofPhrases (phrases : List Phrase) : Arguments := phrases.foldl saying {}

theorem admits_start (hdistinct : (phrases.map Phrase.flag?).Nodup) :
    ({} : Arguments).Admits phrases :=
  admits_of_nodup hdistinct fun phrase _ => leavesOpen_start phrase

/-- They say these phrases and nothing else. -/
theorem says_ofPhrases_iff (hdistinct : (phrases.map Phrase.flag?).Nodup) :
    (ofPhrases phrases).Says phrase ↔ phrase ∈ phrases := by
  rw [ofPhrases, says_foldl_saying_iff (admits_start hdistinct),
    or_iff_left (not_says_start phrase)]

theorem ofPhrases_eq_of_perm {order : List Phrase} (hdistinct : (phrases.map Phrase.flag?).Nodup)
    (horder : order.Perm phrases) : ofPhrases order = ofPhrases phrases := by
  have hdistinct' := (horder.map Phrase.flag?).nodup_iff.2 hdistinct
  exact eq_of_says fun phrase => by
    rw [says_ofPhrases_iff hdistinct', says_ofPhrases_iff hdistinct, horder.mem_iff]

end Arguments

/-! ### Reading phrases -/

namespace Reading.StandsAt

variable {reading : Reading} {arguments : Arguments}

/-- A pending option does not touch the input. -/
theorem input_eq (h : reading.StandsAt arguments) :
    reading.arguments.input = arguments.input := by
  have hsettled := h.settled_eq
  unfold settled at hsettled
  split at hsettled
  · exact congrArg Arguments.input (Except.ok.inj hsettled)
  · cases hsettled
  · rw [Arguments.set] at hsettled
    split at hsettled
    · cases hsettled
    · rw [← Except.ok.inj hsettled, Arguments.input_withValue]

/-- Where a reading stands no option waits for a value, so a plain word is the input. -/
theorem step_input (h : reading.StandsAt arguments) (hopen : arguments.input = none)
    {path : String} (hpath : IsUndashed path) :
    reading.step path = .ok { arguments := { arguments with input := some path } } := by
  have hinput : reading.arguments.input = none := h.input_eq.trans hopen
  have honInput :
      reading.onInput path = .ok { arguments := { arguments with input := some path } } := by
    simp only [onInput, hinput, h.settled_eq, Steps.ok_bind, h.flags_read]
    rfl
  simp only [step, h.flags_read, Word.ofText_of_isUndashed hpath, onPlain]
  -- A pending option has its value, else the reading could not be settled.
  have hsettled := h.settled_eq
  cases hpending : reading.pending with
  | none => exact honInput
  | some pending =>
    obtain ⟨option, value⟩ := pending
    cases value with
    | none =>
      rw [settled, hpending] at hsettled
      cases hsettled
    | some value => exact honInput

/-- A word that is settled at once leaves the reading where its arguments are. -/
theorem of_step {word : String} (hstep : reading.step word = .ok { arguments }) :
    ∃ next : Reading, [word].foldlM step reading = .ok next ∧ next.StandsAt arguments := by
  refine ⟨{ arguments }, ?_, standsAt_arguments arguments⟩
  rw [List.foldlM_cons, hstep]
  rfl

/-- An option without a value in the same word settles what came before, and takes the next plain
word for its value. -/
theorem foldlM_apart (h : reading.StandsAt arguments) {option : ValueOption}
    (hopen : arguments.value? option = none) {word value : String}
    (hword : Word.ofText word = .flag (.value option) none) (hvalue : IsUndashed value) :
    ∃ next : Reading, [word, value].foldlM step reading = .ok next ∧
      next.StandsAt (arguments.withValue value option) := by
  have hfirst : reading.step word = .ok { arguments, pending := some ⟨option, none⟩ } := by
    simp only [step, h.flags_read, hword, onFlag, h.settled_eq, Steps.ok_bind]
    rfl
  have hsecond : ({ arguments, pending := some ⟨option, none⟩ } : Reading).step value =
      .ok { arguments, pending := some ⟨option, some value⟩ } := by
    simp only [step, Word.ofText_of_isUndashed hvalue, onPlain]
    rfl
  -- The value is only held: that the option was open is needed to settle it.
  refine ⟨{ arguments, pending := some ⟨option, some value⟩ }, ?_, rfl, ?_⟩
  · rw [List.foldlM_cons, hfirst, Steps.ok_bind, List.foldlM_cons, hsecond]
    rfl
  · simp only [settled, Arguments.set, hopen]
    rfl

/-- **A phrase, however it is spelled,** takes a reading from where it stands to the arguments that
say the phrase as well. -/
theorem foldlM_spelled (h : reading.StandsAt arguments) {phrase : Phrase} {words : List String}
    (hspelled : phrase.Spelled words) (hopen : arguments.LeavesOpen phrase) :
    ∃ next : Reading, words.foldlM step reading = .ok next ∧
      next.StandsAt (arguments.saying phrase) := by
  cases hspelled with
  | input hpath => exact of_step (h.step_input hopen hpath)
  | switch switch => exact of_step (h.step_switchWord hopen)
  | joined option value => exact of_step (h.step_optionWord hopen value)
  | apart option hvalue => exact h.foldlM_apart hopen (Word.ofText_longName option) hvalue
  | letter hvalue => exact h.foldlM_apart hopen (by decide) hvalue

/-- A row of phrases takes a reading to the arguments that say all of them as well. -/
theorem foldlM_row {phrases : List Phrase} {words : List (List String)}
    (hspelled : List.Forall₂ Phrase.Spelled phrases words) (h : reading.StandsAt arguments)
    (hadmits : arguments.Admits phrases) :
    ∃ last : Reading, words.flatten.foldlM step reading = .ok last ∧
      last.StandsAt (phrases.foldl Arguments.saying arguments) := by
  induction hspelled generalizing reading arguments with
  | nil => exact ⟨reading, rfl, h⟩
  | cons hphrase _ ih =>
    obtain ⟨next, hnext, hstands⟩ := h.foldlM_spelled hphrase hadmits.1
    obtain ⟨last, hlast, hend⟩ := ih hstands hadmits.2
    refine ⟨last, ?_, hend⟩
    rw [List.flatten_cons, List.foldlM_append, hnext, Steps.ok_bind, hlast]

/-- A reading that stands at arguments with an input, or with the switch that needs none, ends
with them. -/
theorem finish_eq (h : reading.StandsAt arguments)
    (hgiven : arguments.input.isSome ∨ arguments.listFormats = true) :
    reading.finish = .ok arguments := by
  have hsomething : arguments ≠ {} := by
    rintro rfl
    exact hgiven.elim nofun nofun
  have hinput : ¬(arguments.input.isNone ∧ arguments.listFormats = false) := by
    rintro ⟨hnone, hoff⟩
    rcases hgiven with hsome | hon
    · exact absurd hsome (by simpa using hnone)
    · exact absurd hon (by simp [hoff])
  rw [finish, h.settled_eq, Steps.ok_bind, if_neg hsomething, if_neg hinput]

end Reading.StandsAt

/-- **The order and the spelling of the phrases do not matter.** If no two phrases are about the
same thing, and the input or the switch for a list of formats is among them, then there are
arguments that say just these phrases, and every command line that has them in some order, each
in some spelling, is read as these arguments. -/
theorem Arguments.read_any_order {phrases : List Phrase}
    (hdistinct : (phrases.map Phrase.flag?).Nodup)
    (hgiven : (∃ path, .input path ∈ phrases) ∨ .switch .listFormats ∈ phrases) :
    ∃ arguments : Arguments, (∀ phrase, arguments.Says phrase ↔ phrase ∈ phrases) ∧
      ∀ (order : List Phrase) (words : List (List String)), order.Perm phrases →
        List.Forall₂ Phrase.Spelled order words →
          Arguments.read words.flatten = .ok arguments := by
  refine ⟨ofPhrases phrases, fun phrase => says_ofPhrases_iff hdistinct,
    fun order words horder hspelled => ?_⟩
  have hadmits : ({} : Arguments).Admits order :=
    admits_start ((horder.map Phrase.flag?).nodup_iff.2 hdistinct)
  obtain ⟨last, hlast, hstands⟩ := (Reading.standsAt_arguments {}).foldlM_row hspelled hadmits
  rw [← ofPhrases, ofPhrases_eq_of_perm hdistinct horder] at hstands
  have hend : (ofPhrases phrases).input.isSome ∨ (ofPhrases phrases).listFormats = true := by
    rcases hgiven with ⟨path, hpath⟩ | hlist
    · have hinput : (ofPhrases phrases).Says (.input path) :=
        (says_ofPhrases_iff hdistinct).2 hpath
      exact .inl (Option.isSome_of_eq_some hinput)
    · have hon : (ofPhrases phrases).Says (.switch .listFormats) :=
        (says_ofPhrases_iff hdistinct).2 hlist
      exact .inr hon
  rw [read, hlast, Steps.ok_bind, hstands.finish_eq hend]

/-- A shop with a name that looks like an option and an output that looks like a value, in two
orders and spellings. -/
theorem Arguments.shop_read_in_two_orders :
    let phrases : List Phrase := [.input "shop.json", .option .format "to", .option .output "a=b",
      .option .name "--no-toc", .switch .noToc]
    (phrases.map Phrase.flag?).Nodup ∧ .input "shop.json" ∈ phrases ∧
      ∃ arguments : Arguments, (∀ phrase, arguments.Says phrase ↔ phrase ∈ phrases) ∧
        Arguments.read ["shop.json", "--to=to", "--output", "a=b", "--name=--no-toc",
          "--no-toc"] = .ok arguments ∧
        Arguments.read ["--no-toc", "--name=--no-toc", "-o", "a=b", "shop.json", "--to",
          "to"] = .ok arguments := by
  intro phrases
  have hdistinct : (phrases.map Phrase.flag?).Nodup := by decide
  have hgiven : .input "shop.json" ∈ phrases := by decide
  obtain ⟨arguments, hsays, hread⟩ := read_any_order hdistinct (.inl ⟨"shop.json", hgiven⟩)
  refine ⟨hdistinct, hgiven, arguments, hsays, ?_, ?_⟩
  · exact hread phrases
      [["shop.json"], ["--to=to"], ["--output", "a=b"], ["--name=--no-toc"], ["--no-toc"]] .rfl
      (.cons (.input (by decide)) (.cons (.joined .format "to") (.cons (.apart .output (by decide))
        (.cons (.joined .name "--no-toc") (.cons (.switch .noToc) .nil)))))
  · exact hread [.switch .noToc, .option .name "--no-toc", .option .output "a=b",
        .input "shop.json", .option .format "to"]
      [["--no-toc"], ["--name=--no-toc"], ["-o", "a=b"], ["shop.json"], ["--to", "to"]] (by decide)
      (.cons (.switch .noToc) (.cons (.joined .name "--no-toc") (.cons (.letter (by decide))
        (.cons (.input (by decide)) (.cons (.apart .format (by decide)) .nil)))))

end ThriftPages
