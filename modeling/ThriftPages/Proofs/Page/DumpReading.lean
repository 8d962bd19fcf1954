/-
# Reading the dump of an outline

The dump is read as JSON without a limit on its depth. A string is a raw text,
an array a sequence, and an object the block that its `type` names. The three
forms are disjoint and the parts of a block are found by name, so the dump of
every outline is read back as that outline: no two outlines have the same dump,
and the text of the page can be made from the dump alone.

The outline of a page is shallow: its dump has at most seven brackets inside one
another (`Document.depth_toJson_le`).

Key definitions: `Block.ofMembers?`, `Outline.ofJson?`, `Outline.ofDump?`.
Key theorems: `Outline.ofJson?_toJson`, `Outline.ofDump?_dump`,
`Document.depth_toJson_le`, `Format.dump_and_page_agree`.
-/
import ThriftPages.Formats.Format
import ThriftPages.Proofs.Json.Writing

namespace ThriftPages

/-! ### The decoder -/

namespace Json

/-- The text of a string. -/
def asText? : Json → Option String
  | string text => some text
  | _ => none

/-- The texts of an array of strings. -/
def asTexts? : Json → Option (List String)
  | array elements => elements.mapM asText?
  | _ => none

/-- The texts of an array of arrays of strings. -/
def asRows? : Json → Option (List (List String))
  | array elements => elements.mapM asTexts?
  | _ => none

/-- The text of a string, or the absent text that a null stands for. -/
def asOptional? : Json → Option (Option String)
  | null => some none
  | value => value.asText?.map some

end Json

/-- The text of a block: a string, or an array of strings. -/
def BlockText.ofJson? : Json → Option BlockText
  | .string text => some (single text)
  | value => value.asTexts?.map lines

/-- The level of a given name. -/
def HeadingLevel.ofName? (name : String) : Option HeadingLevel :=
  all.find? fun level => level.name = name

/-- The kind of list of a given name. -/
def ListKind.ofName? (name : String) : Option ListKind :=
  [ordered, unordered].find? fun kind => kind.name = name

namespace Block

/-- The kinds of blocks by name, each with the parts that it is made from. -/
def readers (part : String → Option Json) : List (String × Option Block) :=
  [("heading", do
      let level ← (← (← part "level").asText?) |> HeadingLevel.ofName?
      return heading level (← (← part "text").asText?)),
    ("paragraph", do return paragraph (← BlockText.ofJson? (← part "text"))),
    ("block_quote", do return quote (← BlockText.ofJson? (← part "text"))),
    ("image", do
      return image (← (← part "source").asText?) (← (← part "title").asOptional?)
        (← (← part "alt_text").asOptional?)),
    ("list", do
      let kind ← (← (← part "kind").asText?) |> ListKind.ofName?
      return list kind (← (← part "items").asTexts?)),
    ("code_block", do
      return code (← (← part "language").asText?) (← BlockText.ofJson? (← part "lines"))),
    ("table", do
      return table (← (← part "headers").asTexts?) (← (← part "rows").asRows?))]

/-- The block that an object's members describe, its kind being named by `type`. -/
def ofMembers? (members : List (String × Json)) : Option Block := do
  let kind ← (← members.lookup "type").asText?
  (← (readers fun name => members.lookup name).lookup kind)

end Block

namespace Outline

mutual

/-- The outline that a value describes. -/
def ofJson? : Json → Option Outline
  | .string text => some (.raw text)
  | .array elements => (ofJsonAll? elements).map .seq
  | .object members => (Block.ofMembers? members).map .block
  | _ => none

/-- The outlines that the values describe. -/
def ofJsonAll? : List Json → Option (List Outline)
  | [] => some []
  | value :: rest => do return (← ofJson? value) :: (← ofJsonAll? rest)

end

/-- The outline that a text describes. -/
def ofDump? (text : String) : Option Outline := (Json.ofText? text).bind ofJson?

end Outline

/-! ### Every part is read back -/

theorem mapM_asText?_string : ∀ texts : List String,
    (texts.map Json.string).mapM Json.asText? = some texts
  | [] => rfl
  | text :: texts => by
    rw [List.map_cons, List.mapM_cons, mapM_asText?_string texts]
    rfl

@[simp] theorem asTexts?_jsonStrings (texts : List String) :
    (jsonStrings texts).asTexts? = some texts := mapM_asText?_string texts

theorem mapM_asTexts?_jsonStrings : ∀ rows : List (List String),
    (rows.map jsonStrings).mapM Json.asTexts? = some rows
  | [] => rfl
  | row :: rows => by
    rw [List.map_cons, List.mapM_cons, mapM_asTexts?_jsonStrings rows, asTexts?_jsonStrings]
    rfl

@[simp] theorem asRows?_array (rows : List (List String)) :
    (Json.array (rows.map jsonStrings)).asRows? = some rows := mapM_asTexts?_jsonStrings rows

@[simp] theorem asOptional?_jsonOptional (text : Option String) :
    (jsonOptional text).asOptional? = some text := by
  cases text <;> rfl

@[simp] theorem BlockText.ofJson?_toJson : ∀ text : BlockText, ofJson? text.toJson = some text
  | single _ => rfl
  | lines texts => congrArg (Option.map lines) (asTexts?_jsonStrings texts)

@[simp] theorem HeadingLevel.ofName?_name (level : HeadingLevel) :
    ofName? level.name = some level := by
  cases level <;> rfl

@[simp] theorem ListKind.ofName?_name (kind : ListKind) : ofName? kind.name = some kind := by
  cases kind <;> rfl

/-- A block is read back from its members. -/
theorem Block.ofMembers?_parts (block : Block) :
    ofMembers? (("type", .string block.kind) :: block.parts) = some block := by
  cases block <;> simp [ofMembers?, readers, parts, kind, List.lookup_cons, Json.asText?]

namespace Outline

theorem toJsonAll_eq : ∀ children : List Outline, toJsonAll children = children.map toJson
  | [] => rfl
  | child :: rest => by rw [toJsonAll, toJsonAll_eq rest, List.map_cons]

theorem toJson_seq (children : List Outline) :
    (seq children).toJson = .array (children.map toJson) := by
  rw [toJson, toJsonAll_eq]

theorem ofJsonAll?_map_toJson : ∀ children : List Outline,
    (∀ c ∈ children, ofJson? c.toJson = some c) →
    ofJsonAll? (children.map toJson) = some children
  | [], _ => rfl
  | child :: rest, h => by
    rw [List.map_cons, ofJsonAll?, h child (List.mem_cons_self ..),
      ofJsonAll?_map_toJson rest fun c hc => h c (List.mem_cons_of_mem _ hc)]
    rfl

/-- **An outline is read back from its JSON value.** -/
theorem ofJson?_toJson (t : Outline) : ofJson? t.toJson = some t := by
  induction t using nested with
  | block b => exact congrArg (Option.map block) b.ofMembers?_parts
  | raw text => rfl
  | seq children ih => rw [toJson_seq, ofJson?, ofJsonAll?_map_toJson children ih, Option.map_some]

end Outline

/-! ### The written text -/

namespace Json

theorem exact_strings (texts : List String) : Exact (jsonStrings texts) :=
  .array fun _ hv => by
    obtain ⟨text, -, rfl⟩ := List.mem_map.1 hv
    exact .string text

theorem exact_optional (text : Option String) : Exact (jsonOptional text) := by
  cases text with
  | none => exact .null
  | some text => exact .string text

end Json

theorem BlockText.exact_toJson : ∀ text : BlockText, text.toJson.Exact
  | single text => .string text
  | lines texts => Json.exact_strings texts

theorem Block.exact_toJson (block : Block) : block.toJson.Exact := by
  have hrows : ∀ rows : List (List String), (Json.array (rows.map jsonStrings)).Exact := fun rows =>
    .array fun _ hv => by
      obtain ⟨row, -, rfl⟩ := List.mem_map.1 hv
      exact Json.exact_strings row
  refine .object (List.forall_mem_cons.2 ⟨.string _, ?_⟩)
  cases block <;>
    simp [parts, Json.Exact.string, Json.exact_strings, Json.exact_optional, hrows,
      BlockText.exact_toJson]

namespace Outline

/-- The value of an outline has no numbers. -/
theorem exact_toJson (t : Outline) : t.toJson.Exact := by
  induction t using nested with
  | block b => exact b.exact_toJson
  | raw text => exact .string text
  | seq children ih =>
    rw [toJson_seq]
    refine .array fun v hv => ?_
    obtain ⟨child, hchild, rfl⟩ := List.mem_map.1 hv
    exact ih child hchild

/-- **An outline is read back from its dump.** -/
theorem ofDump?_dump (t : Outline) : ofDump? t.dump = some t := by
  rw [ofDump?, dump, Json.ofText?_indented t.exact_toJson, Option.bind_some, ofJson?_toJson]

/-- An outline is read back from the text of its value without blanks. -/
theorem ofDump?_compact (t : Outline) : ofDump? t.toJson.compact = some t := by
  rw [ofDump?, Json.ofText?_compact t.exact_toJson, Option.bind_some, ofJson?_toJson]

end Outline

/-! ### The depth of a page -/

namespace Json

@[simp] theorem depth_string (text : String) : (string text).depth = 0 := by rw [depth] <;> simp

theorem depth_strings_le (texts : List String) : (jsonStrings texts).depth ≤ 1 := by
  rw [jsonStrings, depth, Nat.add_le_add_iff_right, depthOfElements_le_iff]
  intro v hv
  obtain ⟨text, -, rfl⟩ := List.mem_map.1 hv
  exact Nat.le_refl 0

end Json

namespace Block

theorem depth_toJson_le_iff (block : Block) (n : Nat) :
    block.toJson.depth ≤ n + 1 ↔ ∀ m ∈ block.parts, m.2.depth ≤ n := by
  rw [toJson, Json.depth, Nat.add_le_add_iff_right, Json.depthOfMembers_le_iff,
    List.forall_mem_cons]
  exact and_iff_right (Nat.zero_le n)

/-- A heading and a quote of one piece hold nothing but strings. -/
theorem depth_heading_le (level : HeadingLevel) (text : String) :
    (heading level text).toJson.depth ≤ 1 := by
  simp [depth_toJson_le_iff, parts]

theorem depth_quote_single_le (text : String) : (quote (.single text)).toJson.depth ≤ 1 := by
  simp [depth_toJson_le_iff, parts, BlockText.toJson]

/-- The deepest block is a table: rows of cells. -/
theorem depth_toJson_le (block : Block) : block.toJson.depth ≤ 3 := by
  have hrows : ∀ rows : List (List String), (Json.array (rows.map jsonStrings)).depth ≤ 2 := by
    intro rows
    rw [Json.depth, Nat.add_le_add_iff_right, Json.depthOfElements_le_iff]
    intro v hv
    obtain ⟨row, -, rfl⟩ := List.mem_map.1 hv
    exact Json.depth_strings_le row
  have hstrings : ∀ texts, (jsonStrings texts).depth ≤ 2 := fun texts =>
    Nat.le_succ_of_le (Json.depth_strings_le texts)
  have htext : ∀ text : BlockText, text.toJson.depth ≤ 2 := by
    intro text
    cases text with
    | single _ => exact Nat.zero_le _
    | lines texts => exact hstrings texts
  have hoptional : ∀ text, (jsonOptional text).depth ≤ 2 := by
    intro text
    cases text <;> exact Nat.zero_le _
  rw [depth_toJson_le_iff]
  cases block <;> simp [parts, hrows, hstrings, htext, hoptional]

end Block

namespace Outline

theorem depth_seq_le_iff (children : List Outline) (n : Nat) :
    (seq children).toJson.depth ≤ n + 1 ↔ ∀ c ∈ children, c.toJson.depth ≤ n := by
  rw [toJson_seq, Json.depth, Nat.add_le_add_iff_right, Json.depthOfElements_le_iff,
    List.forall_mem_map]

/-- A row of blocks is one level deeper than the deepest block. -/
theorem depth_ofBlocks_le (blocks : List Block) : (ofBlocks blocks).toJson.depth ≤ 4 := by
  rw [ofBlocks, depth_seq_le_iff, List.forall_mem_map]
  exact fun b _ => b.depth_toJson_le

end Outline

/-- The functions of a service are rows of their own, but no function has a table. -/
theorem Service.depth_outline_le (s : Service) : s.outline.toJson.depth ≤ 4 := by
  have hfunction : ∀ f : Function, f.outline.toJson.depth ≤ 2 := by
    intro f
    rw [Function.outline, Outline.ofBlocks, Outline.depth_seq_le_iff]
    simp [Outline.toJson, Block.depth_heading_le, Block.depth_quote_single_le]
  have hfunctions : (Outline.seq (s.functions.map Function.outline)).toJson.depth ≤ 3 := by
    rw [Outline.depth_seq_le_iff, List.forall_mem_map]
    exact fun f _ => hfunction f
  have hheading : (Outline.block (.heading .h3 s.name)).toJson.depth ≤ 3 :=
    Block.depth_toJson_le _
  rw [Service.outline, Outline.depth_seq_le_iff]
  simp [hheading, hfunctions]

theorem headedOutline_depth_le {title : String} {declarations : List Outline}
    (h : ∀ d ∈ declarations, d.toJson.depth ≤ 4) :
    (headedOutline title declarations).toJson.depth ≤ 6 := by
  have hheading : (Outline.block (.heading .h2 title)).toJson.depth ≤ 5 :=
    Nat.le_trans (Block.depth_toJson_le _) (by decide)
  have hdeclarations : (Outline.seq declarations).toJson.depth ≤ 5 :=
    (Outline.depth_seq_le_iff declarations 4).2 h
  rw [headedOutline, Outline.depth_seq_le_iff]
  simp [hheading, hdeclarations]

theorem Section.depth_outline_le (fileName : String) (options : PageOptions) (doc : Document)
    (s : Section) : (s.outline fileName options doc).toJson.depth ≤ 6 := by
  have hblock : ∀ b : Block, (Outline.block b).toJson.depth ≤ 5 := fun b =>
    Nat.le_trans b.depth_toJson_le (by decide)
  have hblocks : ∀ blocks, (Outline.ofBlocks blocks).toJson.depth ≤ 5 := fun blocks =>
    Nat.le_succ_of_le (Outline.depth_ofBlocks_le blocks)
  have htoc : ∀ t ∈ tocOutline options, t.toJson.depth ≤ 5 := by
    rw [tocOutline]
    split
    · rw [List.forall_mem_singleton, Outline.depth_seq_le_iff]
      simp [Outline.toJson]
    · simp
  cases s with
  | header =>
    rw [outline, headerOutline, Outline.depth_seq_le_iff]
    simpa [or_imp, forall_and, hblock, hblocks] using htoc
  | constants => exact Nat.le_succ_of_le (hblocks _)
  | types => exact headedOutline_depth_le (by simp [Typedef.outline, Outline.depth_ofBlocks_le])
  | enumerations =>
    exact headedOutline_depth_le (by simp [Enumeration.outline, Outline.depth_ofBlocks_le])
  | structures => exact headedOutline_depth_le (by simp [Struct.outline, Outline.depth_ofBlocks_le])
  | services => exact headedOutline_depth_le (by simp [Service.depth_outline_le])

/-- **The dump of a page nests at most seven brackets.** -/
theorem Document.depth_toJson_le (fileName : String) (options : PageOptions) (doc : Document) :
    (doc.outline fileName options).toJson.depth ≤ 7 := by
  rw [Document.outline, Outline.depth_seq_le_iff, List.forall_mem_map]
  exact fun s _ => Section.depth_outline_le fileName options doc s

/-! ### The two formats -/

/-- **The dump says all that the page says.** Every outline is read back from its
dump, so that no two have the same one, and every block from its compact text.
The page of a document can be made from its dump, which is read with room for
seven brackets inside one another. -/
theorem Format.dump_and_page_agree :
    (∀ t : Outline, Outline.ofDump? t.dump = some t) ∧
    (∀ t u : Outline, t.dump = u.dump → t = u) ∧
    (∀ block : Block, Outline.ofDump? block.toJson.compact = some (.block block)) ∧
    (∀ fileName options doc, ∃ dumped t,
      json.write fileName doc options = .ok dumped ∧ Outline.ofDump? dumped = some t ∧
      markdown.write fileName doc options = .ok t.text) ∧
    ∀ fileName options (doc : Document), ∃ value,
      value.depth ≤ 7 ∧ Json.ofTextWithin? 7 (doc.outline fileName options).dump = some value ∧
      Outline.ofJson? value = some (doc.outline fileName options) := by
  refine ⟨Outline.ofDump?_dump, ?_, fun block => ?_, fun fileName options doc => ?_,
    fun fileName options doc => ?_⟩
  · intro t u h
    have hread := congrArg Outline.ofDump? h
    rwa [Outline.ofDump?_dump, Outline.ofDump?_dump, Option.some.injEq] at hread
  · exact Outline.ofDump?_compact (.block block)
  · exact ⟨_, _, rfl, Outline.ofDump?_dump _, rfl⟩
  · have hdepth := Document.depth_toJson_le fileName options doc
    have hspelled := Json.spellsText_of_spells
      (Json.spells_indentedAt (doc.outline fileName options).exact_toJson 0)
    exact ⟨_, hdepth, Json.ofTextWithin?_spelled hspelled hdepth, Outline.ofJson?_toJson _⟩

end ThriftPages
