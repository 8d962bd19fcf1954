/-
# What documentation keeps of comments

Documentation is made comment by comment, and a line comment adds nothing to it.
Every segment of a block comment loses the white space it starts with and nothing
else, so what can be seen of the documentation is what can be seen of the
segments (`visible_documentation`). In a table the marker stands once for every
line break: the parts between the line breaks are left as they are, with one
marker between two of them (`documentationIn_eq_intercalate`).

Key definitions: `Text.visible`, `Text.betweenBreaks`, `documentationWith`.
Key theorems: `visible_documentation`, `documentationIn_eq_intercalate`,
`documentation_of_comments`.
-/
import ThriftPages.Proofs.Reference.Details
import ThriftPages.Proofs.Reference.Words

namespace ThriftPages

namespace Text

/-- The characters of a text that are no white space. -/
def visible (text : List Char) : List Char := text.filter fun c => !isWhiteSpace c

theorem visible_flatMap {α : Type} (part : α → List Char) (items : List α) :
    visible (items.flatMap part) = items.flatMap fun item => visible (part item) :=
  List.filter_flatMap ..

/-- White space at the start of a text cannot be seen. -/
theorem visible_trimStart : ∀ text : List Char, visible (trimStart text) = visible text
  | [] => rfl
  | c :: rest => by
    have ih := visible_trimStart rest
    unfold visible trimStart at ih ⊢
    rw [List.dropWhile_cons]
    split
    · next hspace => rw [ih, List.filter_cons_of_neg (by simp [hspace])]
    · rfl

/-- The parts of a text between its line feeds and carriage returns. -/
def betweenBreaks (text : String) : List String :=
  (text.toList.splitOnP fun c => IsLineBreak c).map String.ofList

/-- To replace every separator of a text is to join the parts between them. -/
theorem flatMap_replace (separator : Char → Prop) [DecidablePred separator] (marker : List Char) :
    ∀ text : List Char, (text.flatMap fun c => if separator c then marker else [c]) =
      marker.intercalate (text.splitOnP fun c => separator c)
  | [] => by simp
  | c :: rest => by
    have ih := flatMap_replace separator marker rest
    have hparts := List.splitOnP_ne_nil (fun c => decide (separator c)) rest
    rw [List.flatMap_cons, ih, List.splitOnP_cons_eq_if_modifyHead]
    by_cases hc : separator c
    · rw [if_pos hc, if_pos (decide_eq_true hc), List.intercalate_cons_of_ne_nil hparts,
        List.nil_append]
    · -- The character goes to the first part, whether others follow or not.
      obtain ⟨first, others, hsplit⟩ := List.exists_cons_of_ne_nil hparts
      rw [hsplit]
      cases others <;> simp [hc]

end Text

open Text

/-- The documentation with what stands for a line break, or with the line breaks if nothing
does. -/
def documentationWith : Option String → List Comment → String
  | none => documentation
  | some marker => documentationIn marker

/-! ### Comment by comment -/

theorem documentationChars_append (a b : List Comment) :
    documentationChars (a ++ b) = documentationChars a ++ documentationChars b :=
  List.flatMap_append

theorem documentationIn_append (marker : String) (a b : List Comment) :
    documentationIn marker (a ++ b) = documentationIn marker a ++ documentationIn marker b := by
  rw [← String.toList_inj]
  simp [documentationIn, documentationChars_append]

theorem documentationWith_append (marker : Option String) (a b : List Comment) :
    documentationWith marker (a ++ b) =
      documentationWith marker a ++ documentationWith marker b := by
  cases marker with
  | none => exact documentation_append a b
  | some marker => exact documentationIn_append marker a b

/-- Comments with the same block comments in the same order have the same documentation. -/
theorem documentationWith_congr (marker : Option String) {a b : List Comment}
    (h : a.filter Comment.isBlock = b.filter Comment.isBlock) :
    documentationWith marker a = documentationWith marker b := by
  cases marker with
  | none =>
    rw [documentationWith, ← documentation_withoutLineComments a,
      ← documentation_withoutLineComments b, withoutLineComments, withoutLineComments, h]
  | some marker =>
    rw [documentationWith, ← documentationIn_withoutLineComments marker a,
      ← documentationIn_withoutLineComments marker b, withoutLineComments, withoutLineComments, h]

/-! ### Character by character -/

/-- The segments of the block comments among some comments. -/
def blockSegments (comments : List Comment) : List String := comments.flatMap Comment.segments

/-- **What can be seen of the documentation** is what can be seen of the segments, in order. -/
theorem visible_documentation (comments : List Comment) :
    visible (documentation comments).toList =
      (blockSegments comments).flatMap fun segment => visible segment.toList := by
  rw [documentation, String.toList_ofList, blockSegments, List.flatMap_assoc, documentationChars]
  simp only [visible_flatMap, visible_trimStart]

/-- **The marker stands once for each line break.** -/
theorem documentationIn_eq_intercalate (marker : String) (comments : List Comment) :
    documentationIn marker comments =
      String.intercalate marker (betweenBreaks (documentation comments)) := by
  have hreplace := flatMap_replace IsLineBreak marker.toList (documentationChars comments)
  have hchars : (betweenBreaks (documentation comments)).map String.toList =
      (documentationChars comments).splitOnP fun c => IsLineBreak c := by
    simp [betweenBreaks, documentation, Function.comp_def]
  rw [← String.toList_inj, documentationIn, String.toList_ofList, String.toList_intercalate, hchars]
  exact hreplace

/-- Documentation in a table is one line if what stands for a line break is. -/
theorem oneLine_documentationIn {marker : String} (h : OneLine marker) (comments : List Comment) :
    OneLine (documentationIn marker comments) :=
  (each_documentationIn h comments).2 fun _ _ hbreak => hbreak

/-- Documentation in a table is of a class that has all white space exactly if the segments
are, provided that what stands for a line break is. -/
theorem each_documentationIn_iff {good : Char → Prop} {marker : String} (hmarker : Each good marker)
    (hspace : ∀ c, isWhiteSpace c → good c) (comments : List Comment) :
    Each good (documentationIn marker comments) ↔
      ∀ segment ∈ blockSegments comments, Each good segment := by
  have hbreak : ∀ c, IsLineBreak c → good c := by
    rintro c (rfl | rfl) <;> exact hspace _ (by decide)
  have hvisible : ∀ text : List Char, (∀ c ∈ visible text, good c) ↔ ∀ c ∈ text, good c := by
    intro text
    simp only [visible, List.mem_filter, and_imp]
    refine forall₂_congr fun c _ => ⟨fun h => ?_, fun h _ => h⟩
    by_cases hc : isWhiteSpace c
    · exact hspace c hc
    · exact h (by simp [hc])
  calc Each good (documentationIn marker comments)
      ↔ ∀ c ∈ documentationChars comments, ¬ IsLineBreak c → good c :=
        each_documentationIn hmarker comments
    _ ↔ ∀ c ∈ (documentation comments).toList, good c := by
        rw [documentation, String.toList_ofList]
        exact forall₂_congr fun c _ =>
          ⟨fun h => (Decidable.em (IsLineBreak c)).elim (hbreak c) h, fun h _ => h⟩
    _ ↔ ∀ c ∈ visible (documentation comments).toList, good c := (hvisible _).symm
    _ ↔ ∀ segment ∈ blockSegments comments, Each good segment := by
        rw [visible_documentation, List.forall_mem_flatMap]
        exact forall₂_congr fun segment _ => hvisible segment.toList

/-- **Documentation is made of comments piece by piece, and nothing is lost.** With or without a
marker, the documentation of two rows of comments is that of the first, then that of the second,
and line comments do not count wherever they stand. What can be seen of it without a marker is
what can be seen of the segments of the block comments, in order. With a marker it is the same
text with one marker in the place of each line break, so it has no line break if the marker has
none. -/
theorem documentation_of_comments :
    (∀ (marker : Option String) (a b : List Comment), documentationWith marker (a ++ b) =
      documentationWith marker a ++ documentationWith marker b) ∧
    (∀ (marker : Option String) (a b : List Comment),
      a.filter Comment.isBlock = b.filter Comment.isBlock →
      documentationWith marker a = documentationWith marker b) ∧
    (∀ comments : List Comment, visible (documentationWith none comments).toList =
      (blockSegments comments).flatMap fun segment => visible segment.toList) ∧
    (∀ (marker : String) (comments : List Comment), documentationWith (some marker) comments =
      String.intercalate marker (betweenBreaks (documentationWith none comments))) ∧
    ∀ marker : String, OneLine marker →
      ∀ comments : List Comment, OneLine (documentationWith (some marker) comments) :=
  ⟨documentationWith_append, fun marker _ _ h => documentationWith_congr marker h,
    visible_documentation, documentationIn_eq_intercalate,
    fun _ h comments => oneLine_documentationIn h comments⟩

/-- A line comment between two block comments, and a marker for two line breaks in a row. -/
theorem documentation_without_line_comment :
    let first : Comment := .block [" deep\r\n", "\tred"]
    let last : Comment := .block ["\n also  "]
    let marker := some "<br/>"
    [first, .line "internal", last].filter Comment.isBlock = [first, last].filter Comment.isBlock ∧
      documentationWith marker [first, .line "internal", last] =
        documentationWith marker [first, last] ∧
      OneLine "<br/>" ∧ OneLine (documentationWith marker [first, last]) := by
  intro first last marker
  obtain ⟨-, hlines, -, -, hmarked⟩ := documentation_of_comments
  have hblocks : [first, .line "internal", last].filter Comment.isBlock =
      [first, last].filter Comment.isBlock := by decide
  have hmarker : OneLine "<br/>" := by decide
  exact ⟨hblocks, hlines marker _ _ hblocks, hmarker, hmarked "<br/>" hmarker _⟩

end ThriftPages
