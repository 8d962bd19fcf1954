/-
# Reading types back

The text of a type says everything about it but the key types of its maps. A container is
known by the word that it opens with, and what is left without the closing bracket is the text
of its element or value type. A named type is a link, the only text with a square bracket in
front. Its name may hold brackets itself, but it is written twice between marks of a known
length, so that half of what is left is the name. Every other text is a keyword.

So a type can be read from its text (`TypeRef.ofChars_text`), and two types have the same text
if and only if they are equal without the key types of their maps (`TypeRef.text_eq_iff`).

Key definitions: `TypeRef.keywords`, `TypeRef.ofChars`.
Key theorems: `TypeRef.ofChars_text`, `TypeRef.text_eq_iff`.
-/
import ThriftPages.Proofs.Reference.Details

namespace ThriftPages

namespace TypeRef

/-- The types that are written as a keyword. -/
def keywords : List TypeRef :=
  [void, string, binary, bool, byte, double, enum, i8, i16, i32, i64]

/-- The name in a link, from what follows the opening bracket: the name, three marks, the name
again and the closing bracket. -/
def nameOfLink (rest : List Char) : String := String.ofList (rest.take ((rest.length - 4) / 2))

/-- The type that a text stands for, with no key type in its maps. -/
def ofChars : List Char → Option TypeRef
  | 'l' :: 'i' :: 's' :: 't' :: '<' :: rest => (ofChars rest.dropLast).map list
  | 's' :: 'e' :: 't' :: '<' :: rest => (ofChars rest.dropLast).map set
  | 'm' :: 'a' :: 'p' :: '<' :: rest => (ofChars rest.dropLast).map (map void)
  | '[' :: rest => some (named (nameOfLink rest))
  | word => keywords.find? fun keyword => keyword.text.toList = word
termination_by chars => chars.length
decreasing_by all_goals simp; omega

theorem nameOfLink_link (name : String) :
    nameOfLink (name.toList ++ "](#".toList ++ name.toList ++ [')']) = name := by
  have hlength : ((name.toList ++ "](#".toList ++ name.toList ++ [')']).length - 4) / 2 =
      name.toList.length := by
    simp
    omega
  rw [nameOfLink, hlength, List.append_assoc, List.append_assoc, List.take_left,
    String.ofList_toList]

/-- **A type is read from its text**, but for the key types of its maps. -/
theorem ofChars_text (type : TypeRef) : ofChars type.text.toList = some type.withoutKeys := by
  induction type with
  | list element ih | set element ih => simp [text, ofChars, withoutKeys, ih]
  | map key value _ ih => simp [text, ofChars, withoutKeys, ih]
  | named name =>
    have hlink : (link name).toList =
        '[' :: (name.toList ++ "](#".toList ++ name.toList ++ [')']) := by
      simp [link]
    rw [text, hlink, ofChars, nameOfLink_link]
    rfl
  | _ => simp [text, ofChars, withoutKeys, keywords]

/-- Types with the same text are equal without the key types of their maps. -/
theorem withoutKeys_of_text {a b : TypeRef} (h : a.text = b.text) :
    a.withoutKeys = b.withoutKeys := by
  have hread := ofChars_text a
  rw [h, ofChars_text b] at hread
  exact (Option.some.inj hread).symm

/-- **The texts of types are unambiguous up to the key types of maps**, whatever the names in
them are. -/
theorem text_eq_iff (a b : TypeRef) : a.text = b.text ↔ a.withoutKeys = b.withoutKeys := by
  refine ⟨withoutKeys_of_text, fun h => ?_⟩
  calc a.text = a.withoutKeys.text := a.text_withoutKeys.symm
    _ = b.withoutKeys.text := by rw [h]
    _ = b.text := b.text_withoutKeys

/-- A link to a name that is itself written like links is read as one link. -/
example : ofChars (named "a](#b)](#a").text.toList = some (named "a](#b)](#a") := ofChars_text _

end TypeRef

end ThriftPages
