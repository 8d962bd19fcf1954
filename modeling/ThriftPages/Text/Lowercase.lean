/-
# Lower-case text

Every character is replaced by its lower-case form. Two are special: a capital I
with a dot becomes two characters, and a capital sigma becomes the final form
where it ends a word, that is, where the nearest character before it that is not
case-ignorable is a letter with a case and the nearest one after it is not.

Key definitions: `Text.lowercase`.
-/
import ThriftPages.Text.CaseTables

namespace ThriftPages.Text

/-- The lower-case form of one character, where it is one character. -/
def lowerChar (c : Char) : Char :=
  if c.toNat < 0x80 then c.toLower
  else
    match lowerRuns.find? fun run =>
        run.first ≤ c.toNat && c.toNat ≤ run.last && (c.toNat - run.first) % run.stride == 0 with
    | some run => Char.ofNat ((c.toNat : Int) + run.offset).toNat
    | none => c

/-- Whether the nearest character that is not case-ignorable has a case. -/
def nextIsCased (text : List Char) : Bool :=
  match text.dropWhile caseIgnorable.contains with
  | [] => false
  | c :: _ => cased.contains c

/-- The lower-case form of a text; `before` is what stands before it, the nearest
character first. -/
def lowerAfter (before : List Char) : List Char → List Char
  | [] => []
  | c :: rest =>
    let lower :=
      if c = 'Σ' then if nextIsCased before && !nextIsCased rest then ['ς'] else ['σ']
      else if c = 'İ' then ['i', '\u0307']
      else [lowerChar c]
    lower ++ lowerAfter (c :: before) rest

/-- The lower-case form of a text. -/
def lowercase (text : String) : String := String.ofList (lowerAfter [] text.toList)

end ThriftPages.Text
