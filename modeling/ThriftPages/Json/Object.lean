/-
# Objects of a JSON text

The members of an object are read one by one into a state. What to do with a
member is decided as soon as its key is known: `onKey` may refuse the key, or
give the reader of the value, which yields the next state.

Key definitions: `Json.OnKey`, `Json.members`.
-/
import ThriftPages.Json.StringLiteral

namespace ThriftPages.Json

open Text (Taken)

/-- What happens to a member whose key was read: the key is refused, or the
value is read into the next state. -/
def OnKey (ε σ : Type) : Type := σ → String → Except ε (Reader ε σ)

section

variable {ε σ : Type} (onKey : OnKey ε σ)

/-- The colon after a key, and what follows it. -/
def afterColon {α : Type} (read : Reader ε α) : Reader ε α := afterBlanks fun
  | ':' :: rest => (read rest).map Taken.after
  | [] => malformed .endInObject
  | _ => malformed .expectedColon

/-- A member from its key on; the opening quotation mark has been read. -/
def member (state : σ) : Reader ε σ := fun text => do
  let key ← stringRest text
  let valueReader ← (onKey state key.value).mapError .refused
  let value ← afterColon valueReader key.rest
  return (key.and value).map Prod.snd

/-- The member after a comma. -/
def memberAfterComma (state : σ) : Reader ε σ := afterBlanks fun
  | '"' :: rest => (member onKey state rest).map Taken.after
  | '}' :: _ => malformed .trailingComma
  | [] => malformed .endInValue
  | _ => malformed .keyNotString

/-- What follows a member of an object: one more, or the end. -/
def nextMember (state : σ) : Reader ε (σ ⊕ σ) := afterBlanks fun
  | [] => malformed .endInObject
  | '}' :: _ => .ok (.first (.inr state))
  | ',' :: rest =>
    (memberAfterComma onKey state rest).map fun taken => (taken.map .inl).after
  | _ => malformed .expectedObjectEnd

/-- The rest of an object after one of its members. -/
def moreMembers (state : σ) : Reader ε σ := fun text =>
  Text.loop (nextMember onKey) state text

/-- The members of an object up to its closing brace, the opening one having
been read. -/
def members (state : σ) : Reader ε σ := afterBlanks fun
  | [] => malformed .endInObject
  | '}' :: _ => .ok (.first state)
  | '"' :: rest => do
    let first ← member onKey state rest
    let others ← moreMembers onKey first.value first.rest
    return ((first.and others).map Prod.snd).after
  | _ => malformed .keyNotString

end

end ThriftPages.Json
