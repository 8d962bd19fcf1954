/-
# Skipping a value

A value that nobody asks for is passed over without being built. The grammar is
that of JSON, checked less closely: brackets may be open to any depth, a number
may be of any size, and surrogates need no partner. A number that goes wrong is
malformed at once, even where the text ends.

The brackets that are open are kept in a list, the innermost first.

Key definitions: `Json.SkipState`, `Json.skipScalar`, `Json.skipStep`, `Json.skip`.
-/
import ThriftPages.Json.Value

namespace ThriftPages.Json

open Text (Taken Remaining)

/-- A bracket that is open. -/
inductive Bracket
  | square | curly
deriving DecidableEq

/-- What the text may go on with inside a bracket: a value, the first entry or the
end, a key after a comma, or what follows a value. -/
inductive Expecting
  | value
  | entry
  | key
  | next
deriving DecidableEq

/-- Where in a value the reader is: what may follow, the innermost bracket, and
those around it. -/
structure SkipState where
  expecting : Expecting
  bracket : Bracket
  outer : List Bracket
deriving DecidableEq

/-! ### Scalars -/

/-- The next character of a string literal passed over, or its end. -/
def skipStringItem : (text : List Char) → Except Malformed (Taken (Unit ⊕ Unit) text)
  | [] => .error .endInString
  | '"' :: _ => .ok (.first (.inr ()))
  | '\\' :: 'u' :: rest => (unit rest).map fun taken => (taken.map fun _ => .inl ()).after.after
  | ['\\'] => .error .endInString
  | '\\' :: c :: _ =>
    match shortEscape? c with
    | none => .error .invalidEscape
    | some _ => .ok (.second (.inl ()))
  | c :: _ => if c < ' ' then .error .controlCharacter else .ok (.first (.inl ()))

/-- A string literal passed over, its opening quotation mark having been read. -/
def skipString (text : List Char) : Except Malformed (Taken Unit text) :=
  Text.loop (fun _ => skipStringItem) () text

/-- A scalar passed over, or the bracket that a value opens with. -/
def skipScalar : (text : List Char) → Except Malformed (Taken (Option Bracket) text)
  | [] => .error .endInValue
  | '[' :: _ => .ok (.first (some .square))
  | '{' :: _ => .ok (.first (some .curly))
  | '"' :: rest => (skipString rest).map fun taken => (taken.map fun _ => none).after
  | 'n' :: rest => skipWord ['u', 'l', 'l'] rest
  | 't' :: rest => skipWord ['r', 'u', 'e'] rest
  | 'f' :: rest => skipWord ['a', 'l', 's', 'e'] rest
  | c :: rest =>
    if c = '-' ∨ c.isDigit then
      match scanNumber (c :: rest) with
      | .ok literal => .ok (literal.map fun _ => none)
      | .error _ => .error .invalidNumber
    else .error .expectedValue
where
  /-- The rest of a word passed over. -/
  skipWord {c : Char} (letters rest : List Char) :
      Except Malformed (Taken (Option Bracket) (c :: rest)) :=
    (word letters rest).map fun found => (found.map fun _ => none).after

/-! ### Brackets -/

/-- What a text that ends inside a bracket is missing. -/
def Bracket.endFault : Bracket → Malformed
  | square => .endInList
  | curly => .endInObject

/-- What is missing after an entry of a bracket. -/
def Bracket.entryFault : Bracket → Malformed
  | square => .expectedListEnd
  | curly => .expectedObjectEnd

/-- The character that closes a bracket. -/
def Bracket.closing : Bracket → Char
  | square => ']'
  | curly => '}'

/-- What follows a comma inside a bracket. -/
def Bracket.afterComma : Bracket → Expecting
  | square => .value
  | curly => .key

/-- Where the reader is after a value inside the given brackets: at the end, if
there are none. -/
def afterValue : List Bracket → SkipState ⊕ Unit
  | [] => .inr ()
  | bracket :: outer => .inl ⟨.next, bracket, outer⟩

/-- Where the reader is after a scalar or an opening bracket. -/
def afterScalar (opened : List Bracket) : Option Bracket → SkipState ⊕ Unit
  | none => afterValue opened
  | some bracket => .inl ⟨.entry, bracket, opened⟩

/-- Passes over a scalar or an opening bracket. -/
def skipValue (opened : List Bracket) (text : List Char) :
    Except Malformed (Taken (SkipState ⊕ Unit) text) :=
  (skipScalar text).map fun taken => taken.map (afterScalar opened)

/-- Passes over the colon after a key. -/
def skipColon : (text : List Char) → Except Malformed (Taken Unit text) := afterBlanks fun
  | ':' :: _ => .ok (.first ())
  | [] => .error .endInObject
  | _ => .error .expectedColon

/-- Passes over a key and its colon. -/
def skipKey (bracket : Bracket) (outer : List Bracket) : (text : List Char) →
    Except Malformed (Taken (SkipState ⊕ Unit) text)
  | '"' :: rest => do
    let key ← skipString rest
    let colon ← skipColon key.rest
    return ((key.and colon).map fun _ => .inl ⟨.value, bracket, outer⟩).after
  | [] => .error .endInObject
  | _ => .error .keyNotString

/-- Passes over what follows a value: a comma, or the end of its bracket. -/
def skipNext (bracket : Bracket) (outer : List Bracket) : (text : List Char) →
    Except Malformed (Taken (SkipState ⊕ Unit) text)
  | [] => .error bracket.endFault
  | c :: _ =>
    if c = ',' then .ok (.first (.inl ⟨bracket.afterComma, bracket, outer⟩))
    else if c = bracket.closing then .ok (.first (afterValue outer))
    else .error bracket.entryFault

/-- Passes over the beginning of the first entry of a bracket, or its end. -/
def skipEntry (bracket : Bracket) (outer : List Bracket) : (text : List Char) →
    Except Malformed (Taken (SkipState ⊕ Unit) text)
  | [] => .error bracket.endFault
  | c :: rest =>
    if c = bracket.closing then .ok (.first (afterValue outer))
    else
      match bracket with
      | .square => skipValue (.square :: outer) (c :: rest)
      | .curly => skipKey .curly outer (c :: rest)

/-- Goes one step through a value. -/
def skipStep (state : SkipState) : (text : List Char) →
    Except Malformed (Taken (SkipState ⊕ Unit) text) :=
  afterBlanks fun text =>
    match state.expecting with
    | .value => skipValue (state.bracket :: state.outer) text
    | .entry => skipEntry state.bracket state.outer text
    | .key => skipKey state.bracket state.outer text
    | .next => skipNext state.bracket state.outer text

/-- The rest of a value passed over, after a scalar or an opening bracket. -/
def skipRest (text : List Char) : SkipState ⊕ Unit → Except Malformed (Remaining Unit text)
  | .inr () => .ok (.nothing ())
  | .inl state => (Text.loop skipStep state text).map Taken.found

/-- A value passed over. -/
def skip {ε : Type} : Reader ε Unit := afterBlanks fun text =>
  match skipValue [] text with
  | .error fault => malformed fault
  | .ok first =>
    match skipRest first.rest first.value with
    | .error fault => malformed fault
    | .ok others => .ok ((first.andFound others).map Prod.snd)

end ThriftPages.Json
