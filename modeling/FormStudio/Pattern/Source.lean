import FormStudio.Pattern.Error

/-!
# Written patterns

A written pattern is read token by token: a backslash and the character behind it are one token,
every other character is one of its own. The reader always looks one token ahead, so that a lone
backslash at the end is noticed as soon as the token before it has been taken.

Main statement: `Token.textOf_tokens`, the tokens are the whole pattern but for a lone backslash.
-/
namespace FormStudio

/-- A token of a written pattern. -/
inductive Token where
  | plain (c : Char)
  /-- A character behind a backslash. -/
  | escaped (c : Char)
  deriving DecidableEq, Repr

namespace Token

/-- How a token is written. -/
def text : Token → List Char
  | .plain c => [c]
  | .escaped c => ['\\', c]

def width (t : Token) : Nat := t.text.length

/-- The tokens of a text, and whether a lone backslash ends it. -/
def tokens : List Char → List Token × Bool
  | [] => ([], false)
  | ['\\'] => ([], true)
  | '\\' :: c :: rest => let (more, dangling) := tokens rest; (.escaped c :: more, dangling)
  | c :: rest => let (more, dangling) := tokens rest; (.plain c :: more, dangling)

theorem textOf_tokens (cs : List Char) :
    (tokens cs).1.flatMap text ++ (if (tokens cs).2 then ['\\'] else []) = cs := by
  fun_induction tokens cs with
  | case1 => simp
  | case2 => simp
  | case3 c rest more dangling h ih => simpa [text, h] using ih
  | case4 c rest _ _ more dangling h ih => simpa [text, h] using ih

end Token

/-- What is left of a written pattern. -/
structure Source where
  written : String
  /-- How many characters have been taken. -/
  position : Nat
  rest : List Token
  /-- Whether a lone backslash ends the pattern. -/
  dangling : Bool
  deriving DecidableEq, Repr

abbrev Reading := StateT Source (Except PatternError)

namespace Reading

def failAt {α : Type} (fault : PatternFault) (position : Nat) : Reading α := do
  throw (.malformed fault (← get).written position)

/-- Fails some characters before the current position. -/
def fail {α : Type} (fault : PatternFault) (back : Nat) : Reading α := do
  failAt fault ((← get).position - back)

def peek? : Reading (Option Token) := do pure (← get).rest.head?

/-- Notices a lone backslash that comes next. -/
def lookAhead : Reading Unit := do
  let source ← get
  if source.rest.isEmpty && source.dangling then failAt .loneBackslash source.position

/-- Takes the next token. -/
def take? : Reading (Option Token) := do
  let source ← get
  match source.rest with
  | [] => pure none
  | token :: rest =>
    set { source with rest := rest, position := source.position + token.width }
    lookAhead
    pure (some token)

/-- Takes the next token if it is a given character. -/
def accept (c : Char) : Reading Bool := do
  if (← peek?) = some (.plain c) then
    let _ ← take?
    pure true
  else pure false

/-- Takes characters of a kind, up to a number of them. -/
def takeWhile (kind : Char → Bool) : Nat → Reading (List Char)
  | 0 => pure []
  | count + 1 => do
    match ← peek? with
    | some (.plain c) =>
      if kind c then
        let _ ← take?
        let more ← takeWhile kind count
        pure (c :: more)
      else pure []
    | _ => pure []

/-- Takes a name up to the mark that ends it; `taken` holds what there is of it. -/
def nameUpTo (mark : Char) (what : String) : Nat → List Char → Reading String
  | 0, taken => fail (.unterminatedName mark) taken.length
  | count + 1, taken => do
    match ← take? with
    | none =>
      if taken.isEmpty then fail (.missing what) 0
      else fail (.unterminatedName mark) taken.length
    | some token =>
      if token = .plain mark then
        if taken.isEmpty then fail (.missing what) 1 else pure (String.ofList taken)
      else nameUpTo mark what count (taken ++ token.text)

/-- Takes a name and the mark that ends it. -/
def name (mark : Char) (what : String) : Reading String := do
  nameUpTo mark what ((← get).rest.length + 1) []

end Reading

def Reading.run {α : Type} (reading : Reading α) (written : String) : Except PatternError α :=
  let (tokens, dangling) := Token.tokens written.toList
  (do Reading.lookAhead; reading).run' ⟨written, 0, tokens, dangling⟩

end FormStudio
