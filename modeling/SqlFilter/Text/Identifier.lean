/-!
# Identifiers and column expressions

* An identifier is an ASCII letter or `_` followed by ASCII letters, digits and `_`.
* A column expression is an identifier followed by any number of hops into a JSON document, each `->` or `->>`
  and a quoted key over ASCII letters, digits, `_` and `-`.
* Both languages are regular: `isIdentifier` looks at the characters one by one, `isColumnExpression` runs the
  automaton `PathState.step`.
* `sanitize` keeps the words of a text, joined by `_`.
-/

namespace SqlFilter.Text

/-- An ASCII letter or `_`. -/
def isWordStart (c : Char) : Bool := c.isAlpha || c = '_'

/-- An ASCII letter, a digit or `_`. -/
def isWordChar (c : Char) : Bool := c.isAlphanum || c = '_'

/-- A character of a JSON key: a word character or `-`. -/
def isKeyChar (c : Char) : Bool := isWordChar c || c = '-'

def isWord : List Char → Bool
  | [] => false
  | c :: r => isWordStart c && r.all isWordChar

def isIdentifier (s : String) : Bool := isWord s.toList

/-- How far a column expression has been read. -/
inductive PathState
  /-- Nothing is read yet. -/
  | start
  /-- Inside the identifier in front. -/
  | word
  /-- After the `-` of a hop. -/
  | dash
  /-- After `->`. -/
  | arrow
  /-- After `->>`. -/
  | wideArrow
  /-- After the opening quote of a key. -/
  | keyStart
  /-- Inside a key that has at least one character. -/
  | key
  /-- After the closing quote of a key. -/
  | closed
deriving DecidableEq, Repr

/-- The state after one more character, if the character may stand there. -/
def PathState.step : PathState → Char → Option PathState
  | .start, c => if isWordStart c then some .word else none
  | .word, c => if isWordChar c then some .word else if c = '-' then some .dash else none
  | .dash, c => if c = '>' then some .arrow else none
  | .arrow, c => if c = '>' then some .wideArrow else if c = '\'' then some .keyStart else none
  | .wideArrow, c => if c = '\'' then some .keyStart else none
  | .keyStart, c => if isKeyChar c then some .key else none
  | .key, c => if isKeyChar c then some .key else if c = '\'' then some .closed else none
  | .closed, c => if c = '-' then some .dash else none

/-- A column expression may end after its identifier and after each key. -/
def PathState.isFinal : PathState → Bool
  | .word | .closed => true
  | _ => false

/-- The automaton accepts the characters from the given state. -/
def PathState.accepts : PathState → List Char → Bool
  | q, [] => q.isFinal
  | q, c :: r =>
    match q.step c with
    | some q' => q'.accepts r
    | none => false

/-- The text is a column expression. -/
def isColumnExpression (s : String) : Bool := PathState.accepts .start s.toList

def hasArrow : List Char → Bool
  | [] => false
  | c :: r => (c = '-' && r.head? = some '>') || hasArrow r

/-- The characters in front of the first `->`, all of them if there is none. -/
def beforeArrow : List Char → List Char
  | [] => []
  | c :: r => if c = '-' && r.head? = some '>' then [] else c :: beforeArrow r

/-- Cuts at every character that is no word character: the stretch in front and the stretches after it, any of
which may be empty. -/
def stretches : List Char → List Char × List (List Char)
  | [] => ([], [])
  | c :: r =>
    let (w, ws) := stretches r
    if isWordChar c then (c :: w, ws) else ([], w :: ws)

/-- The maximal stretches of word characters, in order. -/
def words (s : List Char) : List (List Char) :=
  ((stretches s).1 :: (stretches s).2).filter (fun w => !w.isEmpty)

/-- The words of a text joined by `_`. -/
def sanitize (s : String) : String := String.ofList (['_'].intercalate (words s.toList))

end SqlFilter.Text
