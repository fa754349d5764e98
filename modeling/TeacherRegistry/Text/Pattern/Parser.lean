import TeacherRegistry.Text.Pattern

/-!
Reading patterns. A text is cut into tokens, and the tokens are put together with a stack of the
groups that are open. Classes of letters or digits by name, conditions on words, and options within
a pattern are not known, and a text with one of them is no pattern.
-/

namespace TeacherRegistry.Text.Pattern

/-- How often something is repeated. -/
inductive Count where
  | any
  | some
  | maybe
deriving Repr, DecidableEq

inductive Token where
  | one (set : CharSet)
  | textStart
  | textEnd
  | openGroup
  | closeGroup
  | bar
  | repeated (count : Count) (eager : Bool)
deriving Repr, DecidableEq

/-- The character that a letter after a backslash stands for. -/
def control? : Char → Option Char
  | 'a' => some '\x07'
  | 'f' => some '\x0c'
  | 't' => some '\t'
  | 'n' => some '\n'
  | 'r' => some '\r'
  | 'v' => some '\x0b'
  | _ => none

/-- The character that a character after a backslash stands for. Signs stand for themselves. -/
def escaped? (c : Char) : Option Char :=
  if c.toNat < 0x80 && !c.isAlphanum && c != '<' && c != '>' then some c else control? c

/-- The characters up to the bracket that closes a set, each with whether it stands as itself, and
what follows the bracket. -/
def setChars? : List Char → Option (List (Char × Bool) × List Char)
  | [] | '[' :: _ => none
  | ']' :: rest => some ([], rest)
  | '\\' :: c :: rest =>
    match escaped? c, setChars? rest with
    | some c, some (chars, after) => some ((c, false) :: chars, after)
    | _, _ => none
  | c :: rest => (setChars? rest).map fun (chars, after) => ((c, true) :: chars, after)

/-- The ranges that characters between brackets spell. Two signs that combine sets are none. -/
def setRanges? : List (Char × Bool) → Option (List (Nat × Nat))
  | [] => some []
  | ('&', true) :: ('&', true) :: _ | ('-', true) :: ('-', true) :: _
  | ('~', true) :: ('~', true) :: _ => none
  | (first, _) :: ('-', true) :: (last, plain) :: rest =>
    if last < first ∨ last = '-' ∧ plain then none
    else (setRanges? rest).map ((first.toNat, last.toNat) :: ·)
  | (c, _) :: rest => (setRanges? rest).map ((c.toNat, c.toNat) :: ·)

/-- Reads a set after its opening bracket. Hyphens in front, or else a closing bracket in front, are
characters of the set. -/
def set? (cs : List Char) : Option (CharSet × List Char) := do
  let (negated, cs) := match cs with
    | '^' :: cs => (true, cs)
    | cs => (false, cs)
  let hyphens := cs.takeWhile (· = '-')
  let (front, cs) := match hyphens, cs.dropWhile (· = '-') with
    | [], ']' :: cs => ([']'], cs)
    | hyphens, cs => (hyphens, cs)
  let (chars, rest) ← setChars? cs
  let ranges ← setRanges? chars
  return (⟨front.map (fun c => (c.toNat, c.toNat)) ++ ranges, negated⟩, rest)

/-- Whether a text can be the name of a group. -/
def isGroupName (name : List Char) : Bool :=
  match name with
  | [] => false
  | c :: rest =>
    (c == '_' || c.isAlpha) && rest.all fun c => c.isAlphanum || "_.[]".toList.contains c

/-- Passes the marks with which a group opens, after its opening parenthesis. -/
def groupMarks? (cs : List Char) : Option (List Char) :=
  let named (cs : List Char) : Option (List Char) :=
    match cs.dropWhile (· ≠ '>') with
    | _ :: rest => if isGroupName (cs.takeWhile (· ≠ '>')) then some rest else none
    | [] => none
  match cs with
  | '?' :: ':' :: rest => some rest
  | '?' :: 'P' :: '<' :: rest | '?' :: '<' :: rest => named rest
  | '?' :: _ => none
  | cs => some cs

/-- Reads a repetition after its sign; a question mark makes few repetitions preferred. -/
def repetition (count : Count) (cs : List Char) : Token × List Char :=
  match cs with
  | '?' :: rest => (.repeated count false, rest)
  | rest => (.repeated count true, rest)

/-- Reads one token. -/
def nextToken? : List Char → Option (Token × List Char)
  | [] | '{' :: _ => none
  | '\\' :: 'A' :: rest => some (.textStart, rest)
  | '\\' :: 'z' :: rest => some (.textEnd, rest)
  | '\\' :: c :: rest => (escaped? c).map fun c => (.one (.single c), rest)
  | '\\' :: [] => none
  | '[' :: rest => (set? rest).map fun (set, rest) => (.one set, rest)
  | '(' :: rest => (groupMarks? rest).map fun rest => (.openGroup, rest)
  | ')' :: rest => some (.closeGroup, rest)
  | '|' :: rest => some (.bar, rest)
  | '^' :: rest => some (.textStart, rest)
  | '$' :: rest => some (.textEnd, rest)
  | '.' :: rest => some (.one .inLine, rest)
  | '*' :: rest => some (repetition .any rest)
  | '+' :: rest => some (repetition .some rest)
  | '?' :: rest => some (repetition .maybe rest)
  | c :: rest => some (.one (.single c), rest)

/-- Cuts a text into at most `count` tokens. -/
def tokensWithin? : Nat → List Char → Option (List Token)
  | _, [] => some []
  | 0, _ :: _ => none
  | count + 1, cs => do
    let (token, rest) ← nextToken? cs
    return token :: (← tokensWithin? count rest)

/-- The tokens of a text. Each takes at least one character. -/
def tokens? (cs : List Char) : Option (List Token) :=
  tokensWithin? cs.length cs

/-- A group that is being read: the alternatives that are complete and the parts of the next one,
both last first. -/
structure Group where
  alternatives : List Pattern
  parts : List Pattern

namespace Group

/-- The pattern of parts that stand one after another. -/
def current (group : Group) : Pattern :=
  group.parts.foldl (fun after part => match after with
    | .empty => part
    | after => part.andThen after) .empty

/-- The pattern of the whole group. -/
def whole (group : Group) : Pattern :=
  group.alternatives.foldl (fun others alternative => .either alternative others) group.current

/-- Adds a part. -/
def add (group : Group) (part : Pattern) : Group :=
  { group with parts := part :: group.parts }

end Group

/-- A pattern repeated. -/
def times (body : Pattern) (eager : Bool) : Count → Pattern
  | .any => .many eager body
  | .some => body.andThen (.many eager body)
  | .maybe => if eager then .either body .empty else .either .empty body

/-- Puts tokens together in the innermost of the groups that are open. -/
def assemble? (group : Group) (outer : List Group) : List Token → Option Pattern
  | [] => if outer.isEmpty then some group.whole else none
  | token :: rest =>
    match token with
    | .one set => assemble? (group.add (.one set)) outer rest
    | .textStart => assemble? (group.add .textStart) outer rest
    | .textEnd => assemble? (group.add .textEnd) outer rest
    | .openGroup => assemble? ⟨[], []⟩ (group :: outer) rest
    | .closeGroup =>
      match outer with
      | [] => none
      | parent :: outer => assemble? (parent.add group.whole) outer rest
    | .bar => assemble? ⟨group.current :: group.alternatives, []⟩ outer rest
    | .repeated count eager =>
      match group.parts with
      | [] => none
      | part :: parts =>
        assemble? { group with parts := part.times eager count :: parts } outer rest

/-- The pattern that a text spells. -/
def ofString? (s : String) : Option Pattern :=
  (tokens? s.toList).bind (assemble? ⟨[], []⟩ [])

end TeacherRegistry.Text.Pattern
