/-!
# Settings in TOML

A reader for assignments, one on a line, of texts to names: bare and quoted names, and the four string
forms of TOML 0.5. A value can also be a table in braces with one name that has an empty table, which is
another way to spell that name. Other values, tables with headings and dotted names have no place in
settings and are not read.
-/
namespace LdapDecoy.Config.Toml

inductive Value where
  | text (s : String)
  /-- A name with an empty table, in braces. -/
  | choice (name : String)
  deriving DecidableEq, Repr

structure Assignment where
  name : String
  value : Value
  deriving DecidableEq, Repr

/-- A reader takes what it knows from the head of a text, or nothing. -/
abbrev Reader (α : Type) := List Char → Option (α × List Char)

/-- Line ends of two characters as line ends of one. -/
def foldLineEnds : List Char → List Char
  | '\r' :: '\n' :: rest => '\n' :: foldLineEnds rest
  | c :: rest => c :: foldLineEnds rest
  | [] => []

def isSpace (c : Char) : Bool := c = ' ' || c = '\t'

def skipSpaces (s : List Char) : List Char := s.dropWhile isSpace

/-- The characters that can stand in strings and comments by themselves, U+007F apart. -/
def isPlain (c : Char) : Bool := c = '\t' || 0x20 ≤ c.toNat

def isStringChar (c : Char) : Bool := isPlain c && c.toNat ≠ 0x7F

def hexValue? (c : Char) : Option Nat :=
  if '0' ≤ c ∧ c ≤ '9' then some (c.toNat - 48)
  else if 'a' ≤ c ∧ c ≤ 'f' then some (c.toNat - 87)
  else if 'A' ≤ c ∧ c ≤ 'F' then some (c.toNat - 55)
  else none

/-- The number that hexadecimal digits write. -/
def hexNumber? (digits : List Char) : Option Nat :=
  (digits.mapM hexValue?).map fun values => values.foldl (fun n d => n * 16 + d) 0

/-- The character with the code point that the digits write, if it is a scalar value. -/
def charOfHex? (digits : List Char) : Option Char := do
  let n ← hexNumber? digits
  if n.isValidChar then some (Char.ofNat n) else none

def simpleEscape? (c : Char) : Option Char :=
  if c = '"' then some '"'
  else if c = '\\' then some '\\'
  else if c = 'b' then some (Char.ofNat 8)
  else if c = 'f' then some (Char.ofNat 12)
  else if c = 'n' then some '\n'
  else if c = 'r' then some '\r'
  else if c = 't' then some '\t'
  else none

/-- Where a reader stands in a string. -/
inductive StringPlace where
  | plain
  /-- Behind a backslash and a space, on the way to the line end that must follow. -/
  | toLineEnd
  /-- In the blanks and line ends that an escaped line end takes with it. -/
  | blanks
  deriving DecidableEq, Repr

/-- The characters of a string of several lines that is closed here, and the text behind it. Up to two more
quotes belong to the string. -/
def closing (quote : Char) : Reader (List Char)
  | a :: b :: c :: d :: e :: rest =>
    if a = quote ∧ b = quote ∧ c = quote then
      if d = quote then
        if e = quote then some ([quote, quote], rest) else some ([quote], e :: rest)
      else some ([], d :: e :: rest)
    else none
  | [a, b, c, d] =>
    if a = quote ∧ b = quote ∧ c = quote then
      if d = quote then some ([quote], []) else some ([], [d])
    else none
  | [a, b, c] => if a = quote ∧ b = quote ∧ c = quote then some ([], []) else none
  | _ => none

def before (c : Char) (read : Option (List Char × List Char)) : Option (List Char × List Char) :=
  read.map fun (chars, rest) => (c :: chars, rest)

/-- The rest of a string on one line with escapes. -/
def basicLine : Reader (List Char)
  | [] => none
  | '"' :: rest => some ([], rest)
  | '\\' :: 'u' :: a :: b :: c :: d :: rest => do
    before (← charOfHex? [a, b, c, d]) (basicLine rest)
  | '\\' :: 'U' :: a :: b :: c :: d :: e :: f :: g :: h :: rest => do
    before (← charOfHex? [a, b, c, d, e, f, g, h]) (basicLine rest)
  | '\\' :: c :: rest => do before (← simpleEscape? c) (basicLine rest)
  | c :: rest => if c ≠ '\\' && isStringChar c then before c (basicLine rest) else none

/-- The rest of a string of several lines with escapes. -/
def basicLines : StringPlace → Reader (List Char)
  | .plain, [] => none
  | .plain, '"' :: rest =>
    match closing '"' ('"' :: rest) with
    | some closed => some closed
    | none => before '"' (basicLines .plain rest)
  | .plain, '\\' :: 'u' :: a :: b :: c :: d :: rest => do
    before (← charOfHex? [a, b, c, d]) (basicLines .plain rest)
  | .plain, '\\' :: 'U' :: a :: b :: c :: d :: e :: f :: g :: h :: rest => do
    before (← charOfHex? [a, b, c, d, e, f, g, h]) (basicLines .plain rest)
  | .plain, '\\' :: '\n' :: rest => basicLines .blanks rest
  | .plain, '\\' :: c :: rest =>
    if isSpace c then basicLines .toLineEnd rest
    else do before (← simpleEscape? c) (basicLines .plain rest)
  | .plain, c :: rest =>
    if c = '\n' || (c ≠ '\\' && isStringChar c) then before c (basicLines .plain rest) else none
  | .toLineEnd, [] => none
  | .toLineEnd, c :: rest =>
    if isSpace c then basicLines .toLineEnd rest
    else if c = '\n' then basicLines .blanks rest
    else none
  | .blanks, [] => none
  | .blanks, c :: rest =>
    if isSpace c || c = '\n' then basicLines .blanks rest
    else basicLines .plain (c :: rest)
termination_by place s => (s.length, match place with | .plain => 0 | _ => 1)

/-- The rest of a string on one line without escapes. -/
def literalLine : Reader (List Char)
  | [] => none
  | '\'' :: rest => some ([], rest)
  | c :: rest => if isStringChar c then before c (literalLine rest) else none

/-- The rest of a string of several lines without escapes. -/
def literalLines : Reader (List Char)
  | [] => none
  | '\'' :: rest =>
    match closing '\'' ('\'' :: rest) with
    | some closed => some closed
    | none => before '\'' (literalLines rest)
  | c :: rest => if c = '\n' || isStringChar c then before c (literalLines rest) else none

/-- A line end right behind the opening quotes does not count. -/
def dropFirstLineEnd : List Char → List Char
  | '\n' :: rest => rest
  | s => s

def string : Reader (List Char)
  | '"' :: '"' :: '"' :: rest => basicLines .plain (dropFirstLineEnd rest)
  | '"' :: rest => basicLine rest
  | '\'' :: '\'' :: '\'' :: rest => literalLines (dropFirstLineEnd rest)
  | '\'' :: rest => literalLine rest
  | _ => none

def isBareChar (c : Char) : Bool := c.isAlphanum || c = '-' || c = '_'

/-- A name: bare, or a string on one line. -/
def name : Reader (List Char)
  | '"' :: '"' :: '"' :: _ => none
  | '"' :: rest => basicLine rest
  | '\'' :: '\'' :: '\'' :: _ => none
  | '\'' :: rest => literalLine rest
  | s =>
    match s.takeWhile isBareChar with
    | [] => none
    | bare => some (bare, s.dropWhile isBareChar)

/-- One character behind spaces, and the spaces behind it. -/
def mark (expected : Char) (s : List Char) : Option (List Char) :=
  match skipSpaces s with
  | c :: rest => if c = expected then some (skipSpaces rest) else none
  | [] => none

/-- A table in braces with one name that has an empty table. -/
def choice (s : List Char) : Option (List Char × List Char) := do
  let s ← mark '\x7b' s
  let (chosen, s) ← name s
  let s ← mark '=' s
  let s ← mark '\x7b' s
  let s ← mark '\x7d' s
  match s with
  | '\x7d' :: rest => return (chosen, rest)
  | _ => none

def value (s : List Char) : Option (Value × List Char) :=
  match s with
  | '\x7b' :: _ => (choice s).map fun (chosen, rest) => (.choice (String.ofList chosen), rest)
  | _ => (string s).map fun (chars, rest) => (.text (String.ofList chars), rest)

/-- What may follow on a line: spaces, a comment, and the line end or the end of the text. -/
def lineEnd (s : List Char) : Option (List Char) :=
  let s := skipSpaces s
  let s := match s with
    | '#' :: rest => rest.dropWhile isPlain
    | _ => s
  match s with
  | [] => some []
  | '\n' :: rest => some rest
  | _ => none

/-- A name, an equals sign and a value. -/
def assignment (s : List Char) : Option (Assignment × List Char) := do
  let (name, s) ← name s
  let s ← mark '=' s
  let (value, s) ← value s
  return (⟨String.ofList name, value⟩, s)

/-- A line with an assignment, or without one, and the lines behind it. -/
def line (s : List Char) : Option (Option Assignment × List Char) :=
  match lineEnd s with
  | some rest => some (none, rest)
  | none => do
    let (found, s) ← assignment (skipSpaces s)
    let rest ← lineEnd s
    return (some found, rest)

/-- The assignments on the lines of a text. Every line but the end of the text takes a character. -/
def lines (s : List Char) : Option (List Assignment) :=
  if s.isEmpty then some []
  else
    match line s with
    | none => none
    | some (found, rest) =>
      if rest.length < s.length then (lines rest).map (found.toList ++ ·) else none
termination_by s.length

/-- The byte order mark that a text can begin with. -/
def dropMark (s : List Char) : List Char :=
  match s with
  | c :: rest => if c.toNat = 0xFEFF then rest else s
  | [] => []

/-- The assignments of a settings text. -/
def assignments (s : List Char) : Option (List Assignment) := lines (dropMark (foldLineEnds s))

end LdapDecoy.Config.Toml
