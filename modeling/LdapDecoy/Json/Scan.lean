import LdapDecoy.Text.Utf8

/-!
# Scanning JSON

A pushdown automaton over the octets of a text that decides whether the text is one JSON value with
blanks around it, however deep and however large its numbers. Values are not built: an accepted text is
kept as it is written. A refusal names what was wrong at the first octet that no value goes on with.
-/
namespace LdapDecoy.Json

/-- Why a text is not one JSON value. -/
inductive Fault where
  | endInValue
  | endInString
  | endInList
  | endInObject
  | noValue
  | misspeltLiteral
  | badNumber
  | badEscape
  | rawControl
  | keyNotString
  | noColon
  | noCommaInObject
  | noCommaInList
  | trailing
  deriving DecidableEq, Repr

def Fault.message : Fault → String
  | .endInValue => "EOF while parsing a value"
  | .endInString => "EOF while parsing a string"
  | .endInList => "EOF while parsing a list"
  | .endInObject => "EOF while parsing an object"
  | .noValue => "expected value"
  | .misspeltLiteral => "expected ident"
  | .badNumber => "invalid number"
  | .badEscape => "invalid escape"
  | .rawControl => "control character (\\u0000-\\u001F) found while parsing a string"
  | .keyNotString => "key must be a string"
  | .noColon => "expected `:`"
  | .noCommaInObject => "expected `,` or `\x7d`"
  | .noCommaInList => "expected `,` or `]`"
  | .trailing => "trailing characters"

/-- The brackets that can be open around a place. -/
inductive Frame where
  | list
  | object
  deriving DecidableEq, Repr

/-- How much of a number has been read. -/
inductive NumberPart where
  | minus
  | zero
  | digits
  | point
  | fraction
  | mark
  | sign
  | exponent
  deriving DecidableEq, Repr

/-- What the next octet belongs to. -/
inductive Spot where
  /-- A value must begin. -/
  | value
  /-- A bracket has just been opened. -/
  | opened (frame : Frame)
  /-- The key of a further member must begin. -/
  | key
  /-- A key has ended. -/
  | colon
  /-- A value has ended. -/
  | closed
  /-- Inside a string, which is a key or a value. -/
  | text (isKey : Bool)
  | escape (isKey : Bool)
  /-- Inside the four digits of an escape: how many are read, and whether all of them were digits. -/
  | hex (isKey : Bool) (seen : Nat) (good : Bool)
  /-- Inside a literal name, of which `rest` must follow. -/
  | literal (rest : Bytes)
  | number (part : NumberPart)
  deriving DecidableEq, Repr

/-- The place in a text: the spot, and the brackets open around it, innermost first. -/
structure Place where
  spot : Spot
  frames : List Frame
  deriving DecidableEq, Repr

/-- Before the first octet. -/
def Place.start : Place := ⟨.value, []⟩

/-- The white space of JSON. -/
def isBlank (b : UInt8) : Bool := b = 0x20 || b = 0x0A || b = 0x09 || b = 0x0D

def isDigit (b : UInt8) : Bool := 0x30 ≤ b && b ≤ 0x39

def isHexDigit (b : UInt8) : Bool :=
  isDigit b || (0x41 ≤ b && b ≤ 0x46) || (0x61 ≤ b && b ≤ 0x66)

/-- The octets that may stand behind a backslash by themselves. -/
def isSimpleEscape (b : UInt8) : Bool :=
  b = 0x22 || b = 0x5C || b = 0x2F || b = 0x62 || b = 0x66 || b = 0x6E || b = 0x72 || b = 0x74

/-- An octet behind a value. -/
def stepClosed (b : UInt8) : List Frame → Except Fault Place
  | [] => if isBlank b then .ok ⟨.closed, []⟩ else .error .trailing
  | .list :: frames =>
    if isBlank b then .ok ⟨.closed, .list :: frames⟩
    else if b = 0x2C then .ok ⟨.value, .list :: frames⟩
    else if b = 0x5D then .ok ⟨.closed, frames⟩
    else .error .noCommaInList
  | .object :: frames =>
    if isBlank b then .ok ⟨.closed, .object :: frames⟩
    else if b = 0x2C then .ok ⟨.key, .object :: frames⟩
    else if b = 0x7D then .ok ⟨.closed, frames⟩
    else .error .noCommaInObject

/-- An octet with which a value begins. -/
def stepValue (b : UInt8) (frames : List Frame) : Except Fault Place :=
  if b = 0x6E then .ok ⟨.literal [0x75, 0x6C, 0x6C], frames⟩
  else if b = 0x74 then .ok ⟨.literal [0x72, 0x75, 0x65], frames⟩
  else if b = 0x66 then .ok ⟨.literal [0x61, 0x6C, 0x73, 0x65], frames⟩
  else if b = 0x2D then .ok ⟨.number .minus, frames⟩
  else if b = 0x30 then .ok ⟨.number .zero, frames⟩
  else if isDigit b then .ok ⟨.number .digits, frames⟩
  else if b = 0x22 then .ok ⟨.text false, frames⟩
  else if b = 0x5B then .ok ⟨.opened .list, .list :: frames⟩
  else if b = 0x7B then .ok ⟨.opened .object, .object :: frames⟩
  else .error .noValue

/-- An octet with which the key of a member begins. -/
def stepKey (b : UInt8) (frames : List Frame) : Except Fault Place :=
  if b = 0x22 then .ok ⟨.text true, frames⟩ else .error .keyNotString

/-- An octet behind a part of a number: the number goes on, is broken, or has ended in front of it. -/
def stepNumber (b : UInt8) (frames : List Frame) : NumberPart → Except Fault Place
  | .minus =>
    if b = 0x30 then .ok ⟨.number .zero, frames⟩
    else if isDigit b then .ok ⟨.number .digits, frames⟩
    else .error .badNumber
  | .zero =>
    if isDigit b then .error .badNumber
    else if b = 0x2E then .ok ⟨.number .point, frames⟩
    else if b = 0x65 || b = 0x45 then .ok ⟨.number .mark, frames⟩
    else stepClosed b frames
  | .digits =>
    if isDigit b then .ok ⟨.number .digits, frames⟩
    else if b = 0x2E then .ok ⟨.number .point, frames⟩
    else if b = 0x65 || b = 0x45 then .ok ⟨.number .mark, frames⟩
    else stepClosed b frames
  | .point => if isDigit b then .ok ⟨.number .fraction, frames⟩ else .error .badNumber
  | .fraction =>
    if isDigit b then .ok ⟨.number .fraction, frames⟩
    else if b = 0x65 || b = 0x45 then .ok ⟨.number .mark, frames⟩
    else stepClosed b frames
  | .mark =>
    if b = 0x2B || b = 0x2D then .ok ⟨.number .sign, frames⟩
    else if isDigit b then .ok ⟨.number .exponent, frames⟩
    else .error .badNumber
  | .sign => if isDigit b then .ok ⟨.number .exponent, frames⟩ else .error .badNumber
  | .exponent => if isDigit b then .ok ⟨.number .exponent, frames⟩ else stepClosed b frames

/-- Where the place moves on one octet. -/
def Place.step (place : Place) (b : UInt8) : Except Fault Place :=
  let frames := place.frames
  match place.spot with
  | .value => if isBlank b then .ok place else stepValue b frames
  | .opened .list =>
    if isBlank b then .ok place
    else if b = 0x5D then .ok ⟨.closed, frames.tail⟩
    else stepValue b frames
  | .opened .object =>
    if isBlank b then .ok place
    else if b = 0x7D then .ok ⟨.closed, frames.tail⟩
    else stepKey b frames
  | .key => if isBlank b then .ok place else stepKey b frames
  | .colon =>
    if isBlank b then .ok place
    else if b = 0x3A then .ok ⟨.value, frames⟩
    else .error .noColon
  | .closed => stepClosed b frames
  | .text isKey =>
    if b = 0x22 then .ok ⟨if isKey then .colon else .closed, frames⟩
    else if b = 0x5C then .ok ⟨.escape isKey, frames⟩
    else if b < 0x20 then .error .rawControl
    else .ok place
  | .escape isKey =>
    if isSimpleEscape b then .ok ⟨.text isKey, frames⟩
    else if b = 0x75 then .ok ⟨.hex isKey 0 true, frames⟩
    else .error .badEscape
  | .hex isKey seen good =>
    let good := good && isHexDigit b
    if seen < 3 then .ok ⟨.hex isKey (seen + 1) good, frames⟩
    else if good then .ok ⟨.text isKey, frames⟩
    else .error .badEscape
  | .literal [] => stepClosed b frames
  | .literal [last] => if b = last then .ok ⟨.closed, frames⟩ else .error .misspeltLiteral
  | .literal (next :: rest) => if b = next then .ok ⟨.literal rest, frames⟩ else .error .misspeltLiteral
  | .number part => stepNumber b frames part

/-- The end of the text behind a value. -/
def finishClosed : List Frame → Except Fault Unit
  | [] => .ok ()
  | .list :: _ => .error .endInList
  | .object :: _ => .error .endInObject

/-- What the end of the text means at a place. -/
def Place.finish (place : Place) : Except Fault Unit :=
  match place.spot with
  | .value => .error .endInValue
  | .opened .list => .error .endInList
  | .opened .object | .key | .colon => .error .endInObject
  | .closed | .literal [] => finishClosed place.frames
  | .text _ | .escape _ | .hex _ _ _ => .error .endInString
  | .literal (_ :: _) => .error .endInValue
  | .number .minus | .number .point | .number .mark | .number .sign => .error .badNumber
  | .number .zero | .number .digits | .number .fraction | .number .exponent => finishClosed place.frames

/-- Reads the rest of a text from a place on. -/
def Place.run (place : Place) : Bytes → Except Fault Unit
  | [] => place.finish
  | b :: rest =>
    match place.step b with
    | .error fault => .error fault
    | .ok next => next.run rest

/-- Whether the octets are one JSON value with blanks around it. -/
def check (s : Bytes) : Except Fault Unit := Place.start.run s

end LdapDecoy.Json
