import LdapDecoy.Json.Scan

/-!
# The grammar of JSON

What a JSON text is, octet by octet: a rule for each way to write each of its parts, and nothing about how they are
recognized. Numbers are of any size, brackets of any depth, and an escape is four digits of whatever code.
-/
namespace LdapDecoy.Json

/-! ## Rules -/

def AreBlanks (s : Bytes) : Prop := ∀ b ∈ s, isBlank b = true

def AreDigits (s : Bytes) : Prop := ∀ b ∈ s, isDigit b = true

/-- The part of a number in front of its point: zero, or digits of which the first is another one. -/
inductive IsWhole : Bytes → Prop where
  | zero : IsWhole [0x30]
  | digits {first : UInt8} {more : Bytes} (other : first ≠ 0x30) (digit : isDigit first = true)
      (further : AreDigits more) : IsWhole (first :: more)

/-- The part of a number from its point on, which may be missing. -/
inductive IsFraction : Bytes → Prop where
  | none : IsFraction []
  | some {first : UInt8} {more : Bytes} (digit : isDigit first = true) (further : AreDigits more) :
      IsFraction (0x2E :: first :: more)

/-- The exponent of a number, which may be missing. -/
inductive IsExponent : Bytes → Prop where
  | none : IsExponent []
  | some {mark first : UInt8} {sign more : Bytes} (isMark : mark = 0x65 ∨ mark = 0x45)
      (isSign : sign = [] ∨ sign = [0x2B] ∨ sign = [0x2D]) (digit : isDigit first = true)
      (further : AreDigits more) : IsExponent (mark :: (sign ++ first :: more))

/-- A number, of any size. -/
inductive IsNumber : Bytes → Prop where
  | parts {sign whole fraction exponent : Bytes} (isSign : sign = [] ∨ sign = [0x2D]) (isWhole : IsWhole whole)
      (isFraction : IsFraction fraction) (isExponent : IsExponent exponent) :
      IsNumber (sign ++ (whole ++ (fraction ++ exponent)))

/-- What may stand between the quotes of a string. -/
inductive IsQuoted : Bytes → Prop where
  | nil : IsQuoted []
  | plain {b : UInt8} {s : Bytes} (above : 0x20 ≤ b) (unquoted : b ≠ 0x22) (unescaped : b ≠ 0x5C)
      (rest : IsQuoted s) : IsQuoted (b :: s)
  | escape {b : UInt8} {s : Bytes} (simple : isSimpleEscape b = true) (rest : IsQuoted s) :
      IsQuoted (0x5C :: b :: s)
  | code {a b c d : UInt8} {s : Bytes} (hex : ∀ digit ∈ [a, b, c, d], isHexDigit digit = true)
      (rest : IsQuoted s) : IsQuoted (0x5C :: 0x75 :: a :: b :: c :: d :: s)

inductive IsString : Bytes → Prop where
  | quotes {inside : Bytes} (quoted : IsQuoted inside) : IsString (0x22 :: (inside ++ [0x22]))

/-- The literal names: null, true and false. -/
def literals : List Bytes := [[0x6E, 0x75, 0x6C, 0x6C], [0x74, 0x72, 0x75, 0x65], [0x66, 0x61, 0x6C, 0x73, 0x65]]

/-- The parts of a text that have brackets. -/
inductive Phrase where
  | value
  /-- A value with white space around it, which is also what a whole text is. -/
  | element
  | elements
  | member
  | members

/-- The rules for these parts. -/
inductive Derives : Phrase → Bytes → Prop where
  | literal {s : Bytes} (among : s ∈ literals) : Derives .value s
  | number {s : Bytes} (isNumber : IsNumber s) : Derives .value s
  | string {s : Bytes} (isString : IsString s) : Derives .value s
  | emptyList {inside : Bytes} (blanks : AreBlanks inside) : Derives .value (0x5B :: (inside ++ [0x5D]))
  | list {inside : Bytes} (elements : Derives .elements inside) : Derives .value (0x5B :: (inside ++ [0x5D]))
  | emptyObject {inside : Bytes} (blanks : AreBlanks inside) : Derives .value (0x7B :: (inside ++ [0x7D]))
  | object {inside : Bytes} (members : Derives .members inside) : Derives .value (0x7B :: (inside ++ [0x7D]))
  | element {front value back : Bytes} (before : AreBlanks front) (isValue : Derives .value value)
      (behind : AreBlanks back) : Derives .element (front ++ (value ++ back))
  | lastElement {s : Bytes} (last : Derives .element s) : Derives .elements s
  | moreElements {s more : Bytes} (first : Derives .element s) (rest : Derives .elements more) :
      Derives .elements (s ++ 0x2C :: more)
  | member {front name back value : Bytes} (before : AreBlanks front) (isString : IsString name)
      (behind : AreBlanks back) (element : Derives .element value) :
      Derives .member (front ++ (name ++ (back ++ 0x3A :: value)))
  | lastMember {s : Bytes} (last : Derives .member s) : Derives .members s
  | moreMembers {s more : Bytes} (first : Derives .member s) (rest : Derives .members more) :
      Derives .members (s ++ 0x2C :: more)

theorem areBlanks_nil : AreBlanks [] := List.forall_mem_nil _

/-- There need not be white space around a value. -/
theorem Derives.element_of_value {value : Bytes} (isValue : Derives .value value) : Derives .element value := by
  rw [← List.append_nil value]
  exact .element areBlanks_nil isValue areBlanks_nil

end LdapDecoy.Json
