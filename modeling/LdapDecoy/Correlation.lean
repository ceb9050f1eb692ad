import LdapDecoy.Text.Utf8

/-!
# Correlation identifiers

A probe places its identifier in front of the root domain, as labels of a host name, anywhere in a base
DN. The run of labels that counts is the leftmost one behind which the root domain stands, and in it the
longest; the identifier is the last dotted part of the right width.
-/
namespace LdapDecoy.Correlation

/-- How many octets a correlation identifier has. -/
def identifierWidth : Nat := 33

/-- How many octets of an identifier make its storage key. -/
def keyWidth : Nat := 20

/-- An identifier as a base DN shows it. -/
structure Identifier where
  uniqueId : String
  /-- All parts up to and including the identifier, joined by dots. -/
  fullId : String
  deriving DecidableEq, Repr

/-- The characters of labels. -/
def isLabelChar (c : Char) : Bool :=
  ('a' ≤ c && c ≤ 'z') || ('0' ≤ c && c ≤ '9') || c == '-'

/-- The label at the head of a text, and what stands behind its dot. -/
def label? (s : List Char) : Option (List Char × List Char) :=
  match s.takeWhile isLabelChar, s.dropWhile isLabelChar with
  | first :: more, '.' :: rest => some (first :: more, rest)
  | _, _ => none

theorem label?_eq {s label rest : List Char} (h : label? s = some (label, rest)) :
    s = label ++ '.' :: rest := by
  unfold label? at h
  split at h
  · rename_i taken dropped
    simp only [Option.some.injEq, Prod.mk.injEq] at h
    have whole : s.takeWhile isLabelChar ++ s.dropWhile isLabelChar = s :=
      List.takeWhile_append_dropWhile
    rw [← whole, taken, dropped, h.1, h.2]
  · contradiction

theorem label?_shorter {s label rest : List Char} (h : label? s = some (label, rest)) :
    rest.length < s.length := by
  rw [label?_eq h]
  simp only [List.length_append, List.length_cons]
  omega

/-- The labels of the longest run at the head of a text behind which the domain stands. -/
def runAt? (domain s : List Char) : Option (List (List Char)) :=
  match h : label? s with
  | none => none
  | some (label, rest) =>
    have := label?_shorter h
    match runAt? domain rest with
    | some labels => some (label :: labels)
    | none => if domain.isPrefixOf rest then some [label] else none
termination_by s.length

/-- The labels of the leftmost run behind which the domain stands. -/
def run? (domain : List Char) : List Char → Option (List (List Char))
  | [] => none
  | c :: rest =>
    match runAt? domain (c :: rest) with
    | some labels => some labels
    | none => run? domain rest

/-- The parts of a text between its dots. -/
def parts : List Char → List (List Char)
  | [] => [[]]
  | c :: rest =>
    match parts rest with
    | [] => [[c]]
    | part :: more => if c = '.' then [] :: part :: more else (c :: part) :: more

/-- The last element that passes the test, and the elements in front of it. -/
def last? {α : Type} (test : α → Bool) : List α → Option (List α × α)
  | [] => none
  | a :: rest =>
    match last? test rest with
    | some (before, found) => some (a :: before, found)
    | none => if test a then some ([], a) else none

def hasIdentifierWidth (part : List Char) : Bool := Text.Utf8.size part == identifierWidth

/-- The parts in front of the identifier, and the identifier, among the parts of a run and its domain. -/
def pick? (domain : List Char) (labels : List (List Char)) : Option (List (List Char) × List Char) :=
  last? hasIdentifierWidth (labels ++ parts domain)

def Identifier.ofParts (before : List (List Char)) (part : List Char) : Identifier where
  uniqueId := String.ofList part
  fullId := String.ofList (List.intercalate ['.'] (before ++ [part]))

/-- The identifier in a base DN under a root domain. -/
def extract (domain base : String) : Option Identifier := do
  let labels ← run? domain.toList base.toList
  let (before, part) ← pick? domain.toList labels
  return .ofParts before part

/-- The characters that take exactly the first `n` octets of a text, if some do. -/
def cut? : Nat → List Char → Option (List Char)
  | 0, _ => some []
  | _ + 1, [] => none
  | n + 1, c :: rest =>
    let size := (Text.Utf8.encodeChar c).length
    if size ≤ n + 1 then (cut? (n + 1 - size) rest).map (c :: ·) else none

/-- The storage key of an identifier: its leading octets, or all of it where they are no text. -/
def key (uniqueId : String) : String :=
  match cut? keyWidth uniqueId.toList with
  | some leading => String.ofList leading
  | none => uniqueId

def Identifier.key (identifier : Identifier) : String := Correlation.key identifier.uniqueId

end LdapDecoy.Correlation
