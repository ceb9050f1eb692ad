import LdapDecoy.Fault
import LdapDecoy.Tls.Base64

/-!
# PEM blocks

Octets armoured as lines of text. A block begins and ends with a line that names it; text between blocks does
not count. Lines are read in pieces of a limited size, and blanks and what is not ASCII at the end of a piece
are dropped. An empty line inside a block ends its header, behind which all lines but the last have 64
characters. Reading goes on behind a block that is malformed.
-/
namespace LdapDecoy.Tls.Pem

structure Block where
  name : Bytes
  header : Bytes
  content : Bytes
  deriving DecidableEq, Repr

def beginning : Bytes := Text.bytes "-----BEGIN "

def ending : Bytes := Text.bytes "-----END "

def hyphens : Bytes := Text.bytes "-----"

/-- What does not count at the end of a line. -/
def isDross (b : UInt8) : Bool := b ≤ 0x20 || 0x80 ≤ b

def trim (line : Bytes) : Bytes := (line.reverse.dropWhile isDross).reverse

/-- What stands in front of the first zero octet. -/
def beforeNul (s : Bytes) : Bytes := s.takeWhile (· ≠ 0)

/-- A byte order mark in front of a text. -/
def dropMark (s : Bytes) : Bytes :=
  match s with
  | 0xEF :: 0xBB :: 0xBF :: rest => rest
  | _ => s

/-- The most octets of a line that are read at once. -/
def pieceLimit : Nat := 254

/-- At most so many octets, up to the end of a line, and what is behind them. -/
def piece : Nat → Bytes → Bytes × Bytes
  | 0, s => ([], s)
  | _, [] => ([], [])
  | limit + 1, b :: s =>
    if b = 0x0A then ([b], s)
    else
      let (line, rest) := piece limit s
      (b :: line, rest)

theorem piece_le (limit : Nat) (s : Bytes) : (piece limit s).2.length ≤ s.length := by
  induction limit generalizing s with
  | zero => simp [piece]
  | succ limit ih =>
    cases s with
    | nil => simp [piece]
    | cons b s =>
      simp only [piece]
      split
      · simp
      · exact Nat.le_succ_of_le (ih s)

theorem piece_shorter (limit : Nat) (b : UInt8) (s : Bytes) :
    (piece (limit + 1) (b :: s)).2.length < (b :: s).length := by
  simp only [piece]
  split
  · simp
  · exact Nat.lt_succ_of_le (piece_le limit s)

/-- A line, or a piece of one. -/
structure Line where
  /-- The text without what does not count at its end. -/
  text : Bytes
  hasColon : Bool
  /-- Whether more of the line follows. -/
  isCut : Bool
  deriving DecidableEq, Repr

def Line.ofPiece (s : Bytes) : Line :=
  ⟨trim s, s.contains 0x3A, s.length = pieceLimit && s.getLast? ≠ some 0x0A⟩

/-- The lines of a text. -/
def lines (text : Bytes) : List Line :=
  match text with
  | [] => []
  | b :: s =>
    let taken := piece pieceLimit (b :: s)
    have := piece_shorter 253 b s
    .ofPiece taken.1 :: lines taken.2
termination_by text.length
decreasing_by
  exact this

/-- The name in a line with which a block begins. -/
def name? (line : Bytes) : Option Bytes := do
  let rest ← beginning.isPrefixOf? line
  let reversed ← hyphens.reverse.isPrefixOf? rest.reverse
  return beforeNul reversed.reverse

/-- What has been read of a block. Until a colon or an empty line comes, its lines can be header or content. -/
inductive Gathered where
  | undecided (lines : Bytes)
  | header (lines : Bytes)
  /-- Nothing can follow a line that is short. -/
  | content (header lines : Bytes) (isShort : Bool)
  deriving DecidableEq, Repr

namespace Gathered

/-- Decides for a header at a colon. -/
def colon : Gathered → Gathered
  | undecided lines => header lines
  | gathered => gathered

/-- Ends a header at an empty line. -/
def blank : Gathered → Option Gathered
  | undecided lines => some (content lines [] false)
  | header lines => some (content lines [] false)
  | content _ _ _ => none

/-- How long the lines behind a header are. -/
def width : Nat := 64

/-- Adds a line of text. -/
def text (line : Bytes) : Gathered → Option Gathered
  | undecided lines => some (undecided (lines ++ beforeNul line ++ [0x0A]))
  | header lines => some (header (lines ++ beforeNul line ++ [0x0A]))
  | content head lines isShort =>
    if isShort || width < line.length then none
    else some (content head (lines ++ beforeNul line ++ [0x0A]) (line.length < width))

/-- Header and content at the end of a block. -/
def close : Gathered → Bytes × Bytes
  | undecided lines => ([], lines)
  | header lines => (lines, [])
  | content head lines _ => (head, lines)

/-- Adds a line that is not the end. An empty piece that completes a line does not count. -/
def add? (gathered : Gathered) (line : Line) (afterCut : Bool) : Option Gathered :=
  if !line.text.isEmpty then gathered.text line.text
  else if afterCut then some gathered
  else gathered.blank

end Gathered

/-- The block of a name with a header and armoured octets. -/
def block (name header armoured : Bytes) : Except Flaw Block :=
  match Base64.decode? armoured with
  | none | some [] => .error .badBase64
  | some content => .ok ⟨name, header, content⟩

/-- Reads a block behind the line with which it begins, and gives the lines that follow what was read. -/
def inside (name : Bytes) (gathered : Gathered) (afterCut : Bool) : List Line → Except Flaw Block × List Line
  | [] => (.error .badArmour, [])
  | line :: rest =>
    let gathered := if line.hasColon then gathered.colon else gathered
    if ending.isPrefixOf line.text then
      let (header, armoured) := gathered.close
      (if line.text = ending ++ name ++ hyphens then block name header armoured else .error .badArmour, rest)
    else
      match gathered.add? line afterCut with
      | none => (.error .badArmour, rest)
      | some gathered => inside name gathered line.isCut rest

theorem inside_le (name : Bytes) (gathered : Gathered) (afterCut : Bool) (lines : List Line) :
    (inside name gathered afterCut lines).2.length ≤ lines.length := by
  induction lines generalizing gathered afterCut with
  | nil => simp [inside]
  | cons line rest ih =>
    simp only [inside]
    split
    · simp
    · split
      · simp
      · exact Nat.le_succ_of_le (ih _ _)

/-- The blocks among some lines. A byte order mark does not count in the first line that is looked at. -/
def blocksOf (isFirst : Bool) (lines : List Line) : List (Except Flaw Block) :=
  match lines with
  | [] => []
  | line :: rest =>
    match name? (if isFirst then dropMark line.text else line.text) with
    | none => blocksOf false rest
    | some name =>
      let found := inside name (.undecided []) false rest
      have := inside_le name (.undecided []) false rest
      found.1 :: blocksOf true found.2
termination_by lines.length
decreasing_by
  · simp
  · simp only [List.length_cons]
    omega

/-- The blocks of a text, in place of each that is malformed its flaw. -/
def blocks (text : Bytes) : List (Except Flaw Block) := blocksOf true (lines text)

end LdapDecoy.Tls.Pem
