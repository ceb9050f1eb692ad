import LdapDecoy.Text.Utf8

/-!
# BER elements

Octets as a tree of tagged elements of definite length. A tag is one octet: a class, whether the content is
elements again, and a number of five bits. Reading takes as much as the tags ask for, and has no answer while
an element, or one inside it, is not complete.
-/
namespace LdapDecoy.Ber

inductive Class where
  | universal
  | application
  | context
  | custom
  deriving DecidableEq, Repr

/-- The class that the upper two bits of a tag give. -/
def Class.ofTag (tag : UInt8) : Class :=
  if tag < 0x40 then .universal
  else if tag < 0x80 then .application
  else if tag < 0xC0 then .context
  else .custom

/-- The outermost layer of an element. -/
structure Frame where
  cls : Class
  isConstructed : Bool
  number : Nat
  content : Bytes
  deriving DecidableEq, Repr

/-- The number that octets write in base 256, of which 64 bits are kept. -/
def word (octets : Bytes) : Nat := octets.foldl (fun n b => (n * 256 + b.toNat) % 0x10000000000000000) 0

/-- The first `n` octets and the rest, if there are so many. -/
def splitAt? : Nat → Bytes → Option (Bytes × Bytes)
  | 0, s => some ([], s)
  | _ + 1, [] => none
  | n + 1, b :: s => (splitAt? n s).map fun (taken, rest) => (b :: taken, rest)

theorem splitAt?_eq {n : Nat} {s taken rest : Bytes} (h : splitAt? n s = some (taken, rest)) :
    s = taken ++ rest := by
  induction n generalizing s taken with
  | zero => simp_all [splitAt?]
  | succ n ih =>
    cases s with
    | nil => simp [splitAt?] at h
    | cons b s =>
      simp only [splitAt?, Option.map_eq_some_iff, Prod.mk.injEq] at h
      obtain ⟨⟨taken', rest'⟩, found, rfl, rfl⟩ := h
      rw [List.cons_append, ← ih found]

/-- A length: one octet below 128, or the count of the octets that write it. -/
def length? : Bytes → Option (Nat × Bytes)
  | [] => none
  | b :: rest =>
    if b < 0x80 then some (b.toNat, rest)
    else (splitAt? (b.toNat - 128) rest).map fun (octets, rest) => (word octets, rest)

/-- The frame at the head of some octets, and the octets behind it. -/
def frame? : Bytes → Option (Frame × Bytes)
  | [] => none
  | tag :: rest =>
    match length? rest with
    | none => none
    | some (length, rest) =>
      match splitAt? length rest with
      | none => none
      | some (content, rest) =>
        some (⟨.ofTag tag, tag / 32 % 2 = 1, (tag % 32).toNat, content⟩, rest)

theorem length?_le {s rest : Bytes} {n : Nat} (h : length? s = some (n, rest)) :
    rest.length ≤ s.length := by
  unfold length? at h
  split at h
  · contradiction
  · split at h
    · simp only [Option.some.injEq, Prod.mk.injEq] at h
      rw [← h.2, List.length_cons]
      omega
    · simp only [Option.map_eq_some_iff, Prod.mk.injEq] at h
      obtain ⟨⟨octets, behind⟩, found, _, rfl⟩ := h
      change behind.length ≤ _
      rw [List.length_cons, splitAt?_eq found, List.length_append]
      omega

theorem frame?_shorter {s rest : Bytes} {frame : Frame} (h : frame? s = some (frame, rest)) :
    frame.content.length + rest.length < s.length := by
  unfold frame? at h
  split at h
  · contradiction
  · split at h
    · contradiction
    · rename_i found
      split at h
      · contradiction
      · rename_i cut
        simp only [Option.some.injEq, Prod.mk.injEq] at h
        obtain ⟨rfl, rfl⟩ := h
        have := length?_le found
        rw [splitAt?_eq cut, List.length_append] at this
        simp only [List.length_cons]
        omega

inductive Element where
  | primitive (cls : Class) (number : Nat) (content : Bytes)
  | constructed (cls : Class) (number : Nat) (elements : List Element)
  deriving Repr

/-- The elements that some octets are, one behind the other. -/
def elements? (s : Bytes) : Option (List Element) :=
  match h : frame? s with
  | none => if s.isEmpty then some [] else none
  | some (frame, rest) =>
    have := frame?_shorter h
    match elements? rest with
    | none => none
    | some more =>
      if frame.isConstructed then
        match elements? frame.content with
        | none => none
        | some inner => some (.constructed frame.cls frame.number inner :: more)
      else some (.primitive frame.cls frame.number frame.content :: more)
termination_by s.length

/-- The element that a frame holds. -/
def Frame.element? (frame : Frame) : Option Element :=
  if frame.isConstructed then (elements? frame.content).map (.constructed frame.cls frame.number)
  else some (.primitive frame.cls frame.number frame.content)

/-- The element at the head of some octets, and the octets behind it. -/
def element? (s : Bytes) : Option (Element × Bytes) :=
  match frame? s with
  | none => none
  | some (frame, rest) => frame.element?.map fun element => (element, rest)

namespace Element

/-- The content of a primitive element of a class and number. -/
def content? (cls : Class) (number : Nat) : Element → Option Bytes
  | .primitive c n content => if c = cls ∧ n = number then some content else none
  | .constructed _ _ _ => none

/-- The elements in a constructed element of a class and number. -/
def inner? (cls : Class) (number : Nat) : Element → Option (List Element)
  | .primitive _ _ _ => none
  | .constructed c n elements => if c = cls ∧ n = number then some elements else none

def integer? : Element → Option Bytes := content? .universal 2

def octets? : Element → Option Bytes := content? .universal 4

def sequence? : Element → Option (List Element) := inner? .universal 16

end Element

end LdapDecoy.Ber
