import LdapDecoy.Json.Read
import LdapDecoy.Text.Quoted
import Mathlib.Algebra.Group.Nat.Defs
import Mathlib.Data.Bool.AllAny

/-!
# Quoted text read back

What stands between the quotes is read back character by character, and the quote behind it ends it: what is written of
a text is not the beginning of what is written of another one. Nothing of it is a control character.
-/
namespace LdapDecoy.Text.Quoted

/-! ## Characters that are not visible -/

/-- Control characters: those below the space, and those from U+007F to U+009F. -/
def isControl (c : Char) : Bool := c.toNat < 0x20 || 0x7F ≤ c.toNat && c.toNat ≤ 0x9F

theorem isControl_of_visible {c : Char} (seen : visible c = true) : isControl c = false := by
  have hidden : ∀ n < 0xA0, 0x7F ≤ n → inRanges n hiddenRanges = true := by decide
  unfold visible at seen
  split at seen
  · have above : 0x20 ≤ c.toNat := of_decide_eq_true seen
    simp only [isControl, Bool.or_eq_false_iff, Bool.and_eq_false_iff, decide_eq_false_iff_not]
    omega
  · simp only [Bool.and_eq_true, Bool.not_eq_true'] at seen
    rcases Nat.lt_or_ge c.toNat 0xA0 with within | beyond
    · rw [hidden c.toNat within (by omega)] at seen
      cases seen.1
    · simp only [isControl, Bool.or_eq_false_iff, Bool.and_eq_false_iff, decide_eq_false_iff_not]
      omega

/-! ## What is written -/

theorem mem_hexDigits {fuel n : Nat} {c : Char} (among : c ∈ hexDigits fuel n) : ∃ digit < 16, c = hexDigit digit := by
  induction fuel generalizing n with
  | zero => exact ⟨n % 16, Nat.mod_lt n (by decide), List.mem_singleton.mp among⟩
  | succ fuel ih =>
      rw [hexDigits] at among
      split at among
      · rename_i small
        exact ⟨n, small, List.mem_singleton.mp among⟩
      · rcases List.mem_append.mp among with among | among
        · exact ih among
        · exact ⟨n % 16, Nat.mod_lt n (by decide), List.mem_singleton.mp among⟩

/-- The characters that escapes are made of. -/
def marks : List Char :=
  ['\\', '"', 'n', 'r', 't', 'u', '\x7b', '\x7d', '0', '1', '2', '3', '4', '5', '6', '7', '8', '9', 'a', 'b', 'c',
    'd', 'e', 'f']

theorem hexDigit_mem_marks {n : Nat} (digit : n < 16) : hexDigit n ∈ marks := by
  have all : ∀ n < 16, hexDigit n ∈ marks := by decide
  exact all n digit

/-- A character is written as itself, where it is visible, or with marks alone. -/
theorem mem_encodeChar {c d : Char} (among : d ∈ encodeChar c) : d = c ∧ visible c = true ∨ d ∈ marks := by
  have ofMarks {s : List Char} (all : ∀ e ∈ s, e ∈ marks) (among : d ∈ s) : d = c ∧ visible c = true ∨ d ∈ marks :=
    .inr (all d among)
  unfold encodeChar at among
  iterate 6
    split at among
    · exact ofMarks (List.all_iff_forall_prop.mp (by decide)) among
  split at among
  · rename_i seen
    exact .inl ⟨List.mem_singleton.mp among, seen⟩
  · right
    rw [byCodePoint, List.mem_append, List.mem_append] at among
    rcases among with (among | among) | among
    · have all : ∀ e ∈ ['\\', 'u', '\x7b'], e ∈ marks := List.all_iff_forall_prop.mp (by decide)
      exact all d among
    · obtain ⟨digit, small, rfl⟩ := mem_hexDigits among
      exact hexDigit_mem_marks small
    · rw [List.mem_singleton.mp among]
      decide

theorem isControl_of_mem_encode {s : List Char} {c : Char} (among : c ∈ encode s) : isControl c = false := by
  have ofMarks : ∀ c ∈ marks, isControl c = false := List.all_iff_forall_prop.mp (by decide)
  obtain ⟨d, _, among⟩ := List.mem_flatMap.mp among
  rcases mem_encodeChar among with ⟨rfl, seen⟩ | mark
  · exact isControl_of_visible seen
  · exact ofMarks c mark

/-! ## And read back -/

/-- The number of some hexadecimal digits. -/
def number (digits : List Char) : Nat := digits.foldl (fun n c => n * 16 + (Json.hexValue? c).getD 0) 0

theorem number_concat (digits : List Char) (last : Char) :
    number (digits ++ [last]) = number digits * 16 + number [last] := by
  simp [number, List.foldl_append]

theorem number_hexDigit {n : Nat} (digit : n < 16) : number [hexDigit n] = n := by
  have all : ∀ n < 16, number [hexDigit n] = n := by decide
  exact all n digit

theorem number_hexDigits {fuel n : Nat} (small : n < 16 ^ (fuel + 1)) : number (hexDigits fuel n) = n := by
  induction fuel generalizing n with
  | zero =>
      rw [hexDigits, number_hexDigit (Nat.mod_lt n (by decide))]
      omega
  | succ fuel ih =>
      rw [hexDigits]
      split
      · rename_i single
        exact number_hexDigit single
      · rw [number_concat, number_hexDigit (Nat.mod_lt n (by decide)), ih (by omega)]
        omega

/-- The character that stands at the head of what is between quotes, and what stands behind it. -/
def read? : List Char → Option (Char × List Char)
  | '\\' :: 'u' :: '\x7b' :: rest =>
    some (Char.ofNat (number (rest.takeWhile (· ≠ '\x7d'))), (rest.dropWhile (· ≠ '\x7d')).drop 1)
  | '\\' :: 'n' :: rest => some ('\n', rest)
  | '\\' :: 'r' :: rest => some ('\r', rest)
  | '\\' :: 't' :: rest => some ('\t', rest)
  | '\\' :: '0' :: rest => some (Char.ofNat 0, rest)
  | '\\' :: c :: rest => some (c, rest)
  | c :: rest => some (c, rest)
  | [] => none

theorem read?_byCodePoint (c : Char) (rest : List Char) : read? (byCodePoint c ++ rest) = some (c, rest) := by
  have code : c.toNat < 16 ^ 6 := by
    rcases c.valid with low | ⟨_, high⟩
    · exact Nat.lt_trans low (by decide)
    · exact Nat.lt_trans high (by decide)
  have inside : ∀ d ∈ hexDigits 5 c.toNat, decide (d ≠ '\x7d') = true := by
    intro d among
    obtain ⟨digit, small, rfl⟩ := mem_hexDigits among
    have all : ∀ n < 16, decide (hexDigit n ≠ '\x7d') = true := by decide
    exact all digit small
  have layout : byCodePoint c ++ rest = '\\' :: 'u' :: '\x7b' :: (hexDigits 5 c.toNat ++ '\x7d' :: rest) := by
    simp [byCodePoint]
  rw [layout, read?, List.takeWhile_append_of_pos inside, List.dropWhile_append_of_pos inside,
    List.takeWhile_cons_of_neg (by decide), List.dropWhile_cons_of_neg (by decide), List.append_nil,
    number_hexDigits code, Char.ofNat_toNat]
  rfl

theorem read?_encodeChar (c : Char) (rest : List Char) : read? (encodeChar c ++ rest) = some (c, rest) := by
  unfold encodeChar
  split
  · rename_i quote
    rw [quote]
    rfl
  split
  · rename_i backslash
    rw [backslash]
    rfl
  rename_i unescaped
  split
  · rename_i newline
    rw [newline]
    rfl
  split
  · rename_i ret
    rw [ret]
    rfl
  split
  · rename_i tab
    rw [tab]
    rfl
  split
  · rename_i null
    have same : c = Char.ofNat 0 := by rw [← null, Char.ofNat_toNat]
    rw [same]
    rfl
  split
  · rw [List.singleton_append, read?.eq_def]
    split <;> simp_all
  · exact read?_byCodePoint c rest

/-- No character is written so that it could be taken for the quote at the end. -/
theorem encodeChar_ne_quote (c : Char) (rest s : List Char) : encodeChar c ++ rest ≠ '"' :: s := by
  unfold encodeChar
  split
  · simp
  rename_i unquoted
  repeat' split
  all_goals simp [byCodePoint, unquoted]

/-- What is written of a text, up to the quote that ends it, is written of no other text. -/
theorem encode_unique {s t x y : List Char} (same : encode s ++ '"' :: x = encode t ++ '"' :: y) :
    s = t ∧ x = y := by
  induction s generalizing t with
  | nil =>
      cases t with
      | nil => exact ⟨rfl, (List.cons.inj same).2⟩
      | cons d t =>
          rw [encode, encode, List.flatMap_cons, List.append_assoc] at same
          exact absurd same.symm (encodeChar_ne_quote d _ _)
  | cons c s ih =>
      cases t with
      | nil =>
          rw [encode, encode, List.flatMap_cons, List.append_assoc] at same
          exact absurd same (encodeChar_ne_quote c _ _)
      | cons d t =>
          rw [encode, encode, List.flatMap_cons, List.flatMap_cons, List.append_assoc, List.append_assoc] at same
          have heads := congrArg read? same
          rw [read?_encodeChar, read?_encodeChar] at heads
          obtain ⟨rfl, further⟩ := Prod.mk.inj (Option.some.inj heads)
          obtain ⟨rfl, rest⟩ := ih further
          exact ⟨rfl, rest⟩

end LdapDecoy.Text.Quoted
