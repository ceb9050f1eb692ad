import LdapDecoy.Json.Read
import LdapDecoy.Json.Text
import LdapDecoy.Proofs.Json.Grammar
import LdapDecoy.Proofs.Text.Decoding

/-!
# JSON strings, written and read

Every text is written as a string that is read as this text. What is written between the quotes has neither a
control nor a quote that would end it.
-/
namespace LdapDecoy.Json
open Text.Utf8 (encode encodeChar encode_append)

/-! ## Escapes undone -/

theorem hexValue?_hexDigit {n : Nat} (digit : n < 16) : hexValue? (hexDigit n) = some n := by
  have all : ∀ n < 16, hexValue? (hexDigit n) = some n := by decide
  exact all n digit

/-- The code unit of a control as it is written. -/
theorem codeUnit?_control {n : Nat} (small : n < 0x20) :
    codeUnit? '0' '0' (hexDigit (n / 16)) (hexDigit (n % 16)) = some n := by
  have high := hexValue?_hexDigit (show n / 16 < 16 by omega)
  have low := hexValue?_hexDigit (show n % 16 < 16 by omega)
  have zero : hexValue? '0' = some 0 := rfl
  simp only [codeUnit?, zero, high, low]
  congr 1
  omega

theorem unescape?_plain {c : Char} (unquoted : c ≠ '"') (unescaped : c ≠ '\\') (above : 0x20 ≤ c.toNat)
    (rest : List Char) : unescape? (c :: rest) = (unescape? rest).map (c :: ·) := by
  have passes : ¬ (c = '"' || c = '\\' || decide (c.toNat < 0x20)) = true := by
    simp only [unquoted, unescaped, decide_false, Bool.false_or, decide_eq_true_eq]
    omega
  rw [unescape?.eq_def]
  split
  · contradiction
  · rename_i same
    exact absurd (List.head_eq_of_cons_eq same) unescaped
  · rename_i same
    exact absurd (List.head_eq_of_cons_eq same) unescaped
  · rename_i same
    cases same
    rw [if_neg passes]

theorem unescape?_control {c : Char} (control : c.toNat < 0x20) (rest : List Char) :
    unescape? ('\\' :: 'u' :: '0' :: '0' :: hexDigit (c.toNat / 16) :: hexDigit (c.toNat % 16) :: rest) =
      (unescape? rest).map (c :: ·) := by
  have notHigh : isHighHalf c.toNat = false := by
    simp only [isHighHalf, Bool.and_eq_false_iff, decide_eq_false_iff_not]
    omega
  have notLow : isLowHalf c.toNat = false := by
    simp only [isLowHalf, Bool.and_eq_false_iff, decide_eq_false_iff_not]
    omega
  rw [unescape?.eq_def]
  simp only [codeUnit?_control control, notHigh, notLow, Bool.false_eq_true, if_false, Char.ofNat_toNat]

/-- The escape of a character is read as the character, whatever stands behind it. -/
theorem unescape?_escapeChar (c : Char) (rest : List Char) :
    unescape? (escapeChar c ++ rest) = (unescape? rest).map (c :: ·) := by
  have byCode {n : Nat} (code : c.toNat = n) : c = Char.ofNat n := by rw [← code, Char.ofNat_toNat]
  unfold escapeChar
  split
  · rename_i quote
    rw [quote]
    rfl
  rename_i unquoted
  split
  · rename_i backslash
    rw [backslash]
    rfl
  rename_i unescaped
  split
  · rename_i newline
    rw [newline]
    rfl
  split
  · rename_i ret
    rw [ret]
    rfl
  split
  · rename_i tab
    rw [tab]
    rfl
  split
  · rename_i backspace
    rw [byCode backspace]
    rfl
  split
  · rename_i feed
    rw [byCode feed]
    rfl
  split
  · rename_i control
    exact unescape?_control control rest
  · rename_i above
    exact unescape?_plain unquoted unescaped (Nat.not_lt.mp above) rest

theorem unescape?_escape (s : List Char) : unescape? (escape s) = some s := by
  induction s with
  | nil => rfl
  | cons c rest ih =>
      rw [escape, List.flatMap_cons, unescape?_escapeChar, ← escape, ih]
      rfl

/-- A text that is written as a string and read again is the same. -/
theorem text?_text (s : String) : text? (encode (text s.toList)) = some s := by
  have quoted : (escape s.toList ++ ['"']).getLast? = some '"' := List.getLast?_concat
  rw [text?, Text.Utf8.decode?, Text.Utf8.decode_encode]
  simp only [Except.toOption, text, quoted, if_true, List.dropLast_concat, unescape?_escape,
    Option.map_some, String.ofList_toList]

/-! ## No controls -/

theorem hexDigit_above {n : Nat} (digit : n < 16) : 0x20 ≤ (hexDigit n).toNat := by
  have all : ∀ n < 16, 0x20 ≤ (hexDigit n).toNat := by decide
  exact all n digit

theorem escapeChar_above {c d : Char} (among : d ∈ escapeChar c) : 0x20 ≤ d.toNat := by
  have pair {a b : Char} (first : 0x20 ≤ a.toNat) (second : 0x20 ≤ b.toNat) (among : d ∈ [a, b]) :
      0x20 ≤ d.toNat := by
    rcases among with _ | ⟨_, _ | ⟨_, ⟨⟩⟩⟩
    · exact first
    · exact second
  unfold escapeChar at among
  repeat' split at among
  all_goals try exact pair (by decide) (by decide) among
  · rename_i control
    have high := hexDigit_above (show c.toNat / 16 < 16 by omega)
    have low := hexDigit_above (show c.toNat % 16 < 16 by omega)
    rcases among with _ | ⟨_, _ | ⟨_, _ | ⟨_, _ | ⟨_, among⟩⟩⟩⟩
    · decide
    · decide
    · decide
    · decide
    · exact pair high low among
  · rename_i above
    rw [List.mem_singleton.mp among]
    exact Nat.not_lt.mp above

/-- A string has no control in it. -/
theorem text_above {s : List Char} {d : Char} (among : d ∈ text s) : 0x20 ≤ d.toNat := by
  rcases List.mem_cons.mp among with rfl | among
  · decide
  rcases List.mem_append.mp among with among | among
  · obtain ⟨c, _, among⟩ := List.mem_flatMap.mp among
    exact escapeChar_above among
  · rw [List.mem_singleton.mp among]
    decide

/-! ## Strings by the rules -/

theorem IsQuoted.append {s t : Bytes} (quoted : IsQuoted s) (further : IsQuoted t) : IsQuoted (s ++ t) := by
  induction quoted with
  | nil => exact further
  | plain above unquoted unescaped _ ih => exact .plain above unquoted unescaped ih
  | escape simple _ ih => exact .escape simple ih
  | code hex _ ih => exact .code hex ih

theorem isQuoted_of_plain {octets : Bytes} (plain : ∀ b ∈ octets, 0x20 ≤ b.toNat ∧ b ≠ 0x22 ∧ b ≠ 0x5C) :
    IsQuoted octets := by
  induction octets with
  | nil => exact .nil
  | cons b octets ih =>
      obtain ⟨above, unquoted, unescaped⟩ := plain b (.head _)
      exact .plain above unquoted unescaped (ih fun c among => plain c (.tail _ among))

theorem control_isQuoted {n : Nat} (small : n < 0x20) :
    IsQuoted (encode ['\\', 'u', '0', '0', hexDigit (n / 16), hexDigit (n % 16)]) := by
  have digits : ∀ n < 16, ∃ b, encodeChar (hexDigit n) = [b] ∧ isHexDigit b = true := by
    intro n digit
    have all : ∀ n < 16, (encodeChar (hexDigit n)).length = 1 ∧
        (encodeChar (hexDigit n)).all isHexDigit = true := by decide
    obtain ⟨single, hex⟩ := all n digit
    obtain ⟨b, same⟩ := List.length_eq_one_iff.mp single
    rw [same] at hex
    exact ⟨b, same, by simpa using hex⟩
  obtain ⟨high, first, isHigh⟩ := digits (n / 16) (by omega)
  obtain ⟨low, second, isLow⟩ := digits (n % 16) (by omega)
  have octets : encode ['\\', 'u', '0', '0', hexDigit (n / 16), hexDigit (n % 16)] =
      [0x5C, 0x75, 0x30, 0x30, high, low] := by
    simp only [encode, List.flatMap_cons, List.flatMap_nil, first, second]
    rfl
  rw [octets]
  refine .code ?_ .nil
  intro digit among
  rcases among with _ | ⟨_, _ | ⟨_, _ | ⟨_, _ | ⟨_, ⟨⟩⟩⟩⟩⟩
  · rfl
  · rfl
  · exact isHigh
  · exact isLow

theorem escapeChar_isQuoted (c : Char) : IsQuoted (encode (escapeChar c)) := by
  unfold escapeChar
  split
  · exact .escape rfl .nil
  rename_i unquoted
  split
  · exact .escape rfl .nil
  rename_i unescaped
  split
  · exact .escape rfl .nil
  split
  · exact .escape rfl .nil
  split
  · exact .escape rfl .nil
  split
  · exact .escape rfl .nil
  split
  · exact .escape rfl .nil
  split
  · rename_i control
    exact control_isQuoted control
  · rename_i above
    have unlike {b : UInt8} (among : b ∈ encodeChar c) {q : Char} (other : c ≠ q) (ascii : q.toNat < 0x80) :
        b.toNat ≠ q.toNat := by
      intro same
      rcases Text.Utf8.toNat_of_mem_encodeChar among with code | high
      · apply other
        rw [← Char.ofNat_toNat c, ← code, same, Char.ofNat_toNat]
      · omega
    have single : encode [c] = encodeChar c := List.flatMap_singleton encodeChar c
    rw [single]
    refine isQuoted_of_plain ?_
    intro b among
    refine ⟨?_, ?_, ?_⟩
    · rcases Text.Utf8.toNat_of_mem_encodeChar among with code | high
      · omega
      · omega
    · intro quote
      exact unlike among unquoted (by decide) (congrArg UInt8.toNat quote)
    · intro backslash
      exact unlike among unescaped (by decide) (congrArg UInt8.toNat backslash)

theorem escape_isQuoted (s : List Char) : IsQuoted (encode (escape s)) := by
  induction s with
  | nil => exact .nil
  | cons c s ih =>
      have parts : encode (escape (c :: s)) = encode (escapeChar c) ++ encode (escape s) := encode_append _ _
      rw [parts]
      exact (escapeChar_isQuoted c).append ih

/-- A text is written as a string. -/
theorem text_isString (s : List Char) : IsString (encode (text s)) := by
  have written : encode (text s) = 0x22 :: (encode (escape s) ++ [0x22]) :=
    congrArg (0x22 :: ·) (encode_append _ _)
  rw [written]
  exact .quotes (escape_isQuoted s)

theorem text_isValue (s : List Char) : Derives .value (encode (text s)) := .string (text_isString s)

end LdapDecoy.Json
