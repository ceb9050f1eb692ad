import LdapDecoy.Proofs.Text.Utf8
import Mathlib.Data.List.Basic

/-!
# Reading what was written

The octets that a text is written as are read as this text, no others are, and an octet below U+0080 among them is a
character of its own.
-/
namespace LdapDecoy.Text.Utf8

theorem toNat_octet {n : Nat} (small : n < 256) : (UInt8.ofNat n).toNat = n := by
  rw [UInt8.toNat_ofNat']
  omega

theorem between_iff (low high b : UInt8) :
    (decide (low ≤ b) && decide (b ≤ high)) = true ↔ low.toNat ≤ b.toNat ∧ b.toNat ≤ high.toNat := by
  simp only [UInt8.le_iff_toNat_le, Bool.and_eq_true, decide_eq_true_eq]

theorem not_between_of_lt {low high b : UInt8} (above : high.toNat < b.toNat) :
    ¬ (decide (low ≤ b) && decide (b ≤ high)) = true := by
  rw [between_iff]
  omega

/-! ## Sequences of each length -/

section
variable {a b c d : UInt8}

theorem head_one (lead : a.toNat < 0x80) (rest : Bytes) :
    head (a :: rest) = .char (scalar a.toNat) rest := by
  have one : a < 0x80 := lead
  unfold head
  dsimp only
  rw [if_pos one]

theorem not_one (lead : 0x80 ≤ a.toNat) : ¬ a < 0x80 := Nat.not_lt.mpr lead

theorem head_two (lead : 0xC2 ≤ a.toNat ∧ a.toNat ≤ 0xDF) (tail : isTail b = true) (rest : Bytes) :
    head (a :: b :: rest) = .char (scalar (a.toNat % 32 * 64 + payload b)) rest := by
  have notOne : ¬ a < 0x80 := not_one (by omega)
  have two := (between_iff 0xC2 0xDF a).mpr lead
  unfold head
  dsimp only
  rw [if_neg notOne, if_pos two, if_pos tail]

theorem head_three (lead : 0xE0 ≤ a.toNat ∧ a.toNat ≤ 0xEF) (second : isSecond a b = true)
    (tail : isTail c = true) (rest : Bytes) :
    head (a :: b :: c :: rest) =
      .char (scalar ((a.toNat % 16 * 64 + payload b) * 64 + payload c)) rest := by
  have notOne : ¬ a < 0x80 := not_one (by omega)
  have notTwo := @not_between_of_lt 0xC2 0xDF a (Nat.lt_of_lt_of_le (by decide) lead.1)
  have three := (between_iff 0xE0 0xEF a).mpr lead
  unfold head
  dsimp only
  rw [if_neg notOne, if_neg notTwo, if_pos three, if_pos second, if_pos tail]

theorem head_four (lead : 0xF0 ≤ a.toNat ∧ a.toNat ≤ 0xF4) (second : isSecond a b = true)
    (tail : isTail c = true) (last : isTail d = true) (rest : Bytes) :
    head (a :: b :: c :: d :: rest) =
      .char (scalar (((a.toNat % 8 * 64 + payload b) * 64 + payload c) * 64 + payload d)) rest := by
  have notOne : ¬ a < 0x80 := not_one (by omega)
  have notTwo := @not_between_of_lt 0xC2 0xDF a (Nat.lt_of_lt_of_le (by decide) lead.1)
  have notThree := @not_between_of_lt 0xE0 0xEF a (Nat.lt_of_lt_of_le (by decide) lead.1)
  have four := (between_iff 0xF0 0xF4 a).mpr lead
  unfold head
  dsimp only
  rw [if_neg notOne, if_neg notTwo, if_neg notThree, if_pos four, if_pos second, if_pos tail, if_pos last]

/-- What the lead octets ask of the second one beyond that it is a tail. -/
theorem isSecond_of_isTail (tail : isTail b = true)
    (e0 : a.toNat = 0xE0 → 0xA0 ≤ b.toNat) (ed : a.toNat = 0xED → b.toNat ≤ 0x9F)
    (f0 : a.toNat = 0xF0 → 0x90 ≤ b.toNat) (f4 : a.toNat = 0xF4 → b.toNat ≤ 0x8F) :
    isSecond a b = true := by
  obtain ⟨least, most⟩ := (between_iff 0x80 0xBF b).mp tail
  unfold isSecond
  split
  · rename_i same
    exact (between_iff 0xA0 0xBF b).mpr ⟨e0 (congrArg UInt8.toNat same), most⟩
  split
  · rename_i same
    exact (between_iff 0x80 0x9F b).mpr ⟨least, ed (congrArg UInt8.toNat same)⟩
  split
  · rename_i same
    exact (between_iff 0x90 0xBF b).mpr ⟨f0 (congrArg UInt8.toNat same), most⟩
  split
  · rename_i same
    exact (between_iff 0x80 0x8F b).mpr ⟨least, f4 (congrArg UInt8.toNat same)⟩
  · exact tail

end

/-- Six bits as a tail. -/
theorem tail_octet (n : Nat) :
    isTail (UInt8.ofNat (0x80 + n % 64)) = true ∧ payload (UInt8.ofNat (0x80 + n % 64)) = n % 64 := by
  have value : (UInt8.ofNat (0x80 + n % 64)).toNat = 0x80 + n % 64 := toNat_octet (by omega)
  constructor
  · apply (between_iff 0x80 0xBF _).mpr
    rw [value]
    change 0x80 ≤ _ ∧ _ ≤ 0xBF
    omega
  · rw [payload, value]
    omega

/-! ## Characters and texts -/

/-- The octets of a character are read as this character, whatever stands behind them. -/
theorem head_encodeChar (c : Char) (rest : Bytes) : head (encodeChar c ++ rest) = .char c rest := by
  have valid : c.toNat < 0xD800 ∨ 0xDFFF < c.toNat ∧ c.toNat < 0x110000 := c.valid
  have back {n : Nat} (same : n = c.toNat) : scalar n = c := by
    rw [same]
    exact Char.ofNat_toNat c
  obtain ⟨tail, low⟩ := tail_octet c.toNat
  obtain ⟨tail', middle⟩ := tail_octet (c.toNat / 64)
  obtain ⟨tail'', high⟩ := tail_octet (c.toNat / 4096)
  unfold encodeChar
  dsimp only
  split
  · have lead : (UInt8.ofNat c.toNat).toNat = c.toNat := toNat_octet (by omega)
    change head (UInt8.ofNat c.toNat :: rest) = _
    rw [head_one (by omega), back lead]
  split
  · let a := UInt8.ofNat (0xC0 + c.toNat / 64)
    have lead : a.toNat = 0xC0 + c.toNat / 64 := toNat_octet (by omega)
    change head (a :: _ :: rest) = _
    rw [head_two (by omega) tail, lead, low, back (by omega)]
  split
  · let a := UInt8.ofNat (0xE0 + c.toNat / 4096)
    have lead : a.toNat = 0xE0 + c.toNat / 4096 := toNat_octet (by omega)
    have next : (UInt8.ofNat (0x80 + c.toNat / 64 % 64)).toNat = 0x80 + c.toNat / 64 % 64 :=
      toNat_octet (by omega)
    have second : isSecond a _ = true :=
      isSecond_of_isTail tail' (by omega) (by omega) (by omega) (by omega)
    change head (a :: _ :: _ :: rest) = _
    rw [head_three (by omega) second tail, lead, low, middle, back (by omega)]
  · let a := UInt8.ofNat (0xF0 + c.toNat / 262144)
    have lead : a.toNat = 0xF0 + c.toNat / 262144 := toNat_octet (by omega)
    have next : (UInt8.ofNat (0x80 + c.toNat / 4096 % 64)).toNat = 0x80 + c.toNat / 4096 % 64 :=
      toNat_octet (by omega)
    have second : isSecond a _ = true :=
      isSecond_of_isTail tail'' (by omega) (by omega) (by omega) (by omega)
    change head (a :: _ :: _ :: _ :: rest) = _
    rw [head_four (by omega) second tail' tail, lead, low, middle, high, back (by omega)]

theorem decodeFrom_char {s rest : Bytes} {c : Char} (begins : head s = .char c rest) (offset : Nat) :
    decodeFrom offset s = (decodeFrom (offset + (s.length - rest.length)) rest).map (c :: ·) := by
  rw [decodeFrom]
  split <;> rename_i found <;> rw [begins] at found <;> cases found
  rfl

theorem decodeFrom_encode (offset : Nat) (s : List Char) : decodeFrom offset (encode s) = .ok s := by
  induction s generalizing offset with
  | nil =>
      rw [decodeFrom]
      rfl
  | cons c rest ih =>
      have begins : head (encode (c :: rest)) = .char c (encode rest) := head_encodeChar c (encode rest)
      rw [decodeFrom_char begins, ih]
      rfl

/-- A text that is written and read again is the same. -/
theorem decode_encode (s : List Char) : decode (encode s) = .ok s := decodeFrom_encode 0 s

/-- Reading leniently, nothing of a text that was written is replaced. -/
theorem lossy_encode (s : List Char) : lossy (encode s) = s := by
  induction s with
  | nil =>
      rw [lossy]
      rfl
  | cons c rest ih =>
      have begins : head (encode (c :: rest)) = .char c (encode rest) := head_encodeChar c (encode rest)
      rw [lossy]
      split <;> rename_i found <;> rw [begins] at found <;> cases found
      rw [ih]

/-! ## Nothing else is read -/

theorem toNat_scalar {n : Nat} (valid : n < 0xD800 ∨ 0xDFFF < n ∧ n < 0x110000) : (scalar n).toNat = n := by
  have isValid : n.isValidChar := valid
  unfold scalar Char.ofNat
  rw [dif_pos isValid]
  rfl

/-- What is asked of a second octet, by its lead. -/
theorem bounds_of_isSecond {a b : UInt8} (second : isSecond a b = true) :
    (0x80 ≤ b.toNat ∧ b.toNat ≤ 0xBF) ∧ (a.toNat = 0xE0 → 0xA0 ≤ b.toNat) ∧ (a.toNat = 0xED → b.toNat ≤ 0x9F) ∧
      (a.toNat = 0xF0 → 0x90 ≤ b.toNat) ∧ (a.toNat = 0xF4 → b.toNat ≤ 0x8F) := by
  unfold isSecond isTail at second
  simp only [← UInt8.toNat_inj, UInt8.le_iff_toNat_le, UInt8.reduceToNat] at second
  repeat' split at second
  all_goals
    simp only [Bool.and_eq_true, decide_eq_true_eq] at second
    omega

theorem bounds_of_isTail {b : UInt8} (tail : isTail b = true) : 0x80 ≤ b.toNat ∧ b.toNat ≤ 0xBF :=
  (between_iff 0x80 0xBF b).mp tail

theorem octet_of_eq {n : Nat} {b : UInt8} (same : n = b.toNat) : UInt8.ofNat n = b := by
  rw [same, UInt8.ofNat_toNat]

section
variable {a b c d : UInt8}

theorem encodeChar_one (lead : a.toNat < 0x80) : encodeChar (scalar a.toNat) = [a] := by
  have value := toNat_scalar (n := a.toNat) (by omega)
  unfold encodeChar
  dsimp only
  rw [value, if_pos lead, UInt8.ofNat_toNat]

theorem encodeChar_two (lead : 0xC2 ≤ a.toNat ∧ a.toNat ≤ 0xDF) (tail : isTail b = true) :
    encodeChar (scalar (a.toNat % 32 * 64 + payload b)) = [a, b] := by
  have second := bounds_of_isTail tail
  unfold payload
  have value := toNat_scalar (n := a.toNat % 32 * 64 + b.toNat % 64) (by omega)
  unfold encodeChar
  dsimp only
  rw [value, if_neg (by omega), if_pos (by omega), octet_of_eq (b := a) (by omega), octet_of_eq (b := b) (by omega)]

theorem encodeChar_three (lead : 0xE0 ≤ a.toNat ∧ a.toNat ≤ 0xEF) (second : isSecond a b = true)
    (tail : isTail c = true) :
    encodeChar (scalar ((a.toNat % 16 * 64 + payload b) * 64 + payload c)) = [a, b, c] := by
  have second := bounds_of_isSecond second
  have third := bounds_of_isTail tail
  unfold payload
  have value := toNat_scalar (n := (a.toNat % 16 * 64 + b.toNat % 64) * 64 + c.toNat % 64) (by omega)
  unfold encodeChar
  dsimp only
  rw [value, if_neg (by omega), if_neg (by omega), if_pos (by omega), octet_of_eq (b := a) (by omega),
    octet_of_eq (b := b) (by omega), octet_of_eq (b := c) (by omega)]

theorem encodeChar_four (lead : 0xF0 ≤ a.toNat ∧ a.toNat ≤ 0xF4) (second : isSecond a b = true)
    (tail : isTail c = true) (last : isTail d = true) :
    encodeChar (scalar (((a.toNat % 8 * 64 + payload b) * 64 + payload c) * 64 + payload d)) = [a, b, c, d] := by
  have second := bounds_of_isSecond second
  have third := bounds_of_isTail tail
  have fourth := bounds_of_isTail last
  unfold payload
  have value := toNat_scalar
    (n := ((a.toNat % 8 * 64 + b.toNat % 64) * 64 + c.toNat % 64) * 64 + d.toNat % 64) (by omega)
  unfold encodeChar
  dsimp only
  rw [value, if_neg (by omega), if_neg (by omega), if_neg (by omega), octet_of_eq (b := a) (by omega),
    octet_of_eq (b := b) (by omega), octet_of_eq (b := c) (by omega), octet_of_eq (b := d) (by omega)]
end

/-- What is read as a character is what the character is written as. -/
theorem eq_encodeChar_of_head {s rest : Bytes} {c : Char} (begins : head s = .char c rest) :
    s = encodeChar c ++ rest := by
  cases s with
  | nil => cases begins
  | cons a s =>
      unfold head at begins
      dsimp only at begins
      split at begins
      · rename_i one
        cases begins
        rw [encodeChar_one one]
        rfl
      split at begins
      · rename_i two
        replace two := (between_iff 0xC2 0xDF a).mp two
        repeat' split at begins
        all_goals cases begins
        rename_i tail
        rw [encodeChar_two two tail]
        rfl
      split at begins
      · rename_i three
        replace three := (between_iff 0xE0 0xEF a).mp three
        repeat' split at begins
        all_goals cases begins
        rename_i _ b second _ c tail
        rw [encodeChar_three three second tail]
        rfl
      split at begins
      · rename_i four
        replace four := (between_iff 0xF0 0xF4 a).mp four
        repeat' split at begins
        all_goals cases begins
        rename_i _ b second _ c tail _ d last
        rw [encodeChar_four four second tail last]
        rfl
      · cases begins

theorem eq_nil_of_head {octets : Bytes} (ends : head octets = .none) : octets = [] := by
  cases octets with
  | nil => rfl
  | cons a rest =>
      unfold head at ends
      dsimp only at ends
      repeat' split at ends
      all_goals cases ends

theorem eq_encode_of_decodeFrom {offset : Nat} {octets : Bytes} {chars : List Char}
    (reads : decodeFrom offset octets = .ok chars) : octets = encode chars := by
  fun_induction decodeFrom offset octets generalizing chars with
  | case1 offset octets begins =>
      cases reads
      exact eq_nil_of_head begins
  | case2 offset octets c rest begins shorter ih =>
      rcases behind : decodeFrom (offset + (octets.length - rest.length)) rest with fault | more
      · rw [behind] at reads
        cases reads
      · rw [behind] at reads
        cases reads
        rw [eq_encodeChar_of_head begins]
        exact congrArg (encodeChar c ++ ·) (ih behind)
  | case3 offset octets size rest begins => cases reads
  | case4 offset octets begins => cases reads

/-- A text is read from the octets that it is written as, and from no others. -/
theorem decode_eq_ok_iff {octets : Bytes} {chars : List Char} :
    decode octets = .ok chars ↔ octets = encode chars :=
  ⟨eq_encode_of_decodeFrom, fun same => same ▸ decode_encode chars⟩

/-! ## Octets of one character -/

theorem encode_append (s t : List Char) : encode (s ++ t) = encode s ++ encode t := List.flatMap_append

theorem encodeChar_ne_nil (c : Char) : encodeChar c ≠ [] := by
  unfold encodeChar
  dsimp only
  repeat' split
  all_goals exact List.cons_ne_nil _ _

/-- A text begins with an octet of its first character. -/
theorem mem_of_head?_encode {c : Char} {s : List Char} {b : UInt8} (first : (encode (c :: s)).head? = some b) :
    b ∈ encodeChar c := by
  rw [encode, List.flatMap_cons, List.head?_append_of_ne_nil _ (encodeChar_ne_nil c)] at first
  exact List.mem_of_head? first

/-- A text ends with an octet of its last character. -/
theorem mem_of_getLast?_encode {s : List Char} {c : Char} {b : UInt8}
    (last : (encode (s ++ [c])).getLast? = some b) : b ∈ encodeChar c := by
  have single : encode [c] = encodeChar c := List.flatMap_singleton encodeChar c
  rw [encode_append, single, List.getLast?_append_of_ne_nil _ (encodeChar_ne_nil c)] at last
  exact List.mem_of_getLast? last

/-- An octet of a character is the character, or stands above U+007F. -/
theorem toNat_of_mem_encodeChar {c : Char} {b : UInt8} (among : b ∈ encodeChar c) :
    b.toNat = c.toNat ∨ 0x80 ≤ b.toNat := by
  have code : c.toNat < 0x110000 := by
    rcases c.valid with low | ⟨_, high⟩
    · exact Nat.lt_trans low (by decide)
    · exact high
  have above {n : Nat} (least : 0x80 ≤ n) (octet : n < 256) : 0x80 ≤ (UInt8.ofNat n).toNat := by
    rw [toNat_octet octet]
    exact least
  unfold encodeChar at among
  dsimp only at among
  split at among
  · rw [List.mem_singleton.mp among]
    exact .inl (toNat_octet (by omega))
  right
  split at among
  · rcases among with _ | ⟨_, _ | ⟨_, ⟨⟩⟩⟩ <;> exact above (by omega) (by omega)
  split at among
  · rcases among with _ | ⟨_, _ | ⟨_, _ | ⟨_, ⟨⟩⟩⟩⟩ <;> exact above (by omega) (by omega)
  · rcases among with _ | ⟨_, _ | ⟨_, _ | ⟨_, _ | ⟨_, ⟨⟩⟩⟩⟩⟩ <;> exact above (by omega) (by omega)

end LdapDecoy.Text.Utf8

namespace LdapDecoy.Text

/-- Octets are a text if and only if it is written as them. -/
theorem ofBytes?_eq_some_iff {octets : Bytes} {text : String} : ofBytes? octets = some text ↔ octets = bytes text := by
  constructor
  · intro reads
    obtain ⟨chars, decoded, rfl⟩ := Option.map_eq_some_iff.mp reads
    have decodes : Utf8.decode octets = .ok chars := by
      cases found : Utf8.decode octets with
      | error fault => simp [Utf8.decode?, found, Except.toOption] at decoded
      | ok chars' => simpa [Utf8.decode?, found, Except.toOption] using decoded
    rw [bytes, String.toList_ofList]
    exact Utf8.decode_eq_ok_iff.mp decodes
  · rintro rfl
    rw [ofBytes?, Utf8.decode?, bytes, Utf8.decode_encode]
    exact congrArg some String.ofList_toList

theorem lossy_bytes (text : String) : lossy (bytes text) = text := by
  rw [lossy, bytes, Utf8.lossy_encode, String.ofList_toList]

end LdapDecoy.Text
