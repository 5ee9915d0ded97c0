import CustomProps.Proofs.Utf8

/-!
The bytes of a text read back. The first byte of a character tells how many more belong to it and
which bounds the next of them has; these bounds leave out longer ways to write a character and the
surrogates, so each character is within its own. So a text is read from its bytes as it was.
-/

namespace CustomProps

namespace Bytes

/-- What a first byte owes, by its number. -/
theorem owed_ofNat : ∀ n < 256, owed (UInt8.ofNat n) =
    if n < 0x80 then some (0, 0x80, 0xBF)
    else if 0xC2 ≤ n ∧ n ≤ 0xDF then some (1, 0x80, 0xBF)
    else if n = 0xE0 then some (2, 0xA0, 0xBF)
    else if n = 0xED then some (2, 0x80, 0x9F)
    else if 0xE1 ≤ n ∧ n ≤ 0xEF then some (2, 0x80, 0xBF)
    else if n = 0xF0 then some (3, 0x90, 0xBF)
    else if 0xF1 ≤ n ∧ n ≤ 0xF3 then some (3, 0x80, 0xBF)
    else if n = 0xF4 then some (3, 0x80, 0x8F)
    else none := by decide +kernel

theorem toNat_ofNat {n : Nat} (h : n < 256) : (UInt8.ofNat n).toNat = n := by
  rw [UInt8.toNat_ofNat']
  exact Nat.mod_eq_of_lt h

/-- A continuation byte within its bounds gives its six bits. -/
theorem continuation_cons {n k bits : Nat} {low high : UInt8} {bs : Bytes} (hk : k < 64)
    (hlow : low.toNat ≤ k + 128) (hhigh : k + 128 ≤ high.toNat) :
    continuation (n + 1) low high bits (UInt8.ofNat (k + 128) :: bs) =
      ((continuation n 0x80 0xBF (bits * 64 + k) bs).1,
        (continuation n 0x80 0xBF (bits * 64 + k) bs).2 + 1) := by
  have hbyte : (UInt8.ofNat (k + 128)).toNat = k + 128 := toNat_ofNat (by omega)
  have hbounds : (decide (low ≤ UInt8.ofNat (k + 128)) && decide (UInt8.ofNat (k + 128) ≤ high)) =
      true := by
    simp only [UInt8.le_iff_toNat_le, hbyte, hlow, hhigh, decide_true, Bool.and_self]
  have hsix : (k + 128) % 0x40 = k := by omega
  rw [continuation, if_pos hbounds, hbyte, hsix]

/-- The first of three bytes admits the second. The bounds leave out what two bytes can write and
the surrogates. -/
theorem exists_owed_three {v : Nat} (hlow : 0x800 ≤ v) (hhigh : v < 0x10000)
    (hvalid : v < 0xD800 ∨ 0xDFFF < v) :
    ∃ low high, owed (UInt8.ofNat (v / 4096 % 16 + 224)) = some (2, low, high) ∧
      low.toNat ≤ v / 64 % 64 + 128 ∧ v / 64 % 64 + 128 ≤ high.toNat := by
  have h80 : (0x80 : UInt8).toNat = 128 := rfl
  have h9F : (0x9F : UInt8).toNat = 159 := rfl
  have hA0 : (0xA0 : UInt8).toNat = 160 := rfl
  have hBF : (0xBF : UInt8).toNat = 191 := rfl
  rw [owed_ofNat _ (by omega), if_neg (by omega), if_neg (by omega)]
  by_cases hfirst : v / 4096 % 16 + 224 = 0xE0
  · rw [if_pos hfirst]
    exact ⟨_, _, rfl, by omega, by omega⟩
  by_cases hlast : v / 4096 % 16 + 224 = 0xED
  · rw [if_neg hfirst, if_pos hlast]
    exact ⟨_, _, rfl, by omega, by omega⟩
  · rw [if_neg hfirst, if_neg hlast, if_pos (by omega)]
    exact ⟨_, _, rfl, by omega, by omega⟩

/-- The first of four bytes admits the second. The bounds leave out what three bytes can write and
what is behind the last character. -/
theorem exists_owed_four {v : Nat} (hlow : 0x10000 ≤ v) (hhigh : v < 0x110000) :
    ∃ low high, owed (UInt8.ofNat (v / 262144 % 8 + 240)) = some (3, low, high) ∧
      low.toNat ≤ v / 4096 % 64 + 128 ∧ v / 4096 % 64 + 128 ≤ high.toNat := by
  have h80 : (0x80 : UInt8).toNat = 128 := rfl
  have h8F : (0x8F : UInt8).toNat = 143 := rfl
  have h90 : (0x90 : UInt8).toNat = 144 := rfl
  have hBF : (0xBF : UInt8).toNat = 191 := rfl
  rw [owed_ofNat _ (by omega), if_neg (by omega), if_neg (by omega), if_neg (by omega),
    if_neg (by omega), if_neg (by omega)]
  by_cases hfirst : v / 262144 % 8 + 240 = 0xF0
  · rw [if_pos hfirst]
    exact ⟨_, _, rfl, by omega, by omega⟩
  by_cases hlast : v / 262144 % 8 + 240 = 0xF4
  · rw [if_neg hfirst, if_neg (by omega), if_pos hlast]
    exact ⟨_, _, rfl, by omega, by omega⟩
  · rw [if_neg hfirst, if_pos (by omega)]
    exact ⟨_, _, rfl, by omega, by omega⟩

/-- The bytes of a character are read as the character, whatever comes behind them. -/
theorem readChar_utf8EncodeChar (c : Char) (bs : Bytes) :
    ∃ b more, String.utf8EncodeChar c = b :: more ∧
      readChar b (more ++ bs) = (some c, more.length) := by
  have hvalid : c.toNat < 0xD800 ∨ 0xDFFF < c.toNat ∧ c.toNat < 0x110000 := c.valid
  have hval : c.val.toNat = c.toNat := rfl
  have hchar : Char.ofNat c.toNat = c := Char.ofNat_toNat c
  have h80 : (0x80 : UInt8).toNat = 128 := rfl
  have hBF : (0xBF : UInt8).toNat = 191 := rfl
  simp only [String.utf8EncodeChar, hval]
  -- The cases are the four lengths; in each the bits of the bytes add up to the character.
  by_cases h1 : c.toNat ≤ 127
  · refine ⟨_, _, if_pos h1, ?_⟩
    have hlead : c.toNat < 256 := by omega
    rw [readChar, owed_ofNat _ hlead, if_pos (by omega)]
    simp only [leadBits, continuation, toNat_ofNat hlead, hchar, List.length_nil]
  by_cases h2 : c.toNat ≤ 2047
  · refine ⟨_, _, by rw [if_neg h1, if_pos h2], ?_⟩
    have hlead : c.toNat / 64 % 32 + 192 < 256 := by omega
    have hbits : (c.toNat / 64 % 32 + 192) % 0x20 * 64 + c.toNat % 64 = c.toNat := by omega
    rw [readChar, owed_ofNat _ hlead, if_neg (by omega), if_pos (by omega)]
    simp only [leadBits, toNat_ofNat hlead, List.cons_append, List.nil_append]
    rw [continuation_cons (by omega) (by omega) (by omega), hbits, continuation, hchar]
    rfl
  by_cases h3 : c.toNat ≤ 65535
  · refine ⟨_, _, by rw [if_neg h1, if_neg h2, if_pos h3], ?_⟩
    have hlead : c.toNat / 4096 % 16 + 224 < 256 := by omega
    have hbits : ((c.toNat / 4096 % 16 + 224) % 0x10 * 64 + c.toNat / 64 % 64) * 64 +
        c.toNat % 64 = c.toNat := by omega
    obtain ⟨low, high, howed, hlow, hhigh⟩ :=
      exists_owed_three (v := c.toNat) (by omega) (by omega) (by omega)
    rw [readChar, howed]
    simp only [leadBits, toNat_ofNat hlead, List.cons_append, List.nil_append]
    rw [continuation_cons (by omega) hlow hhigh,
      continuation_cons (by omega) (by omega) (by omega), hbits, continuation, hchar]
    rfl
  · refine ⟨_, _, by rw [if_neg h1, if_neg h2, if_neg h3], ?_⟩
    have hlead : c.toNat / 262144 % 8 + 240 < 256 := by omega
    have hbits : (((c.toNat / 262144 % 8 + 240) % 0x08 * 64 + c.toNat / 4096 % 64) * 64 +
        c.toNat / 64 % 64) * 64 + c.toNat % 64 = c.toNat := by omega
    obtain ⟨low, high, howed, hlow, hhigh⟩ :=
      exists_owed_four (v := c.toNat) (by omega) (by omega)
    rw [readChar, howed]
    simp only [leadBits, toNat_ofNat hlead, List.cons_append, List.nil_append]
    rw [continuation_cons (by omega) hlow hhigh,
      continuation_cons (by omega) (by omega) (by omega),
      continuation_cons (by omega) (by omega) (by omega), hbits, continuation, hchar]
    rfl

theorem chars_utf8 (t : Text) : chars t.utf8 = t.map some := by
  induction t with
  | nil => rw [Text.utf8_nil, chars, List.map_nil]
  | cons c t ih =>
    obtain ⟨b, more, hc, hread⟩ := readChar_utf8EncodeChar c (Text.utf8 t)
    rw [Text.utf8_cons, hc, List.cons_append, chars, hread, List.drop_left, ih, List.map_cons]

/-- A text is read from its bytes. -/
theorem decode?_utf8 (t : Text) : decode? t.utf8 = some t := by
  rw [decode?, chars_utf8, List.mapM_map]
  induction t with
  | nil => rfl
  | cons c t ih =>
    rw [List.mapM_cons, ih]
    rfl

end Bytes

end CustomProps
