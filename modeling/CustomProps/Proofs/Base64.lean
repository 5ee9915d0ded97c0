import CustomProps.Swatch.Base64

/-!
Base64 read back. Each group of four digits gives back the bytes that it was made from: three of
them, or in the last group two or one, with a padding sign for each byte that is missing. The reader
refuses padding at any other place and bits that no byte has.
-/

namespace CustomProps

namespace Base64

/-- The six bits of a digit. -/
def value? (c : Char) : Option Nat := alphabet.findIdx? (· == c)

/-- The bytes that groups of four digits stand for. -/
def decode? : Text → Option Bytes
  | [] => some []
  | a :: b :: c :: d :: rest => do
    let w ← value? a
    let x ← value? b
    let first := UInt8.ofNat (w * 4 + x / 16)
    if c = padding ∧ d = padding ∧ rest = [] then
      if x % 16 = 0 then some [first] else none
    else
      let y ← value? c
      let second := UInt8.ofNat (x % 16 * 16 + y / 4)
      if d = padding ∧ rest = [] then
        if y % 4 = 0 then some [first, second] else none
      else
        let z ← value? d
        let third := UInt8.ofNat (y % 4 * 64 + z)
        return first :: second :: third :: (← decode? rest)
  | _ => none

/-! The three kinds of groups, by the bytes that they are. -/

section Groups

variable {a b c d : Char} {w x y z : Nat}

theorem decode?_three (ha : value? a = some w) (hb : value? b = some x) (hc : value? c = some y)
    (hd : value? d = some z) (hne : d ≠ padding) (rest : Text) :
    decode? (a :: b :: c :: d :: rest) = (decode? rest).map fun bs =>
      UInt8.ofNat (w * 4 + x / 16) :: UInt8.ofNat (x % 16 * 16 + y / 4) ::
        UInt8.ofNat (y % 4 * 64 + z) :: bs := by
  have hone : ¬ (c = padding ∧ d = padding ∧ rest = []) := fun h => hne h.2.1
  have htwo : ¬ (d = padding ∧ rest = []) := fun h => hne h.1
  rw [decode?, ha, hb]
  simp only [Option.bind_eq_bind, Option.bind_some, if_neg hone, hc, if_neg htwo, hd]
  cases decode? rest <;> rfl

theorem decode?_two (ha : value? a = some w) (hb : value? b = some x) (hc : value? c = some y)
    (hne : c ≠ padding) (hy : y % 4 = 0) :
    decode? [a, b, c, padding] =
      some [UInt8.ofNat (w * 4 + x / 16), UInt8.ofNat (x % 16 * 16 + y / 4)] := by
  rw [decode?, ha, hb]
  simp only [Option.bind_eq_bind, Option.bind_some, and_self, and_true, if_neg hne, hc, if_true,
    if_pos hy]

theorem decode?_one (ha : value? a = some w) (hb : value? b = some x) (hx : x % 16 = 0) :
    decode? [a, b, padding, padding] = some [UInt8.ofNat (w * 4 + x / 16)] := by
  rw [decode?, ha, hb]
  simp only [Option.bind_eq_bind, Option.bind_some, and_self, if_true, if_pos hx]

end Groups

theorem length_alphabet : alphabet.length = 64 := by decide +kernel

theorem nodup_alphabet : alphabet.Nodup := by decide +kernel

theorem padding_not_mem : padding ∉ alphabet := by decide +kernel

/-- Six bits of a group, above its lowest `places` groups of six. -/
def sixBits (group places : Nat) : Nat := group / Nat.pow 64 places % 64

theorem getElem?_digit (group places : Nat) :
    alphabet[sixBits group places]? = some (digit group places) := by
  have hbits : sixBits group places < alphabet.length := by
    rw [length_alphabet]
    exact Nat.mod_lt _ (by decide)
  have hdigit : digit group places = alphabet.getD (sixBits group places) padding := rfl
  rw [hdigit, List.getD_eq_getElem?_getD, List.getElem?_eq_getElem hbits, Option.getD_some]

theorem digit_mem (group places : Nat) : digit group places ∈ alphabet :=
  List.mem_of_getElem? (getElem?_digit group places)

theorem digit_ne_padding (group places : Nat) : digit group places ≠ padding := by
  intro h
  exact padding_not_mem (h ▸ digit_mem group places)

/-- No two digits are the same, so each has its place. -/
theorem value?_of_getElem? {c : Char} {n : Nat} (h : alphabet[n]? = some c) :
    value? c = some n := by
  obtain ⟨hn, rfl⟩ := List.getElem?_eq_some_iff.1 h
  refine List.findIdx?_eq_some_iff_getElem.2 ⟨hn, by simp, ?_⟩
  intro m hm
  have hne := List.pairwise_iff_getElem.1 nodup_alphabet m n (Nat.lt_trans hm hn) hn hm
  simpa using hne

theorem value?_digit (group places : Nat) :
    value? (digit group places) = some (sixBits group places) :=
  value?_of_getElem? (getElem?_digit group places)

/-- The three bytes of a group, from its four times six bits. -/
theorem bytes_of_sixBits {g a b c : Nat} (h : g = a * 65536 + b * 256 + c) (ha : a < 256)
    (hb : b < 256) (hc : c < 256) :
    sixBits g 3 * 4 + sixBits g 2 / 16 = a ∧
      sixBits g 2 % 16 * 16 + sixBits g 1 / 4 = b ∧
      sixBits g 1 % 4 * 64 + sixBits g 0 = c := by
  have h3 : Nat.pow 64 3 = 262144 := rfl
  have h2 : Nat.pow 64 2 = 4096 := rfl
  have h1 : Nat.pow 64 1 = 64 := rfl
  have h0 : Nat.pow 64 0 = 1 := rfl
  simp only [sixBits, h3, h2, h1, h0]
  omega

/-- Reading gives back what was written. -/
theorem decode?_encode (bs : Bytes) : decode? (encode bs) = some bs := by
  fun_induction encode bs with
  | case1 => rfl
  | case2 a group =>
    obtain ⟨hfirst, hrest, -⟩ := bytes_of_sixBits (g := group) (b := 0) (c := 0) (by omega)
      a.toNat_lt (by decide) (by decide)
    rw [decode?_one (value?_digit _ _) (value?_digit _ _) (by omega), hfirst, UInt8.ofNat_toNat]
  | case3 a b group =>
    obtain ⟨hfirst, hsecond, hrest⟩ := bytes_of_sixBits (g := group) (c := 0) (by omega)
      a.toNat_lt b.toNat_lt (by decide)
    rw [decode?_two (value?_digit _ _) (value?_digit _ _) (value?_digit _ _)
      (digit_ne_padding _ _) (by omega), hfirst, hsecond, UInt8.ofNat_toNat, UInt8.ofNat_toNat]
  | case4 a b c rest group ih =>
    obtain ⟨hfirst, hsecond, hthird⟩ := bytes_of_sixBits (g := group) rfl a.toNat_lt b.toNat_lt
      c.toNat_lt
    rw [decode?_three (value?_digit _ _) (value?_digit _ _) (value?_digit _ _) (value?_digit _ _)
      (digit_ne_padding _ _), ih, hfirst, hsecond, hthird, Option.map_some, UInt8.ofNat_toNat,
      UInt8.ofNat_toNat, UInt8.ofNat_toNat]

/-- Digits of the alphabet, in groups of four with at most two padding signs at the end. -/
structure IsPadded (t : Text) : Prop where
  length : t.length % 4 = 0
  digits : ∃ body pad, t = body ++ List.replicate pad padding ∧ pad ≤ 2 ∧ ∀ c ∈ body, c ∈ alphabet

theorem isPadded_encode (bs : Bytes) : IsPadded (encode bs) := by
  fun_induction encode bs with
  | case1 => exact ⟨rfl, [], 0, rfl, by decide, by simp⟩
  | case2 a group =>
    exact ⟨by simp, [digit group 3, digit group 2], 2, rfl, by decide, by simp [digit_mem]⟩
  | case3 a b group =>
    exact ⟨by simp, [digit group 3, digit group 2, digit group 1], 1, rfl, by decide,
      by simp [digit_mem]⟩
  | case4 a b c rest group ih =>
    obtain ⟨hlength, body, pad, hrest, hpad, hbody⟩ := ih
    refine ⟨?_, digit group 3 :: digit group 2 :: digit group 1 :: digit group 0 :: body, pad, ?_,
      hpad, ?_⟩
    · simp only [List.length_cons]
      omega
    · rw [hrest]
      rfl
    · simpa [digit_mem] using hbody

end Base64

end CustomProps
