import CustomProps.Text.Utf8
import Mathlib.Data.List.Induction

/-!
The bytes of a text. A character below 128 is its own single byte, and every byte of another
character is 128 or more, so a search for a byte below 128 finds exactly the places of its
character. Sizes, beginnings, ends and counts carry over from characters to bytes.
-/

namespace CustomProps

namespace Text

/-- The byte of a character below 128. -/
def byte (c : Char) : UInt8 := UInt8.ofNat c.toNat

theorem byte_inj {c d : Char} (hc : c.toNat < 128) (hd : d.toNat < 128) :
    byte c = byte d ↔ c = d := by
  constructor
  · intro h
    have hn : c.toNat = d.toNat := by
      have h' := congrArg UInt8.toNat h
      simp only [byte, UInt8.toNat_ofNat'] at h'
      omega
    exact Char.toNat_inj.1 hn
  · intro h
    rw [h]

theorem byte_ne {c d : Char} (hc : c.toNat < 128) (hd : d.toNat < 128) (h : c ≠ d) :
    byte c ≠ byte d := by
  rwa [Ne, byte_inj hc hd]

theorem byte_lt {c : Char} (hc : c.toNat < 128) : byte c < 0x80 := by
  rw [UInt8.lt_iff_toNat_lt]
  simp only [byte, UInt8.toNat_ofNat']
  show c.toNat % 2 ^ 8 < 128
  omega

/-- A character below 128 is one byte. -/
theorem utf8EncodeChar_of_lt {c : Char} (hc : c.toNat < 128) :
    String.utf8EncodeChar c = [byte c] := by
  have h : c.val.toNat ≤ 0x7f := Nat.le_of_lt_succ hc
  simp only [String.utf8EncodeChar, if_pos h]
  rfl

/-- The bytes of any other character are high. -/
theorem le_of_mem_utf8EncodeChar {c : Char} (hc : 128 ≤ c.toNat) {b : UInt8}
    (hb : b ∈ String.utf8EncodeChar c) : 0x80 ≤ b := by
  have hlow : ¬ c.val.toNat ≤ 0x7f := Nat.not_le.2 hc
  have hbyte : ∀ n, 128 ≤ n → n < 256 → (0x80 : UInt8) ≤ UInt8.ofNat n := by
    intro n h₁ h₂
    rw [UInt8.le_iff_toNat_le, UInt8.toNat_ofNat']
    show 128 ≤ n % 2 ^ 8
    omega
  simp only [String.utf8EncodeChar, if_neg hlow] at hb
  split at hb
  · simp only [List.mem_cons, List.not_mem_nil, or_false] at hb
    rcases hb with rfl | rfl <;> exact hbyte _ (by omega) (by omega)
  · split at hb
    · simp only [List.mem_cons, List.not_mem_nil, or_false] at hb
      rcases hb with rfl | rfl | rfl <;> exact hbyte _ (by omega) (by omega)
    · simp only [List.mem_cons, List.not_mem_nil, or_false] at hb
      rcases hb with rfl | rfl | rfl | rfl <;> exact hbyte _ (by omega) (by omega)

/-- A byte below 128 stands in a character's bytes exactly if it is that character's byte. -/
theorem byte_mem_utf8EncodeChar {a c : Char} (ha : a.toNat < 128) :
    byte a ∈ String.utf8EncodeChar c ↔ c = a := by
  by_cases hc : c.toNat < 128
  · rw [utf8EncodeChar_of_lt hc, List.mem_singleton, byte_inj ha hc, eq_comm]
  · have hne : c ≠ a := by
      intro h
      rw [h] at hc
      exact hc ha
    refine iff_of_false ?_ hne
    intro h
    exact absurd (byte_lt ha) (UInt8.not_lt.2 (le_of_mem_utf8EncodeChar (by omega) h))

@[simp] theorem utf8_nil : utf8 [] = [] := rfl

@[simp] theorem utf8_cons (c : Char) (t : Text) :
    utf8 (c :: t) = String.utf8EncodeChar c ++ utf8 t := List.flatMap_cons

@[simp] theorem utf8_append (s t : Text) : utf8 (s ++ t) = utf8 s ++ utf8 t :=
  List.flatMap_append

theorem utf8_cons_of_lt {c : Char} (hc : c.toNat < 128) (t : Text) :
    utf8 (c :: t) = byte c :: utf8 t := by
  rw [utf8_cons, utf8EncodeChar_of_lt hc, List.singleton_append]

@[simp] theorem length_utf8 (t : Text) : t.utf8.length = byteSize t := by
  induction t with
  | nil => rfl
  | cons c t ih => simp [ih]

theorem utf8Size_of_lt {c : Char} (hc : c.toNat < 128) : c.utf8Size = 1 := by
  rw [← String.length_utf8EncodeChar, utf8EncodeChar_of_lt hc, List.length_singleton]

theorem byteSize_append_of_lt (t : Text) {c : Char} (hc : c.toNat < 128) :
    byteSize (t ++ [c]) = byteSize t + 1 := by
  rw [byteSize_append, byteSize_cons, utf8Size_of_lt hc, byteSize_nil]

theorem take_utf8_append (s t : Text) : (s ++ t).utf8.take (byteSize s) = s.utf8 := by
  rw [utf8_append, ← length_utf8, List.take_left]

theorem drop_utf8_append (s t : Text) : (s ++ t).utf8.drop (byteSize s) = t.utf8 := by
  rw [utf8_append, ← length_utf8, List.drop_left]

/-- The first byte of a text is one below 128 exactly if the text starts with its character. -/
theorem head?_utf8 {a : Char} (ha : a.toNat < 128) (t : Text) :
    t.utf8.head? = some (byte a) ↔ t.head? = some a := by
  cases t with
  | nil => simp
  | cons c t =>
    rw [utf8_cons, List.head?_append, List.head?_cons, Option.some.injEq,
      Option.or_of_isSome (List.isSome_head?.2 String.utf8EncodeChar_ne_nil)]
    constructor
    · intro h
      exact (byte_mem_utf8EncodeChar ha).1 (List.mem_of_head? h)
    · intro h
      rw [h, utf8EncodeChar_of_lt ha]
      rfl

/-- A character below 128 is counted by its byte. -/
theorem count_utf8 {a : Char} (ha : a.toNat < 128) (t : Text) :
    t.utf8.count (byte a) = t.count a := by
  induction t with
  | nil => rfl
  | cons c t ih =>
    rw [utf8_cons, List.count_append, ih]
    by_cases hc : c = a
    · rw [hc, utf8EncodeChar_of_lt ha, List.count_singleton_self, List.count_cons_self,
        Nat.add_comm]
    · have hn : byte a ∉ String.utf8EncodeChar c := by rwa [byte_mem_utf8EncodeChar ha]
      rw [List.count_eq_zero_of_not_mem hn, List.count_cons_of_ne hc, Nat.zero_add]

/-- The bytes before a byte below 128 are those of the characters before its character. -/
theorem takeWhile_utf8 {a : Char} (ha : a.toNat < 128) (t : Text) :
    t.utf8.takeWhile (· != byte a) = utf8 (t.takeWhile (· != a)) := by
  induction t with
  | nil => rfl
  | cons c t ih =>
    by_cases hc : c = a
    · rw [hc, utf8_cons_of_lt ha]
      simp
    · have hn : ∀ b ∈ String.utf8EncodeChar c, (b != byte a) = true := by
        intro b hb
        have hne : b ≠ byte a := by
          intro h
          rw [h, byte_mem_utf8EncodeChar ha] at hb
          exact hc hb
        simpa using hne
      rw [utf8_cons, List.takeWhile_append_of_pos hn, ih]
      simp [hc]

/-- The last byte of a text is one below 128 exactly if the text ends in its character. -/
theorem getLast?_utf8 {a : Char} (ha : a.toNat < 128) (t : Text) :
    t.utf8.getLast? = some (byte a) ↔ t.getLast? = some a := by
  induction t using List.reverseRecOn with
  | nil => simp
  | append_singleton t c _ =>
    have hu : utf8 (t ++ [c]) = utf8 t ++ String.utf8EncodeChar c := by simp
    rw [hu, List.getLast?_append, List.getLast?_concat,
      Option.or_of_isSome (List.getLast?_isSome.2 String.utf8EncodeChar_ne_nil)]
    by_cases hc : c.toNat < 128
    · rw [utf8EncodeChar_of_lt hc, List.getLast?_singleton, Option.some.injEq, Option.some.injEq,
        byte_inj hc ha]
    · constructor
      · intro h
        have hm := (byte_mem_utf8EncodeChar ha).1 (List.mem_of_getLast? h)
        rw [hm]
      · intro h
        rw [Option.some.injEq] at h
        rw [h] at hc
        exact absurd ha hc

end Text

end CustomProps
