import SampleSchema.Text.Segments
import SampleSchema.Text.Utf8

/-!
# Decoding what was encoded

Every text is read back from its bytes (`Utf8.decode_encode`): a character is taken off the bytes it
is encoded in, whatever follows it (`Utf8.decodeFrom_char`), and so is a text, character by
character. A text without carriage returns keeps its line ends (`foldLineEnds_eq_self`).
-/

namespace SampleSchema

namespace Utf8

/-! ## 1. First bytes -/

/-- The first of two bytes; no character has a smaller one than 0xC2. -/
theorem following?_two : ∀ n < 32, 2 ≤ n →
    following? (UInt8.ofNat (n + 192)) = some (1, 0x80, 0xBF) ∧
    leadingBits 1 (UInt8.ofNat (n + 192)) = n := by decide

/-- The first of three bytes. -/
theorem following?_three : ∀ n < 16,
    following? (UInt8.ofNat (n + 224)) =
      some (2, if n = 0 then 0xA0 else 0x80, if n = 13 then 0x9F else 0xBF) ∧
    leadingBits 2 (UInt8.ofNat (n + 224)) = n := by decide

/-- The first of four bytes. -/
theorem following?_four : ∀ n < 5,
    following? (UInt8.ofNat (n + 240)) =
      some (3, if n = 0 then 0x90 else 0x80, if n = 4 then 0x8F else 0xBF) ∧
    leadingBits 3 (UInt8.ofNat (n + 240)) = n := by decide

section Steps

variable (position : Nat) (read : List Char) (rest : List UInt8)

/-- A byte that is a character. -/
theorem decodeFrom_one {n : Nat} (hn : n < 0x80) :
    decodeFrom position none read (UInt8.ofNat n :: rest) =
      decodeFrom (position + 1) none (Char.ofNat n :: read) rest := by
  have hbyte : (UInt8.ofNat n).toNat = n :=
    UInt8.toNat_ofNat_of_lt' (show n < 256 by omega)
  rw [decodeFrom]
  simp only [hbyte, if_pos hn]

/-- A first byte of several. -/
theorem decodeFrom_first {n base count low high : Nat} (hbase : 0x80 ≤ base) (hn : n + base < 256)
    (hfollowing : following? (UInt8.ofNat (n + base)) = some (count, low, high))
    (hbits : leadingBits count (UInt8.ofNat (n + base)) = n) :
    decodeFrom position none read (UInt8.ofNat (n + base) :: rest) =
      decodeFrom (position + 1)
        (some ⟨position, UInt8.ofNat (n + base), 1, count, low, high, n⟩) read rest := by
  have hbyte : (UInt8.ofNat (n + base)).toNat = n + base := UInt8.toNat_ofNat_of_lt' hn
  rw [decodeFrom]
  simp only [hbyte, hfollowing, hbits]
  rw [if_neg (by omega)]

section Continuation

variable {start taken due low high code m : Nat} {first : UInt8}
  (hm : m < 64) (hlow : low ≤ m + 128) (hhigh : m + 128 ≤ high)
include hm hlow hhigh

theorem within_continuation : within low high (UInt8.ofNat (m + 128)) = true ∧
    (UInt8.ofNat (m + 128)).toNat % 64 = m := by
  have hbyte : (UInt8.ofNat (m + 128)).toNat = m + 128 :=
    UInt8.toNat_ofNat_of_lt' (show m + 128 < 256 by omega)
  unfold within
  rw [hbyte]
  exact ⟨by simp [hlow, hhigh], by omega⟩

/-- A byte with more to come adds its bits. -/
theorem decodeFrom_continuation (hdue : 1 < due) :
    decodeFrom position (some ⟨start, first, taken, due, low, high, code⟩) read
        (UInt8.ofNat (m + 128) :: rest) =
      decodeFrom (position + 1)
        (some ⟨start, first, taken + 1, due - 1, 0x80, 0xBF, code * 64 + m⟩) read rest := by
  obtain ⟨hwithin, hbits⟩ := within_continuation hm hlow hhigh
  rw [decodeFrom]
  simp only [hwithin, hbits, if_pos]
  rw [if_neg (by omega)]

/-- The last byte makes the bits a character. -/
theorem decodeFrom_last {c : Char} (hcode : code * 64 + m = c.toNat) :
    decodeFrom position (some ⟨start, first, taken, 1, low, high, code⟩) read
        (UInt8.ofNat (m + 128) :: rest) = decodeFrom (position + 1) none (c :: read) rest := by
  obtain ⟨hwithin, hbits⟩ := within_continuation hm hlow hhigh
  rw [decodeFrom]
  simp only [hwithin, hbits, if_pos, hcode, Nat.le_refl, Char.ofNat_toNat]

end Continuation

end Steps

/-! ## 2. Characters and texts -/

/-- **A character is taken off the bytes it is encoded in.** -/
theorem decodeFrom_char (position : Nat) (read : List Char) (c : Char) (rest : List UInt8) :
    ∃ position', decodeFrom position none read (String.utf8EncodeChar c ++ rest) =
      decodeFrom position' none (c :: read) rest := by
  obtain ⟨v, hv⟩ : ∃ v, v = c.toNat := ⟨_, rfl⟩
  have hvalid : v < 0xD800 ∨ 0xDFFF < v ∧ v < 0x110000 := hv ▸ c.valid
  have hval : c.val.toNat = v := hv.symm
  rw [String.utf8EncodeChar.eq_1, hval]
  split
  · have hone := decodeFrom_one position read rest (n := v) (by omega)
    rw [hv, Char.ofNat_toNat, ← hv] at hone
    exact ⟨_, hone⟩
  split
  · obtain ⟨hfollowing, hbits⟩ := following?_two (v / 64 % 32) (by omega) (by omega)
    have hfirst := decodeFrom_first position read (UInt8.ofNat (v % 64 + 128) :: rest)
      (by omega) (by omega) hfollowing hbits
    rw [decodeFrom_last _ _ _ (c := c) (by omega) (by omega) (by omega) (by omega)] at hfirst
    exact ⟨_, hfirst⟩
  split
  · obtain ⟨hfollowing, hbits⟩ := following?_three (v / 4096 % 16) (by omega)
    have hfirst := decodeFrom_first position read
      (UInt8.ofNat (v / 64 % 64 + 128) :: UInt8.ofNat (v % 64 + 128) :: rest)
      (by omega) (by omega) hfollowing hbits
    rw [decodeFrom_continuation _ _ _ (by omega) (by split <;> omega) (by split <;> omega)
      (by decide), decodeFrom_last _ _ _ (c := c) (by omega) (by omega) (by omega) (by omega)] at hfirst
    exact ⟨_, hfirst⟩
  · obtain ⟨hfollowing, hbits⟩ := following?_four (v / 262144 % 8) (by omega)
    have hfirst := decodeFrom_first position read (UInt8.ofNat (v / 4096 % 64 + 128) ::
      UInt8.ofNat (v / 64 % 64 + 128) :: UInt8.ofNat (v % 64 + 128) :: rest)
      (by omega) (by omega) hfollowing hbits
    rw [decodeFrom_continuation _ _ _ (by omega) (by split <;> omega) (by split <;> omega)
      (by decide), decodeFrom_continuation _ _ _ (by omega) (by omega) (by omega) (by decide),
      decodeFrom_last _ _ _ (c := c) (by omega) (by omega) (by omega) (by omega)] at hfirst
    exact ⟨_, hfirst⟩

/-- **Every text is read back from its bytes.** -/
theorem decode_encode (cs : List Char) : decode (encode cs) = .ok cs := by
  have hfrom : ∀ position read, decodeFrom position none read (encode cs) = .ok (read.reverse ++ cs) := by
    induction cs with
    | nil =>
      intro position read
      rw [List.append_nil]
      rfl
    | cons c cs ih =>
      intro position read
      obtain ⟨position', hchar⟩ := decodeFrom_char position read c (encode cs)
      have hencode : encode (c :: cs) = String.utf8EncodeChar c ++ encode cs := List.flatMap_cons
      rw [hencode, hchar, ih, List.reverse_cons, List.append_assoc]
      rfl
  exact hfrom 0 []

end Utf8

/-- **A text without carriage returns keeps its line ends.** -/
theorem foldLineEnds_eq_self {cs : List Char} (h : '\r' ∉ cs) : foldLineEnds cs = cs := by
  fun_induction foldLineEnds cs with
  | case1 => rfl
  | case2 rest => exact absurd List.mem_cons_self h
  | case3 rest => exact absurd List.mem_cons_self h
  | case4 c rest _ _ ih => rw [ih fun hr => h (List.mem_cons_of_mem _ hr)]

end SampleSchema
