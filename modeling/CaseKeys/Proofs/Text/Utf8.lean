import CaseKeys.Text.Utf8
import Mathlib.Data.List.Basic

/-! Reading UTF-8 undoes writing it, and nothing but what was written is read: the bytes that decode
to a text are the encoding of the text. -/
namespace CaseKeys.Text.Utf8

/-- The bytes of a text, every character in its shortest form. -/
def encode (text : List Char) : List UInt8 :=
  text.flatMap String.utf8EncodeChar

/-- A complete sequence of bytes and the code point that it carries. -/
inductive Sequence : List UInt8 → Nat → Prop where
  | one {b : UInt8} : sequenceLength? b = some 1 → Sequence [b] b.toNat
  | two {b b₁ : UInt8} : sequenceLength? b = some 2 → isSecond b b₁ →
    Sequence [b, b₁] (b.toNat % 0x20 * 0x40 + payload b₁)
  | three {b b₁ b₂ : UInt8} : sequenceLength? b = some 3 → isSecond b b₁ → isContinuation b₂ →
    Sequence [b, b₁, b₂] ((b.toNat % 0x10 * 0x40 + payload b₁) * 0x40 + payload b₂)
  | four {b b₁ b₂ b₃ : UInt8} : sequenceLength? b = some 4 → isSecond b b₁ → isContinuation b₂ →
    isContinuation b₃ → Sequence [b, b₁, b₂, b₃]
      (((b.toNat % 0x8 * 0x40 + payload b₁) * 0x40 + payload b₂) * 0x40 + payload b₃)

theorem sequenceLength?_eq_some_iff {b : UInt8} {n : Nat} :
    sequenceLength? b = some n ↔
      n = 1 ∧ b.toNat < 0x80 ∨ n = 2 ∧ 0xC2 ≤ b.toNat ∧ b.toNat < 0xE0 ∨
        n = 3 ∧ 0xE0 ≤ b.toNat ∧ b.toNat < 0xF0 ∨ n = 4 ∧ 0xF0 ≤ b.toNat ∧ b.toNat < 0xF5 := by
  have h := b.toNat_lt
  simp only [sequenceLength?, UInt8.lt_iff_toNat_lt, UInt8.reduceToNat]
  split_ifs <;> simp only [Option.some.injEq, false_iff] <;> omega

theorem isContinuation_iff {b : UInt8} : isContinuation b ↔ 0x80 ≤ b.toNat ∧ b.toNat < 0xC0 := by
  simp [isContinuation, UInt8.le_iff_toNat_le, UInt8.lt_iff_toNat_lt]

theorem isSecond_iff {a b : UInt8} : isSecond a b ↔ isContinuation b ∧
    (a.toNat = 0xE0 → 0xA0 ≤ b.toNat) ∧ (a.toNat = 0xED → b.toNat < 0xA0) ∧
      (a.toNat = 0xF0 → 0x90 ≤ b.toNat) ∧ (a.toNat = 0xF4 → b.toNat < 0x90) := by
  rw [isContinuation_iff]
  simp only [isSecond, ← UInt8.toNat_inj, UInt8.reduceToNat]
  split_ifs <;>
    simp only [Bool.and_eq_true, decide_eq_true_eq, isContinuation_iff, UInt8.le_iff_toNat_le,
      UInt8.lt_iff_toNat_lt, UInt8.reduceToNat] <;> omega

/-- The code point of a sequence is that of a character: no surrogate and not beyond the last
plane. -/
theorem Sequence.isValidChar {bytes : List UInt8} {n : Nat} (h : Sequence bytes n) :
    n.isValidChar := by
  cases h <;> simp only [sequenceLength?_eq_some_iff, isSecond_iff, isContinuation_iff, payload,
    Nat.isValidChar] at * <;> omega

private theorem exists_byte (n : Nat) (h : n < 0x100) : ∃ b, UInt8.ofNat n = b ∧ b.toNat = n :=
  ⟨_, rfl, UInt8.toNat_ofNat_of_lt h⟩

/-- The encoding of a character is a complete sequence that carries its code point. -/
theorem sequence_utf8EncodeChar (c : Char) : Sequence (String.utf8EncodeChar c) c.toNat := by
  have hv : c.toNat.isValidChar := c.valid
  have hc : c.val.toNat = c.toNat := rfl
  rw [Nat.isValidChar] at hv
  simp only [String.utf8EncodeChar, hc]
  split_ifs with h₁ h₂ h₃
  · obtain ⟨b, he, hb⟩ := exists_byte c.toNat (by omega)
    rw [he, ← hb]
    exact .one (by rw [sequenceLength?_eq_some_iff]; omega)
  · obtain ⟨b, he, hb⟩ := exists_byte (c.toNat / 64 % 0x20 + 0xc0) (by omega)
    obtain ⟨b₁, he₁, hb₁⟩ := exists_byte (c.toNat % 0x40 + 0x80) (by omega)
    have hl : sequenceLength? b = some 2 := by rw [sequenceLength?_eq_some_iff]; omega
    have hs : isSecond b b₁ := by rw [isSecond_iff, isContinuation_iff]; omega
    have hn : c.toNat = b.toNat % 0x20 * 0x40 + payload b₁ := by rw [payload]; omega
    rw [he, he₁, hn]
    exact .two hl hs
  · obtain ⟨b, he, hb⟩ := exists_byte (c.toNat / 4096 % 0x10 + 0xe0) (by omega)
    obtain ⟨b₁, he₁, hb₁⟩ := exists_byte (c.toNat / 64 % 0x40 + 0x80) (by omega)
    obtain ⟨b₂, he₂, hb₂⟩ := exists_byte (c.toNat % 0x40 + 0x80) (by omega)
    have hl : sequenceLength? b = some 3 := by rw [sequenceLength?_eq_some_iff]; omega
    have hs : isSecond b b₁ := by rw [isSecond_iff, isContinuation_iff]; omega
    have ht : isContinuation b₂ := by rw [isContinuation_iff]; omega
    have hn : c.toNat = (b.toNat % 0x10 * 0x40 + payload b₁) * 0x40 + payload b₂ := by
      rw [payload, payload]
      omega
    rw [he, he₁, he₂, hn]
    exact .three hl hs ht
  · obtain ⟨b, he, hb⟩ := exists_byte (c.toNat / 262144 % 0x08 + 0xf0) (by omega)
    obtain ⟨b₁, he₁, hb₁⟩ := exists_byte (c.toNat / 4096 % 0x40 + 0x80) (by omega)
    obtain ⟨b₂, he₂, hb₂⟩ := exists_byte (c.toNat / 64 % 0x40 + 0x80) (by omega)
    obtain ⟨b₃, he₃, hb₃⟩ := exists_byte (c.toNat % 0x40 + 0x80) (by omega)
    have hl : sequenceLength? b = some 4 := by rw [sequenceLength?_eq_some_iff]; omega
    have hs : isSecond b b₁ := by rw [isSecond_iff, isContinuation_iff]; omega
    have ht : isContinuation b₂ := by rw [isContinuation_iff]; omega
    have hu : isContinuation b₃ := by rw [isContinuation_iff]; omega
    have hn : c.toNat =
        ((b.toNat % 0x8 * 0x40 + payload b₁) * 0x40 + payload b₂) * 0x40 + payload b₃ := by
      rw [payload, payload, payload]
      omega
    rw [he, he₁, he₂, he₃, hn]
    exact .four hl hs ht hu

/-- A complete sequence is the encoding of the character that it carries. -/
theorem Sequence.eq_utf8EncodeChar {bytes : List UInt8} {n : Nat} (h : Sequence bytes n) :
    bytes = String.utf8EncodeChar (Char.ofNat n) := by
  have hn : (Char.ofNat n).val.toNat = n := by
    rw [Char.ofNat, dif_pos h.isValidChar]
    rfl
  simp only [String.utf8EncodeChar, hn]
  cases h with
  | one hl =>
    rw [sequenceLength?_eq_some_iff] at hl
    rw [if_pos (by omega), UInt8.ofNat_toNat]
  | @two b b₁ hl h₁ =>
    have hb := b.toNat_lt
    rw [sequenceLength?_eq_some_iff] at hl
    rw [isSecond_iff, isContinuation_iff] at h₁
    rw [payload, if_neg (by omega), if_pos (by omega)]
    simp only [List.cons.injEq, ← UInt8.toNat_inj, UInt8.toNat_ofNat', and_true]
    omega
  | @three b b₁ b₂ hl h₁ h₂ =>
    rw [sequenceLength?_eq_some_iff] at hl
    rw [isSecond_iff, isContinuation_iff] at h₁
    rw [isContinuation_iff] at h₂
    obtain ⟨h₁, hfirst, -⟩ := h₁
    have hmin : 0x800 ≤ (b.toNat % 0x10 * 0x40 + payload b₁) * 0x40 + payload b₂ := by
      rw [payload, payload]
      omega
    clear hfirst
    rw [payload, payload] at hmin ⊢
    rw [if_neg (by omega), if_neg (by omega), if_pos (by omega)]
    simp only [List.cons.injEq, ← UInt8.toNat_inj, UInt8.toNat_ofNat', and_true]
    omega
  | @four b b₁ b₂ b₃ hl h₁ h₂ h₃ =>
    rw [sequenceLength?_eq_some_iff] at hl
    rw [isSecond_iff, isContinuation_iff] at h₁
    rw [isContinuation_iff] at h₂ h₃
    obtain ⟨h₁, -, -, hfirst, -⟩ := h₁
    have hmin : 0x10000 ≤
        ((b.toNat % 0x8 * 0x40 + payload b₁) * 0x40 + payload b₂) * 0x40 + payload b₃ := by
      rw [payload, payload, payload]
      omega
    clear hfirst
    rw [payload, payload, payload] at hmin ⊢
    rw [if_neg (by omega), if_neg (by omega), if_neg (by omega)]
    simp only [List.cons.injEq, ← UInt8.toNat_inj, UInt8.toNat_ofNat', and_true]
    omega

/-- A complete sequence at the front is read as its character, wherever it stands. -/
private theorem Sequence.decodeAt_append {bytes : List UInt8} {n : Nat} (h : Sequence bytes n)
    (p : Place) (rest : List UInt8) :
    decodeAt p (bytes ++ rest) = (Char.ofNat n :: ·) <$> decodeAt (p.advance bytes.length) rest := by
  cases h with
  | one hl => simp [decodeAt, hl]
  | two hl hs => simp [decodeAt, hl, hs]
  | three hl hs ht => simp [decodeAt, hl, hs, ht]
  | four hl hs ht hu => simp [decodeAt, hl, hs, ht, hu]

private theorem of_map_cons_eq_ok {c : Char} {read : Except Fault (List Char)} {text : List Char}
    (h : (c :: ·) <$> read = .ok text) : ∃ tail, text = c :: tail ∧ read = .ok tail := by
  cases read with
  | error fault => cases h
  | ok tail => exact ⟨tail, (Except.ok.inj h).symm, rfl⟩

/-- What is read from bytes is nothing, or the character of a complete sequence at their front and
then what is read from the rest. -/
private theorem decodeAt_cases {p : Place} {bytes : List UInt8} {text : List Char}
    (h : decodeAt p bytes = .ok text) :
    bytes = [] ∧ text = [] ∨
      ∃ front n rest tail, bytes = front ++ rest ∧ Sequence front n ∧ text = Char.ofNat n :: tail ∧
        decodeAt (p.advance front.length) rest = .ok tail := by
  unfold decodeAt at h
  split at h
  · exact .inl ⟨rfl, (Except.ok.inj h).symm⟩
  rename_i b r
  right
  split at h
  · cases h
  · obtain ⟨tail, ht, hr⟩ := of_map_cons_eq_ok h
    exact ⟨[b], _, r, tail, rfl, .one ‹_›, ht, hr⟩
  rename_i length hone hl
  split at h
  · cases h
  rename_i b₁ r₁
  split at h
  · cases h
  rename_i hs
  rw [Bool.not_eq_true, Bool.not_eq_false'] at hs
  split at h
  · next htwo =>
    obtain ⟨tail, ht, hr⟩ := of_map_cons_eq_ok h
    exact ⟨[b, b₁], _, r₁, tail, rfl, .two (htwo ▸ hl) hs, ht, hr⟩
  split at h
  · cases h
  rename_i b₂ r₂
  split at h
  · cases h
  rename_i hc
  rw [Bool.not_eq_true, Bool.not_eq_false'] at hc
  split at h
  · next hthree =>
    obtain ⟨tail, ht, hr⟩ := of_map_cons_eq_ok h
    exact ⟨[b, b₁, b₂], _, r₂, tail, rfl, .three (hthree ▸ hl) hs hc, ht, hr⟩
  split at h
  · cases h
  rename_i b₃ r₃
  split at h
  · cases h
  rename_i hd
  rw [Bool.not_eq_true, Bool.not_eq_false'] at hd
  have hfour : length = 4 := by
    have hn : length ≠ 1 := hone
    rw [sequenceLength?_eq_some_iff] at hl
    omega
  obtain ⟨tail, ht, hr⟩ := of_map_cons_eq_ok h
  exact ⟨[b, b₁, b₂, b₃], _, r₃, tail, rfl, .four (hfour ▸ hl) hs hc hd, ht, hr⟩

theorem decodeAt_encode (p : Place) (text : List Char) :
    decodeAt p (encode text) = .ok text := by
  induction text generalizing p with
  | nil => rfl
  | cons c text ih =>
    have hs := (sequence_utf8EncodeChar c).decodeAt_append p (encode text)
    rw [ih, Char.ofNat_toNat] at hs
    exact hs

theorem eq_encode_of_decodeAt {p : Place} {bytes : List UInt8} {text : List Char}
    (h : decodeAt p bytes = .ok text) : bytes = encode text := by
  induction text generalizing p bytes with
  | nil =>
    rcases decodeAt_cases h with ⟨hb, -⟩ | ⟨_, _, _, _, -, -, ht, -⟩
    · exact hb
    · cases ht
  | cons c tail ih =>
    rcases decodeAt_cases h with ⟨-, ht⟩ | ⟨front, n, rest, tail', hb, hs, ht, hr⟩
    · cases ht
    · obtain ⟨rfl, rfl⟩ := List.cons.inj ht
      rw [hb, ih hr, hs.eq_utf8EncodeChar]
      rfl

/-- Reading accepts exactly the encodings of texts, and gives back the text. -/
theorem decode_eq_ok_iff {bytes : List UInt8} {text : List Char} :
    decode bytes = .ok text ↔ bytes = encode text :=
  ⟨eq_encode_of_decodeAt, fun h => h ▸ decodeAt_encode .start text⟩

/-- Longer forms of short encodings, a surrogate, a value beyond the last plane, a continuation without
a start, a start without its continuation and an unfinished sequence are refused. -/
example : ([[0xC0, 0x80], [0xE0, 0x9F, 0xBF], [0xF0, 0x8F, 0xBF, 0xBF], [0xED, 0xA0, 0x80],
    [0xF4, 0x90, 0x80, 0x80], [0x80], [0xC3, 0x28], [0xE2, 0x82]] : List (List UInt8)).all
      fun bytes => !(decode bytes).isOk := by
  decide +kernel

private theorem of_map_cons_eq_error {c : Char} {read : Except Fault (List Char)} {fault : Fault}
    (h : (c :: ·) <$> read = .error fault) : read = .error fault := by
  cases read with
  | error _ => exact h
  | ok tail => cases h

/-- A fault is a sequence of bytes of the data, and what stands in front of it encodes a text. -/
def Fault.In (fault : Fault) (bytes : List UInt8) : Prop :=
  ∃ text rest, bytes = encode text ++ fault.first :: rest ∧ fault.more ≤ rest.length

private theorem Fault.In.behind {fault : Fault} {front rest : List UInt8} {n : Nat}
    (hs : Sequence front n) (h : fault.In rest) : fault.In (front ++ rest) := by
  obtain ⟨text, after, rfl, hm⟩ := h
  refine ⟨Char.ofNat n :: text, after, ?_, hm⟩
  rw [hs.eq_utf8EncodeChar, ← List.append_assoc]
  rfl

/-- Every fault that is found is one of the data. -/
theorem Fault.in_of_decodeAt {p : Place} {bytes : List UInt8} {fault : Fault}
    (h : decodeAt p bytes = .error fault) : fault.In bytes := by
  fun_induction decodeAt p bytes with
  | case1 => cases h
  | case2 p b r hl =>
    cases h
    exact ⟨[], r, rfl, Nat.zero_le _⟩
  | case3 p b r hl ih => exact (ih (of_map_cons_eq_error h)).behind (.one hl)
  | case4 p b l hone hl =>
    cases h
    exact ⟨[], [], rfl, Nat.zero_le _⟩
  | case5 p b l hone hl b₁ r₁ hs u =>
    cases h
    exact ⟨[], b₁ :: r₁, rfl, Nat.zero_le _⟩
  | case6 p b b₁ r hs _ hl ih =>
    rw [Bool.not_eq_true, Bool.not_eq_false'] at hs
    exact (ih (of_map_cons_eq_error h)).behind (.two hl hs)
  | case7 p b n hone hl b₁ hs hn =>
    cases h
    exact ⟨[], [b₁], rfl, Nat.le_refl _⟩
  | case8 p b n hone hl b₁ hs hn b₂ r hc =>
    cases h
    exact ⟨[], b₁ :: b₂ :: r, rfl, Nat.le_add_left _ _⟩
  | case9 p b b₁ hs b₂ r hc _ hl hn ih =>
    rw [Bool.not_eq_true, Bool.not_eq_false'] at hs hc
    exact (ih (of_map_cons_eq_error h)).behind (.three hl hs hc)
  | case10 p b n hone hl b₁ hs hn b₂ hc hm =>
    cases h
    exact ⟨[], [b₁, b₂], rfl, Nat.le_refl _⟩
  | case11 p b n hone hl b₁ hs hn b₂ hc hm b₃ r hd =>
    cases h
    exact ⟨[], b₁ :: b₂ :: b₃ :: r, rfl, Nat.le_add_left _ _⟩
  | case12 p b n hone hl b₁ hs hn b₂ hc hm b₃ r hd ih =>
    rw [Bool.not_eq_true, Bool.not_eq_false'] at hs hc hd
    have hfour : n = 4 := by
      have hn₁ : n ≠ 1 := hone
      rw [sequenceLength?_eq_some_iff] at hl
      omega
    exact (ih (of_map_cons_eq_error h)).behind (.four (hfour ▸ hl) hs hc hd)
theorem encode_injective : Function.Injective encode := by
  intro text other h
  have ht := decode_eq_ok_iff.mpr h
  rw [decode_eq_ok_iff.mpr rfl] at ht
  exact Except.ok.inj ht

end CaseKeys.Text.Utf8
