import Mathlib
import SymbolSieve.Proofs.SourceLines

namespace SymbolSieve

namespace Utf8

section Bits

theorem toNat_and_low (x m : UInt8) {i : Nat} (hm : m.toNat = 2 ^ i - 1) :
    (x &&& m).toNat = x.toNat % 2 ^ i := by
  rw [UInt8.toNat_and, hm, Nat.and_two_pow_sub_one_eq_mod]

theorem toNat_and_low_or (x m t : UInt8) {i : Nat} (hm : m.toNat = 2 ^ i - 1) (c : Nat)
    (ht : t.toNat = 2 ^ i * c) : (x &&& m ||| t).toNat = 2 ^ i * c + x.toNat % 2 ^ i := by
  rw [UInt8.toNat_or, toNat_and_low x m hm, ht, Nat.or_comm,
    Nat.two_pow_add_eq_or_of_lt (Nat.mod_lt _ (Nat.two_pow_pos i))]

theorem toNat_low_six (x : UInt8) : (x &&& 0x3F).toNat = x.toNat % 64 := by
  simpa using toNat_and_low x 0x3F (i := 6) rfl

theorem toNat_continuation (x : UInt8) : (x &&& 0x3f ||| 0x80).toNat = 0x80 + x.toNat % 64 := by
  have h := toNat_and_low_or x 0x3f 0x80 (i := 6) rfl 2 rfl
  norm_num at h
  exact h

theorem toNat_lead_two (x : UInt8) : (x &&& 0x1f ||| 0xc0).toNat = 0xc0 + x.toNat % 32 := by
  have h := toNat_and_low_or x 0x1f 0xc0 (i := 5) rfl 6 rfl
  norm_num at h
  exact h

theorem toNat_lead_three (x : UInt8) : (x &&& 0x0f ||| 0xe0).toNat = 0xe0 + x.toNat % 16 := by
  have h := toNat_and_low_or x 0x0f 0xe0 (i := 4) rfl 14 rfl
  norm_num at h
  exact h

theorem toNat_lead_four (x : UInt8) : (x &&& 0x07 ||| 0xf0).toNat = 0xf0 + x.toNat % 8 := by
  have h := toNat_and_low_or x 0x07 0xf0 (i := 3) rfl 30 rfl
  norm_num at h
  exact h

theorem toNat_char_shift (c : Char) {k : UInt32} {n : Nat} (hk : k.toNat = n) (hn : n < 32) :
    (c.val >>> k).toUInt8.toNat = c.toNat / 2 ^ n % 256 := by
  subst hk
  simp [UInt32.toNat_shiftRight, UInt32.toNat_toUInt8, Nat.shiftRight_eq_div_pow,
    Nat.mod_eq_of_lt hn]

theorem toNat_char_shift_six (c : Char) : (c.val >>> 6).toUInt8.toNat = c.toNat / 64 % 256 := by
  simpa using toNat_char_shift c (k := 6) (n := 6) rfl (by decide)

theorem toNat_char_shift_twelve (c : Char) :
    (c.val >>> 12).toUInt8.toNat = c.toNat / 4096 % 256 := by
  simpa using toNat_char_shift c (k := 12) (n := 12) rfl (by decide)

theorem toNat_char_shift_eighteen (c : Char) :
    (c.val >>> 18).toUInt8.toNat = c.toNat / 262144 % 256 := by
  simpa using toNat_char_shift c (k := 18) (n := 18) rfl (by decide)

theorem toNat_char_toUInt8 (c : Char) : c.val.toUInt8.toNat = c.toNat % 256 :=
  UInt32.toNat_toUInt8 c.val

end Bits

section Sequences

theorem utf8EncodeChar_one {b : UInt8} (h : b.toNat < 0x80) :
    String.utf8EncodeChar (Char.ofNat b.toNat) = [b] := by
  set c := Char.ofNat b.toNat
  have hc : c.toNat = b.toNat := Char.toNat_ofNat_of_valid (by omega)
  have hs : c.utf8Size = 1 := by
    rw [Char.utf8Size_eq_one_iff, UInt32.le_iff_toNat_le]
    change c.toNat ≤ 127
    omega
  rw [String.utf8EncodeChar_eq_singleton hs, List.cons.injEq, ← UInt8.toNat_inj,
    toNat_char_toUInt8, hc]
  exact ⟨Nat.mod_eq_of_lt (by omega), rfl⟩

theorem utf8EncodeChar_two {b0 b1 : UInt8} (h0 : 0xC2 ≤ b0.toNat) (h0' : b0.toNat ≤ 0xDF)
    (h1 : 0x80 ≤ b1.toNat) (h1' : b1.toNat ≤ 0xBF) :
    String.utf8EncodeChar (Char.ofNat (b0.toNat % 32 * 64 + b1.toNat % 64)) = [b0, b1] := by
  set c := Char.ofNat (b0.toNat % 32 * 64 + b1.toNat % 64)
  have hc : c.toNat = b0.toNat % 32 * 64 + b1.toNat % 64 := Char.toNat_ofNat_of_valid (by omega)
  have hs : c.utf8Size = 2 := by
    rw [Char.utf8Size_eq_two_iff, UInt32.lt_iff_toNat_lt, UInt32.le_iff_toNat_le]
    change 127 < c.toNat ∧ c.toNat ≤ 0x7ff
    omega
  rw [String.utf8EncodeChar_eq_cons_cons hs, List.cons.injEq, List.cons.injEq, ← UInt8.toNat_inj,
    ← UInt8.toNat_inj, toNat_lead_two, toNat_continuation, toNat_char_shift_six,
    toNat_char_toUInt8, hc]
  refine ⟨?_, ?_, rfl⟩ <;> omega

theorem utf8EncodeChar_three {b0 b1 b2 : UInt8} (h0 : 0xE0 ≤ b0.toNat) (h0' : b0.toNat ≤ 0xEF)
    (h1 : 0x80 ≤ b1.toNat) (h1' : b1.toNat ≤ 0xBF) (h2 : 0x80 ≤ b2.toNat) (h2' : b2.toNat ≤ 0xBF)
    (hlo : 0x800 ≤ b0.toNat % 16 * 4096 + b1.toNat % 64 * 64 + b2.toNat % 64)
    (hsur : b0.toNat % 16 * 4096 + b1.toNat % 64 * 64 + b2.toNat % 64 < 0xD800 ∨
      0xDFFF < b0.toNat % 16 * 4096 + b1.toNat % 64 * 64 + b2.toNat % 64) :
    String.utf8EncodeChar
      (Char.ofNat (b0.toNat % 16 * 4096 + b1.toNat % 64 * 64 + b2.toNat % 64)) = [b0, b1, b2] := by
  set c := Char.ofNat (b0.toNat % 16 * 4096 + b1.toNat % 64 * 64 + b2.toNat % 64)
  have hc : c.toNat = b0.toNat % 16 * 4096 + b1.toNat % 64 * 64 + b2.toNat % 64 :=
    Char.toNat_ofNat_of_valid (by omega)
  have hs : c.utf8Size = 3 := by
    rw [Char.utf8Size_eq_three_iff, UInt32.lt_iff_toNat_lt, UInt32.le_iff_toNat_le]
    change 0x7ff < c.toNat ∧ c.toNat ≤ 0xffff
    omega
  rw [String.utf8EncodeChar_eq_cons_cons_cons hs, List.cons.injEq, List.cons.injEq,
    List.cons.injEq, ← UInt8.toNat_inj, ← UInt8.toNat_inj, ← UInt8.toNat_inj, toNat_lead_three,
    toNat_continuation, toNat_continuation, toNat_char_shift_twelve, toNat_char_shift_six,
    toNat_char_toUInt8, hc]
  refine ⟨?_, ?_, ?_, rfl⟩ <;> omega

theorem utf8EncodeChar_four {b0 b1 b2 b3 : UInt8} (h0 : 0xF0 ≤ b0.toNat) (h0' : b0.toNat ≤ 0xF7)
    (h1 : 0x80 ≤ b1.toNat) (h1' : b1.toNat ≤ 0xBF) (h2 : 0x80 ≤ b2.toNat) (h2' : b2.toNat ≤ 0xBF)
    (h3 : 0x80 ≤ b3.toNat) (h3' : b3.toNat ≤ 0xBF)
    (hlo : 0x10000 ≤ b0.toNat % 8 * 262144 + b1.toNat % 64 * 4096 + b2.toNat % 64 * 64 +
      b3.toNat % 64)
    (hhi : b0.toNat % 8 * 262144 + b1.toNat % 64 * 4096 + b2.toNat % 64 * 64 + b3.toNat % 64 <
      0x110000) :
    String.utf8EncodeChar (Char.ofNat (b0.toNat % 8 * 262144 + b1.toNat % 64 * 4096 +
      b2.toNat % 64 * 64 + b3.toNat % 64)) = [b0, b1, b2, b3] := by
  set c := Char.ofNat (b0.toNat % 8 * 262144 + b1.toNat % 64 * 4096 + b2.toNat % 64 * 64 +
    b3.toNat % 64)
  have hc : c.toNat = b0.toNat % 8 * 262144 + b1.toNat % 64 * 4096 + b2.toNat % 64 * 64 +
      b3.toNat % 64 := Char.toNat_ofNat_of_valid (by omega)
  have hs : c.utf8Size = 4 := by
    rw [Char.utf8Size_eq_four_iff, UInt32.lt_iff_toNat_lt]
    change 0xffff < c.toNat
    omega
  rw [String.utf8EncodeChar_eq_cons_cons_cons_cons hs, List.cons.injEq, List.cons.injEq,
    List.cons.injEq, List.cons.injEq, ← UInt8.toNat_inj, ← UInt8.toNat_inj, ← UInt8.toNat_inj,
    ← UInt8.toNat_inj, toNat_lead_four, toNat_continuation, toNat_continuation,
    toNat_continuation, toNat_char_shift_eighteen, toNat_char_shift_twelve, toNat_char_shift_six,
    toNat_char_toUInt8, hc]
  refine ⟨?_, ?_, ?_, ?_, rfl⟩ <;> omega

theorem value_two {b0 b1 : UInt8} (h : b0.toNat < 0xE0) :
    value [b0, b1] = b0.toNat % 32 * 64 + b1.toNat % 64 := by
  have h' : b0 < 0xE0 := UInt8.lt_iff_toNat_lt.2 h
  have hf : (b0 &&& 0x1F).toNat = b0.toNat % 32 := by
    simpa using toNat_and_low b0 0x1F (i := 5) rfl
  simp only [value, h', if_true, List.foldl_cons, List.foldl_nil, hf, toNat_low_six]

theorem value_three {b0 b1 b2 : UInt8} (h : 0xE0 ≤ b0.toNat) (h' : b0.toNat < 0xF0) :
    value [b0, b1, b2] = b0.toNat % 16 * 4096 + b1.toNat % 64 * 64 + b2.toNat % 64 := by
  have h₁ : ¬b0 < 0xE0 := fun hl => absurd (UInt8.lt_iff_toNat_lt.1 hl) (by simpa using h)
  have h₂ : b0 < 0xF0 := UInt8.lt_iff_toNat_lt.2 h'
  have hf : (b0 &&& 0x0F).toNat = b0.toNat % 16 := by
    simpa using toNat_and_low b0 0x0F (i := 4) rfl
  simp only [value, h₁, h₂, if_true, if_false, List.foldl_cons, List.foldl_nil, hf, toNat_low_six]
  ring

theorem value_four {b0 b1 b2 b3 : UInt8} (h : 0xF0 ≤ b0.toNat) :
    value [b0, b1, b2, b3] =
      b0.toNat % 8 * 262144 + b1.toNat % 64 * 4096 + b2.toNat % 64 * 64 + b3.toNat % 64 := by
  have h₁ : ¬b0 < 0xE0 := fun hl => absurd (UInt8.lt_iff_toNat_lt.1 hl) (by simp; omega)
  have h₂ : ¬b0 < 0xF0 := fun hl => absurd (UInt8.lt_iff_toNat_lt.1 hl) (by simpa using h)
  have hf : (b0 &&& 0x07).toNat = b0.toNat % 8 := by
    simpa using toNat_and_low b0 0x07 (i := 3) rfl
  simp only [value, h₁, h₂, if_false, List.foldl_cons, List.foldl_nil, hf, toNat_low_six]
  ring

theorem lead_spec {b lo hi : UInt8} {n : Nat} (h : lead b = some (n, lo, hi)) :
    0x80 ≤ lo.toNat ∧ hi.toNat ≤ 0xBF ∧
      ((n = 2 ∧ 0xC2 ≤ b.toNat ∧ b.toNat ≤ 0xDF ∧ lo.toNat = 0x80 ∧ hi.toNat = 0xBF) ∨
       (n = 3 ∧ 0xE0 ≤ b.toNat ∧ b.toNat ≤ 0xEF ∧ (b.toNat = 0xE0 → lo.toNat = 0xA0) ∧
         (b.toNat = 0xED → hi.toNat = 0x9F)) ∨
       (n = 4 ∧ 0xF0 ≤ b.toNat ∧ b.toNat ≤ 0xF4 ∧ (b.toNat = 0xF0 → lo.toNat = 0x90) ∧
         (b.toNat = 0xF4 → hi.toNat = 0x8F))) := by
  unfold lead at h
  split_ifs at h <;> cases h <;> refine ⟨by decide, by decide, ?_⟩ <;>
    simp only [UInt8.le_iff_toNat_le, ← UInt8.toNat_inj] at * <;>
    simp only [UInt8.toNat_ofNat, Nat.reducePow, Nat.reduceMod, true_and, and_true,
      implies_true] at * <;>
    omega

inductive Begun : Partial → Prop
  | lead {b lo hi : UInt8} {n : Nat} : lead b = some (n, lo, hi) → Begun ⟨[b], n - 1, lo, hi⟩
  | second {b c lo hi : UInt8} {n : Nat} : lead b = some (n, lo, hi) → lo.toNat ≤ c.toNat →
      c.toNat ≤ hi.toNat → 3 ≤ n → Begun ⟨[b, c], n - 2, 0x80, 0xBF⟩
  | third {b c d lo hi : UInt8} : lead b = some (4, lo, hi) → lo.toNat ≤ c.toNat →
      c.toNat ≤ hi.toNat → 0x80 ≤ d.toNat → d.toNat ≤ 0xBF → Begun ⟨[b, c, d], 1, 0x80, 0xBF⟩

def held : Option Partial → Bytes
  | none => []
  | some p => p.bytes

theorem encode_strays (bs : Bytes) : encode (bs.map .stray) = bs := by
  induction bs with
  | nil => rfl
  | cons b bs ih => simp [ih, Piece.bytes]

theorem encode_finished {p : Partial} (hp : Begun p) (hneed : p.need ≤ 1) {b : UInt8}
    (hlo : p.lo.toNat ≤ b.toNat) (hhi : b.toNat ≤ p.hi.toNat) :
    String.utf8EncodeChar (Char.ofNat (value (p.bytes ++ [b]))) = p.bytes ++ [b] := by
  cases hp with
  | @lead b0 lo hi n hl =>
    obtain ⟨hlo', hhi', h⟩ := lead_spec hl
    dsimp only [List.cons_append, List.nil_append] at hneed hlo hhi ⊢
    -- a lead byte that needs one more byte opens a sequence of two
    have h2 : n = 2 ∧ 0xC2 ≤ b0.toNat ∧ b0.toNat ≤ 0xDF ∧ lo.toNat = 0x80 ∧ hi.toNat = 0xBF := by
      omega
    rw [value_two (by omega)]
    exact utf8EncodeChar_two (by omega) (by omega) (by omega) (by omega)
  | @second b0 c lo hi n hl hc hc' hn =>
    obtain ⟨hlo', hhi', h⟩ := lead_spec hl
    dsimp only [List.cons_append, List.nil_append] at hneed hlo hhi ⊢
    have hb : 0x80 ≤ b.toNat ∧ b.toNat ≤ 0xBF := ⟨hlo, hhi⟩
    -- three bytes: the range after the lead keeps the value clear of surrogates and overlong forms
    have h3 : 0xE0 ≤ b0.toNat ∧ b0.toNat ≤ 0xEF ∧ (b0.toNat = 0xE0 → lo.toNat = 0xA0) ∧
        (b0.toNat = 0xED → hi.toNat = 0x9F) := by omega
    rw [value_three (by omega) (by omega)]
    exact utf8EncodeChar_three (by omega) (by omega) (by omega) (by omega) (by omega) (by omega)
      (by omega) (by omega)
  | @third b0 c d lo hi hl hc hc' hd hd' =>
    obtain ⟨hlo', hhi', h⟩ := lead_spec hl
    dsimp only [List.cons_append, List.nil_append] at hlo hhi ⊢
    have hb : 0x80 ≤ b.toNat ∧ b.toNat ≤ 0xBF := ⟨hlo, hhi⟩
    have h4 : 0xF0 ≤ b0.toNat ∧ b0.toNat ≤ 0xF4 ∧ (b0.toNat = 0xF0 → lo.toNat = 0x90) ∧
        (b0.toNat = 0xF4 → hi.toNat = 0x8F) := by omega
    rw [value_four (by omega)]
    exact utf8EncodeChar_four (by omega) (by omega) (by omega) (by omega) (by omega) (by omega)
      (by omega) (by omega) (by omega) (by omega)

theorem start_spec (b : UInt8) :
    encode (start b).1 ++ held (start b).2 = [b] ∧ ∀ p ∈ (start b).2, Begun p := by
  unfold start
  by_cases hb : b < 0x80
  · have hb' : b.toNat < 0x80 := UInt8.lt_iff_toNat_lt.1 hb
    simp [hb, held, Piece.bytes, utf8EncodeChar_one hb']
  · rcases hl : lead b with _ | ⟨n, lo, hi⟩
    · simp [hb, held, Piece.bytes]
    · simp [hb, held, Begun.lead hl]

theorem step_spec (q : Option Partial) (hq : ∀ p ∈ q, Begun p) (b : UInt8) :
    encode (step q b).1 ++ held (step q b).2 = held q ++ [b] ∧ ∀ p ∈ (step q b).2, Begun p := by
  rcases q with _ | p
  · exact start_spec b
  · have hp := hq p rfl
    simp only [step]
    by_cases hr : p.lo ≤ b ∧ b ≤ p.hi
    · have hr' : p.lo.toNat ≤ b.toNat ∧ b.toNat ≤ p.hi.toNat :=
        ⟨UInt8.le_iff_toNat_le.1 hr.1, UInt8.le_iff_toNat_le.1 hr.2⟩
      by_cases hn : p.need ≤ 1
      · -- the sequence is whole: one character
        simp [hr, hn, held, Piece.bytes, encode_finished hp hn hr'.1 hr'.2]
      · -- one byte more, and the sequence is still short
        refine ⟨by simp [hr, hn, held], ?_⟩
        simp only [hr, hn, and_self, if_true, if_false, Option.mem_def, Option.some.injEq,
          forall_eq']
        cases hp with
        | @lead b0 lo hi n hl =>
          have h := Begun.second hl hr'.1 hr'.2 (by simp at hn; omega)
          simpa [show n - 1 - 1 = n - 2 by omega] using h
        | @second b0 c lo hi n hl hc hc' h3 =>
          have h4 : n = 4 := by
            obtain ⟨-, -, h⟩ := lead_spec hl
            simp at hn
            omega
          subst h4
          exact Begun.third hl hc hc' hr'.1 hr'.2
        | third => simp at hn
    · -- the byte does not continue the sequence: its bytes stand alone, and the byte is read afresh
      obtain ⟨h₁, h₂⟩ := start_spec b
      refine ⟨?_, by simpa [hr] using h₂⟩
      simp only [hr, if_false, encode_append, encode_strays, List.append_assoc, h₁]
      rfl

theorem encode_decodeFrom (q : Option Partial) (hq : ∀ p ∈ q, Begun p) (bs : Bytes) :
    encode (decodeFrom q bs) = held q ++ bs := by
  induction bs generalizing q with
  | nil =>
    rcases q with _ | p
    · rfl
    · rw [decodeFrom, held, List.append_nil]
      exact encode_strays p.bytes
  | cons b t ih =>
    obtain ⟨h₁, h₂⟩ := step_spec q hq b
    rw [decodeFrom, encode_append, ih _ h₂, ← List.append_assoc, h₁, List.append_assoc,
      List.singleton_append]

theorem encode_decode (bs : Bytes) : encode (decode bs) = bs :=
  encode_decodeFrom none (by simp) bs

end Sequences

section Characters

theorem utf8EncodeChar_cases (c : Char) :
    (∃ b0, String.utf8EncodeChar c = [b0] ∧ b0.toNat = c.toNat ∧ c.toNat < 0x80) ∨
    (∃ b0 b1, String.utf8EncodeChar c = [b0, b1] ∧ b0.toNat = 0xC0 + c.toNat / 64 ∧
      b1.toNat = 0x80 + c.toNat % 64 ∧ 0x80 ≤ c.toNat ∧ c.toNat < 0x800) ∨
    (∃ b0 b1 b2, String.utf8EncodeChar c = [b0, b1, b2] ∧ b0.toNat = 0xE0 + c.toNat / 4096 ∧
      b1.toNat = 0x80 + c.toNat / 64 % 64 ∧ b2.toNat = 0x80 + c.toNat % 64 ∧
      0x800 ≤ c.toNat ∧ c.toNat < 0x10000) ∨
    (∃ b0 b1 b2 b3, String.utf8EncodeChar c = [b0, b1, b2, b3] ∧
      b0.toNat = 0xF0 + c.toNat / 262144 ∧ b1.toNat = 0x80 + c.toNat / 4096 % 64 ∧
      b2.toNat = 0x80 + c.toNat / 64 % 64 ∧ b3.toNat = 0x80 + c.toNat % 64 ∧
      0x10000 ≤ c.toNat) := by
  have hv := Char.toNat_valid c
  have hval : c.val.toNat = c.toNat := rfl
  match hs : c.utf8Size, c.utf8Size_pos, c.utf8Size_le_four with
  | 1, _, _ =>
    have hr := Char.utf8Size_eq_one_iff.1 hs
    rw [UInt32.le_iff_toNat_le, hval] at hr
    simp at hr
    refine .inl ⟨_, String.utf8EncodeChar_eq_singleton hs, ?_, by omega⟩
    rw [toNat_char_toUInt8]
    omega
  | 2, _, _ =>
    have hr := Char.utf8Size_eq_two_iff.1 hs
    rw [UInt32.lt_iff_toNat_lt, UInt32.le_iff_toNat_le, hval] at hr
    simp at hr
    refine .inr (.inl ⟨_, _, String.utf8EncodeChar_eq_cons_cons hs, ?_, ?_, by omega, by omega⟩)
    · rw [toNat_lead_two, toNat_char_shift_six]
      omega
    · rw [toNat_continuation, toNat_char_toUInt8]
      omega
  | 3, _, _ =>
    have hr := Char.utf8Size_eq_three_iff.1 hs
    rw [UInt32.lt_iff_toNat_lt, UInt32.le_iff_toNat_le, hval] at hr
    simp at hr
    refine .inr (.inr (.inl ⟨_, _, _, String.utf8EncodeChar_eq_cons_cons_cons hs, ?_, ?_, ?_,
      by omega, by omega⟩))
    · rw [toNat_lead_three, toNat_char_shift_twelve]
      omega
    · rw [toNat_continuation, toNat_char_shift_six]
      omega
    · rw [toNat_continuation, toNat_char_toUInt8]
      omega
  | 4, _, _ =>
    have hr := Char.utf8Size_eq_four_iff.1 hs
    rw [UInt32.lt_iff_toNat_lt, hval] at hr
    simp at hr
    refine .inr (.inr (.inr ⟨_, _, _, _, String.utf8EncodeChar_eq_cons_cons_cons_cons hs, ?_, ?_,
      ?_, ?_, by omega⟩))
    · rw [toNat_lead_four, toNat_char_shift_eighteen]
      omega
    · rw [toNat_continuation, toNat_char_shift_twelve]
      omega
    · rw [toNat_continuation, toNat_char_shift_six]
      omega
    · rw [toNat_continuation, toNat_char_toUInt8]
      omega

theorem decodeFrom_lead {b lo hi : UInt8} {n : Nat} (hb : 0x80 ≤ b.toNat)
    (hl : lead b = some (n, lo, hi)) (t : Bytes) :
    decodeFrom none (b :: t) = decodeFrom (some ⟨[b], n - 1, lo, hi⟩) t := by
  have hb' : ¬b < 0x80 := fun h => absurd (UInt8.lt_iff_toNat_lt.1 h) (by simpa using hb)
  simp [decodeFrom, step, start, hb', hl]

theorem decodeFrom_more {p : Partial} {b : UInt8} (hlo : p.lo.toNat ≤ b.toNat)
    (hhi : b.toNat ≤ p.hi.toNat) (hn : 1 < p.need) (t : Bytes) :
    decodeFrom (some p) (b :: t) = decodeFrom (some ⟨p.bytes ++ [b], p.need - 1, 0x80, 0xBF⟩) t := by
  have hr : p.lo ≤ b ∧ b ≤ p.hi := ⟨UInt8.le_iff_toNat_le.2 hlo, UInt8.le_iff_toNat_le.2 hhi⟩
  simp [decodeFrom, step, hr, show ¬p.need ≤ 1 by omega]

theorem decodeFrom_last {p : Partial} {b : UInt8} (hlo : p.lo.toNat ≤ b.toNat)
    (hhi : b.toNat ≤ p.hi.toNat) (hn : p.need ≤ 1) (t : Bytes) :
    decodeFrom (some p) (b :: t) = .char (Char.ofNat (value (p.bytes ++ [b]))) :: decodeFrom none t := by
  have hr : p.lo ≤ b ∧ b ≤ p.hi := ⟨UInt8.le_iff_toNat_le.2 hlo, UInt8.le_iff_toNat_le.2 hhi⟩
  simp [decodeFrom, step, hr, hn]

theorem lead_two {b : UInt8} (h : 0xC2 ≤ b.toNat) (h' : b.toNat ≤ 0xDF) :
    lead b = some (2, 0x80, 0xBF) := by
  have h₁ : 0xC2 ≤ b := UInt8.le_iff_toNat_le.2 h
  have h₂ : b ≤ 0xDF := UInt8.le_iff_toNat_le.2 h'
  simp [lead, h₁, h₂]

theorem lead_three {b : UInt8} (h : 0xE0 ≤ b.toNat) (h' : b.toNat ≤ 0xEF) :
    ∃ lo hi, lead b = some (3, lo, hi) ∧ (b.toNat = 0xE0 → lo.toNat = 0xA0) ∧
      (b.toNat ≠ 0xE0 → lo.toNat = 0x80) ∧ (b.toNat = 0xED → hi.toNat = 0x9F) ∧
      (b.toNat ≠ 0xED → hi.toNat = 0xBF) := by
  unfold lead
  simp only [UInt8.le_iff_toNat_le, ← UInt8.toNat_inj, UInt8.toNat_ofNat] at *
  split_ifs <;> simp_all <;> omega

theorem lead_four {b : UInt8} (h : 0xF0 ≤ b.toNat) (h' : b.toNat ≤ 0xF4) :
    ∃ lo hi, lead b = some (4, lo, hi) ∧ (b.toNat = 0xF0 → lo.toNat = 0x90) ∧
      (b.toNat ≠ 0xF0 → lo.toNat = 0x80) ∧ (b.toNat = 0xF4 → hi.toNat = 0x8F) ∧
      (b.toNat ≠ 0xF4 → hi.toNat = 0xBF) := by
  unfold lead
  simp only [UInt8.le_iff_toNat_le, ← UInt8.toNat_inj, UInt8.toNat_ofNat] at *
  split_ifs <;> simp_all <;> omega

theorem decodeFrom_utf8EncodeChar (c : Char) (t : Bytes) :
    decodeFrom none (String.utf8EncodeChar c ++ t) = .char c :: decodeFrom none t := by
  have hv := Char.toNat_valid c
  rcases utf8EncodeChar_cases c with ⟨b0, he, h0, hc⟩ | ⟨b0, b1, he, h0, h1, hc, hc'⟩ |
      ⟨b0, b1, b2, he, h0, h1, h2, hc, hc'⟩ | ⟨b0, b1, b2, b3, he, h0, h1, h2, h3, hc⟩ <;>
    simp only [he, List.cons_append, List.nil_append]
  · have hb : b0 < 0x80 := UInt8.lt_iff_toNat_lt.2 (by simp; omega)
    simp [decodeFrom, step, start, hb, h0]
  · rw [decodeFrom_lead (by omega) (lead_two (by omega) (by omega)),
      decodeFrom_last (by simp; omega) (by simp; omega) le_rfl,
      List.singleton_append, value_two (by omega), ← Char.ofNat_toNat c]
    congr 3
    omega
  · -- the byte after the lead is bounded more narrowly after 0xE0 and 0xED
    obtain ⟨lo, hi, hl, hlo, hlo', hhi, hhi'⟩ := lead_three (b := b0) (by omega) (by omega)
    rw [decodeFrom_lead (by omega) hl,
      decodeFrom_more (by simp; omega) (by simp; omega)
        (by simp),
      decodeFrom_last (by simp; omega) (by simp; omega)
        (by simp),
      ← Char.ofNat_toNat c]
    simp only [List.cons_append, List.nil_append]
    rw [value_three (by omega) (by omega)]
    congr 3
    omega
  · -- the byte after the lead is bounded more narrowly after 0xF0 and 0xF4
    obtain ⟨lo, hi, hl, hlo, hlo', hhi, hhi'⟩ := lead_four (b := b0) (by omega) (by omega)
    rw [decodeFrom_lead (by omega) hl,
      decodeFrom_more (by simp; omega) (by simp; omega)
        (by simp),
      decodeFrom_more (by simp; omega) (by simp; omega)
        (by simp),
      decodeFrom_last (by simp; omega) (by simp; omega)
        (by simp),
      ← Char.ofNat_toNat c]
    simp only [List.cons_append, List.nil_append]
    rw [value_four (by omega)]
    congr 3
    omega

theorem head_utf8EncodeChar (c : Char) :
    ∀ b ∈ (String.utf8EncodeChar c).head?, b.toNat < 0x80 ∨ 0xC0 ≤ b.toNat := by
  rcases utf8EncodeChar_cases c with ⟨b0, he, h0, hc⟩ | ⟨b0, b1, he, h0, -⟩ |
      ⟨b0, b1, b2, he, h0, -⟩ | ⟨b0, b1, b2, b3, he, h0, -⟩ <;>
    simp only [he, List.head?_cons, Option.mem_def, Option.some.injEq, forall_eq'] <;> omega

theorem Begun.range {p : Partial} (hp : Begun p) : 0x80 ≤ p.lo.toNat ∧ p.hi.toNat ≤ 0xBF := by
  cases hp with
  | lead hl => exact ⟨(lead_spec hl).1, (lead_spec hl).2.1⟩
  | second => exact ⟨by simp, by simp⟩
  | third => exact ⟨by simp, by simp⟩

theorem decodeFrom_append_of_head (q : Option Partial) (hq : ∀ p ∈ q, Begun p) (x y : Bytes)
    (hy : ∀ b ∈ y.head?, b.toNat < 0x80 ∨ 0xC0 ≤ b.toNat) :
    decodeFrom q (x ++ y) = decodeFrom q x ++ decodeFrom none y := by
  induction x generalizing q with
  | nil =>
    rcases q with _ | p
    · rfl
    · cases y with
      | nil => simp [decodeFrom]
      | cons b t =>
        -- the pending sequence cannot take the byte: its bytes stand alone
        have hr := (hq p rfl).range
        have hb := hy b rfl
        have hout : ¬(p.lo ≤ b ∧ b ≤ p.hi) := by
          simp only [UInt8.le_iff_toNat_le]
          omega
        simp [decodeFrom, step, hout]
  | cons b x ih =>
    simp only [List.cons_append, decodeFrom]
    rw [ih _ (step_spec q hq b).2, List.append_assoc]

theorem decode_append_of_head (x y : Bytes)
    (hy : ∀ b ∈ y.head?, b.toNat < 0x80 ∨ 0xC0 ≤ b.toNat) :
    decode (x ++ y) = decode x ++ decode y :=
  decodeFrom_append_of_head none (by simp) x y hy

theorem decode_chars_append (cs : List Char) (t : Bytes) :
    decode (encode (cs.map .char) ++ t) = cs.map .char ++ decode t := by
  induction cs with
  | nil => rfl
  | cons c cs ih =>
    simp only [List.map_cons, encode_cons, Piece.bytes, List.append_assoc, decode,
      decodeFrom_utf8EncodeChar, List.cons_append]
    exact congrArg _ ih

theorem decode_chars (cs : List Char) : decode (encode (cs.map .char)) = cs.map .char := by
  simpa using decode_chars_append cs []

theorem head_encode_chars (cs : List Char) :
    ∀ b ∈ (encode (cs.map .char)).head?, b.toNat < 0x80 ∨ 0xC0 ≤ b.toNat := by
  cases cs with
  | nil => simp
  | cons c cs =>
    obtain ⟨x, xs, hx⟩ := List.exists_cons_of_ne_nil (@String.utf8EncodeChar_ne_nil c)
    have h := head_utf8EncodeChar c
    simp only [List.map_cons, encode_cons, Piece.bytes, hx, List.cons_append, List.head?_cons] at h ⊢
    exact h

end Characters

end Utf8

namespace Text

theorem isInfix_trim (bs : Bytes) : trim bs <:+: bs := by
  set ps := Utf8.decode bs
  have hkept : ((ps.dropWhile (·.isBlank)).reverse.dropWhile (·.isBlank)).reverse <:+: ps := by
    have hfront := List.dropWhile_suffix (p := (·.isBlank)) (l := ps)
    have hback := List.reverse_prefix.2
      (List.dropWhile_suffix (p := (·.isBlank)) (l := (ps.dropWhile (·.isBlank)).reverse))
    rw [List.reverse_reverse] at hback
    exact hback.isInfix.trans hfront.isInfix
  obtain ⟨a, c, h⟩ := hkept
  refine ⟨Utf8.encode a, Utf8.encode c, ?_⟩
  rw [trim, ← Utf8.encode_append, ← Utf8.encode_append, h, Utf8.encode_decode]

theorem plain_trim {l : Bytes} (h : Lines.Plain l) : Lines.Plain (trim l) :=
  ⟨fun hm => h.1 ((isInfix_trim l).subset hm), fun hm => h.2 ((isInfix_trim l).subset hm)⟩

theorem trim_eq (bs : Bytes) :
    trim bs = Utf8.encode (((Utf8.decode bs).dropWhile (·.isBlank)).rdropWhile (·.isBlank)) := rfl

theorem eq_map_char_of_blank (ps : List Utf8.Piece) (h : ∀ x ∈ ps, x.isBlank = true) :
    ps = (ps.filterMap Utf8.Piece.char?).map .char := by
  induction ps with
  | nil => rfl
  | cons x ps ih =>
    have ht := ih fun y hy => h y (.tail _ hy)
    cases x with
    | char c => simp only [List.filterMap_cons, Utf8.Piece.char?, List.map_cons, ← ht]
    | stray b => exact absurd (h _ List.mem_cons_self) (by simp [Utf8.Piece.isBlank])

theorem decode_trim (bs : Bytes) :
    Utf8.decode (trim bs) = ((Utf8.decode bs).dropWhile (·.isBlank)).rdropWhile (·.isBlank) := by
  set ps := Utf8.decode bs
  set r := ps.dropWhile (·.isBlank)
  set m := r.rdropWhile (·.isBlank)
  -- the pieces are white space, the kept stretch, and white space again
  have hps : ps = ps.takeWhile (·.isBlank) ++ (m ++ r.rtakeWhile (·.isBlank)) := by
    rw [List.rdropWhile_append_rtakeWhile, List.takeWhile_append_dropWhile]
  have hA := eq_map_char_of_blank (ps.takeWhile (·.isBlank)) fun x hx => List.mem_takeWhile_imp hx
  have hC := eq_map_char_of_blank (r.rtakeWhile (·.isBlank)) fun x hx => List.mem_rtakeWhile_imp hx
  set as := (ps.takeWhile (·.isBlank)).filterMap Utf8.Piece.char?
  set cs := (r.rtakeWhile (·.isBlank)).filterMap Utf8.Piece.char?
  rw [hA, hC] at hps
  have hbs : bs = Utf8.encode (as.map .char) ++ (Utf8.encode m ++ Utf8.encode (cs.map .char)) := by
    conv_lhs => rw [← Utf8.encode_decode bs]
    change Utf8.encode ps = _
    conv_lhs => rw [hps]
    rw [Utf8.encode_append, Utf8.encode_append]
  -- reading the whole text again, the white space in front reads as itself
  have hread : Utf8.decode (Utf8.encode m ++ Utf8.encode (cs.map .char)) = m ++ cs.map .char := by
    have h := congrArg Utf8.decode hbs
    rw [Utf8.decode_chars_append] at h
    change ps = _ at h
    rw [hps] at h
    exact (List.append_cancel_left h).symm
  -- the white space behind starts afresh, so the kept stretch reads alone
  have hsplit : Utf8.decode (Utf8.encode m ++ Utf8.encode (cs.map .char)) =
      Utf8.decode (Utf8.encode m) ++ cs.map .char := by
    rw [Utf8.decode_append_of_head _ _ (Utf8.head_encode_chars cs), Utf8.decode_chars]
  rw [hsplit] at hread
  exact List.append_cancel_right hread

theorem trim_trim (bs : Bytes) : trim (trim bs) = trim bs := by
  rw [trim_eq (trim bs), decode_trim]
  set r := (Utf8.decode bs).dropWhile (·.isBlank)
  -- the kept stretch starts as what is left after the white space in front
  have hfront : (r.rdropWhile (·.isBlank)).dropWhile (·.isBlank) = r.rdropWhile (·.isBlank) := by
    rw [List.dropWhile_eq_self_iff]
    intro hl
    have hpre := List.rdropWhile_prefix Utf8.Piece.isBlank r
    have hr : r ≠ [] := List.ne_nil_of_length_pos (lt_of_lt_of_le hl hpre.length_le)
    rw [hpre.getElem hl, Bool.not_eq_true]
    simpa [List.head_eq_getElem] using List.head_dropWhile_not Utf8.Piece.isBlank hr
  rw [hfront, List.rdropWhile_idempotent, ← trim_eq]

end Text

end SymbolSieve
