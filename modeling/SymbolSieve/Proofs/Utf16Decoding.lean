import SymbolSieve.Text.Utf16

namespace SymbolSieve

namespace Utf8

def WellFormed (bs : Bytes) : Prop := ∃ cs : List Char, bs = encode (cs.map .char)

end Utf8

theorem Char.toNat_valid (c : Char) : c.toNat < 0xD800 ∨ (0xDFFF < c.toNat ∧ c.toNat < 0x110000) := by
  have := c.valid
  simp only [UInt32.isValidChar, Nat.isValidChar] at this
  exact this

theorem Char.toNat_ofNat_of_valid {n : Nat} (h : n < 0xD800 ∨ (0xDFFF < n ∧ n < 0x110000)) :
    (Char.ofNat n).toNat = n := by
  rw [Char.ofNat, dif_pos h]
  rfl

namespace Utf16

theorem decodeFrom_append (order : ByteOrder) (p : Pending) (a b : Bytes) :
    decodeFrom order p (a ++ b) =
      ((decodeFrom order p a).1 ++ (decodeFrom order (decodeFrom order p a).2 b).1,
        (decodeFrom order (decodeFrom order p a).2 b).2) := by
  induction a generalizing p with
  | nil => rfl
  | cons x a ih => simp [decodeFrom, ih]

def emitChar (cp : Nat) : Char :=
  if cp < 0xD800 ∨ (0xDFFF < cp ∧ cp < 0x110000) then Char.ofNat cp else '�'

theorem emit_eq (cp : Nat) : emit cp = String.utf8EncodeChar (emitChar cp) := by
  unfold emit emitChar
  split
  · rfl
  · decide

theorem replacement_eq : replacement = String.utf8EncodeChar '�' := by decide

theorem emit_toNat (c : Char) : emit c.toNat = String.utf8EncodeChar c := by
  rw [emit_eq, emitChar, if_pos (Char.toNat_valid c), Char.ofNat_toNat]

def unitBytes : ByteOrder → Nat → Bytes
  | .little, u => [u.toUInt8, (u / 256).toUInt8]
  | .big, u => [(u / 256).toUInt8, u.toUInt8]

theorem unitBytes_eq (order : ByteOrder) {u : Nat} (hu : u < 0x10000) :
    ∃ a b, unitBytes order u = [a, b] ∧ unit order a b = u := by
  cases order with
  | little => exact ⟨_, _, rfl, by simp [unit]; omega⟩
  | big => exact ⟨_, _, rfl, by simp [unit]; omega⟩

def encodeChar (order : ByteOrder) (c : Char) : Bytes :=
  if c.toNat < 0x10000 then unitBytes order c.toNat
  else unitBytes order (0xD800 + (c.toNat - 0x10000) / 0x400) ++
    unitBytes order (0xDC00 + (c.toNat - 0x10000) % 0x400)

def encode (order : ByteOrder) (w : List Char) : Bytes := w.flatMap (encodeChar order)

theorem decodeFrom_encodeChar (order : ByteOrder) (c : Char) :
    decodeFrom order .empty (encodeChar order c) = (String.utf8EncodeChar c, .empty) := by
  have hv := Char.toNat_valid c
  unfold encodeChar
  split
  · obtain ⟨a, b, hab, hu⟩ := unitBytes_eq order (u := c.toNat) (by omega)
    have hs : isSurrogate c.toNat = false := by simp [isSurrogate]; omega
    simp [hab, decodeFrom, Pending.feed, hu, Pending.ofUnit, hs, emit_toNat]
  · -- a character past the basic plane is a leading surrogate and a trailing one
    obtain ⟨a, b, hab, hu⟩ :=
      unitBytes_eq order (u := 0xD800 + (c.toNat - 0x10000) / 0x400) (by omega)
    obtain ⟨x, y, hxy, hv'⟩ :=
      unitBytes_eq order (u := 0xDC00 + (c.toNat - 0x10000) % 0x400) (by omega)
    have hs : isSurrogate (0xD800 + (c.toNat - 0x10000) / 0x400) = true := by
      simp [isSurrogate]; omega
    have ht : isTrailing (0xDC00 + (c.toNat - 0x10000) % 0x400) = true := by
      simp [isTrailing]; omega
    have hcp : 0x10000 + (c.toNat - 0x10000) / 0x400 * 0x400 + (c.toNat - 0x10000) % 0x400 =
        c.toNat := by omega
    have hlead : 0xD800 + (c.toNat - 0x10000) / 0x400 < 0xDC00 := by omega
    simp [hab, hxy, decodeFrom, Pending.feed, hu, hv', Pending.ofUnit, hs, ht, pair, hlead, hcp,
      emit_toNat]

theorem decodeFrom_encode (order : ByteOrder) (w : List Char) :
    decodeFrom order .empty (encode order w) = (Utf8.encode (w.map .char), .empty) := by
  induction w with
  | nil => rfl
  | cons c w ih =>
    simp only [encode, List.flatMap_cons] at ih ⊢
    rw [decodeFrom_append, decodeFrom_encodeChar, ih]
    simp [Utf8.Piece.bytes]

theorem decode_encode (order : ByteOrder) (w : List Char) :
    decode order (encode order w) = Utf8.encode (w.map .char) := by
  simp [decode, decodeFrom_encode, Pending.close]

def units (order : ByteOrder) : Bytes → List Nat
  | a :: b :: t => unit order a b :: units order t
  | _ => []

def Pending.held : Pending → Bytes
  | .empty => []
  | .half a => [a]
  | .surrogate _ => []
  | .surrogateHalf _ c => [c]

def isBreak (n : Nat) : Bool := n == 0x0A || n == 0x0D

def Transcribes (out : Bytes) (us : List Nat) : Prop :=
  ∃ cs : List Char, out = Utf8.encode (cs.map .char) ∧
    (cs.map Char.toNat).filter isBreak = us.filter isBreak

theorem Transcribes.append {o1 o2 : Bytes} {u1 u2 : List Nat} (h1 : Transcribes o1 u1)
    (h2 : Transcribes o2 u2) : Transcribes (o1 ++ o2) (u1 ++ u2) := by
  obtain ⟨c1, rfl, e1⟩ := h1
  obtain ⟨c2, rfl, e2⟩ := h2
  exact ⟨c1 ++ c2, by simp [Utf8.encode_append], by simp [List.filter_append, e1, e2]⟩

theorem Transcribes.congr {o : Bytes} {us vs : List Nat} (h : Transcribes o us)
    (e : us.filter isBreak = vs.filter isBreak) : Transcribes o vs :=
  let ⟨cs, hcs, hf⟩ := h
  ⟨cs, hcs, hf.trans e⟩

theorem transcribes_nil : Transcribes [] [] := ⟨[], rfl, rfl⟩

theorem transcribes_replacement : Transcribes replacement [] :=
  ⟨['�'], by rw [replacement_eq]; simp [Utf8.Piece.bytes], by decide⟩

theorem transcribes_emit (cp : Nat) : Transcribes (emit cp) [cp] := by
  refine ⟨[emitChar cp], by rw [emit_eq]; simp [Utf8.Piece.bytes], ?_⟩
  unfold emitChar
  split
  · rw [List.map_singleton, Char.toNat_ofNat_of_valid ‹_›]
  · -- no scalar value: the replacement character, and the code point was no line break
    have : isBreak cp = false := by simp [isBreak]; omega
    have hr : isBreak '�'.toNat = false := by decide
    simp only [List.map_singleton, List.filter_cons, List.filter_nil, this, hr,
      Bool.false_eq_true, if_false]

theorem transcribes_pair (u : Nat) {v : Nat} (hv : isTrailing v = true) :
    Transcribes (pair u v) [v] := by
  have hvb : isBreak v = false := by simp [isTrailing, isBreak] at hv ⊢; omega
  unfold pair
  split
  · refine (transcribes_emit _).congr ?_
    have : isBreak (0x10000 + (u - 0xD800) * 0x400 + (v - 0xDC00)) = false := by
      simp [isBreak]; omega
    simp [this, hvb]
  · exact transcribes_replacement.congr (by simp [hvb])

theorem ofUnit_transcribes (u : Nat) :
    Transcribes (Pending.ofUnit u).1 [u] ∧ (Pending.ofUnit u).2.held = [] := by
  unfold Pending.ofUnit
  split
  · -- a surrogate waits, and it is no line break
    have : isBreak u = false := by simp_all [isSurrogate, isBreak]; omega
    exact ⟨transcribes_nil.congr (by simp [this]), rfl⟩
  · exact ⟨transcribes_emit u, rfl⟩

theorem feed_transcribes (order : ByteOrder) (p : Pending) (b : UInt8) (t : Bytes) :
    ∃ us, Transcribes (p.feed order b).1 us ∧
      units order (p.held ++ b :: t) = us ++ units order ((p.feed order b).2.held ++ t) := by
  cases p with
  | empty => exact ⟨[], transcribes_nil, rfl⟩
  | half a =>
    obtain ⟨h1, h2⟩ := ofUnit_transcribes (unit order a b)
    refine ⟨[unit order a b], h1, ?_⟩
    simp only [Pending.feed, h2, List.nil_append]
    rfl
  | surrogate u => exact ⟨[], transcribes_nil, rfl⟩
  | surrogateHalf u c =>
    refine ⟨[unit order c b], ?_, ?_⟩
    · simp only [Pending.feed]
      split
      · exact transcribes_pair u ‹_›
      · exact (transcribes_replacement.append (ofUnit_transcribes _).1)
    · simp only [Pending.feed]
      split
      · rfl
      · rw [(ofUnit_transcribes _).2, List.nil_append]
        rfl

theorem decodeFrom_transcribes (order : ByteOrder) (p : Pending) (bs : Bytes) :
    Transcribes ((decodeFrom order p bs).1 ++ (decodeFrom order p bs).2.close)
      (units order (p.held ++ bs)) := by
  induction bs generalizing p with
  | nil =>
    cases p with
    | empty => exact transcribes_nil
    | half a => exact transcribes_replacement
    | surrogate u => exact transcribes_replacement
    | surrogateHalf u c => exact transcribes_replacement.append transcribes_replacement
  | cons b t ih =>
    obtain ⟨us, h1, h2⟩ := feed_transcribes order p b t
    simp only [decodeFrom, h2, List.append_assoc]
    exact h1.append (ih _)

theorem decode_transcribes (order : ByteOrder) (bs : Bytes) :
    Transcribes (decode order bs) (units order bs) :=
  decodeFrom_transcribes order .empty bs

end Utf16

end SymbolSieve
