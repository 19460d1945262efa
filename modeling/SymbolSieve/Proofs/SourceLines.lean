import Mathlib
import SymbolSieve.Proofs.DecodingReader
import SymbolSieve.Proofs.SieveRuns

namespace SymbolSieve

namespace Utf8

theorem le_toNat_or {x y : UInt8} {n : Nat} (h : n ≤ y.toNat) : n ≤ (x ||| y).toNat := by
  rw [UInt8.toNat_or]
  exact Nat.le_trans h Nat.right_le_or

theorem utf8EncodeChar_eq_of_ascii_mem {c : Char} {b : UInt8} (hb : b ∈ String.utf8EncodeChar c)
    (h : b.toNat < 128) : String.utf8EncodeChar c = [b] := by
  -- every byte of a longer encoding has its top bit set
  obtain hc | hc | hc | hc := c.utf8Size_eq
  · rw [String.utf8EncodeChar_eq_singleton hc] at hb ⊢
    rw [List.mem_singleton.1 hb]
  · rw [String.utf8EncodeChar_eq_cons_cons hc] at hb
    simp only [List.mem_cons, List.not_mem_nil, or_false] at hb
    rcases hb with rfl | rfl <;> exact absurd h (Nat.not_lt.2 (le_toNat_or (by decide)))
  · rw [String.utf8EncodeChar_eq_cons_cons_cons hc] at hb
    simp only [List.mem_cons, List.not_mem_nil, or_false] at hb
    rcases hb with rfl | rfl | rfl <;> exact absurd h (Nat.not_lt.2 (le_toNat_or (by decide)))
  · rw [String.utf8EncodeChar_eq_cons_cons_cons_cons hc] at hb
    simp only [List.mem_cons, List.not_mem_nil, or_false] at hb
    rcases hb with rfl | rfl | rfl | rfl <;>
      exact absurd h (Nat.not_lt.2 (le_toNat_or (by decide)))

theorem toNat_of_utf8EncodeChar_eq_singleton {c : Char} {b : UInt8}
    (h : String.utf8EncodeChar c = [b]) : b.toNat = c.toNat ∧ c.toNat < 128 := by
  have hs : c.utf8Size = 1 := by rw [← String.length_utf8EncodeChar, h]; rfl
  have hv := UInt32.le_iff_toNat_le.1 (Char.utf8Size_eq_one_iff.1 hs)
  rw [String.utf8EncodeChar_eq_singleton hs, List.singleton_inj] at h
  rw [← h, UInt32.toNat_toUInt8]
  have : (127 : UInt32).toNat = 127 := rfl
  change c.val.toNat % 2 ^ 8 = c.val.toNat ∧ c.val.toNat < 128
  omega

theorem eq_of_mem_utf8EncodeChar {c d : Char} {b : UInt8} (hb : b ∈ String.utf8EncodeChar c)
    (hd : String.utf8EncodeChar d = [b]) : c = d := by
  obtain ⟨hbd, hlt⟩ := toNat_of_utf8EncodeChar_eq_singleton hd
  have hc := utf8EncodeChar_eq_of_ascii_mem hb (by omega)
  obtain ⟨hbc, -⟩ := toNat_of_utf8EncodeChar_eq_singleton hc
  exact Char.toNat_inj.1 (hbc.symm.trans hbd)

theorem utf8EncodeChar_lf : String.utf8EncodeChar '\n' = [Lines.lf] := by decide

theorem utf8EncodeChar_cr : String.utf8EncodeChar '\r' = [Lines.cr] := by decide

theorem plain_utf8EncodeChar {c : Char} (h1 : c ≠ '\n') (h2 : c ≠ '\r') :
    Lines.Plain (String.utf8EncodeChar c) :=
  ⟨fun hm => h2 (eq_of_mem_utf8EncodeChar hm utf8EncodeChar_cr),
    fun hm => h1 (eq_of_mem_utf8EncodeChar hm utf8EncodeChar_lf)⟩

theorem encode_cons_char (c : Char) (cs : List Char) :
    encode ((c :: cs).map .char) = String.utf8EncodeChar c ++ encode (cs.map .char) := rfl

theorem head?_encode_ne_lf {c : Char} (cs : List Char) (hc : c ≠ '\n') :
    (encode ((c :: cs).map .char)).head? ≠ some Lines.lf := by
  intro hh
  obtain ⟨x, xs, hx⟩ := List.exists_cons_of_ne_nil (@String.utf8EncodeChar_ne_nil c)
  rw [encode_cons_char, hx, List.cons_append, List.head?_cons, Option.some_inj] at hh
  have hm : Lines.lf ∈ String.utf8EncodeChar c := by rw [hx, hh]; exact List.mem_cons_self
  exact hc (eq_of_mem_utf8EncodeChar hm utf8EncodeChar_lf)

theorem cut_wellFormed (cs : List Char) :
    WellFormed (Lines.cut (encode (cs.map .char))).1 ∧
      ∀ r, (Lines.cut (encode (cs.map .char))).2 = some r → WellFormed r := by
  induction cs with
  | nil => exact ⟨⟨[], rfl⟩, by simp [Lines.cut]⟩
  | cons c cs ih =>
    rw [encode_cons_char]
    by_cases hn : c = '\n'
    · subst hn
      refine ⟨⟨[], rfl⟩, fun r hr => ?_⟩
      simp only [utf8EncodeChar_lf, Lines.cut, List.singleton_append, if_pos] at hr
      cases hr
      exact ⟨cs, rfl⟩
    by_cases hr : c = '\r'
    · subst hr
      refine ⟨⟨[], rfl⟩, fun r hr => ?_⟩
      simp only [utf8EncodeChar_cr, Lines.cut, List.singleton_append, if_neg Lines.lf_ne_cr.symm,
        if_pos] at hr
      cases hr
      -- after a carriage return a line feed is skipped only when the next character is one
      cases cs with
      | nil => exact ⟨[], rfl⟩
      | cons c' cs =>
        by_cases hn' : c' = '\n'
        · subst hn'
          refine ⟨cs, ?_⟩
          rw [encode_cons_char, utf8EncodeChar_lf, List.singleton_append, List.head?_cons,
            if_pos rfl, List.tail_cons]
        · rw [if_neg (head?_encode_ne_lf cs hn')]
          exact ⟨c' :: cs, rfl⟩
    · rw [Lines.cut_plain_append _ (plain_utf8EncodeChar hn hr)]
      obtain ⟨⟨ls, hls⟩, hrest⟩ := ih
      exact ⟨⟨c :: ls, by rw [hls]; rfl⟩, hrest⟩

end Utf8

theorem Lines.wellFormed_of_mem_ofText {t : Bytes} (ht : Utf8.WellFormed t) :
    ∀ l ∈ Lines.ofText t, Utf8.WellFormed l := by
  induction t using Lines.induction_cut with
  | plain t hp =>
    rw [Lines.ofText_plain hp]
    split <;> simp_all
  | split t l r hc ih =>
    obtain ⟨cs, rfl⟩ := ht
    have h := Utf8.cut_wellFormed cs
    rw [hc] at h
    rw [Lines.ofText_cut_some hc]
    exact List.forall_mem_cons.2 ⟨h.1, ih (h.2 r rfl)⟩

section Reader

variable {D : Source → List Bytes}

theorem lines_of_unmarked_source (hD : DecodesMarks D) (data : Bytes) (chunk : Nat)
    (h : ∀ m ∈ byteOrderMarks, ¬m <+: data) :
    (LineCursor.start (D ⟨data, chunk, .clean⟩) .clean).Yields (Lines.ofText data) ∧
      (∀ l ∈ Lines.ofText data, Lines.Plain l) ∧
      (Lines.ofText data).flatten = data.filter (fun b => b != Lines.cr && b != Lines.lf) := by
  exact ⟨LineCursor.start_yields_of_flatten (hD.unmarked data chunk h),
    Lines.plain_of_mem_ofText data, Lines.flatten_ofText data⟩

theorem lines_of_unmarked_source_mixed :
    DecodesMarks Source.decoded ∧
      (∀ m ∈ byteOrderMarks, ¬m <+: [0x61, 0x0D, 0x0D, 0x0A, 0xFF, 0x0A]) ∧
      ((LineCursor.start (Source.decoded ⟨[0x61, 0x0D, 0x0D, 0x0A, 0xFF, 0x0A], 2, .clean⟩)
            .clean).Yields (Lines.ofText [0x61, 0x0D, 0x0D, 0x0A, 0xFF, 0x0A]) ∧
        (∀ l ∈ Lines.ofText [0x61, 0x0D, 0x0D, 0x0A, 0xFF, 0x0A], Lines.Plain l) ∧
        (Lines.ofText [0x61, 0x0D, 0x0D, 0x0A, 0xFF, 0x0A]).flatten =
          [0x61, 0x0D, 0x0D, 0x0A, 0xFF, 0x0A].filter (fun b => b != Lines.cr && b != Lines.lf)) :=
  ⟨Source.decoded_decodesMarks, by decide,
    lines_of_unmarked_source Source.decoded_decodesMarks _ 2 (by decide)⟩

theorem lines_after_mark (hD : DecodesMarks D) (w : List Char) (b : Bytes) (chunk : Nat) :
    (LineCursor.start (D ⟨[0xEF, 0xBB, 0xBF] ++ Utf8.encode (w.map .char), chunk, .clean⟩)
        .clean).Yields (Lines.ofText (Utf8.encode (w.map .char))) ∧
      (∀ order : ByteOrder,
        (LineCursor.start (D ⟨order.mark ++ Utf16.encode order w, chunk, .clean⟩) .clean).Yields
          (Lines.ofText (Utf8.encode (w.map .char)))) ∧
      (LineCursor.start (D ⟨[0xEF, 0xBB, 0xBF] ++ b, chunk, .clean⟩) .clean).Yields
        (Lines.ofText b) ∧
      ∀ order : ByteOrder, ∃ cs : List Char,
        (LineCursor.start (D ⟨order.mark ++ b, chunk, .clean⟩) .clean).Yields
            (Lines.ofText (Utf8.encode (cs.map .char))) ∧
          (∀ l ∈ Lines.ofText (Utf8.encode (cs.map .char)), Utf8.WellFormed l) ∧
          (cs.map Char.toNat).filter Utf16.isBreak = (Utf16.units order b).filter Utf16.isBreak := by
  refine ⟨LineCursor.start_yields_of_flatten (hD.utf8_mark _ chunk),
    fun order => LineCursor.start_yields_of_flatten (hD.utf16_mark order w chunk),
    LineCursor.start_yields_of_flatten (hD.utf8_mark b chunk), fun order => ?_⟩
  -- whatever follows the mark, the reader's text is the UTF-8 of some characters
  obtain ⟨cs, hcs, hbreaks⟩ := hD.utf16_lenient order b chunk
  exact ⟨cs, LineCursor.start_yields_of_flatten hcs, Lines.wellFormed_of_mem_ofText ⟨cs, rfl⟩,
    hbreaks⟩

theorem lines_after_mark_of_decoded :
    DecodesMarks Source.decoded ∧
      ((LineCursor.start (Source.decoded ⟨[0xEF, 0xBB, 0xBF] ++ Utf8.encode (['a', '\r'].map .char),
          1, .clean⟩) .clean).Yields (Lines.ofText (Utf8.encode (['a', '\r'].map .char))) ∧
        (∀ order : ByteOrder,
          (LineCursor.start (Source.decoded ⟨order.mark ++ Utf16.encode order ['a', '\r'], 1,
            .clean⟩) .clean).Yields (Lines.ofText (Utf8.encode (['a', '\r'].map .char)))) ∧
        (LineCursor.start (Source.decoded ⟨[0xEF, 0xBB, 0xBF] ++ [0xFF], 1, .clean⟩) .clean).Yields
          (Lines.ofText [0xFF]) ∧
        ∀ order : ByteOrder, ∃ cs : List Char,
          (LineCursor.start (Source.decoded ⟨order.mark ++ [0xFF], 1, .clean⟩) .clean).Yields
              (Lines.ofText (Utf8.encode (cs.map .char))) ∧
            (∀ l ∈ Lines.ofText (Utf8.encode (cs.map .char)), Utf8.WellFormed l) ∧
            (cs.map Char.toNat).filter Utf16.isBreak =
              (Utf16.units order [0xFF]).filter Utf16.isBreak) :=
  ⟨Source.decoded_decodesMarks,
    lines_after_mark Source.decoded_decodesMarks ['a', '\r'] [0xFF] 1⟩

theorem reads_leave_lines_unchanged (hD : DecodesMarks D) (data : Bytes) (e : Ending) (c₁ c₂ : Nat) :
    (∀ n, ((LineCursor.start (D ⟨data, c₁, e⟩) e).steps n).1 =
        ((LineCursor.start (D ⟨data, c₂, e⟩) e).steps n).1 ∧
      ((LineCursor.start (D ⟨data, c₁, e⟩) e).steps n).2.error? =
        ((LineCursor.start (D ⟨data, c₂, e⟩) e).steps n).2.error?) ∧
    ∀ {σ ω : Type} (d : Decoder σ) (w : Writer ω) (p : Progress σ ω),
      (Sieve.run d w (LineCursor.start (D ⟨data, c₁, e⟩) e) p).1 =
          (Sieve.run d w (LineCursor.start (D ⟨data, c₂, e⟩) e) p).1 ∧
        (Sieve.run d w (LineCursor.start (D ⟨data, c₁, e⟩) e) p).2.2 =
          (Sieve.run d w (LineCursor.start (D ⟨data, c₂, e⟩) e) p).2.2 := by
  -- the two readers start with one text still to read, however it is cut into reads
  have hv : (LineCursor.start (D ⟨data, c₁, e⟩) e).view =
      (LineCursor.start (D ⟨data, c₂, e⟩) e).view := by
    simp only [LineCursor.view, LineCursor.start, LineCursor.rest, List.nil_append,
      hD.chunking data e c₁ c₂]
  refine ⟨fun n => ?_, fun d w p => Sieve.run_congr d w hv p⟩
  obtain ⟨h₁, h₂⟩ := LineCursor.steps_congr hv n
  exact ⟨h₁, LineCursor.error?_congr h₂⟩

theorem reads_leave_lines_unchanged_of_decoded :
    DecodesMarks Source.decoded ∧
      ((∀ n, ((LineCursor.start (Source.decoded ⟨[0x61, 0x0D, 0x0A], 1, .clean⟩) .clean).steps n).1 =
          ((LineCursor.start (Source.decoded ⟨[0x61, 0x0D, 0x0A], 2, .clean⟩) .clean).steps n).1 ∧
        ((LineCursor.start (Source.decoded ⟨[0x61, 0x0D, 0x0A], 1, .clean⟩) .clean).steps n).2.error? =
          ((LineCursor.start (Source.decoded ⟨[0x61, 0x0D, 0x0A], 2, .clean⟩) .clean).steps n).2.error?) ∧
      ∀ {σ ω : Type} (d : Decoder σ) (w : Writer ω) (p : Progress σ ω),
        (Sieve.run d w (LineCursor.start (Source.decoded ⟨[0x61, 0x0D, 0x0A], 1, .clean⟩) .clean) p).1 =
            (Sieve.run d w (LineCursor.start (Source.decoded ⟨[0x61, 0x0D, 0x0A], 2, .clean⟩) .clean)
              p).1 ∧
          (Sieve.run d w (LineCursor.start (Source.decoded ⟨[0x61, 0x0D, 0x0A], 1, .clean⟩) .clean)
              p).2.2 =
            (Sieve.run d w (LineCursor.start (Source.decoded ⟨[0x61, 0x0D, 0x0A], 2, .clean⟩) .clean)
              p).2.2) :=
  ⟨Source.decoded_decodesMarks,
    reads_leave_lines_unchanged Source.decoded_decodesMarks [0x61, 0x0D, 0x0A] .clean 1 2⟩

theorem lines_before_read_failure (hD : DecodesMarks D) (data : Bytes) (chunk : Nat) (m : String) :
    let c := LineCursor.start (D ⟨data, chunk, .failure m⟩) (.failure m)
    let released := Lines.complete (D ⟨data, chunk, .failure m⟩).flatten
    c.FailsAfter released m ∧
      released <+: (LineCursor.start (D ⟨data, chunk, .clean⟩) .clean).drain.1 ∧
      (data.length < 3 → released = []) ∧
      (3 ≤ data.length → ∃ kept w, data = kept ++ w ∧
        (w = [] ∨ ∃ order : ByteOrder, order.mark <+: data ∧ Utf16.Unfinished order w) ∧
        released = Lines.complete (D ⟨kept, chunk, .clean⟩).flatten) ∧
      ∀ {σ ω : Type} (d : Decoder σ) (w : Writer ω) (p : Progress σ ω), p.tally.lines = 0 →
        (Sieve.run d w c p).1 = (Sieve.visitAll d w p released).1 ∧
          (Sieve.run d w c p).2.2 =
            (Sieve.visitAll d w p released).2.or (some (Sieve.readFailure m)) := by
  intro c released
  have hfails : c.FailsAfter released m := LineCursor.failsAfter_complete rfl rfl rfl
  refine ⟨hfails, ?_, fun h => ?_, fun h => ?_, fun d w p h0 => ?_⟩
  · -- the clean text goes on from the released one
    obtain ⟨y, hy⟩ := hD.released data chunk m
    rw [(LineCursor.start_yields _).2.1, ← hy]
    exact Lines.complete_prefix _ _
  · simp only [released, hD.short data chunk m h]
    rfl
  · obtain ⟨kept, w, hkw, htext, hw⟩ := hD.withheld data chunk m h
    exact ⟨kept, w, hkw, hw, by simp only [released, htext]⟩
  · have hrun := Sieve.run_eq_visitAll d w (c := c) rfl p h0.symm
    rw [hfails.2.2.1] at hrun
    exact hrun

theorem lines_before_read_failure_of_decoded :
    DecodesMarks Source.decoded ∧
      (let c := LineCursor.start (Source.decoded ⟨[0x61, 0x0A, 0x62], 1, .failure "boom"⟩)
        (.failure "boom")
      let released := Lines.complete (Source.decoded ⟨[0x61, 0x0A, 0x62], 1, .failure "boom"⟩).flatten
      c.FailsAfter released "boom" ∧
        released <+:
          (LineCursor.start (Source.decoded ⟨[0x61, 0x0A, 0x62], 1, .clean⟩) .clean).drain.1 ∧
        ([0x61, 0x0A, 0x62].length < 3 → released = []) ∧
        (3 ≤ [0x61, 0x0A, 0x62].length → ∃ kept w, [0x61, 0x0A, 0x62] = kept ++ w ∧
          (w = [] ∨ ∃ order : ByteOrder, order.mark <+: [0x61, 0x0A, 0x62] ∧
            Utf16.Unfinished order w) ∧
          released = Lines.complete (Source.decoded ⟨kept, 1, .clean⟩).flatten) ∧
        ∀ {σ ω : Type} (d : Decoder σ) (w : Writer ω) (p : Progress σ ω), p.tally.lines = 0 →
          (Sieve.run d w c p).1 = (Sieve.visitAll d w p released).1 ∧
            (Sieve.run d w c p).2.2 =
              (Sieve.visitAll d w p released).2.or (some (Sieve.readFailure "boom"))) :=
  ⟨Source.decoded_decodesMarks,
    lines_before_read_failure Source.decoded_decodesMarks [0x61, 0x0A, 0x62] 1 "boom"⟩

end Reader

theorem utf8_mark_keeps_invalid_byte :
    (LineCursor.ofSource ⟨[0xEF, 0xBB, 0xBF, 0xFF], 0, .clean⟩).drain.1 = [[0xFF]] ∧
      ¬Utf8.WellFormed [0xFF] := by
  refine ⟨?_, ?_⟩
  · rw [(LineCursor.ofSource_yields _ 0).2.1]
    rw [show ([0xEF, 0xBB, 0xBF, 0xFF] : Bytes) = [0xEF, 0xBB, 0xBF] ++ [0xFF] from rfl,
      Source.text_utf8_marked]
    decide
  · -- the one byte would be a whole character's encoding, and those stay below `0x80`
    rintro ⟨_ | ⟨c, cs⟩, hcs⟩
    · cases hcs
    · rw [Utf8.encode_cons_char, eq_comm, List.append_eq_singleton_iff] at hcs
      obtain ⟨hc, -⟩ | ⟨hc, -⟩ := hcs
      · exact String.utf8EncodeChar_ne_nil hc
      · have h255 : (0xFF : UInt8).toNat = 255 := rfl
        have := Utf8.toNat_of_utf8EncodeChar_eq_singleton hc
        omega

end SymbolSieve
