import SymbolSieve.Proofs.LineSplit
import SymbolSieve.Proofs.Utf16Decoding
import SymbolSieve.Sieve

namespace SymbolSieve

theorem Bytes.flatten_chunks (n : Nat) : ∀ bs : Bytes, (Bytes.chunks n bs).flatten = bs
  | [] => by simp [Bytes.chunks]
  | b :: t => by
    rw [Bytes.chunks, List.flatten_cons, Bytes.flatten_chunks n ((b :: t).drop (n + 1)),
      List.take_append_drop]
termination_by bs => bs.length
decreasing_by simp only [List.length_drop, List.length_cons]; omega

theorem Source.flatten_reads (s : Source) : s.reads.flatten = s.data := by
  unfold Source.reads
  split
  · split <;> simp_all
  · exact Bytes.flatten_chunks _ _

def ByteOrder.mark : ByteOrder → Bytes
  | .little => [0xFF, 0xFE]
  | .big => [0xFE, 0xFF]

def byteOrderMarks : List Bytes := [[0xFF, 0xFE], [0xFE, 0xFF], [0xEF, 0xBB, 0xBF]]

namespace Transcoder

theorem convert_append (t : Transcoder) (a b : Bytes) :
    t.convert (a ++ b) =
      ((t.convert a).1 ++ ((t.convert a).2.convert b).1, ((t.convert a).2.convert b).2) := by
  cases t with
  | utf16 order p => simp [convert, Utf16.decodeFrom_append]
  | sniffing held => rfl
  | raw => rfl

theorem choose_append {bs : Bytes} (x : Bytes) (h : 3 ≤ bs.length) :
    choose (bs ++ x) = ((choose bs).1, (choose bs).2 ++ x) := by
  have h2 : (bs ++ x).take 2 = bs.take 2 := List.take_append_of_le_length (by omega)
  have h3 : (bs ++ x).take 3 = bs.take 3 := List.take_append_of_le_length h
  unfold choose
  simp only [h2, h3]
  split
  · simp [List.drop_append_of_le_length (show 2 ≤ bs.length by omega)]
  · split
    · simp [List.drop_append_of_le_length (show 2 ≤ bs.length by omega)]
    · split
      · simp [List.drop_append_of_le_length h]
      · rfl

theorem choose_cases (bs : Bytes) :
    (∃ order, choose bs = (.utf16 order .empty, bs.drop 2)) ∨ ∃ rest, choose bs = (.raw, rest) := by
  unfold choose
  split
  · exact .inl ⟨_, rfl⟩
  · split
    · exact .inl ⟨_, rfl⟩
    · split <;> exact .inr ⟨_, rfl⟩

theorem feed_after_choose (bs r b : Bytes) :
    ((choose bs).1.convert r).2.feed b = ((choose bs).1.convert r).2.convert b := by
  rcases choose_cases bs with ⟨order, h⟩ | ⟨rest, h⟩ <;> rw [h] <;> rfl

theorem feed_sniffing_short {held a : Bytes} (h : (held ++ a).length < 3) :
    (sniffing held).feed a = ([], sniffing (held ++ a)) := by
  simp only [feed, if_pos h]

theorem feed_sniffing_long {held a : Bytes} (h : ¬(held ++ a).length < 3) :
    (sniffing held).feed a = (choose (held ++ a)).1.convert (choose (held ++ a)).2 := by
  simp only [feed, if_neg h]

theorem feed_append (t : Transcoder) (a b : Bytes) :
    t.feed (a ++ b) = ((t.feed a).1 ++ ((t.feed a).2.feed b).1, ((t.feed a).2.feed b).2) := by
  cases t with
  | sniffing held =>
    by_cases ha : (held ++ a).length < 3
    · -- the mark is still undecided after `a`: the bytes of `b` join the window
      rw [feed_sniffing_short ha]
      simp only [feed, List.append_assoc, List.nil_append]
    · have h3 : 3 ≤ (held ++ a).length := by omega
      have hlen : ¬(held ++ (a ++ b)).length < 3 := by
        simp only [List.length_append] at h3 ⊢
        omega
      rw [feed_sniffing_long hlen, feed_sniffing_long ha, ← List.append_assoc,
        choose_append b h3, convert_append, feed_after_choose]
  | raw => exact convert_append .raw a b
  | utf16 order p => exact convert_append (.utf16 order p) a b

theorem choose_unmarked {bs : Bytes} (h : ∀ m ∈ byteOrderMarks, ¬m <+: bs) :
    choose bs = (.raw, bs) := by
  have h1 : bs.take 2 ≠ [0xFF, 0xFE] := fun e =>
    h _ (by simp [byteOrderMarks]) (List.prefix_iff_eq_take.2 e.symm)
  have h2 : bs.take 2 ≠ [0xFE, 0xFF] := fun e =>
    h _ (by simp [byteOrderMarks]) (List.prefix_iff_eq_take.2 e.symm)
  have h3 : bs.take 3 ≠ [0xEF, 0xBB, 0xBF] := fun e =>
    h _ (by simp [byteOrderMarks]) (List.prefix_iff_eq_take.2 e.symm)
  simp [choose, h1, h2, h3]

theorem choose_utf16 (order : ByteOrder) (b : Bytes) :
    choose (order.mark ++ b) = (.utf16 order .empty, b) := by
  cases order <;> simp [choose, ByteOrder.mark]

theorem choose_utf8 (b : Bytes) : choose ([0xEF, 0xBB, 0xBF] ++ b) = (.raw, b) := by
  simp [choose]

theorem feedEach_cons (t : Transcoder) (r : Bytes) (rs : List Bytes) :
    ((t.feedEach (r :: rs)).1.flatten, (t.feedEach (r :: rs)).2) = t.feed (r :: rs).flatten := by
  induction rs generalizing t r with
  | nil => simp [feedEach]
  | cons r' rs ih =>
    have h := ih (t.feed r).2 r'
    simp only [feedEach] at h ⊢
    rw [show (r :: r' :: rs).flatten = r ++ (r' :: rs).flatten from rfl, feed_append, ← h]
    rfl

theorem feedEach_start (rs : List Bytes) :
    (((sniffing []).feedEach rs).1.flatten, ((sniffing []).feedEach rs).2) =
      (sniffing []).feed rs.flatten := by
  cases rs with
  | nil => rfl
  | cons r rs => exact feedEach_cons _ r rs

end Transcoder

namespace Source

theorem text_clean (data : Bytes) (chunk : Nat) :
    Source.text ⟨data, chunk, .clean⟩ =
      ((Transcoder.sniffing []).feed data).1 ++ ((Transcoder.sniffing []).feed data).2.close := by
  have h := Transcoder.feedEach_start (Source.reads ⟨data, chunk, .clean⟩)
  rw [flatten_reads] at h
  simp only [text, decoded, ← h, List.flatten_append, List.flatten_singleton]

theorem text_failure (data : Bytes) (chunk : Nat) (m : String) :
    Source.text ⟨data, chunk, .failure m⟩ = ((Transcoder.sniffing []).feed data).1 := by
  have h := Transcoder.feedEach_start (Source.reads ⟨data, chunk, .failure m⟩)
  rw [flatten_reads] at h
  simp only [text, decoded, ← h]

theorem text_chunk_independent (data : Bytes) (e : Ending) (c1 c2 : Nat) :
    Source.text ⟨data, c1, e⟩ = Source.text ⟨data, c2, e⟩ := by
  cases e with
  | clean => rw [text_clean, text_clean]
  | failure m => rw [text_failure, text_failure]

theorem text_clean_eq_close (data : Bytes) (chunk : Nat) :
    Source.text ⟨data, chunk, .clean⟩ = (Transcoder.sniffing data).close := by
  rw [text_clean]
  by_cases hl : ([] ++ data).length < 3
  · rw [Transcoder.feed_sniffing_short hl, List.nil_append, List.nil_append]
  · -- the mark was decided on the whole input, as closing the undecided state decides it
    rw [Transcoder.feed_sniffing_long hl, List.nil_append, Transcoder.close]
    rcases Transcoder.choose_cases data with ⟨order, h⟩ | ⟨rest, h⟩
    · rw [h]
      rfl
    · rw [h]
      simp [Transcoder.convert, Transcoder.close]

theorem text_unmarked {data : Bytes} (chunk : Nat) (h : ∀ m ∈ byteOrderMarks, ¬m <+: data) :
    Source.text ⟨data, chunk, .clean⟩ = data := by
  rw [text_clean_eq_close, Transcoder.close, Transcoder.choose_unmarked h]

theorem text_utf8_marked (b : Bytes) (chunk : Nat) :
    Source.text ⟨[0xEF, 0xBB, 0xBF] ++ b, chunk, .clean⟩ = b := by
  rw [text_clean_eq_close, Transcoder.close, Transcoder.choose_utf8]

theorem text_utf16_marked (order : ByteOrder) (b : Bytes) (chunk : Nat) :
    Source.text ⟨order.mark ++ b, chunk, .clean⟩ = Utf16.decode order b := by
  rw [text_clean_eq_close, Transcoder.close, Transcoder.choose_utf16]

end Source

end SymbolSieve
