import Mathlib
import SymbolSieve.Proofs.ReadFailure

namespace SymbolSieve

structure DecodesMarks (D : Source → List Bytes) : Prop where
  chunking : ∀ data e c₁ c₂, (D ⟨data, c₁, e⟩).flatten = (D ⟨data, c₂, e⟩).flatten
  unmarked : ∀ data chunk, (∀ m ∈ byteOrderMarks, ¬m <+: data) →
    (D ⟨data, chunk, .clean⟩).flatten = data
  utf8_mark : ∀ b chunk, (D ⟨[0xEF, 0xBB, 0xBF] ++ b, chunk, .clean⟩).flatten = b
  utf16_mark : ∀ order w chunk,
    (D ⟨order.mark ++ Utf16.encode order w, chunk, .clean⟩).flatten = Utf8.encode (w.map .char)
  utf16_lenient : ∀ order b chunk,
    Utf16.Transcribes (D ⟨order.mark ++ b, chunk, .clean⟩).flatten (Utf16.units order b)
  released : ∀ data chunk m,
    (D ⟨data, chunk, .failure m⟩).flatten <+: (D ⟨data, chunk, .clean⟩).flatten
  short : ∀ data chunk m, data.length < 3 → (D ⟨data, chunk, .failure m⟩).flatten = []
  withheld : ∀ data chunk m, 3 ≤ data.length → ∃ kept w, data = kept ++ w ∧
    (D ⟨data, chunk, .failure m⟩).flatten = (D ⟨kept, chunk, .clean⟩).flatten ∧
    (w = [] ∨ ∃ order : ByteOrder, order.mark <+: data ∧ Utf16.Unfinished order w)

namespace Source

theorem decoded_decodesMarks : DecodesMarks Source.decoded where
  chunking data e c₁ c₂ := text_chunk_independent data e c₁ c₂
  unmarked _ chunk h := text_unmarked chunk h
  utf8_mark b chunk := text_utf8_marked b chunk
  utf16_mark order w chunk := (text_utf16_marked order _ chunk).trans (Utf16.decode_encode order w)
  utf16_lenient order b chunk := by
    show Utf16.Transcribes (Source.text ⟨order.mark ++ b, chunk, .clean⟩) _
    rw [text_utf16_marked]
    exact Utf16.decode_transcribes order b
  released data chunk m := by
    -- what a failure releases is what the conversion gave before closing
    have h : Source.text ⟨data, chunk, .failure m⟩ <+: Source.text ⟨data, chunk, .clean⟩ := by
      rw [text_clean, text_failure]
      exact List.prefix_append _ _
    exact h
  short data chunk m := (text_failure_withholds data chunk m).1
  withheld data chunk m := (text_failure_withholds data chunk m).2

end Source

end SymbolSieve
