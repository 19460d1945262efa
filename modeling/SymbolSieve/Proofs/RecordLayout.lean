import Mathlib
import SymbolSieve.Proofs.SinkLimit
import SymbolSieve.Proofs.Utf8RoundTrip

namespace SymbolSieve

namespace Record

def lines (r : Record) : List Bytes :=
  (Bytes.ofString "Matched symbol: " ++ r.symbol) ::
    (Bytes.ofString "Decoded: " ++ r.decoded).splitOn 0x0A ++ [rule]

theorem lf_not_mem_symbolLabel : (0x0A : UInt8) ∉ Bytes.ofString "Matched symbol: " := by
  decide +kernel

theorem lf_not_mem_decodedLabel : (0x0A : UInt8) ∉ Bytes.ofString "Decoded: " := by
  decide +kernel

theorem lf_not_mem_rule : (0x0A : UInt8) ∉ rule := by
  simp [rule]

theorem splitOn_render_append (r : Record) (h : (0x0A : UInt8) ∉ r.symbol) (rest : Bytes) :
    (r.render ++ rest).splitOn 0x0A = r.lines ++ rest.splitOn 0x0A := by
  have hsym : (0x0A : UInt8) ∉ Bytes.ofString "Matched symbol: " ++ r.symbol := by
    simp only [List.mem_append, not_or]
    exact ⟨lf_not_mem_symbolLabel, h⟩
  have e : r.render ++ rest = (Bytes.ofString "Matched symbol: " ++ r.symbol) ++ 0x0A ::
      ((Bytes.ofString "Decoded: " ++ r.decoded) ++ 0x0A :: (rule ++ 0x0A :: rest)) := by
    simp [render]
  rw [e, List.splitOn_append_cons_self, List.splitOn_append_cons_self,
    List.splitOn_append_cons_self, List.splitOn_eq_singleton hsym,
    List.splitOn_eq_singleton lf_not_mem_rule]
  simp [lines]

theorem count_render (r : Record) (h : (0x0A : UInt8) ∉ r.symbol) :
    r.render.count 0x0A = 3 + r.decoded.count 0x0A := by
  have hs := List.count_eq_zero.2 h
  have h₁ := List.count_eq_zero.2 lf_not_mem_symbolLabel
  have h₂ := List.count_eq_zero.2 lf_not_mem_decodedLabel
  have h₃ := List.count_eq_zero.2 lf_not_mem_rule
  simp only [render, List.count_append, List.count_singleton_self, hs, h₁, h₂, h₃]
  omega

theorem splitOn_flatMap_render (rs : List Record) (h : ∀ r ∈ rs, (0x0A : UInt8) ∉ r.symbol) :
    (rs.flatMap render).splitOn 0x0A = rs.flatMap lines ++ [[]] := by
  induction rs with
  | nil => rfl
  | cons r rs ih =>
    have hr : (0x0A : UInt8) ∉ r.symbol := h r List.mem_cons_self
    have hrs : ∀ r' ∈ rs, (0x0A : UInt8) ∉ r'.symbol := fun r' m => h r' (List.mem_cons_of_mem _ m)
    rw [List.flatMap_cons, splitOn_render_append r hr, ih hrs, List.flatMap_cons,
      List.append_assoc]

theorem count_flatMap_render (rs : List Record) (h : ∀ r ∈ rs, (0x0A : UInt8) ∉ r.symbol) :
    (rs.flatMap render).count 0x0A = 3 * rs.length + (rs.map fun r => r.decoded.count 0x0A).sum := by
  induction rs with
  | nil => rfl
  | cons r rs ih =>
    have hr : (0x0A : UInt8) ∉ r.symbol := h r List.mem_cons_self
    have hrs : ∀ r' ∈ rs, (0x0A : UInt8) ∉ r'.symbol := fun r' m => h r' (List.mem_cons_of_mem _ m)
    rw [List.flatMap_cons, List.count_append, count_render r hr, ih hrs, List.length_cons,
      List.map_cons, List.sum_cons]
    ring

def Fits (r : Record) : Prop :=
  Candidate.test r.symbol = true ∧ r.decoded ≠ [] ∧ ∃ t, r.decoded = Text.trim t

end Record

namespace LineCursor

theorem plain_of_next_line {c : LineCursor} {l : Bytes} (h : c.next.1 = .line l) :
    Lines.Plain l := by
  rw [next_fst] at h
  rcases View.next_cases c.view with ⟨-, hn⟩ | ⟨-, l', r, hcut, hn⟩ | ⟨-, l', m, -, -, hn⟩ |
      ⟨-, -, -, hn⟩ | ⟨-, -, -, hcut, hn⟩ <;> rw [hn] at h <;> cases h
  · exact (Lines.cut_some hcut).1
  · exact (Lines.cut_none hcut).2

theorem plain_of_mem_drain (c : LineCursor) : ∀ l ∈ c.drain.1, Lines.Plain l := by
  fun_induction drain c with
  | case1 c l h _ ls c' hrest ih =>
    -- the line just handed out, then the lines the cursor after it hands out
    intro x hx
    rcases List.mem_cons.1 hx with rfl | hx
    · exact plain_of_next_line h
    · exact ih x (by rw [hrest]; exact hx)
  | case2 => simp

end LineCursor

namespace Sieve

variable {σ ω : Type}

theorem examine_write {d : Decoder σ} {p : Progress σ ω} {line : Nat} {raw : Bytes} {r : Record}
    (h : (examine d p line raw).2 = .write r) : r.symbol = Text.trim raw ∧ r.Fits := by
  obtain ⟨decode⟩ := d
  unfold examine at h
  by_cases hm : Candidate.test (Text.trim raw) = true
  · by_cases hc : p.cancelled = true
    · simp [hm, hc] at h
    · rcases hdec : decode p.decoder (Text.trim raw) with ⟨⟨res, canc⟩, s⟩
      cases res with
      | ok text =>
        by_cases ht : Text.trim text = []
        · by_cases hf : (emptyReply (Text.trim raw)).is .decodeFailure = true <;>
            simp [hm, hc, hdec, ht, hf] at h
        · simp [hm, hc, hdec, ht] at h
          subst h
          exact ⟨rfl, hm, ht, text, rfl⟩
      | error f => by_cases hf : f.is .decodeFailure = true <;> simp [hm, hc, hdec, hf] at h
  · simp [hm] at h

theorem visit_records (d : Decoder σ) (w : Writer ω) (p : Progress σ ω) (line : Nat) (l : Bytes) :
    ∃ new, (visit d w p line l).1.records = p.records ++ new ∧
      (new.map Record.symbol).Sublist [Text.trim l] ∧ ∀ r ∈ new, r.Fits := by
  obtain ⟨-, -, hrec, -, -, -⟩ := examine_spec d p line l
  rw [visit_eq_act]
  rcases he : examine d p line l with ⟨e, _ | f | r⟩ <;> rw [he] at hrec <;> dsimp only at hrec
  · exact ⟨[], by simpa [act] using hrec, by simp, by simp⟩
  · exact ⟨[], by simpa [act] using hrec, by simp, by simp⟩
  · -- the record is added only when its write is accepted
    obtain ⟨hsym, hfits⟩ := examine_write (by rw [he])
    rcases hw : w.write e.sink r.render with ⟨_ | f, o⟩
    · refine ⟨[r], ?_, by simp [hsym], by simpa using hfits⟩
      rw [act, records_commit_of_accepted hw, hrec]
    · refine ⟨[], ?_, by simp, by simp⟩
      rw [act, commit_of_refused hw, List.append_nil]
      exact hrec

theorem visitAll_records (d : Decoder σ) (w : Writer ω) (ls : List Bytes) (p : Progress σ ω) :
    ∃ new, (visitAll d w p ls).1.records = p.records ++ new ∧
      (new.map Record.symbol).Sublist (ls.map Text.trim) ∧ ∀ r ∈ new, r.Fits := by
  induction ls generalizing p with
  | nil => exact ⟨[], by simp [visitAll_nil], by simp, by simp⟩
  | cons l ls ih =>
    obtain ⟨new₁, h₁, hs₁, hf₁⟩ := visit_records d w p (p.tally.lines + 1) l
    rcases hv : visit d w p (p.tally.lines + 1) l with ⟨p', _ | f⟩ <;> rw [hv] at h₁ <;> dsimp only at h₁
    · obtain ⟨new₂, h₂, hs₂, hf₂⟩ := ih p'
      refine ⟨new₁ ++ new₂, ?_, ?_, ?_⟩
      · rw [visitAll_cons_of_none hv, h₂, h₁, List.append_assoc]
      · rw [List.map_append, List.map_cons]
        exact hs₁.append hs₂
      · intro r hr
        rcases List.mem_append.1 hr with hr | hr
        · exact hf₁ r hr
        · exact hf₂ r hr
    · refine ⟨new₁, by rw [visitAll_cons_of_some hv, h₁], hs₁.trans (by simp), hf₁⟩

end Sieve

theorem run_output_is_record_lines {σ : Type} (src : Source) (d : Decoder σ) (s : σ) :
    let R := (Sieve.run d Sink.writer (LineCursor.ofSource src) { decoder := s, sink := {} }).1
    R.sink.held = R.records.flatMap Record.render ∧
    (R.records.map Record.symbol).Sublist ((LineCursor.ofSource src).drain.1.map Text.trim) ∧
    (∀ r ∈ R.records, Lines.Plain r.symbol ∧ r.Fits) ∧
    R.sink.held.splitOn 0x0A = R.records.flatMap Record.lines ++ [[]] ∧
    R.sink.held.count 0x0A =
      3 * R.tally.decoded + (R.records.map fun r => r.decoded.count 0x0A).sum ∧
    (R.sink.held.count 0x0A = 3 * R.tally.decoded ↔
      ∀ r ∈ R.records, (0x0A : UInt8) ∉ r.decoded) := by
  intro R
  set ls := (LineCursor.ofSource src).drain.1
  have hR : R = (Sieve.visitAll d Sink.writer { decoder := s, sink := {} } ls).1 :=
    (Sieve.run_eq_visitAll d Sink.writer (c := LineCursor.ofSource src) rfl _ rfl).1
  have hholds : Sieve.Holds R := hR ▸ Sieve.visitAll_holds d ls (Sieve.Holds.start s false)
  obtain ⟨new, hnew, hsub, hfits⟩ :=
    Sieve.visitAll_records d Sink.writer ls { decoder := s, sink := {} }
  have hrec : R.records = new := by
    rw [hR, hnew]
    rfl
  -- a symbol is a trimmed line, and lines have no line breaks
  have hplain : ∀ r ∈ R.records, Lines.Plain r.symbol := by
    intro r hr
    obtain ⟨l, hl, hsym⟩ := List.mem_map.1 (hsub.subset (List.mem_map_of_mem (hrec ▸ hr)))
    rw [← hsym]
    exact Text.plain_trim (LineCursor.plain_of_mem_drain _ l hl)
  have hlf : ∀ r ∈ R.records, (0x0A : UInt8) ∉ r.symbol := fun r hr => (hplain r hr).2
  have hheld : R.sink.held = R.records.flatMap Record.render := by
    rw [hholds.held, List.flatMap_def]
  have hcount := Record.count_flatMap_render R.records hlf
  refine ⟨hheld, hrec ▸ hsub, fun r hr => ⟨hplain r hr, hfits r (hrec ▸ hr)⟩, ?_, ?_, ?_⟩
  · rw [hheld]
    exact Record.splitOn_flatMap_render _ hlf
  · rw [hheld, hcount, hholds.decoded]
  · rw [hheld, hcount, hholds.decoded]
    simp [List.sum_eq_zero_iff, List.count_eq_zero]

theorem multiline_answer_breaks_three_lines :
    let R := (Sieve.run (Decoder.recording fun _ => { result := .ok (Bytes.ofString "x\ny") })
      Sink.writer (LineCursor.ofSource { data := Bytes.ofString "0000000000C2\n" })
      { decoder := [], sink := {} }).1
    R.tally.decoded = 1 ∧ R.sink.held.count 0x0A = 4 := by
  intro R
  have hR := (Sieve.run_eq_visitAll (Decoder.recording fun _ => { result := .ok (Bytes.ofString "x\ny") })
      Sink.writer (c := LineCursor.ofSource { data := Bytes.ofString "0000000000C2\n" }) rfl
      { decoder := [], sink := {} } rfl).1
  rw [(LineCursor.ofSource_yields _ 0).2.1, Source.text_unmarked 0 (by decide +kernel)] at hR
  rw [show R = _ from hR]
  decide +kernel

end SymbolSieve
