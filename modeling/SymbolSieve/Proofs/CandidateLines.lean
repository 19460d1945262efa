import SymbolSieve.Candidate

namespace SymbolSieve

namespace Candidate

theorem lead_eq : lead = Bytes.ofString "0000000000" := by decide +kernel

theorem marker_eq : marker = Bytes.ofString "C2" := by decide +kernel

theorem markerBeforeBreak_iff (t : Bytes) :
    markerBeforeBreak t = true ↔ ∃ u v, t = u ++ marker ++ v ∧ 0x0A ∉ u := by
  induction t with
  | nil => simp [markerBeforeBreak, marker]
  | cons b t ih =>
    simp only [markerBeforeBreak, Bool.and_eq_true, bne_iff_ne, ne_eq, Bool.or_eq_true,
      List.isPrefixOf_iff_prefix, ih]
    constructor
    · rintro ⟨hb, ⟨v, hv⟩ | ⟨u, v, rfl, hu⟩⟩
      · exact ⟨[], v, by simpa using hv.symm, List.not_mem_nil⟩
      · exact ⟨b :: u, v, rfl, by simp [hu, Ne.symm hb]⟩
    · rintro ⟨_ | ⟨c, u⟩, v, h, hu⟩
      · -- the marker itself starts here, and it does not start with a line feed
        simp only [marker, List.nil_append, List.cons_append, List.cons.injEq] at h
        obtain ⟨rfl, rfl⟩ := h
        exact ⟨by decide, .inl ⟨v, rfl⟩⟩
      · simp only [List.cons_append, List.cons.injEq] at h
        obtain ⟨rfl, rfl⟩ := h
        simp only [List.mem_cons, not_or] at hu
        exact ⟨Ne.symm hu.1, .inr ⟨u, v, rfl, hu.2⟩⟩

theorem test_iff (s : Bytes) : test s = true ↔ ∃ u v, s = lead ++ u ++ marker ++ v ∧ 0x0A ∉ u := by
  simp only [test, Bool.and_eq_true, List.isPrefixOf_iff_prefix, markerBeforeBreak_iff]
  constructor
  · rintro ⟨⟨r, rfl⟩, u, v, h, hu⟩
    rw [List.drop_left] at h
    exact ⟨u, v, by rw [h]; simp, hu⟩
  · rintro ⟨u, v, rfl, hu⟩
    exact ⟨⟨u ++ marker ++ v, by simp⟩, u, v, by simp, hu⟩

end Candidate

theorem candidate_iff_lead_then_marker (s : Bytes) :
    (Candidate.test s = true ↔
      ∃ u v, s = Bytes.ofString "0000000000" ++ u ++ Bytes.ofString "C2" ++ v ∧ 0x0A ∉ u) ∧
    (0x0A ∉ s → (Candidate.test s = true ↔
      Bytes.ofString "0000000000" <+: s ∧ Bytes.ofString "C2" <:+: s.drop 10)) := by
  rw [← Candidate.lead_eq, ← Candidate.marker_eq]
  refine ⟨Candidate.test_iff s, fun hs => ?_⟩
  rw [Candidate.test_iff]
  constructor
  · rintro ⟨u, v, rfl, -⟩
    refine ⟨⟨u ++ Candidate.marker ++ v, by simp⟩, ⟨u, v, ?_⟩⟩
    simp [Candidate.lead]
  · rintro ⟨⟨r, rfl⟩, ⟨u, v, hr⟩⟩
    -- the stretch before the marker lies inside the line, which has no line feed
    have hr' : r = u ++ Candidate.marker ++ v := by
      simpa [Candidate.lead] using hr.symm
    subst hr'
    exact ⟨u, v, by simp, fun h => hs (by simp [h])⟩

end SymbolSieve
