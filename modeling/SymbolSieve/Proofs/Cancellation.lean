import Mathlib
import SymbolSieve.Proofs.SieveRuns

namespace SymbolSieve

namespace Decoder

def ofResults (result : List Bytes → Bytes → Except Fault Bytes) : Decoder (List Bytes) :=
  ofHistory fun asked symbol => { result := result asked symbol }

def cancelledAt (result : List Bytes → Bytes → Except Fault Bytes) (k : Nat) :
    Decoder (List Bytes) :=
  ofHistory fun asked symbol => { result := result asked symbol, cancels := asked.length + 1 == k }

end Decoder

def Progress.cancelAfter {ω : Type} (p : Progress (List Bytes) ω) (k : Nat) :
    Progress (List Bytes) ω :=
  { p with cancelled := decide (k ≤ p.decoder.length) }

namespace Sieve

variable {σ ω : Type}

theorem visit_of_cancelled (d : Decoder σ) (w : Writer ω) (p : Progress σ ω) (line : Nat)
    (raw : Bytes) (hc : p.cancelled = true) (hm : Candidate.test (Text.trim raw) = true) :
    visit d w p line raw =
      ({ p with tally := { p.tally with lines := p.tally.lines + 1, matched := p.tally.matched + 1 } },
        some (.sentinel .canceled)) := by
  simp [visit, hc, hm]

theorem asked_prefix_of_visitAll (answer : List Bytes → Bytes → Reply) (w : Writer ω)
    (ls : List Bytes) (p : Progress (List Bytes) ω) :
    p.decoder <+: (visitAll (Decoder.ofHistory answer) w p ls).1.decoder := by
  induction ls generalizing p with
  | nil => exact List.prefix_refl _
  | cons l ls ih =>
    have hstep : p.decoder <+: (visit (Decoder.ofHistory answer) w p (p.tally.lines + 1) l).1.decoder := by
      rw [visit_decoder]
      split
      · exact List.prefix_append _ _
      · exact List.prefix_refl _
    rcases hv : visit (Decoder.ofHistory answer) w p (p.tally.lines + 1) l with ⟨p', _ | f⟩ <;>
      rw [hv] at hstep
    · rw [visitAll_cons_of_none hv]
      exact hstep.trans (ih p')
    · rwa [visitAll_cons_of_some hv]

theorem visitAll_lines {d : Decoder σ} {w : Writer ω} {p q : Progress σ ω} {ls : List Bytes}
    (h : visitAll d w p ls = (q, none)) : q.tally.lines = p.tally.lines + ls.length := by
  induction ls generalizing p with
  | nil =>
    cases h
    rfl
  | cons l ls ih =>
    have hl := visit_lines d w p (p.tally.lines + 1) l
    rcases hv : visit d w p (p.tally.lines + 1) l with ⟨p', _ | f⟩ <;> rw [hv] at hl
    · rw [visitAll_cons_of_none hv] at h
      rw [ih h, hl, List.length_cons]
      omega
    · rw [visitAll_cons_of_some hv] at h
      cases h

theorem act_cancelAfter (w : Writer ω) (line : Nat) (q : Progress (List Bytes) ω) (dec : Decision)
    (k : Nat) :
    act w line (q.cancelAfter k, dec) =
      ((act w line (q, dec)).1.cancelAfter k, (act w line (q, dec)).2) := by
  cases dec with
  | skip => rfl
  | stop f => rfl
  | write r =>
    rcases hw : w.write q.sink (Record.render r) with ⟨_ | f, o⟩ <;>
      simp [act, commit, hw, Progress.cancelAfter]

section Cancel

variable (result : List Bytes → Bytes → Except Fault Bytes) (k : Nat)

theorem examine_cancelAfter (p : Progress (List Bytes) ω) (hp : p.cancelled = false) (line : Nat)
    (raw : Bytes) (h : p.decoder.length < k ∨ Candidate.test (Text.trim raw) = false) :
    examine (Decoder.cancelledAt result k) (p.cancelAfter k) line raw =
        ((examine (Decoder.ofResults result) p line raw).1.cancelAfter k,
          (examine (Decoder.ofResults result) p line raw).2) ∧
      (examine (Decoder.ofResults result) p line raw).1.cancelled = false := by
  unfold examine
  by_cases hm : Candidate.test (Text.trim raw) = true
  · have hk : p.decoder.length < k := by simpa [hm] using h
    -- the answer comes with the cancellation exactly when this is the `k`-th question
    have hck : (p.decoder.length + 1 == k) = decide (k ≤ (p.decoder ++ [Text.trim raw]).length) := by
      rw [Bool.eq_iff_iff, beq_iff_eq, decide_eq_true_iff, List.length_append,
        List.length_singleton]
      omega
    cases hr : result p.decoder (Text.trim raw) with
    | ok text =>
      by_cases ht : Text.trim text = []
      · by_cases hf : (emptyReply (Text.trim raw)).is .decodeFailure = true <;>
          simp [hm, hk, hp, hr, ht, hf, hck, Decoder.cancelledAt, Decoder.ofResults,
            Decoder.ofHistory, Progress.cancelAfter]
      · simp [hm, hk, hp, hr, ht, hck, Decoder.cancelledAt, Decoder.ofResults, Decoder.ofHistory,
          Progress.cancelAfter]
    | error f =>
      by_cases hf : f.is .decodeFailure = true <;>
        simp [hm, hk, hp, hr, hf, hck, Decoder.cancelledAt, Decoder.ofResults, Decoder.ofHistory,
          Progress.cancelAfter]
  · simp [hm, hp, Progress.cancelAfter]

theorem visit_cancelAfter (w : Writer ω) (p : Progress (List Bytes) ω) (hp : p.cancelled = false)
    (line : Nat) (raw : Bytes) (h : p.decoder.length < k ∨ Candidate.test (Text.trim raw) = false) :
    visit (Decoder.cancelledAt result k) w (p.cancelAfter k) line raw =
        ((visit (Decoder.ofResults result) w p line raw).1.cancelAfter k,
          (visit (Decoder.ofResults result) w p line raw).2) ∧
      (visit (Decoder.ofResults result) w p line raw).1.cancelled = false := by
  obtain ⟨he, hc⟩ := examine_cancelAfter result k p hp line raw h
  rw [visit_eq_act, visit_eq_act, he, act_cancelAfter, act_cancelled]
  exact ⟨rfl, hc⟩

theorem visitAll_cancelAfter (w : Writer ω) (ls : List Bytes) (p : Progress (List Bytes) ω)
    (hp : p.cancelled = false) (hk : p.decoder.length ≤ k) :
    ((visitAll (Decoder.ofResults result) w p ls).1.decoder.length ≤ k →
      visitAll (Decoder.cancelledAt result k) w (p.cancelAfter k) ls =
        ((visitAll (Decoder.ofResults result) w p ls).1.cancelAfter k,
          (visitAll (Decoder.ofResults result) w p ls).2)) ∧
    (k < (visitAll (Decoder.ofResults result) w p ls).1.decoder.length →
      ∃ ls₁ l ls₂ q, ls = ls₁ ++ l :: ls₂ ∧
        visitAll (Decoder.ofResults result) w p ls₁ = (q, none) ∧
        q.cancelled = false ∧ q.decoder.length = k ∧ Candidate.test (Text.trim l) = true ∧
        visitAll (Decoder.cancelledAt result k) w (p.cancelAfter k) ls =
          ({ q.cancelAfter k with
              tally := { q.tally with lines := q.tally.lines + 1, matched := q.tally.matched + 1 } },
            some (.sentinel .canceled))) := by
  induction ls generalizing p with
  | nil => exact ⟨fun _ => rfl, fun h => absurd h (Nat.not_lt.2 hk)⟩
  | cons l ls ih =>
    by_cases hstop : Candidate.test (Text.trim l) = true ∧ k ≤ p.decoder.length
    · -- the cancellation shows at this line: the cancelled run stops, the reference asks
      obtain ⟨hm, hk'⟩ := hstop
      have hc : (p.cancelAfter k).cancelled = true := by simp [Progress.cancelAfter, hk']
      have hC := visit_of_cancelled (Decoder.cancelledAt result k) w (p.cancelAfter k)
        ((p.cancelAfter k).tally.lines + 1) l hc hm
      have hasked : k < (visit (Decoder.ofResults result) w p (p.tally.lines + 1) l).1.decoder.length := by
        rw [visit_decoder, if_pos ⟨hm, hp⟩]
        simp only [Decoder.ofResults, Decoder.ofHistory, List.length_append, List.length_singleton]
        omega
      have hgrow : (visit (Decoder.ofResults result) w p (p.tally.lines + 1) l).1.decoder.length ≤
          (visitAll (Decoder.ofResults result) w p (l :: ls)).1.decoder.length := by
        rcases hv : visit (Decoder.ofResults result) w p (p.tally.lines + 1) l with ⟨p', _ | f⟩
        · rw [visitAll_cons_of_none hv]
          exact (asked_prefix_of_visitAll _ w ls p').length_le
        · rw [visitAll_cons_of_some hv]
      refine ⟨fun h => absurd (lt_of_lt_of_le hasked hgrow) (Nat.not_lt.2 h),
        fun _ => ⟨[], l, ls, p, rfl, rfl, hp, le_antisymm hk hk', hm, ?_⟩⟩
      rw [visitAll_cons_of_some hC]
      rfl
    · -- the line is taken alike by both runs
      have h : p.decoder.length < k ∨ Candidate.test (Text.trim l) = false := by
        by_cases hm : Candidate.test (Text.trim l) = true
        · exact .inl (by simp only [hm, true_and, Nat.not_le] at hstop; exact hstop)
        · exact .inr (by simpa using hm)
      obtain ⟨hstep, hcan⟩ := visit_cancelAfter result k w p hp (p.tally.lines + 1) l h
      have hk' : (visit (Decoder.ofResults result) w p (p.tally.lines + 1) l).1.decoder.length ≤ k := by
        rw [visit_decoder]
        split
        · rename_i hm
          simp only [Decoder.ofResults, Decoder.ofHistory, List.length_append,
            List.length_singleton]
          rcases h with h | h
          · omega
          · simp [h] at hm
        · exact hk
      rcases hv : visit (Decoder.ofResults result) w p (p.tally.lines + 1) l with ⟨p', _ | f⟩ <;>
        rw [hv] at hstep hcan hk'
      · rw [visitAll_cons_of_none hv, visitAll_cons_of_none hstep]
        obtain ⟨ih₁, ih₂⟩ := ih p' hcan hk'
        refine ⟨ih₁, fun hlt => ?_⟩
        obtain ⟨ls₁, l', ls₂, q, rfl, hq, h₁, h₂, h₃, h₄⟩ := ih₂ hlt
        exact ⟨l :: ls₁, l', ls₂, q, rfl, by rw [visitAll_cons_of_none hv, hq],
          h₁, h₂, h₃, h₄⟩
      · rw [visitAll_cons_of_some hv, visitAll_cons_of_some hstep]
        exact ⟨fun _ => rfl, fun hlt => absurd hlt (Nat.not_lt.2 hk')⟩

end Cancel

end Sieve

theorem cancelled_run_stops_at_next_candidate {ω : Type} (src : Source)
    (result : List Bytes → Bytes → Except Fault Bytes) (w : Writer ω) (o : ω) (k : Nat) :
    let R := Sieve.run (Decoder.ofResults result) w (LineCursor.ofSource src)
      { decoder := [], sink := o }
    let C := Sieve.run (Decoder.cancelledAt result k) w (LineCursor.ofSource src)
      { decoder := [], sink := o, cancelled := k == 0 }
    C.1.decoder = R.1.decoder.take k ∧
    (R.1.decoder.length ≤ k →
      C.1.tally = R.1.tally ∧ C.1.sink = R.1.sink ∧ C.1.notes = R.1.notes ∧ C.2.2 = R.2.2) ∧
    (k < R.1.decoder.length →
      C.2.2 = some (.sentinel .canceled) ∧ Fault.kindOf C.2.2 = .unknown ∧
      ∃ ls₁ l ls₂ q, (LineCursor.ofSource src).drain.1 = ls₁ ++ l :: ls₂ ∧
        Sieve.visitAll (Decoder.ofResults result) w { decoder := [], sink := o } ls₁ = (q, none) ∧
        q.decoder.length = k ∧ Candidate.test (Text.trim l) = true ∧
        C.1.sink = q.sink ∧ C.1.notes = q.notes ∧ q.tally.lines = ls₁.length ∧
        C.1.tally = { q.tally with lines := q.tally.lines + 1, matched := q.tally.matched + 1 }) := by
  intro R C
  set p₀ : Progress (List Bytes) ω := { decoder := [], sink := o }
  have hstart : ({ decoder := [], sink := o, cancelled := k == 0 } : Progress (List Bytes) ω) =
      p₀.cancelAfter k := by
    cases k <;> rfl
  obtain ⟨hR, hRf⟩ := Sieve.run_eq_visitAll (Decoder.ofResults result) w
    (c := LineCursor.ofSource src) rfl p₀ rfl
  obtain ⟨hC, hCf⟩ := Sieve.run_eq_visitAll (Decoder.cancelledAt result k) w
    (c := LineCursor.ofSource src) rfl (p₀.cancelAfter k) rfl
  obtain ⟨hsame, hstop⟩ := Sieve.visitAll_cancelAfter result k w (LineCursor.ofSource src).drain.1 p₀
    rfl (Nat.zero_le k)
  rw [← hstart] at hC hCf hsame hstop
  by_cases hle : R.1.decoder.length ≤ k
  · -- no question after the `k`-th: the two runs go in lockstep to the end
    have hrun := hsame (hR ▸ hle)
    have hC₁ : C.1 = R.1.cancelAfter k := by
      change _ = _ at hC
      rw [hC, hrun, hR]
    have hC₂ : C.2.2 = R.2.2 := by
      change _ = _ at hCf
      rw [hCf, hrun, hRf]
    refine ⟨?_, fun _ => ⟨?_, ?_, ?_, hC₂⟩, fun hlt => absurd hlt (Nat.not_lt.2 hle)⟩
    · rw [hC₁, List.take_of_length_le hle]
      rfl
    · rw [hC₁]
      rfl
    · rw [hC₁]
      rfl
    · rw [hC₁]
      rfl
  · have hlt : k < R.1.decoder.length := Nat.lt_of_not_le hle
    obtain ⟨ls₁, l, ls₂, q, hsplit, hq, hqc, hqk, hm, hrun⟩ := hstop (hR ▸ hlt)
    have hC₁ : C.1 = { q.cancelAfter k with
        tally := { q.tally with lines := q.tally.lines + 1, matched := q.tally.matched + 1 } } := by
      change _ = _ at hC
      rw [hC, hrun]
    have hC₂ : C.2.2 = some (.sentinel .canceled) := by
      change _ = _ at hCf
      rw [hCf, hrun]
      rfl
    -- the reference goes on from `q`, so what it asked up to `q` is the start of all it asked
    have hpre : q.decoder <+: R.1.decoder := by
      rw [hR, hsplit, Sieve.visitAll_append, hq]
      exact Sieve.asked_prefix_of_visitAll _ w (l :: ls₂) q
    refine ⟨?_, fun h => absurd h hle, fun _ => ⟨hC₂, by rw [hC₂]; rfl, ls₁, l, ls₂, q, hsplit, hq,
      hqk, hm, by rw [hC₁]; rfl, by rw [hC₁]; rfl, by rw [Sieve.visitAll_lines hq]; simp [p₀],
      by rw [hC₁]⟩⟩
    rw [hC₁, ← hqk]
    exact List.prefix_iff_eq_take.1 hpre

end SymbolSieve
