import Mathlib
import SymbolSieve.Proofs.SieveRuns

namespace SymbolSieve

namespace Fault

def causes : Fault → List Fault
  | .decode _ _ _ _ cause => cause.toList
  | .op _ _ _ cause => cause.toList
  | .wrapped _ inner => [inner]
  | .joined _ cs => cs
  | .launch _ cause => [cause]
  | _ => []

inductive Unwraps : Fault → Fault → Prop
  | refl (f : Fault) : Unwraps f f
  | cause {f c g : Fault} : c ∈ f.causes → Unwraps c g → Unwraps f g

def Names (k : Kind) : Fault → Prop
  | .sentinel s => Sentinel.ofKind? k = some s
  | .decode code .. => k ≠ .unknown ∧ code = k.code
  | .op _ code .. => k ≠ .unknown ∧ code = k.code
  | _ => False

def Carries (k : Kind) (f : Fault) : Prop := ∃ g, f.Unwraps g ∧ g.Names k

theorem sizeOf_lt_of_mem_causes {f c : Fault} (h : c ∈ f.causes) : sizeOf c < sizeOf f := by
  cases f with
  | decode code tool symbol stderr cause =>
    cases cause with
    | none => simp [causes] at h
    | some c' =>
      obtain rfl : c = c' := by simpa [causes] using h
      simp only [decode.sizeOf_spec, Option.some.sizeOf_spec]
      omega
  | op name code path cause =>
    cases cause with
    | none => simp [causes] at h
    | some c' =>
      obtain rfl : c = c' := by simpa [causes] using h
      simp only [op.sizeOf_spec, Option.some.sizeOf_spec]
      omega
  | wrapped lead inner =>
    obtain rfl : c = inner := by simpa [causes] using h
    simp only [wrapped.sizeOf_spec]
    omega
  | joined text cs =>
    have := List.sizeOf_lt_of_mem (show c ∈ cs from h)
    simp only [joined.sizeOf_spec]
    omega
  | launch name cause =>
    obtain rfl : c = cause := by simpa [causes] using h
    simp only [launch.sizeOf_spec]
    omega
  | _ => simp [causes] at h

theorem induction_on_causes {motive : Fault → Prop}
    (step : ∀ f, (∀ c ∈ f.causes, motive c) → motive f) (f : Fault) : motive f :=
  step f fun c _ => induction_on_causes step c
termination_by sizeOf f
decreasing_by exact sizeOf_lt_of_mem_causes ‹_›

theorem unwraps_iff {f g : Fault} : f.Unwraps g ↔ g = f ∨ ∃ c ∈ f.causes, c.Unwraps g := by
  constructor
  · rintro (_ | ⟨hc, hg⟩)
    · exact .inl rfl
    · exact .inr ⟨_, hc, hg⟩
  · rintro (rfl | ⟨c, hc, hg⟩)
    · exact .refl g
    · exact .cause hc hg

theorem anyIs_iff (s : Sentinel) (fs : List Fault) : anyIs s fs = true ↔ ∃ f ∈ fs, f.is s = true := by
  induction fs with
  | nil => simp [anyIs]
  | cons f fs ih => simp [anyIs, ih]

theorem is_eq_search (s : Sentinel) (f : Fault) :
    f.is s = (f.matchesHere s || anyIs s f.causes) := by
  cases f with
  | decode code tool symbol stderr cause => cases cause <;> simp [is, anyIs, causes]
  | op name code path cause => cases cause <;> simp [is, anyIs, causes]
  | wrapped lead inner => simp [is, matchesHere, anyIs, causes]
  | joined text cs => simp [is, matchesHere, causes]
  | launch name cause => simp [is, matchesHere, anyIs, causes]
  | _ => simp [is, anyIs, causes]

theorem is_iff_unwraps (s : Sentinel) (f : Fault) :
    f.is s = true ↔ ∃ g, f.Unwraps g ∧ g.matchesHere s = true := by
  induction f using induction_on_causes with
  | step f ih =>
    rw [is_eq_search, Bool.or_eq_true, anyIs_iff]
    constructor
    · rintro (h | ⟨c, hc, hs⟩)
      · exact ⟨f, .refl f, h⟩
      · obtain ⟨g, hg, hm⟩ := (ih c hc).1 hs
        exact ⟨g, .cause hc hg, hm⟩
    · rintro ⟨g, hg, hm⟩
      rcases unwraps_iff.1 hg with rfl | ⟨c, hc, hcg⟩
      · exact .inl hm
      · exact .inr ⟨c, hc, (ih c hc).2 ⟨g, hcg, hm⟩⟩

theorem ofKind?_ofCode_eq_some {k : Kind} {s : Sentinel} (hs : Sentinel.ofKind? k = some s)
    (code : Int) : Sentinel.ofKind? (Kind.ofCode code) = some s ↔ code = k.code := by
  cases k <;> simp only [Sentinel.ofKind?, reduceCtorEq, Option.some.injEq] at hs <;> subst hs <;>
    unfold Kind.ofCode <;> split_ifs <;> simp_all [Sentinel.ofKind?, Kind.code]

theorem matchesHere_iff_names {k : Kind} {s : Sentinel} (hs : Sentinel.ofKind? k = some s)
    (g : Fault) : g.matchesHere s = true ↔ g.Names k := by
  have hk : k ≠ .unknown := by
    rintro rfl
    simp [Sentinel.ofKind?] at hs
  -- the host's refusals count only as a missing file, which no kind names
  have hne : s ≠ .notExist := by
    cases k <;> simp only [Sentinel.ofKind?, reduceCtorEq, Option.some.injEq] at hs <;> subst hs <;>
      decide
  cases g with
  | sentinel s' =>
    simp only [matchesHere, Names, hs, beq_iff_eq, Option.some.injEq]
    exact eq_comm
  | decode code => simp [matchesHere, Names, ofKind?_ofCode_eq_some hs, hk]
  | op name code => simp [matchesHere, Names, ofKind?_ofCode_eq_some hs, hk]
  | system => simp [matchesHere, Names, hne]
  | refused => simp [matchesHere, Names, hne]
  | _ => simp [matchesHere, Names]

theorem is_iff_carries {k : Kind} {s : Sentinel} (hs : Sentinel.ofKind? k = some s) (f : Fault) :
    f.is s = true ↔ f.Carries k := by
  simp only [is_iff_unwraps, Carries, matchesHere_iff_names hs]

open Classical in
theorem kindOf_by_priority (e : Option Fault) :
    kindOf e =
      if ∃ f ∈ e, f.Carries .notFound then .notFound
      else if ∃ f ∈ e, f.Carries .toolMissing then .toolMissing
      else if ∃ f ∈ e, f.Carries .decodeFailure then .decodeFailure
      else .unknown := by
  cases e with
  | none => simp [kindOf]
  | some f =>
    have h₁ := is_iff_carries (k := .notFound) rfl f
    have h₂ := is_iff_carries (k := .toolMissing) rfl f
    have h₃ := is_iff_carries (k := .decodeFailure) rfl f
    simp only [kindOf, kind, Option.mem_def, Option.some.injEq, exists_eq_left', ← h₁, ← h₂, ← h₃]

example : (Fault.joined [] [.plain [], .op "open input" 0 []
    (some (.wrapped [] (.decode 2 [] [] [] (some (.sentinel .notFound)))))]).kind = .notFound := by
  decide

example : (Fault.wrapped [] (.sentinel .isDir)).kind = .unknown := by decide

theorem kind_eq_decodeFailure_iff (f : Fault) :
    f.kind = .decodeFailure ↔
      f.is .notFound = false ∧ f.is .toolMissing = false ∧ f.is .decodeFailure = true := by
  unfold kind
  split_ifs <;> simp_all

end Fault

namespace Sieve

variable {σ ω : Type}

theorem visit_of_fault {d : Decoder σ} {w : Writer ω} {p : Progress σ ω} {n : Nat} {raw : Bytes}
    {f : Fault} (hc : Candidate.test (Text.trim raw) = true) (hp : p.cancelled = false)
    (hf : (d.decode p.decoder (Text.trim raw)).1.result = .error f) :
    (visit d w p n raw).2 = (if f.is .decodeFailure then none else some f) ∧
      (visit d w p n raw).1.tally.failed =
        p.tally.failed + (if f.is .decodeFailure then 1 else 0) := by
  obtain ⟨decode⟩ := d
  rcases hdec : decode p.decoder (Text.trim raw) with ⟨⟨res, canc⟩, s⟩
  simp only [hdec] at hf
  subst hf
  by_cases hd : f.is .decodeFailure = true <;> simp [visit, hc, hp, hdec, hd]

theorem visit_absorbs_carried_decode_failure (d : Decoder σ) (w : Writer ω) (p : Progress σ ω)
    (line : Nat) (raw : Bytes) (f : Fault) (hc : Candidate.test (Text.trim raw) = true)
    (hp : p.cancelled = false) (hf : (d.decode p.decoder (Text.trim raw)).1.result = .error f) :
    ((visit d w p line raw).2 = none ↔ f.Carries .decodeFailure) ∧
      (f.Carries .decodeFailure → (visit d w p line raw).1.tally.failed = p.tally.failed + 1) ∧
      (¬f.Carries .decodeFailure → (visit d w p line raw).2 = some f) ∧
      (f.kind = .decodeFailure → (visit d w p line raw).2 = none) ∧
      (∀ g, (visit d w p line raw).2 = some g → g = f ∧ g.kind ≠ .decodeFailure) := by
  obtain ⟨hstop, hfailed⟩ := visit_of_fault (w := w) (n := line) hc hp hf
  have hcar := Fault.is_iff_carries (k := .decodeFailure) rfl f
  refine ⟨?_, fun h => ?_, fun h => ?_, fun h => ?_, fun g hg => ?_⟩
  · rw [hstop, ← hcar]
    cases f.is .decodeFailure <;> simp
  · rw [hfailed, if_pos (hcar.2 h)]
  · rw [hstop, if_neg (by simpa [hcar] using h)]
  · rw [hstop, if_pos ((Fault.kind_eq_decodeFailure_iff f).1 h).2.2]
  · -- a stop comes only from a fault the search found no decode failure in
    have hno : f.is .decodeFailure = false := by
      cases hd : f.is .decodeFailure
      · rfl
      · simp [hstop, hd] at hg
    rw [hstop, if_neg (by simp [hno])] at hg
    have hgf : g = f := (Option.some.inj hg).symm
    refine ⟨hgf, fun hk => ?_⟩
    rw [hgf] at hk
    simp [((Fault.kind_eq_decodeFailure_iff f).1 hk).2.2] at hno

theorem visit_absorbs_carried_decode_failure_on_sentinel :
    let d := Decoder.recording fun _ => { result := .error (.sentinel .decodeFailure) }
    let p : Progress (List Bytes) Sink := { decoder := [], sink := {} }
    let raw := Bytes.ofString "0000000000C2"
    let f := Fault.sentinel .decodeFailure
    Candidate.test (Text.trim raw) = true ∧ p.cancelled = false ∧
      (d.decode p.decoder (Text.trim raw)).1.result = .error f ∧
      (((visit d Sink.writer p 1 raw).2 = none ↔ f.Carries .decodeFailure) ∧
        (f.Carries .decodeFailure → (visit d Sink.writer p 1 raw).1.tally.failed = p.tally.failed + 1) ∧
        (¬f.Carries .decodeFailure → (visit d Sink.writer p 1 raw).2 = some f) ∧
        (f.kind = .decodeFailure → (visit d Sink.writer p 1 raw).2 = none) ∧
        (∀ g, (visit d Sink.writer p 1 raw).2 = some g → g = f ∧ g.kind ≠ .decodeFailure)) := by
  intro d p raw f
  have hc : Candidate.test (Text.trim raw) = true := by decide +kernel
  exact ⟨hc, rfl, rfl, visit_absorbs_carried_decode_failure d Sink.writer p 1 raw f hc rfl rfl⟩

theorem missing_tool_under_decode_failure_absorbed :
    let f := Fault.decode Kind.decodeFailure.code (Bytes.ofString "table")
      (Bytes.ofString "0000000000C2") [] (some (.sentinel .toolMissing))
    let v := visit (Decoder.recording fun _ => { result := .error f }) Sink.writer
      { decoder := [], sink := {} } 1 (Bytes.ofString "0000000000C2")
    f.kind = .toolMissing ∧ v.2.isNone = true ∧ v.1.tally.failed = 1 := by
  decide +kernel

end Sieve

end SymbolSieve
