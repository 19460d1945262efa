import Mathlib
import SymbolSieve.Proofs.MissingTool
import SymbolSieve.Proofs.Utf8RoundTrip

namespace SymbolSieve

namespace Host

theorem command_error_kind {fs : Files} {name : Bytes} {args : List Bytes} {f : Fault}
    (h : command fs name args = .error f) : f.kind = .unknown := by
  have h₁ := command_error_is h (s := .notFound) (by decide)
  have h₂ := command_error_is h (s := .toolMissing) (by decide)
  have h₃ := command_error_is h (s := .decodeFailure) (by decide)
  simp [Fault.kind, h₁, h₂, h₃]

end Host

namespace Tool

variable (t : Tool) (fs : Files) (symbol : Bytes)

theorem decode_cancelled : t.decode fs true symbol = (.error (.sentinel .canceled), fs) := rfl

theorem decode_of_start_error {f : Fault} (h : Host.command fs t.name (t.args ++ [symbol]) = .error f) :
    t.decode fs false symbol =
      (.error (if isMissing f then .decode Kind.toolMissing.code t.name [] [] (some f) else f), fs) := by
  simp only [decode, run, h, Bool.false_eq_true, if_false]
  split <;> rfl

theorem decode_of_ran {o : Host.Outcome} (h : Host.command fs t.name (t.args ++ [symbol]) = .ok o) :
    t.decode fs false symbol =
      (if o.ending = .exited 0 then
        if Text.trim o.stdout = [] then .error (.decode Kind.decodeFailure.code t.name symbol [] none)
        else .ok (Text.trim o.stdout)
      else .error (.decode Kind.decodeFailure.code t.name symbol (Text.trim o.stderr)
        (some (.ended o.ending))), o.files) := by
  simp only [decode, run, h, Bool.false_eq_true, if_false]
  split
  · next he =>
    by_cases hs : Text.trim o.stdout = [] <;> simp [he, hs]
  · next hn => rw [if_neg hn]

theorem decodeFailure_kind (name symbol stderr : Bytes) {cause : Option Fault}
    (hc : ∀ f ∈ cause, ∀ s, f.is s = false) :
    (Fault.decode Kind.decodeFailure.code name symbol stderr cause).kind = .decodeFailure := by
  rcases cause with _ | f
  · simp [Fault.kind, Fault.is, Fault.matchesHere, Kind.code, Kind.ofCode, Sentinel.ofKind?]
  · have hf := hc f rfl
    simp [Fault.kind, Fault.is, Fault.matchesHere, Kind.code, Kind.ofCode, Sentinel.ofKind?, hf]

theorem decode_eq_ok {c : Bool} {s : Bytes} {fs' : Files} (h : t.decode fs c symbol = (.ok s, fs')) :
    ∃ o, Host.command fs t.name (t.args ++ [symbol]) = .ok o ∧ o.ending = .exited 0 ∧
      s = Text.trim o.stdout ∧ s ≠ [] := by
  cases c with
  | true => cases h
  | false =>
    rcases hr : Host.command fs t.name (t.args ++ [symbol]) with f | o
    · rw [decode_of_start_error t fs symbol hr] at h
      cases h
    · rw [decode_of_ran t fs symbol hr] at h
      split_ifs at h with he hs
      · cases h
      · cases h
        exact ⟨o, rfl, he, rfl, hs⟩
      · cases h

theorem decode_by_outcome (t : Tool) (fs : Files) (symbol : Bytes) :
    let run := Host.command fs t.name (t.args ++ [symbol])
    (t.decode fs true symbol = (.error (.sentinel .canceled), fs) ∧
      (Fault.sentinel .canceled).kind = .unknown) ∧
    (∀ f, run = .error f →
      (isMissing f = true →
        t.decode fs false symbol = (.error (.decode Kind.toolMissing.code t.name [] [] (some f)), fs) ∧
        (Fault.decode Kind.toolMissing.code t.name [] [] (some f)).kind = .toolMissing) ∧
      (isMissing f = false → t.decode fs false symbol = (.error f, fs) ∧ f.kind = .unknown)) ∧
    (∀ o, run = .ok o →
      (o.ending ≠ .exited 0 →
        t.decode fs false symbol = (.error (.decode Kind.decodeFailure.code t.name symbol
          (Text.trim o.stderr) (some (.ended o.ending))), o.files)) ∧
      (o.ending = .exited 0 → Text.trim o.stdout = [] →
        t.decode fs false symbol =
          (.error (.decode Kind.decodeFailure.code t.name symbol [] none), o.files)) ∧
      (o.ending = .exited 0 → Text.trim o.stdout ≠ [] →
        t.decode fs false symbol = (.ok (Text.trim o.stdout), o.files)) ∧
      ∀ e fs', t.decode fs false symbol = (.error e, fs') → e.kind = .decodeFailure) ∧
    ∀ c s fs', t.decode fs c symbol = (.ok s, fs') → s ≠ [] ∧ Text.trim s = s := by
  intro run
  refine ⟨⟨decode_cancelled t fs symbol, rfl⟩, ?_, ?_, ?_⟩
  · intro f hf
    have hk := Host.command_error_kind hf
    refine ⟨fun hm => ?_, fun hm => ?_⟩
    · refine ⟨by simp [decode_of_start_error t fs symbol hf, hm], ?_⟩
      exact (missing_kind t.name fun s hs => Host.command_error_is hf hs).1
    · exact ⟨by simp [decode_of_start_error t fs symbol hf, hm], hk⟩
  · intro o ho
    have hd := decode_of_ran t fs symbol ho
    refine ⟨fun he => by simp [hd, he], fun he hs => by simp [hd, he, hs],
      fun he hs => by simp [hd, he, hs], fun e fs' h => ?_⟩
    -- both faults of a run are decode failures around how it ended, or around nothing
    rw [hd] at h
    split_ifs at h <;> cases h <;> apply decodeFailure_kind <;> simp [Fault.is, Fault.matchesHere]
  · intro c s fs' h
    obtain ⟨o, -, -, rfl, hs⟩ := decode_eq_ok t fs symbol h
    exact ⟨hs, Text.trim_trim o.stdout⟩

end Tool

end SymbolSieve
