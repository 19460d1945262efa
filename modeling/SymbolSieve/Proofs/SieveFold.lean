import SymbolSieve.Proofs.LineSplit
import SymbolSieve.Sieve

namespace SymbolSieve

structure Sieve.Effects (σ ω : Type) where
  tally : Tally
  decoder : σ
  sink : ω

def Progress.effects {σ ω : Type} (p : Progress σ ω) : Sieve.Effects σ ω :=
  ⟨p.tally, p.decoder, p.sink⟩

namespace Sieve

variable {σ ω : Type}

inductive Verdict where
  | write (text : Bytes)
  | absorb
  | stop (fault : Fault)

def Verdict.ofResult : Except Fault Bytes → Verdict
  | .ok s => if Text.trim s = [] then .absorb else .write (Text.trim s)
  | .error e => if e.is .decodeFailure then .absorb else .stop e

def expectLine (d : Decoder σ) (w : Writer ω) (e : Effects σ ω) (l : Bytes) :
    Effects σ ω × Option Fault :=
  let t := { e.tally with lines := e.tally.lines + 1 }
  let sym := Text.trim l
  if Candidate.test sym then
    let t := { t with matched := t.matched + 1 }
    let (r, s) := d.decode e.decoder sym
    match Verdict.ofResult r.result with
    | .write x => (⟨{ t with decoded := t.decoded + 1 }, s, (w.write e.sink (Record.render ⟨sym, x⟩)).2⟩, none)
    | .absorb => (⟨{ t with failed := t.failed + 1 }, s, e.sink⟩, none)
    | .stop f => (⟨t, s, e.sink⟩, some f)
  else (⟨t, e.decoder, e.sink⟩, none)

def expect (d : Decoder σ) (w : Writer ω) (ending : Ending) :
    Effects σ ω → List Bytes → Effects σ ω × Option Fault
  | e, [] => (e, ending.failure?.map fun m =>
      .wrapped (Bytes.ofString "filter: read input: ") (.plain (Bytes.ofString m)))
  | e, l :: ls =>
    match expectLine d w e l with
    | (e', none) => expect d w ending e' ls
    | (e', some f) => (e', some f)

theorem emptyReply_is (symbol : Bytes) : (emptyReply symbol).is .decodeFailure = true := by
  simp [emptyReply, Fault.is, Fault.matchesHere, Kind.ofCode, Sentinel.ofKind?]

theorem run_of_line {d : Decoder σ} {w : Writer ω} {c : LineCursor} {raw : Bytes}
    (h : c.next.1 = .line raw) (p : Progress σ ω) :
    run d w c p =
      match visit d w p c.next.2.count raw with
      | (p', none) => run d w c.next.2 p'
      | (p', some f) => (p', c.next.2, some f) := by
  rw [run]
  split
  · rename_i raw' hraw
    obtain rfl : raw' = raw := by simpa [h] using hraw.symm
    rfl
  · simp_all
  · simp_all

theorem run_of_finished {d : Decoder σ} {w : Writer ω} {c : LineCursor}
    (h : c.next.1 = .finished) (p : Progress σ ω) : run d w c p = (p, c.next.2, none) := by
  rw [run]
  split <;> simp_all

theorem run_of_failed {d : Decoder σ} {w : Writer ω} {c : LineCursor} {m : String}
    (h : c.next.1 = .failed m) (p : Progress σ ω) :
    run d w c p = (p, c.next.2, some (readFailure m)) := by
  rw [run]
  split <;> simp_all

section Accepting

variable {d : Decoder σ} {w : Writer ω}
  (hd : ∀ s sym, (d.decode s sym).1.cancels = false) (hw : ∀ o bs, (w.write o bs).1 = none)
include hd hw

theorem expectLine_eq_visit (p : Progress σ ω) (hp : p.cancelled = false) (line : Nat) (raw : Bytes) :
    expectLine d w p.effects raw = ((visit d w p line raw).1.effects, (visit d w p line raw).2) ∧
      (visit d w p line raw).1.cancelled = false := by
  unfold visit expectLine
  by_cases hm : Candidate.test (Text.trim raw) = true
  · rcases hdec : d.decode p.decoder (Text.trim raw) with ⟨⟨res, canc⟩, s⟩
    have hc : canc = false := by simpa [hdec] using hd p.decoder (Text.trim raw)
    subst hc
    cases res with
    | ok text =>
      by_cases ht : Text.trim text = []
      · simp [hm, hp, hdec, ht, Verdict.ofResult, emptyReply_is, Progress.effects]
      · rcases hwrite : w.write p.sink (Record.render ⟨Text.trim raw, Text.trim text⟩) with ⟨f, o⟩
        have hf : f = none := by simpa [hwrite] using hw p.sink (Record.render ⟨Text.trim raw, Text.trim text⟩)
        subst hf
        simp [hm, hp, hdec, ht, Verdict.ofResult, hwrite, Progress.effects]
    | error f =>
      by_cases hf : f.is .decodeFailure = true
      · simp [hm, hp, hdec, hf, Verdict.ofResult, Progress.effects]
      · simp [hm, hp, hdec, hf, Verdict.ofResult, Progress.effects]
  · simp [hm, hp, Progress.effects]

theorem run_eq_expect (c : LineCursor) (hc : c.error? = none) (p : Progress σ ω)
    (hp : p.cancelled = false) :
    (run d w c p).1.effects = (expect d w c.ending p.effects c.drain.1).1 ∧
      (run d w c p).2.2 = (expect d w c.ending p.effects c.drain.1).2 := by
  generalize hL : c.drain.1 = L
  induction L generalizing c p with
  | nil =>
    -- no line is left: the request reports the end or the read failure
    cases hn : c.next.1 with
    | line raw =>
      rw [LineCursor.drain_of_line hn] at hL
      cases hL
    | finished =>
      rw [run_of_finished hn, LineCursor.ending_of_next_finished hc hn]
      exact ⟨rfl, rfl⟩
    | failed m =>
      rw [run_of_failed hn, LineCursor.ending_of_next_failed hn]
      exact ⟨rfl, rfl⟩
  | cons raw ls ih =>
    cases hn : c.next.1 with
    | line raw' =>
      rw [LineCursor.drain_of_line hn] at hL
      obtain ⟨rfl, hL'⟩ := List.cons.inj hL
      obtain ⟨hstep, hcan⟩ := expectLine_eq_visit hd hw p hp c.next.2.count raw'
      rw [run_of_line hn]
      simp only [expect, hstep]
      rcases hv : visit d w p c.next.2.count raw' with ⟨p', _ | f⟩
      · rw [hv] at hcan
        have := ih c.next.2 (LineCursor.error?_next_of_line hn) p' hcan hL'
        rwa [LineCursor.next_ending] at this
      · exact ⟨rfl, rfl⟩
    | finished =>
      rw [LineCursor.drain_of_not_line (by simp [hn])] at hL
      cases hL
    | failed m =>
      rw [LineCursor.drain_of_not_line (by simp [hn])] at hL
      cases hL

end Accepting

theorem run_is_fold_over_lines (src : Source) (d : Decoder σ) (w : Writer ω) (s0 : σ) (o0 : ω)
    (hd : ∀ s sym, (d.decode s sym).1.cancels = false) (hw : ∀ o bs, (w.write o bs).1 = none) :
    (run d w (LineCursor.ofSource src) { decoder := s0, sink := o0 }).1.effects =
        (expect d w src.ending ⟨{}, s0, o0⟩ (LineCursor.ofSource src).drain.1).1 ∧
      (run d w (LineCursor.ofSource src) { decoder := s0, sink := o0 }).2.2 =
        (expect d w src.ending ⟨{}, s0, o0⟩ (LineCursor.ofSource src).drain.1).2 :=
  run_eq_expect hd hw _ rfl _ rfl

theorem run_is_fold_over_lines_failing_read :
    (∀ s sym, ((Decoder.recording fun sym => { result := .ok sym }).decode s sym).1.cancels =
        false) ∧
      (∀ o bs, ((⟨fun o bs => (none, o ++ bs)⟩ : Writer Bytes).write o bs).1 = none) ∧
      ((run (Decoder.recording fun sym => { result := .ok sym }) ⟨fun o bs => (none, o ++ bs)⟩
          (LineCursor.ofSource ⟨Bytes.ofString "0000000000C2\nx", 3, .failure "boom"⟩)
          { decoder := [], sink := [] }).1.effects =
        (expect (Decoder.recording fun sym => { result := .ok sym }) ⟨fun o bs => (none, o ++ bs)⟩
          (.failure "boom") ⟨{}, [], []⟩
          (LineCursor.ofSource ⟨Bytes.ofString "0000000000C2\nx", 3, .failure "boom"⟩).drain.1).1 ∧
      (run (Decoder.recording fun sym => { result := .ok sym }) ⟨fun o bs => (none, o ++ bs)⟩
          (LineCursor.ofSource ⟨Bytes.ofString "0000000000C2\nx", 3, .failure "boom"⟩)
          { decoder := [], sink := [] }).2.2 =
        (expect (Decoder.recording fun sym => { result := .ok sym }) ⟨fun o bs => (none, o ++ bs)⟩
          (.failure "boom") ⟨{}, [], []⟩
          (LineCursor.ofSource ⟨Bytes.ofString "0000000000C2\nx", 3, .failure "boom"⟩).drain.1).2) :=
  have hd : ∀ s sym, ((Decoder.recording fun sym => { result := .ok sym }).decode s sym).1.cancels =
      false := fun _ _ => rfl
  have hw : ∀ o bs, ((⟨fun o bs => (none, o ++ bs)⟩ : Writer Bytes).write o bs).1 = none :=
    fun _ _ => rfl
  ⟨hd, hw, run_is_fold_over_lines _ _ _ [] [] hd hw⟩

end Sieve

end SymbolSieve
