import Mathlib
import SymbolSieve.Proofs.SieveRuns

namespace SymbolSieve

namespace Sink

def cap (s : Sink) (n : Nat) : Sink := { held := s.held, room := some (n - s.held.length) }

theorem held_prefix_write (s : Sink) (bs : Bytes) : s.held <+: (write s bs).2.held := by
  unfold write
  split
  · exact List.prefix_append _ _
  · split
    · exact List.prefix_append _ _
    · exact List.prefix_append _ _

theorem write_cap_of_fits {s : Sink} {n : Nat} {bs : Bytes} (hs : s.room = none)
    (h : s.held.length + bs.length ≤ n) : write (s.cap n) bs = (none, (write s bs).2.cap n) := by
  have hfit : bs.length ≤ n - s.held.length := by omega
  simp [write, cap, hs, hfit]
  omega

theorem write_cap_of_overflows {s : Sink} {n : Nat} {bs : Bytes} (hn : s.held.length ≤ n)
    (h : n < s.held.length + bs.length) :
    write (s.cap n) bs = (some full, ⟨(s.held ++ bs).take n, some 0⟩) := by
  have hover : ¬bs.length ≤ n - s.held.length := by omega
  simp [write, cap, hover, List.take_append, List.take_of_length_le hn]

end Sink

namespace Sieve

variable {σ : Type}

structure Holds (p : Progress σ Sink) : Prop where
  unlimited : p.sink.room = none
  held : p.sink.held = (p.records.map Record.render).flatten
  decoded : p.tally.decoded = p.records.length

theorem Holds.start (s : σ) (cancelled : Bool) :
    Holds ({ decoder := s, sink := {}, cancelled } : Progress σ Sink) :=
  ⟨rfl, rfl, rfl⟩

theorem visit_holds (d : Decoder σ) {p : Progress σ Sink} (h : Holds p) (line : Nat) (l : Bytes) :
    Holds (visit d Sink.writer p line l).1 := by
  obtain ⟨hs, hdec, hrec, -, -, -⟩ := examine_spec d p line l
  rw [visit_eq_act]
  rcases he : examine d p line l with ⟨e, _ | f | r⟩ <;> rw [he] at hs hdec hrec <;>
    dsimp only [act] at hs hdec hrec ⊢
  · exact ⟨hs ▸ h.unlimited, by rw [hs, hrec, h.held], by rw [hdec, hrec, h.decoded]⟩
  · exact ⟨hs ▸ h.unlimited, by rw [hs, hrec, h.held], by rw [hdec, hrec, h.decoded]⟩
  · -- the record is written whole and noted
    have hw : Sink.writer.write e.sink r.render = (none, ⟨p.sink.held ++ r.render, none⟩) := by
      rw [hs]
      exact Sink.write_of_unlimited h.unlimited _
    refine ⟨?_, ?_, ?_⟩
    · simp [commit_of_accepted hw]
    · rw [records_commit_of_accepted hw, commit_of_accepted hw, hrec]
      simp [h.held]
    · rw [records_commit_of_accepted hw, commit_of_accepted hw, hrec]
      simp [hdec, h.decoded]

theorem visitAll_holds (d : Decoder σ) (ls : List Bytes) {p : Progress σ Sink} (h : Holds p) :
    Holds (visitAll d Sink.writer p ls).1 := by
  induction ls generalizing p with
  | nil => exact h
  | cons l ls ih =>
    rcases hv : visit d Sink.writer p (p.tally.lines + 1) l with ⟨p', _ | f⟩
    · have h' := visit_holds d h (p.tally.lines + 1) l
      rw [hv] at h'
      rw [visitAll_cons_of_none hv]
      exact ih h'
    · have h' := visit_holds d h (p.tally.lines + 1) l
      rw [hv] at h'
      rw [visitAll_cons_of_some hv]
      exact h'

structure Grows (p q : Progress (List Bytes) Sink) : Prop where
  notes : p.notes <+: q.notes
  decoder : p.decoder <+: q.decoder
  held : p.sink.held <+: q.sink.held

theorem Grows.refl (p : Progress (List Bytes) Sink) : Grows p p :=
  ⟨List.prefix_refl _, List.prefix_refl _, List.prefix_refl _⟩

theorem Grows.trans {p q u : Progress (List Bytes) Sink} (h₁ : Grows p q) (h₂ : Grows q u) :
    Grows p u :=
  ⟨h₁.notes.trans h₂.notes, h₁.decoder.trans h₂.decoder, h₁.held.trans h₂.held⟩

theorem Grows.records {p q : Progress (List Bytes) Sink} (h : Grows p q) : p.records <+: q.records :=
  h.notes.filterMap _

theorem visit_grows (answer : List Bytes → Bytes → Reply) (p : Progress (List Bytes) Sink)
    (line : Nat) (l : Bytes) : Grows p (visit (Decoder.ofHistory answer) Sink.writer p line l).1 := by
  obtain ⟨hs, -, -, hnotes, hdec, -⟩ := examine_spec (Decoder.ofHistory answer) p line l
  have hask : p.decoder <+: (examine (Decoder.ofHistory answer) p line l).1.decoder := by
    rcases hdec with h | h
    · rw [h]
    · rw [h]
      exact List.prefix_append _ _
  rw [visit_eq_act]
  rcases he : examine (Decoder.ofHistory answer) p line l with ⟨e, _ | f | r⟩ <;>
    rw [he] at hs hnotes hask <;> dsimp only [act] at hs hnotes hask ⊢
  · exact ⟨hnotes, hask, hs ▸ List.prefix_refl _⟩
  · exact ⟨hnotes, hask, hs ▸ List.prefix_refl _⟩
  · have ho := Sink.held_prefix_write e.sink r.render
    rcases hw : Sink.write e.sink r.render with ⟨_ | f, o⟩ <;> rw [hw] at ho
    · rw [commit_of_accepted (w := Sink.writer) hw]
      exact ⟨hnotes.trans (List.prefix_append _ _), hask, hs ▸ ho⟩
    · rw [commit_of_refused (w := Sink.writer) hw]
      exact ⟨hnotes, hask, hs ▸ ho⟩

theorem visitAll_grows (answer : List Bytes → Bytes → Reply) (ls : List Bytes)
    (p : Progress (List Bytes) Sink) :
    Grows p (visitAll (Decoder.ofHistory answer) Sink.writer p ls).1 := by
  induction ls generalizing p with
  | nil => exact Grows.refl p
  | cons l ls ih =>
    rcases hv : visit (Decoder.ofHistory answer) Sink.writer p (p.tally.lines + 1) l with ⟨p', _ | f⟩
    · have h := visit_grows answer p (p.tally.lines + 1) l
      rw [hv] at h
      rw [visitAll_cons_of_none hv]
      exact h.trans (ih p')
    · have h := visit_grows answer p (p.tally.lines + 1) l
      rw [hv] at h
      rw [visitAll_cons_of_some hv]
      exact h

section Limit

variable (n : Nat)

def Capped (o₁ o₂ : Sink) : Prop := o₁.room = none ∧ o₂ = o₁.cap n

theorem capped_write (o₁ o₂ : Sink) (bs : Bytes) (h : Capped n o₁ o₂)
    (hfit : (Sink.writer.write o₁ bs).2.held.length ≤ n) :
    (Sink.writer.write o₁ bs).1 = (Sink.writer.write o₂ bs).1 ∧
      Capped n (Sink.writer.write o₁ bs).2 (Sink.writer.write o₂ bs).2 := by
  obtain ⟨hr, rfl⟩ := h
  have hw : Sink.writer.write o₁ bs = (none, ⟨o₁.held ++ bs, none⟩) := Sink.write_of_unlimited hr bs
  rw [hw] at hfit ⊢
  have hfit' : o₁.held.length + bs.length ≤ n := by simpa using hfit
  have hw₂ := Sink.write_cap_of_fits hr hfit'
  rw [show Sink.writer.write (o₁.cap n) bs = Sink.write (o₁.cap n) bs from rfl, hw₂,
    show Sink.write o₁ bs = Sink.writer.write o₁ bs from rfl, hw]
  exact ⟨rfl, rfl, rfl⟩

theorem held_backward (o : Sink) (bs : Bytes)
    (h : (Sink.writer.write o bs).2.held.length ≤ n) : o.held.length ≤ n :=
  le_trans (Sink.held_prefix_write o bs).length_le h

theorem visitAll_overflow (d : Decoder σ) (ls : List Bytes) (p : Progress σ Sink)
    (hp : p.sink.room = none) (hn : p.sink.held.length ≤ n)
    (hover : n < (visitAll d Sink.writer p ls).1.sink.held.length) :
    ∃ ls₁ l ls₂ q e r, ls = ls₁ ++ l :: ls₂ ∧ visitAll d Sink.writer p ls₁ = (q, none) ∧
      q.sink.held.length ≤ n ∧ q.sink.room = none ∧ examine d q (q.tally.lines + 1) l = (e, .write r) ∧
      n < q.sink.held.length + r.render.length ∧
      visitAll d Sink.writer (p.withSink (p.sink.cap n)) ls =
        ({ e with sink := ⟨(q.sink.held ++ r.render).take n, some 0⟩ },
          some (.wrapped (Bytes.ofString "filter: write record: ") Sink.full)) := by
  induction ls generalizing p with
  | nil => exact absurd hover (Nat.not_lt.2 hn)
  | cons l ls ih =>
    by_cases hfit : (visit d Sink.writer p (p.tally.lines + 1) l).1.sink.held.length ≤ n
    · -- the line's record, if any, fits: both runs take the line alike
      obtain ⟨o₂, hstep, hR⟩ :=
        visit_lockstep (Capped n) (fun o => o.held.length ≤ n) (capped_write n) d p
          (show Capped n p.sink (p.sink.cap n) from ⟨hp, rfl⟩) _ l hfit
      rcases hv : visit d Sink.writer p (p.tally.lines + 1) l with ⟨p', _ | f⟩ <;> rw [hv] at hstep hR hfit
      · rw [visitAll_cons_of_none hv] at hover
        obtain ⟨ls₁, l', ls₂, q, e, r, rfl, h₁, h₂, h₃, h₄, h₅, h₆⟩ := ih p' hR.1 hfit hover
        refine ⟨l :: ls₁, l', ls₂, q, e, r, rfl, ?_, h₂, h₃, h₄, h₅, ?_⟩
        · rw [visitAll_cons_of_none hv, h₁]
        · rw [visitAll_cons_of_none hstep, hR.2, h₆]
      · rw [visitAll_cons_of_some hv] at hover
        exact absurd hover (Nat.not_lt.2 hfit)
    · -- this line writes the record that crosses byte `n`
      obtain ⟨hs, -, -, -, -, -⟩ := examine_spec d p (p.tally.lines + 1) l
      rw [visit_eq_act] at hfit
      rcases he : examine d p (p.tally.lines + 1) l with ⟨e, _ | f | r⟩ <;> rw [he] at hs hfit <;>
        dsimp only at hs hfit
      · exact absurd (hs ▸ hn) hfit
      · exact absurd (hs ▸ hn) hfit
      · have hw : Sink.writer.write e.sink r.render = (none, ⟨p.sink.held ++ r.render, none⟩) := by
          rw [hs]
          exact Sink.write_of_unlimited hp _
        have hover' : n < p.sink.held.length + r.render.length := by
          simp only [act, commit_of_accepted hw] at hfit
          simpa using hfit
        have hw₂ : Sink.writer.write (e.withSink (p.sink.cap n)).sink r.render =
            (some Sink.full, ⟨(p.sink.held ++ r.render).take n, some 0⟩) :=
          Sink.write_cap_of_overflows hn hover'
        have hlim : visit d Sink.writer (p.withSink (p.sink.cap n)) (p.tally.lines + 1) l =
            ({ e with sink := ⟨(p.sink.held ++ r.render).take n, some 0⟩ },
              some (.wrapped (Bytes.ofString "filter: write record: ") Sink.full)) := by
          rw [visit_eq_act, examine_withSink, he, act, commit_of_refused hw₂]
          rfl
        exact ⟨[], l, ls, p, e, r, rfl, rfl, hn, hp, he, hover', visitAll_cons_of_some hlim ls⟩

theorem visitAll_cut (answer : List Bytes → Bytes → Reply) (cancelled : Bool) (ls : List Bytes)
    (hover : n < (visitAll (Decoder.ofHistory answer) Sink.writer
      { decoder := [], sink := {}, cancelled } ls).1.sink.held.length) :
    ∃ ls₁ l ls₂ q₁ q₂ r, ls = ls₁ ++ l :: ls₂ ∧
      visitAll (Decoder.ofHistory answer) Sink.writer { decoder := [], sink := {}, cancelled } ls₁ =
        (q₁, none) ∧
      visitAll (Decoder.ofHistory answer) Sink.writer { decoder := [], sink := {}, cancelled }
        (ls₁ ++ [l]) = (q₂, none) ∧
      q₂.records = q₁.records ++ [r] ∧ q₂.decoder = q₁.decoder ++ [r.symbol] ∧
      q₁.sink.held.length ≤ n ∧ n < q₂.sink.held.length ∧
      visitAll (Decoder.ofHistory answer) Sink.writer
          { decoder := [], sink := Sink.withLimit (some n), cancelled } ls =
        ({ q₂ with sink := ⟨q₂.sink.held.take n, some 0⟩,
                   tally := { q₂.tally with decoded := q₁.tally.decoded }, notes := q₁.notes },
          some (.wrapped (Bytes.ofString "filter: write record: ") Sink.full)) := by
  set d := Decoder.ofHistory answer
  set p : Progress (List Bytes) Sink := { decoder := [], sink := {}, cancelled }
  have hstart : ({ decoder := [], sink := Sink.withLimit (some n), cancelled } :
      Progress (List Bytes) Sink) = p.withSink (p.sink.cap n) := rfl
  obtain ⟨ls₁, l, ls₂, q, e, r, rfl, hq, hqn, hqroom, he, hcross, hlim⟩ :=
    visitAll_overflow n d ls p rfl (Nat.zero_le n) hover
  obtain ⟨hs, hdec, hrec, -, -, hwr⟩ := examine_spec d q (q.tally.lines + 1) l
  have hnotes := examine_notes_of_write (show (examine d q (q.tally.lines + 1) l).2 = .write r by rw [he])
  rw [he] at hs hdec hrec hwr hnotes
  dsimp only at hs hdec hrec hwr hnotes
  obtain ⟨hsym, hask⟩ := hwr r rfl
  have hw : Sink.writer.write e.sink r.render = (none, ⟨q.sink.held ++ r.render, none⟩) := by
    rw [hs]
    exact Sink.write_of_unlimited hqroom _
  set q₂ := (commit Sink.writer e (q.tally.lines + 1) r).1 with hq₂def
  have hq₂ : q₂ = { e with sink := ⟨q.sink.held ++ r.render, none⟩,
                           tally := { e.tally with decoded := e.tally.decoded + 1 },
                           notes := e.notes ++ [.decoded (q.tally.lines + 1) r.symbol r.decoded] } := by
    rw [hq₂def, commit_of_accepted hw]
  have hv : visit d Sink.writer q (q.tally.lines + 1) l = (q₂, none) := by
    rw [visit_eq_act, he, act, commit_of_accepted hw, hq₂]
  refine ⟨ls₁, l, ls₂, q, q₂, r, rfl, hq, ?_, ?_, ?_, hqn, ?_, ?_⟩
  · rw [visitAll_append, hq]
    exact visitAll_cons_of_none hv []
  · rw [hq₂def, records_commit_of_accepted hw, hrec]
  · rw [hq₂, hsym]
    exact hask
  · rw [hq₂]
    simpa using hcross
  · rw [hstart, hlim, hq₂, ← hdec, ← hnotes]

end Limit

end Sieve

theorem limited_sink_cuts_output (src : Source) (answer : List Bytes → Bytes → Reply)
    (cancelled : Bool) (n : Nat) :
    let U := Sieve.run (Decoder.ofHistory answer) Sink.writer (LineCursor.ofSource src)
      { decoder := [], sink := {}, cancelled }
    let L := Sieve.run (Decoder.ofHistory answer) Sink.writer (LineCursor.ofSource src)
      { decoder := [], sink := Sink.withLimit (some n), cancelled }
    (U.1.sink.held.length ≤ n → L.1 = U.1.withSink (U.1.sink.cap n) ∧ L.2.2 = U.2.2) ∧
    (n < U.1.sink.held.length →
      L.1.sink.held = U.1.sink.held.take n ∧
      L.2.2 = some (.wrapped (Bytes.ofString "filter: write record: ") Sink.full) ∧
      Fault.kindOf L.2.2 = .unknown ∧
      ∃ k, ∃ hk : k < U.1.records.length,
        ((U.1.records.take k).map Record.render).flatten.length ≤ n ∧
        n < ((U.1.records.take (k + 1)).map Record.render).flatten.length ∧
        L.1.tally.decoded = k ∧
        L.1.decoder <+: U.1.decoder ∧ L.1.decoder.getLast? = some U.1.records[k].symbol ∧
        ∃ ls₁ l ls₂ q, (LineCursor.ofSource src).drain.1 = ls₁ ++ l :: ls₂ ∧
          Sieve.visitAll (Decoder.ofHistory answer) Sink.writer
            { decoder := [], sink := {}, cancelled } (ls₁ ++ [l]) = (q, none) ∧
          q.records = U.1.records.take (k + 1) ∧
          L.1.tally = { q.tally with decoded := k } ∧ L.1.decoder = q.decoder) := by
  intro U L
  refine ⟨fun hfit => ?_, fun hover => ?_⟩
  · -- every write fits: the two runs go in lockstep to the end
    obtain ⟨o₂, hrun, hrunf, hR⟩ := Sieve.run_lockstep (Sieve.Capped n) (fun o => o.held.length ≤ n)
      (Sieve.capped_write n) (Sieve.held_backward n) (Decoder.ofHistory answer)
      (c := LineCursor.ofSource src) rfl { decoder := [], sink := {}, cancelled } rfl
      (show Sieve.Capped n ({} : Sink) (Sink.withLimit (some n)) from ⟨rfl, rfl⟩) hfit
    rw [hR.2] at hrun
    exact ⟨hrun, hrunf⟩
  · obtain ⟨hU, -⟩ := Sieve.run_eq_visitAll (Decoder.ofHistory answer) Sink.writer
      (c := LineCursor.ofSource src) rfl { decoder := [], sink := {}, cancelled } rfl
    obtain ⟨hL, hLf⟩ := Sieve.run_eq_visitAll (Decoder.ofHistory answer) Sink.writer
      (c := LineCursor.ofSource src) rfl { decoder := [], sink := Sink.withLimit (some n), cancelled }
      rfl
    rw [hU] at hover
    obtain ⟨ls₁, l, ls₂, q₁, q₂, r, hsplit, hq₁, hq₂, hrec, hask, hq₁n, hq₂n, hlim⟩ :=
      Sieve.visitAll_cut n answer cancelled _ hover
    rw [hlim] at hL hLf
    have hHolds₁ := Sieve.visitAll_holds (Decoder.ofHistory answer) ls₁ (Sieve.Holds.start [] cancelled)
    have hHolds₂ :=
      Sieve.visitAll_holds (Decoder.ofHistory answer) (ls₁ ++ [l]) (Sieve.Holds.start [] cancelled)
    rw [hq₁] at hHolds₁
    rw [hq₂] at hHolds₂
    -- the rest of the unlimited run only adds to what it had after the record's line
    have hG : Sieve.Grows q₂ U.1 := by
      rw [hU, hsplit, ← List.singleton_append, ← List.append_assoc, Sieve.visitAll_append, hq₂]
      exact Sieve.visitAll_grows answer ls₂ q₂
    have hpre₂ : q₂.records <+: U.1.records := hG.records
    have hpre₁ : q₁.records <+: U.1.records := (hrec ▸ List.prefix_append _ _).trans hpre₂
    have hlen₂ : q₂.records.length = q₁.records.length + 1 := by simp [hrec]
    have htake₁ : U.1.records.take q₁.records.length = q₁.records :=
      (List.prefix_iff_eq_take.1 hpre₁).symm
    have htake₂ : U.1.records.take (q₁.records.length + 1) = q₂.records := by
      rw [← hlen₂]
      exact (List.prefix_iff_eq_take.1 hpre₂).symm
    have hk : q₁.records.length < U.1.records.length := by
      have := hpre₂.length_le
      omega
    have hr : U.1.records[q₁.records.length] = r := by
      rw [← hpre₂.getElem (by omega)]
      simp [hrec]
    refine ⟨?_, ?_, ?_, q₁.records.length, hk, ?_, ?_, ?_, ?_, ?_, ls₁, l, ls₂, q₂, hsplit, hq₂,
      htake₂.symm, ?_, ?_⟩
    · obtain ⟨t, ht⟩ := hG.held
      rw [hL, ← ht, List.take_append_of_le_length hq₂n.le]
    · rw [hLf]
      rfl
    · rw [hLf]
      simp [Fault.kindOf, Fault.kind, Fault.is, Fault.matchesHere, Sink.full]
    · rw [htake₁, ← hHolds₁.held]
      exact hq₁n
    · rw [htake₂, ← hHolds₂.held]
      exact hq₂n
    · rw [hL]
      exact hHolds₁.decoded
    · rw [hL]
      exact hG.decoder
    · rw [hL, hr]
      simp [hask]
    · rw [hL, hHolds₁.decoded]
    · rw [hL]

end SymbolSieve
