import Mathlib
import SymbolSieve.Proofs.SieveFold

namespace SymbolSieve

def Progress.withSink {σ ω ω' : Type} (p : Progress σ ω) (o : ω') : Progress σ ω' :=
  { tally := p.tally, decoder := p.decoder, sink := o, cancelled := p.cancelled, notes := p.notes }

def Note.record? : Note → Option Record
  | .decoded _ s t => some ⟨s, t⟩
  | .failed .. => none

namespace Progress

variable {σ ω ω' ω'' : Type}

@[simp] theorem withSink_sink (p : Progress σ ω) (o : ω') : (p.withSink o).sink = o := rfl

@[simp] theorem withSink_tally (p : Progress σ ω) (o : ω') : (p.withSink o).tally = p.tally := rfl

@[simp] theorem withSink_decoder (p : Progress σ ω) (o : ω') :
    (p.withSink o).decoder = p.decoder := rfl

@[simp] theorem withSink_notes (p : Progress σ ω) (o : ω') : (p.withSink o).notes = p.notes := rfl

@[simp] theorem withSink_cancelled (p : Progress σ ω) (o : ω') :
    (p.withSink o).cancelled = p.cancelled := rfl

@[simp] theorem withSink_withSink (p : Progress σ ω) (o : ω') (o' : ω'') :
    (p.withSink o).withSink o' = p.withSink o' := rfl

@[simp] theorem withSink_self (p : Progress σ ω) : p.withSink p.sink = p := rfl

def records (p : Progress σ ω) : List Record := p.notes.filterMap Note.record?

@[simp] theorem withSink_records (p : Progress σ ω) (o : ω') : (p.withSink o).records = p.records :=
  rfl

end Progress

namespace Sieve

variable {σ ω : Type}

inductive Decision where
  | skip
  | stop (fault : Fault)
  | write (record : Record)

def examine (d : Decoder σ) (p : Progress σ ω) (line : Nat) (raw : Bytes) : Progress σ ω × Decision :=
  let tally := { p.tally with lines := p.tally.lines + 1 }
  let symbol := Text.trim raw
  if !Candidate.test symbol then ({ p with tally }, .skip)
  else
    let tally := { tally with matched := tally.matched + 1 }
    if p.cancelled then ({ p with tally }, .stop (.sentinel .canceled))
    else
      let (reply, state) := d.decode p.decoder symbol
      let p := { p with tally, decoder := state, cancelled := reply.cancels }
      let result : Except Fault Bytes :=
        match reply.result with
        | .ok text =>
          let t := Text.trim text
          if t = [] then .error (emptyReply symbol) else .ok t
        | .error f => .error f
      match result with
      | .error f =>
        if f.is .decodeFailure then
          ({ p with tally := { p.tally with failed := p.tally.failed + 1 },
                    notes := p.notes ++ [.failed line symbol f] }, .skip)
        else (p, .stop f)
      | .ok text => (p, .write ⟨symbol, text⟩)

def commit (w : Writer ω) (p : Progress σ ω) (line : Nat) (r : Record) : Progress σ ω × Option Fault :=
  let (fault, sink) := w.write p.sink (Record.render r)
  let p := { p with sink }
  match fault with
  | some f => (p, some (.wrapped (Bytes.ofString "filter: write record: ") f))
  | none =>
    ({ p with tally := { p.tally with decoded := p.tally.decoded + 1 },
              notes := p.notes ++ [.decoded line r.symbol r.decoded] }, none)

def act (w : Writer ω) (line : Nat) : Progress σ ω × Decision → Progress σ ω × Option Fault
  | (p, .skip) => (p, none)
  | (p, .stop f) => (p, some f)
  | (p, .write r) => commit w p line r

def visitAll (d : Decoder σ) (w : Writer ω) : Progress σ ω → List Bytes → Progress σ ω × Option Fault
  | p, [] => (p, none)
  | p, l :: ls =>
    match visit d w p (p.tally.lines + 1) l with
    | (p', none) => visitAll d w p' ls
    | (p', some f) => (p', some f)

theorem visit_eq_act (d : Decoder σ) (w : Writer ω) (p : Progress σ ω) (line : Nat) (raw : Bytes) :
    visit d w p line raw = act w line (examine d p line raw) := by
  obtain ⟨decode⟩ := d
  unfold visit examine
  by_cases hm : Candidate.test (Text.trim raw) = true
  · by_cases hc : p.cancelled = true
    · simp [hm, hc, act]
    · rcases hdec : decode p.decoder (Text.trim raw) with ⟨⟨res, canc⟩, s⟩
      cases res with
      | ok text =>
        by_cases ht : Text.trim text = []
        · by_cases hf : (emptyReply (Text.trim raw)).is .decodeFailure = true <;>
            simp [hm, hc, hdec, ht, hf, act]
        · -- both sides now wait on the same write
          rcases hw : w.write p.sink (Record.render ⟨Text.trim raw, Text.trim text⟩) with ⟨_ | f, o⟩ <;>
            simp [hm, hc, hdec, ht, act, commit, hw]
      | error f => by_cases hf : f.is .decodeFailure = true <;> simp [hm, hc, hdec, hf, act]
  · simp [hm, act]

theorem examine_withSink {ω' : Type} (d : Decoder σ) (p : Progress σ ω) (o : ω') (line : Nat)
    (raw : Bytes) :
    examine d (p.withSink o) line raw = ((examine d p line raw).1.withSink o, (examine d p line raw).2) := by
  obtain ⟨decode⟩ := d
  unfold examine
  by_cases hm : Candidate.test (Text.trim raw) = true
  · by_cases hc : p.cancelled = true
    · simp [hm, hc, Progress.withSink]
    · rcases hdec : decode p.decoder (Text.trim raw) with ⟨⟨res, canc⟩, s⟩
      cases res with
      | ok text =>
        by_cases ht : Text.trim text = []
        · by_cases hf : (emptyReply (Text.trim raw)).is .decodeFailure = true <;>
            simp [hm, hc, hdec, ht, hf, Progress.withSink]
        · simp [hm, hc, hdec, ht, Progress.withSink]
      | error f =>
        by_cases hf : f.is .decodeFailure = true <;> simp [hm, hc, hdec, hf, Progress.withSink]
  · simp [hm, Progress.withSink]

theorem examine_spec (d : Decoder σ) (p : Progress σ ω) (line : Nat) (raw : Bytes) :
    (examine d p line raw).1.sink = p.sink ∧
      (examine d p line raw).1.tally.decoded = p.tally.decoded ∧
      (examine d p line raw).1.records = p.records ∧
      p.notes <+: (examine d p line raw).1.notes ∧
      ((examine d p line raw).1.decoder = p.decoder ∨
        (examine d p line raw).1.decoder = (d.decode p.decoder (Text.trim raw)).2) ∧
      ∀ r, (examine d p line raw).2 = .write r →
        r.symbol = Text.trim raw ∧
          (examine d p line raw).1.decoder = (d.decode p.decoder (Text.trim raw)).2 := by
  obtain ⟨decode⟩ := d
  unfold examine
  by_cases hm : Candidate.test (Text.trim raw) = true
  · by_cases hc : p.cancelled = true
    · simp [hm, hc, Progress.records]
    · rcases hdec : decode p.decoder (Text.trim raw) with ⟨⟨res, canc⟩, s⟩
      cases res with
      | ok text =>
        by_cases ht : Text.trim text = []
        · by_cases hf : (emptyReply (Text.trim raw)).is .decodeFailure = true <;>
            simp [hm, hc, hdec, ht, hf, Progress.records, Note.record?]
        · simp [hm, hc, hdec, ht, Progress.records]
      | error f =>
        by_cases hf : f.is .decodeFailure = true <;>
          simp [hm, hc, hdec, hf, Progress.records, Note.record?]
  · simp [hm, Progress.records]

theorem examine_notes_of_write {d : Decoder σ} {p : Progress σ ω} {line : Nat} {raw : Bytes}
    {r : Record} (h : (examine d p line raw).2 = .write r) : (examine d p line raw).1.notes = p.notes := by
  obtain ⟨decode⟩ := d
  unfold examine at h ⊢
  by_cases hm : Candidate.test (Text.trim raw) = true
  · by_cases hc : p.cancelled = true
    · simp [hm, hc] at h
    · rcases hdec : decode p.decoder (Text.trim raw) with ⟨⟨res, canc⟩, s⟩
      cases res with
      | ok text =>
        by_cases ht : Text.trim text = []
        · by_cases hf : (emptyReply (Text.trim raw)).is .decodeFailure = true <;>
            simp [hm, hc, hdec, ht, hf] at h
        · simp [hm, hc, hdec, ht]
      | error f => by_cases hf : f.is .decodeFailure = true <;> simp [hm, hc, hdec, hf] at h
  · simp [hm] at h

theorem commit_of_accepted {w : Writer ω} {p : Progress σ ω} {line : Nat} {r : Record} {o : ω}
    (h : w.write p.sink r.render = (none, o)) :
    commit w p line r =
      ({ p with sink := o, tally := { p.tally with decoded := p.tally.decoded + 1 },
                notes := p.notes ++ [.decoded line r.symbol r.decoded] }, none) := by
  simp [commit, h]

theorem commit_of_refused {w : Writer ω} {p : Progress σ ω} {line : Nat} {r : Record} {f : Fault}
    {o : ω} (h : w.write p.sink r.render = (some f, o)) :
    commit w p line r = ({ p with sink := o }, some (.wrapped (Bytes.ofString "filter: write record: ") f)) := by
  simp [commit, h]

theorem records_commit_of_accepted {w : Writer ω} {p : Progress σ ω} {line : Nat} {r : Record}
    {o : ω} (h : w.write p.sink r.render = (none, o)) :
    (commit w p line r).1.records = p.records ++ [r] := by
  simp [commit_of_accepted h, Progress.records, Note.record?]

theorem examine_sink (d : Decoder σ) (p : Progress σ ω) (line : Nat) (raw : Bytes) :
    (examine d p line raw).1.sink = p.sink := by
  have h := examine_withSink d p p.sink line raw
  rw [Progress.withSink_self] at h
  rw [h, Progress.withSink_sink]

theorem act_frame (w : Writer ω) (line : Nat) (x : Progress σ ω × Decision) :
    ∃ o n ns, (act w line x).1 =
      { x.1 with sink := o, tally := { x.1.tally with decoded := n }, notes := ns } := by
  obtain ⟨p, _ | f | r⟩ := x
  · exact ⟨p.sink, p.tally.decoded, p.notes, rfl⟩
  · exact ⟨p.sink, p.tally.decoded, p.notes, rfl⟩
  · simp only [act, commit]
    split
    · exact ⟨_, _, _, rfl⟩
    · exact ⟨_, _, _, rfl⟩

theorem act_decoder (w : Writer ω) (line : Nat) (x : Progress σ ω × Decision) :
    (act w line x).1.decoder = x.1.decoder := by
  obtain ⟨o, n, ns, h⟩ := act_frame w line x
  rw [h]

theorem act_cancelled (w : Writer ω) (line : Nat) (x : Progress σ ω × Decision) :
    (act w line x).1.cancelled = x.1.cancelled := by
  obtain ⟨o, n, ns, h⟩ := act_frame w line x
  rw [h]

theorem act_lines (w : Writer ω) (line : Nat) (x : Progress σ ω × Decision) :
    (act w line x).1.tally.lines = x.1.tally.lines := by
  obtain ⟨o, n, ns, h⟩ := act_frame w line x
  rw [h]

theorem examine_lines_decoder (d : Decoder σ) (p : Progress σ ω) (line : Nat) (raw : Bytes) :
    (examine d p line raw).1.tally.lines = p.tally.lines + 1 ∧
      (examine d p line raw).1.decoder =
        if Candidate.test (Text.trim raw) = true ∧ p.cancelled = false
        then (d.decode p.decoder (Text.trim raw)).2 else p.decoder := by
  obtain ⟨decode⟩ := d
  unfold examine
  by_cases hm : Candidate.test (Text.trim raw) = true
  · by_cases hc : p.cancelled = true
    · simp [hm, hc]
    · rcases hdec : decode p.decoder (Text.trim raw) with ⟨⟨res, canc⟩, s⟩
      cases res with
      | ok text =>
        by_cases ht : Text.trim text = []
        · by_cases hf : (emptyReply (Text.trim raw)).is .decodeFailure = true <;>
            simp [hm, hc, hdec, ht, hf]
        · simp [hm, hc, hdec, ht]
      | error f => by_cases hf : f.is .decodeFailure = true <;> simp [hm, hc, hdec, hf]
  · simp [hm]

theorem visit_decoder (d : Decoder σ) (w : Writer ω) (p : Progress σ ω) (line : Nat) (raw : Bytes) :
    (visit d w p line raw).1.decoder =
      if Candidate.test (Text.trim raw) = true ∧ p.cancelled = false
      then (d.decode p.decoder (Text.trim raw)).2 else p.decoder := by
  rw [visit_eq_act, act_decoder, (examine_lines_decoder d p line raw).2]

theorem visit_lines (d : Decoder σ) (w : Writer ω) (p : Progress σ ω) (line : Nat) (raw : Bytes) :
    (visit d w p line raw).1.tally.lines = p.tally.lines + 1 := by
  rw [visit_eq_act, act_lines, (examine_lines_decoder d p line raw).1]

theorem visitAll_nil (d : Decoder σ) (w : Writer ω) (p : Progress σ ω) :
    visitAll d w p [] = (p, none) := rfl

theorem visitAll_cons_of_none {d : Decoder σ} {w : Writer ω} {p p' : Progress σ ω} {l : Bytes}
    (h : visit d w p (p.tally.lines + 1) l = (p', none)) (ls : List Bytes) :
    visitAll d w p (l :: ls) = visitAll d w p' ls := by
  simp only [visitAll, h]

theorem visitAll_cons_of_some {d : Decoder σ} {w : Writer ω} {p p' : Progress σ ω} {l : Bytes}
    {f : Fault} (h : visit d w p (p.tally.lines + 1) l = (p', some f)) (ls : List Bytes) :
    visitAll d w p (l :: ls) = (p', some f) := by
  simp only [visitAll, h]

theorem visitAll_append (d : Decoder σ) (w : Writer ω) (p : Progress σ ω) (xs ys : List Bytes) :
    visitAll d w p (xs ++ ys) =
      match visitAll d w p xs with
      | (p', none) => visitAll d w p' ys
      | (p', some f) => (p', some f) := by
  induction xs generalizing p with
  | nil => rfl
  | cons x xs ih =>
    rcases hv : visit d w p (p.tally.lines + 1) x with ⟨p', _ | f⟩
    · rw [List.cons_append, visitAll_cons_of_none hv, visitAll_cons_of_none hv, ih]
    · rw [List.cons_append, visitAll_cons_of_some hv, visitAll_cons_of_some hv]

theorem run_eq_visitAll (d : Decoder σ) (w : Writer ω) {c : LineCursor} (hc : c.error? = none)
    (p : Progress σ ω) (hk : c.count = p.tally.lines) :
    (run d w c p).1 = (visitAll d w p c.drain.1).1 ∧
      (run d w c p).2.2 = (visitAll d w p c.drain.1).2.or (c.ending.failure?.map readFailure) := by
  generalize hL : c.drain.1 = L
  induction L generalizing c p with
  | nil =>
    -- no line is left: the request reports the end or the read failure
    cases hn : c.next.1 with
    | line raw =>
      rw [LineCursor.drain_of_line hn] at hL
      cases hL
    | finished =>
      rw [run_of_finished hn, LineCursor.ending_of_next_finished hc hn]
      exact ⟨rfl, rfl⟩
    | failed m =>
      rw [run_of_failed hn, LineCursor.ending_of_next_failed hn]
      exact ⟨rfl, rfl⟩
  | cons raw ls ih =>
    cases hn : c.next.1 with
    | line raw' =>
      rw [LineCursor.drain_of_line hn] at hL
      obtain ⟨rfl, hL'⟩ := List.cons.inj hL
      have hk' : c.next.2.count = p.tally.lines + 1 := by rw [LineCursor.next_line_count hn, hk]
      rw [run_of_line hn, hk']
      rcases hv : visit d w p (p.tally.lines + 1) raw' with ⟨p', _ | f⟩
      · rw [visitAll_cons_of_none hv]
        have hl : p'.tally.lines = p.tally.lines + 1 := by
          rw [← visit_lines d w p (p.tally.lines + 1) raw', hv]
        have := ih (LineCursor.error?_next_of_line hn) p' (hk'.trans hl.symm) hL'
        rwa [LineCursor.next_ending] at this
      · rw [visitAll_cons_of_some hv]
        exact ⟨rfl, rfl⟩
    | finished =>
      rw [LineCursor.drain_of_not_line (by simp [hn])] at hL
      cases hL
    | failed m =>
      rw [LineCursor.drain_of_not_line (by simp [hn])] at hL
      cases hL

theorem run_congr (d : Decoder σ) (w : Writer ω) {c c' : LineCursor} (h : c.view = c'.view)
    (p : Progress σ ω) :
    (run d w c p).1 = (run d w c' p).1 ∧ (run d w c p).2.2 = (run d w c' p).2.2 := by
  fun_induction run d w c p generalizing c' with
  | case1 c p raw hn _ p' hv ih =>
    obtain ⟨h₁, h₂⟩ := LineCursor.next_congr h
    have hk : c.next.2.count = c'.next.2.count := congrArg LineCursor.View.count h₂
    rw [run_of_line (h₁ ▸ hn : c'.next.1 = .line raw), ← hk, hv]
    exact ih h₂
  | case2 c p raw hn _ p' f hv =>
    obtain ⟨h₁, h₂⟩ := LineCursor.next_congr h
    have hk : c.next.2.count = c'.next.2.count := congrArg LineCursor.View.count h₂
    rw [run_of_line (h₁ ▸ hn : c'.next.1 = .line raw), ← hk, hv]
    exact ⟨rfl, rfl⟩
  | case3 c p hn =>
    rw [run_of_finished ((LineCursor.next_congr h).1 ▸ hn : c'.next.1 = .finished)]
    exact ⟨rfl, rfl⟩
  | case4 c p m hn =>
    rw [run_of_failed ((LineCursor.next_congr h).1 ▸ hn : c'.next.1 = .failed m)]
    exact ⟨rfl, rfl⟩

theorem visit_sink_cases (d : Decoder σ) (w : Writer ω) (p : Progress σ ω) (line : Nat) (l : Bytes) :
    (visit d w p line l).1.sink = p.sink ∨
      ∃ bs, (visit d w p line l).1.sink = (w.write p.sink bs).2 := by
  rw [visit_eq_act]
  rcases he : examine d p line l with ⟨q, _ | f | r⟩
  · left
    simpa [act, he] using examine_sink d p line l
  · left
    simpa [act, he] using examine_sink d p line l
  · right
    have hq : q.sink = p.sink := by simpa [he] using examine_sink d p line l
    refine ⟨Record.render r, ?_⟩
    simp only [act, commit]
    rcases hw : w.write q.sink (Record.render r) with ⟨_ | f, o⟩ <;> simp [← hq, hw]

section Lockstep

variable {ω₁ ω₂ : Type} {w₁ : Writer ω₁} {w₂ : Writer ω₂}

theorem visitAll_sink_backward (P : ω₁ → Prop) (hP : ∀ o bs, P (w₁.write o bs).2 → P o)
    (d : Decoder σ) (p : Progress σ ω₁) (ls : List Bytes) (h : P (visitAll d w₁ p ls).1.sink) :
    P p.sink := by
  induction ls generalizing p with
  | nil => exact h
  | cons l ls ih =>
    have hv : P (visit d w₁ p (p.tally.lines + 1) l).1.sink := by
      rcases hvis : visit d w₁ p (p.tally.lines + 1) l with ⟨p', _ | f⟩
      · rw [visitAll_cons_of_none hvis] at h
        exact ih p' h
      · rwa [visitAll_cons_of_some hvis] at h
    rcases visit_sink_cases d w₁ p (p.tally.lines + 1) l with hs | ⟨bs, hs⟩
    · rwa [hs] at hv
    · exact hP _ bs (hs ▸ hv)

theorem visitAll_sink_forward (Q : ω₁ → Prop) (hQ : ∀ o bs, Q o → Q (w₁.write o bs).2)
    (d : Decoder σ) (p : Progress σ ω₁) (ls : List Bytes) (h : Q p.sink) :
    Q (visitAll d w₁ p ls).1.sink := by
  induction ls generalizing p with
  | nil => exact h
  | cons l ls ih =>
    have hv : Q (visit d w₁ p (p.tally.lines + 1) l).1.sink := by
      rcases visit_sink_cases d w₁ p (p.tally.lines + 1) l with hs | ⟨bs, hs⟩
      · rwa [hs]
      · rw [hs]
        exact hQ _ bs h
    rcases hvis : visit d w₁ p (p.tally.lines + 1) l with ⟨p', _ | f⟩ <;> rw [hvis] at hv
    · rw [visitAll_cons_of_none hvis]
      exact ih p' hv
    · rwa [visitAll_cons_of_some hvis]

variable (R : ω₁ → ω₂ → Prop) (P : ω₁ → Prop)
  (hR : ∀ o₁ o₂ bs, R o₁ o₂ → P (w₁.write o₁ bs).2 →
    (w₁.write o₁ bs).1 = (w₂.write o₂ bs).1 ∧ R (w₁.write o₁ bs).2 (w₂.write o₂ bs).2)
include hR

theorem visit_lockstep (d : Decoder σ) (p : Progress σ ω₁) {o₂ : ω₂} (h : R p.sink o₂)
    (line : Nat) (l : Bytes) (hP : P (visit d w₁ p line l).1.sink) :
    ∃ o₂', visit d w₂ (p.withSink o₂) line l =
        ((visit d w₁ p line l).1.withSink o₂', (visit d w₁ p line l).2) ∧
      R (visit d w₁ p line l).1.sink o₂' := by
  rw [visit_eq_act] at hP ⊢
  rw [visit_eq_act, examine_withSink]
  have hq : (examine d p line l).1.sink = p.sink := examine_sink d p line l
  rcases he : examine d p line l with ⟨q, _ | f | r⟩ <;> rw [he] at hq hP
  · exact ⟨o₂, rfl, hq ▸ h⟩
  · exact ⟨o₂, rfl, hq ▸ h⟩
  · -- both runs write the same record, and the writers answer alike
    simp only [act, commit] at hP ⊢
    rcases hw₁ : w₁.write q.sink (Record.render r) with ⟨f₁, o₁'⟩
    rcases hw₂ : w₂.write o₂ (Record.render r) with ⟨f₂, o₂'⟩
    have hP' : P (w₁.write q.sink (Record.render r)).2 := by
      rw [hw₁]
      cases f₁ <;> simpa [hw₁] using hP
    obtain ⟨hf, ho⟩ := hR q.sink o₂ (Record.render r) (hq ▸ h) hP'
    rw [hw₁, hw₂] at hf ho
    cases hf
    refine ⟨o₂', ?_, ?_⟩ <;> cases f₁ <;> simp_all [Progress.withSink]

theorem visitAll_lockstep (hP : ∀ o bs, P (w₁.write o bs).2 → P o) (d : Decoder σ)
    (p : Progress σ ω₁) {o₂ : ω₂} (h : R p.sink o₂) (ls : List Bytes)
    (hfin : P (visitAll d w₁ p ls).1.sink) :
    ∃ o₂', visitAll d w₂ (p.withSink o₂) ls =
        ((visitAll d w₁ p ls).1.withSink o₂', (visitAll d w₁ p ls).2) ∧
      R (visitAll d w₁ p ls).1.sink o₂' := by
  induction ls generalizing p o₂ with
  | nil => exact ⟨o₂, rfl, h⟩
  | cons l ls ih =>
    rcases hv : visit d w₁ p (p.tally.lines + 1) l with ⟨p', f⟩
    have hPv : P (visit d w₁ p (p.tally.lines + 1) l).1.sink := by
      cases f with
      | none =>
        rw [visitAll_cons_of_none hv] at hfin
        rw [hv]
        exact visitAll_sink_backward P hP d p' ls hfin
      | some f =>
        rw [visitAll_cons_of_some hv] at hfin
        rwa [hv]
    obtain ⟨o₂', hstep, hR'⟩ := visit_lockstep R P hR d p h _ l hPv
    rw [hv] at hstep hR'
    cases f with
    | none =>
      rw [visitAll_cons_of_none hv] at hfin ⊢
      rw [visitAll_cons_of_none hstep]
      exact ih p' hR' hfin
    | some f =>
      rw [visitAll_cons_of_some hv, visitAll_cons_of_some hstep]
      exact ⟨o₂', rfl, hR'⟩

theorem run_lockstep (hP : ∀ o bs, P (w₁.write o bs).2 → P o) (d : Decoder σ) {c : LineCursor}
    (hc : c.error? = none) (p : Progress σ ω₁) (hk : c.count = p.tally.lines) {o₂ : ω₂}
    (h : R p.sink o₂) (hfin : P (run d w₁ c p).1.sink) :
    ∃ o₂', (run d w₂ c (p.withSink o₂)).1 = (run d w₁ c p).1.withSink o₂' ∧
      (run d w₂ c (p.withSink o₂)).2.2 = (run d w₁ c p).2.2 ∧ R (run d w₁ c p).1.sink o₂' := by
  obtain ⟨h₁, hf₁⟩ := run_eq_visitAll d w₁ hc p hk
  obtain ⟨h₂, hf₂⟩ := run_eq_visitAll d w₂ hc (p.withSink o₂) hk
  rw [h₁] at hfin ⊢
  obtain ⟨o₂', hrun, hR'⟩ := visitAll_lockstep R P hR hP d p h c.drain.1 hfin
  rw [hrun] at h₂ hf₂
  exact ⟨o₂', h₂, hf₂.trans hf₁.symm, hR'⟩

end Lockstep

end Sieve

end SymbolSieve
