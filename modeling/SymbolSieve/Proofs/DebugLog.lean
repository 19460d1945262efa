import Mathlib
import SymbolSieve.Proofs.FileJob
import SymbolSieve.Proofs.Cancellation
import SymbolSieve.Log

namespace SymbolSieve

namespace Note

def line : Note → Nat
  | .decoded l _ _ => l
  | .failed l _ _ => l

def symbol : Note → Bytes
  | .decoded _ s _ => s
  | .failed _ s _ => s

def isDecoded : Note → Bool
  | .decoded .. => true
  | .failed .. => false

@[simp] theorem line_decoded (l : Nat) (s t : Bytes) : (Note.decoded l s t).line = l := rfl
@[simp] theorem line_failed (l : Nat) (s : Bytes) (f : Fault) : (Note.failed l s f).line = l := rfl
@[simp] theorem symbol_decoded (l : Nat) (s t : Bytes) : (Note.decoded l s t).symbol = s := rfl
@[simp] theorem symbol_failed (l : Nat) (s : Bytes) (f : Fault) : (Note.failed l s f).symbol = s := rfl
@[simp] theorem isDecoded_decoded (l : Nat) (s t : Bytes) : (Note.decoded l s t).isDecoded = true := rfl
@[simp] theorem isDecoded_failed (l : Nat) (s : Bytes) (f : Fault) :
    (Note.failed l s f).isDecoded = false := rfl

theorem logLine_lead (n : Note) :
    n.logLine.message = Bytes.ofString (if n.isDecoded then "decoded" else "decode failed") ∧
      n.logLine.attrs.take 2 = [("line", .number n.line), ("symbol", .text n.symbol)] := by
  cases n <;> simp [logLine]

end Note

namespace LineCursor

theorem steps_of_drain {c : LineCursor} {i : Nat} {raw : Bytes} (h : c.drain.1[i]? = some raw) :
    (c.steps (i + 1)).1[i]? = some (.line raw, c.count + i + 1) := by
  induction i generalizing c with
  | zero =>
    cases hn : c.next.1 with
    | line l =>
      rw [drain_of_line hn] at h
      cases h
      simp [steps, hn, next_line_count hn]
    | finished =>
      rw [drain_of_not_line (by simp [hn])] at h
      simp at h
    | failed m =>
      rw [drain_of_not_line (by simp [hn])] at h
      simp at h
  | succ i ih =>
    cases hn : c.next.1 with
    | line l =>
      rw [drain_of_line hn] at h
      -- the later lines are those of the cursor after the first request
      have hs : (c.steps (i + 1 + 1)).1 = (c.next.1, c.next.2.count) :: (c.next.2.steps (i + 1)).1 :=
        rfl
      rw [hs, List.getElem?_cons_succ, ih h, next_line_count hn]
      congr 3
      omega
    | finished =>
      rw [drain_of_not_line (by simp [hn])] at h
      simp at h
    | failed m =>
      rw [drain_of_not_line (by simp [hn])] at h
      simp at h

end LineCursor

namespace Sieve

variable {σ ω : Type}

theorem visit_notes_cases (d : Decoder σ) (w : Writer ω) (p : Progress σ ω) (line : Nat)
    (raw : Bytes) :
    let v := visit d w p line raw
    (v.1.notes = p.notes ∧ v.1.tally.decoded = p.tally.decoded ∧ v.1.tally.failed = p.tally.failed) ∨
    (v.2 = none ∧ Candidate.test (Text.trim raw) = true ∧
      ((∃ t, v.1.notes = p.notes ++ [.decoded line (Text.trim raw) t] ∧
          v.1.tally.decoded = p.tally.decoded + 1 ∧ v.1.tally.failed = p.tally.failed) ∨
        (∃ f, v.1.notes = p.notes ++ [.failed line (Text.trim raw) f] ∧
          v.1.tally.decoded = p.tally.decoded ∧ v.1.tally.failed = p.tally.failed + 1))) := by
  obtain ⟨decode⟩ := d
  intro v
  simp only [v]
  unfold visit
  by_cases hm : Candidate.test (Text.trim raw) = true
  · by_cases hc : p.cancelled = true
    · left
      simp [hm, hc]
    · rcases hdec : decode p.decoder (Text.trim raw) with ⟨⟨res, canc⟩, s⟩
      cases res with
      | ok text =>
        by_cases ht : Text.trim text = []
        · -- an empty reply is a decode failure, absorbed
          right
          simp [hm, hc, hdec, ht, emptyReply_is]
        · rcases hw : w.write p.sink (Record.render ⟨Text.trim raw, Text.trim text⟩) with ⟨_ | f, o⟩
          · right
            simp [hm, hc, hdec, ht, hw]
          · left
            simp [hm, hc, hdec, ht, hw]
      | error f =>
        by_cases hf : f.is .decodeFailure = true
        · right
          simp [hm, hc, hdec, hf]
        · left
          simp [hm, hc, hdec, hf]
  · left
    simp [hm]

structure Logged (p q : Progress σ ω) (ls : List Bytes) (E : List Note) : Prop where
  notes : q.notes = p.notes ++ E
  decoded : q.tally.decoded = p.tally.decoded + E.countP Note.isDecoded
  failed : q.tally.failed = p.tally.failed + E.countP fun n => !n.isDecoded
  counted : p.tally.lines ≤ q.tally.lines
  ordered : (E.map Note.line).Pairwise (· < ·)
  points : ∀ n ∈ E, p.tally.lines < n.line ∧ n.line ≤ q.tally.lines ∧
    ∃ raw, ls[n.line - p.tally.lines - 1]? = some raw ∧ n.symbol = Text.trim raw ∧
      Candidate.test (Text.trim raw) = true

theorem Logged.refl (p : Progress σ ω) (ls : List Bytes) : Logged p p ls [] :=
  ⟨by simp, by simp, by simp, le_rfl, .nil, by simp⟩

theorem visit_logged (d : Decoder σ) (w : Writer ω) (p : Progress σ ω) (raw : Bytes) :
    ∃ E, Logged p (visit d w p (p.tally.lines + 1) raw).1 [raw] E ∧
      ((visit d w p (p.tally.lines + 1) raw).2.isSome → E = []) := by
  have hl := visit_lines d w p (p.tally.lines + 1) raw
  rcases visit_notes_cases d w p (p.tally.lines + 1) raw with
    ⟨hn, hd, hf⟩ | ⟨hv, ht, ⟨t, hn, hd, hf⟩ | ⟨f, hn, hd, hf⟩⟩
  · exact ⟨[], ⟨by simp [hn], by simp [hd], by simp [hf], by omega, .nil, by simp⟩, fun _ => rfl⟩
  · refine ⟨_, ⟨hn, by simp [hd], by simp [hf], by omega, by simp, ?_⟩, by simp [hv]⟩
    simp [hl, ht]
  · refine ⟨_, ⟨hn, by simp [hd], by simp [hf], by omega, by simp, ?_⟩, by simp [hv]⟩
    simp [hl, ht]

theorem Logged.extend {p q : Progress σ ω} {ls : List Bytes} {E : List Note} (h : Logged p q ls E)
    (ls' : List Bytes) : Logged p q (ls ++ ls') E := by
  refine ⟨h.notes, h.decoded, h.failed, h.counted, h.ordered, fun n hn => ?_⟩
  obtain ⟨h₁, h₂, raw, hraw, hs⟩ := h.points n hn
  refine ⟨h₁, h₂, raw, ?_, hs⟩
  rw [List.getElem?_append_left (List.getElem?_eq_some_iff.1 hraw).1, hraw]

theorem Logged.append {p q r : Progress σ ω} {ls ls' : List Bytes} {E E' : List Note}
    (h : Logged p q ls E) (h' : Logged q r ls' E') (hq : q.tally.lines = p.tally.lines + ls.length) :
    Logged p r (ls ++ ls') (E ++ E') := by
  refine ⟨by rw [h'.notes, h.notes, List.append_assoc], ?_, ?_, h.counted.trans h'.counted, ?_, ?_⟩
  · rw [h'.decoded, h.decoded, List.countP_append]
    omega
  · rw [h'.failed, h.failed, List.countP_append]
    omega
  · -- the notes of the first stretch are for lines up to where the second starts
    rw [List.map_append, List.pairwise_append]
    refine ⟨h.ordered, h'.ordered, ?_⟩
    simp only [List.mem_map]
    rintro _ ⟨n, hn, rfl⟩ _ ⟨n', hn', rfl⟩
    have := (h.points n hn).2.1
    have := (h'.points n' hn').1
    omega
  · intro n hn
    rcases List.mem_append.1 hn with hn | hn
    · obtain ⟨h₁, h₂, hraw⟩ := (h.extend ls').points n hn
      exact ⟨h₁, h₂.trans h'.counted, hraw⟩
    · -- a note of the second stretch is for a line past all of the first
      obtain ⟨h₁, h₂, raw, hraw, hs⟩ := h'.points n hn
      refine ⟨by omega, h₂, raw, ?_, hs⟩
      rw [List.getElem?_append_right (by omega), ← hraw]
      congr 1
      omega

theorem visit_notes_of_stop {d : Decoder σ} {w : Writer ω} {p : Progress σ ω} {line : Nat}
    {raw : Bytes} (h : (visit d w p line raw).2.isSome) : (visit d w p line raw).1.notes = p.notes := by
  rcases visit_notes_cases d w p line raw with ⟨hn, -, -⟩ | ⟨hv, -⟩
  · exact hn
  · simp [hv] at h

theorem visit_noted {d : Decoder σ} {w : Writer ω} {p : Progress σ ω} {line : Nat} {raw : Bytes}
    {n : Note} (h : (visit d w p line raw).1.notes = p.notes ++ [n]) :
    n.line = line ∧ (visit d w p line raw).1.tally.lines = p.tally.lines + 1 ∧
      n.symbol = Text.trim raw := by
  rcases visit_notes_cases d w p line raw with ⟨hn, -, -⟩ | ⟨-, -, ⟨t, hn, -, -⟩ | ⟨f, hn, -, -⟩⟩ <;>
    rw [hn] at h
  · simp at h
  · obtain rfl : Note.decoded line (Text.trim raw) t = n := by simpa using h
    exact ⟨rfl, visit_lines d w p line raw, rfl⟩
  · obtain rfl : Note.failed line (Text.trim raw) f = n := by simpa using h
    exact ⟨rfl, visit_lines d w p line raw, rfl⟩

theorem visitAll_logged (d : Decoder σ) (w : Writer ω) (p : Progress σ ω) (ls : List Bytes) :
    ∃ E, Logged p (visitAll d w p ls).1 ls E := by
  induction ls generalizing p with
  | nil => exact ⟨[], Logged.refl p []⟩
  | cons l ls ih =>
    obtain ⟨E, hE, -⟩ := visit_logged d w p l
    have hl := visit_lines d w p (p.tally.lines + 1) l
    rcases hv : visit d w p (p.tally.lines + 1) l with ⟨p', _ | f⟩ <;> rw [hv] at hE hl
    · obtain ⟨E', hE'⟩ := ih p'
      rw [visitAll_cons_of_none hv]
      exact ⟨E ++ E', hE.append hE' (by simpa using hl)⟩
    · rw [visitAll_cons_of_some hv]
      exact ⟨E, hE.extend ls⟩

theorem run_logged (d : Decoder σ) (w : Writer ω) {c : LineCursor} (hc : c.error? = none)
    (p : Progress σ ω) (hk : c.count = p.tally.lines) : ∃ E, Logged p (run d w c p).1 c.drain.1 E := by
  rw [(run_eq_visitAll d w hc p hk).1]
  exact visitAll_logged d w p c.drain.1

end Sieve

structure NotesFollow (notes : List Note) (tally : Tally) (c : LineCursor) : Prop where
  decoded : notes.countP Note.isDecoded = tally.decoded
  failed : (notes.countP fun n => !n.isDecoded) = tally.failed
  ordered : (notes.map Note.line).Pairwise (· < ·)
  points : ∀ n ∈ notes, 0 < n.line ∧ n.line ≤ tally.lines ∧ ∃ raw, c.drain.1[n.line - 1]? = some raw ∧
    (c.steps n.line).1[n.line - 1]? = some (.line raw, n.line) ∧ n.symbol = Text.trim raw ∧
    Candidate.test (Text.trim raw) = true

theorem Sieve.run_notes_follow {σ ω : Type} (d : Decoder σ) (w : Writer ω) (src : Source)
    (p : Progress σ ω) (hp : p.tally = {}) (hn : p.notes = []) :
    NotesFollow (Sieve.run d w (LineCursor.ofSource src) p).1.notes
      (Sieve.run d w (LineCursor.ofSource src) p).1.tally (LineCursor.ofSource src) := by
  obtain ⟨E, hE⟩ := Sieve.run_logged d w (c := LineCursor.ofSource src) rfl p (by rw [hp]; rfl)
  have hE₀ : (Sieve.run d w (LineCursor.ofSource src) p).1.notes = E := by simp [hE.notes, hn]
  rw [hE₀]
  refine ⟨by simp [hE.decoded, hp], by simp [hE.failed, hp], hE.ordered, fun n hn => ?_⟩
  obtain ⟨h₁, h₂, raw, hraw, hs⟩ := hE.points n hn
  have h₀ : 0 < n.line := by simpa [hp] using h₁
  have hline : (LineCursor.ofSource src).drain.1[n.line - 1]? = some raw := by simpa [hp] using hraw
  -- the reader's count after the line is its number, as the run counted it
  have hstep := LineCursor.steps_of_drain hline
  rw [show (LineCursor.ofSource src).count = 0 from rfl, Nat.zero_add, Nat.sub_add_cancel h₀]
    at hstep
  exact ⟨h₀, h₂, raw, hline, hstep, hs⟩

theorem debug_log_follows_lines {σ : Type} (j : Job) (fs : Files) (d : Decoder σ) (s : σ)
    (stdin : Source) (cancelled : Bool) (src : Source) {loc : List Bytes} {fs₁ : Files}
    (hout : fs.create j.outputPath = .ok (loc, fs₁))
    (hin : (j.input = [] ∧ src = stdin) ∨ ∃ iloc c x, j.input ≠ [] ∧
      fs.lookup j.input = .ok (iloc, .file c x) ∧ src = { data := if iloc = loc then [] else c }) :
    let J := j.run fs (some (d, s)) stdin cancelled
    (∀ clock, J.log false clock = [] ∧ J.log true clock = J.notes.flatMap (·.logLine.render clock)) ∧
    (∀ n ∈ J.notes,
      n.logLine.message = Bytes.ofString (if n.isDecoded then "decoded" else "decode failed") ∧
        n.logLine.attrs.take 2 = [("line", .number n.line), ("symbol", .text n.symbol)]) ∧
    NotesFollow J.notes J.tally (LineCursor.ofSource src) ∧
    ∀ (p : Progress σ BufferedFile) line raw,
      ((Sieve.visit d BufferedFile.writer p line raw).2.isSome →
        (Sieve.visit d BufferedFile.writer p line raw).1.notes = p.notes) ∧
      ∀ n, (Sieve.visit d BufferedFile.writer p line raw).1.notes = p.notes ++ [n] →
        n.line = line ∧
          (Sieve.visit d BufferedFile.writer p line raw).1.tally.lines = p.tally.lines + 1 ∧
          n.symbol = Text.trim raw := by
  intro J
  have hJ : J = _ := Job.run_of_created j fs d s stdin cancelled src hout hin
  refine ⟨fun clock => ⟨rfl, rfl⟩, fun n _ => n.logLine_lead, ?_,
    fun p line raw => ⟨Sieve.visit_notes_of_stop, fun n => Sieve.visit_noted⟩⟩
  rw [hJ]
  exact Sieve.run_notes_follow d BufferedFile.writer src _ rfl rfl

theorem debug_log_follows_lines_from_stdin :
    (⟨[], []⟩ : Files).create (Job.outputPath { output := [0x6F] }) =
      .ok ([[0x6F]], Files.put ⟨[], []⟩ [[0x6F]] (.file [] false)) ∧
    (([] : Bytes) = [] ∧
      ({ data := Bytes.ofString "x\n0000000000C2\n" } : Source) =
        { data := Bytes.ofString "x\n0000000000C2\n" }) ∧
    let J := Job.run { output := [0x6F] } ⟨[], []⟩
      (some (Decoder.recording fun sym => { result := .ok sym }, []))
      { data := Bytes.ofString "x\n0000000000C2\n" } false
    (∀ clock, J.log false clock = [] ∧ J.log true clock = J.notes.flatMap (·.logLine.render clock)) ∧
    (∀ n ∈ J.notes,
      n.logLine.message = Bytes.ofString (if n.isDecoded then "decoded" else "decode failed") ∧
        n.logLine.attrs.take 2 = [("line", .number n.line), ("symbol", .text n.symbol)]) ∧
    NotesFollow J.notes J.tally (LineCursor.ofSource { data := Bytes.ofString "x\n0000000000C2\n" }) ∧
    ∀ (p : Progress (List Bytes) BufferedFile) line raw,
      let v := Sieve.visit (Decoder.recording fun sym => { result := .ok sym }) BufferedFile.writer p
        line raw
      (v.2.isSome → v.1.notes = p.notes) ∧
        ∀ n, v.1.notes = p.notes ++ [n] →
          n.line = line ∧ v.1.tally.lines = p.tally.lines + 1 ∧ n.symbol = Text.trim raw :=
  ⟨rfl, ⟨rfl, rfl⟩, debug_log_follows_lines _ _ _ _ _ _ _ rfl (.inl ⟨rfl, rfl⟩)⟩

end SymbolSieve
