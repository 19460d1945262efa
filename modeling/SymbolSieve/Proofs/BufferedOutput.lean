import Mathlib
import SymbolSieve.Job
import SymbolSieve.Proofs.HostFiles
import SymbolSieve.Proofs.SieveRuns

namespace SymbolSieve

namespace BufferedFile

theorem put_of_ok {b : BufferedFile} {bs : Bytes} {fs : Files} (h : b.files.append b.loc bs = .ok fs) :
    b.put bs = { b with files := fs } := by
  simp [put, h]

theorem put_of_error {b : BufferedFile} {bs : Bytes} {e : Errno}
    (h : b.files.append b.loc bs = .error e) :
    b.put bs = { b with failure := some (.system "write" b.path e) } := by
  simp [put, h]

theorem flush_of_failed {b : BufferedFile} {f : Fault} (h : b.failure = some f) :
    b.flush = (some f, b) := by
  simp [flush, h]

theorem flush_of_empty {b : BufferedFile} (hf : b.failure = none) (hp : b.pending = []) :
    b.flush = (none, b) := by
  simp [flush, hf, hp]

theorem flush_of_ok {b : BufferedFile} {fs : Files} (hf : b.failure = none) (hp : b.pending ≠ [])
    (h : b.files.append b.loc b.pending = .ok fs) :
    b.flush = (none, { b with files := fs, pending := [] }) := by
  simp [flush, hf, hp, put_of_ok h]

theorem flush_of_error {b : BufferedFile} {e : Errno} (hf : b.failure = none) (hp : b.pending ≠ [])
    (h : b.files.append b.loc b.pending = .error e) :
    b.flush = (some (.system "write" b.path e), { b with failure := some (.system "write" b.path e) }) := by
  simp [flush, hf, hp, put_of_error h]

theorem go_of_failed {b : BufferedFile} {f : Fault} (h : b.failure = some f) (fuel : Nat) (p : Bytes) :
    write.go fuel b p = (some f, b) := by
  cases fuel <;> simp [write.go, h]

theorem go_of_fits {b : BufferedFile} {p : Bytes} (hf : b.failure = none)
    (h : p.length ≤ capacity - b.pending.length) (fuel : Nat) :
    write.go (fuel + 1) b p = (none, { b with pending := b.pending ++ p }) := by
  have hfit : ¬capacity - b.pending.length < p.length := by omega
  simp [write.go, hf, hfit]

theorem go_of_direct {b : BufferedFile} {p : Bytes} (hf : b.failure = none) (hp : b.pending = [])
    (h : capacity < p.length) (fuel : Nat) :
    write.go (fuel + 1) b p =
      if (b.put p).failure.isNone then write.go fuel (b.put p) [] else ((b.put p).failure, b.put p) := by
  simp [write.go, hf, hp, h]

theorem go_of_spill {b : BufferedFile} {p : Bytes} (hf : b.failure = none) (hp : b.pending ≠ [])
    (h : capacity - b.pending.length < p.length) (fuel : Nat) :
    write.go (fuel + 1) b p =
      write.go fuel ({ b with pending := b.pending ++ p.take (capacity - b.pending.length) }.flush).2
        (p.drop (capacity - b.pending.length)) := by
  simp [write.go, hf, hp, h]

theorem write_of_failed {b : BufferedFile} {f : Fault} (h : b.failure = some f) (bs : Bytes) :
    b.write bs = (some f, b) :=
  go_of_failed h _ bs

theorem write_of_fits {b : BufferedFile} {bs : Bytes} (hf : b.failure = none)
    (h : b.pending.length + bs.length ≤ capacity) :
    b.write bs = (none, { b with pending := b.pending ++ bs }) :=
  go_of_fits hf (by omega) _

def Fuelled (fuel : Nat) (b : BufferedFile) (p : Bytes) : Prop :=
  0 < fuel ∧ (b.failure = none → capacity - b.pending.length < p.length → 1 < fuel) ∧
    (b.failure = none → b.pending ≠ [] → capacity < p.length → 2 < fuel)

theorem fuelled_write (b : BufferedFile) (p : Bytes) : Fuelled (p.length + 1) b p := by
  refine ⟨by omega, fun _ h => by omega, fun _ _ h => ?_⟩
  unfold capacity at h
  omega

theorem go_delivers (fuel : Nat) (b : BufferedFile) (p : Bytes) (hfuel : Fuelled fuel b p)
    (hf : b.failure = none) (hok : (write.go fuel b p).2.failure = none) :
    (write.go fuel b p).1 = none ∧ (write.go fuel b p).2.loc = b.loc ∧
      (write.go fuel b p).2.path = b.path ∧
      ∃ sent, b.pending ++ p = sent ++ (write.go fuel b p).2.pending ∧
        Files.Appended b.files b.loc sent (write.go fuel b p).2.files := by
  induction fuel generalizing b p with
  | zero => exact absurd hfuel.1 (Nat.lt_irrefl 0)
  | succ fuel ih =>
    by_cases hfit : p.length ≤ capacity - b.pending.length
    · -- the bytes fit in the buffer
      rw [go_of_fits hf hfit]
      exact ⟨rfl, rfl, rfl, [], rfl, Files.Appended.nil _ _⟩
    have hover : capacity - b.pending.length < p.length := by omega
    have hround : 1 < fuel + 1 := hfuel.2.1 hf hover
    by_cases hp : b.pending = []
    · -- an empty buffer: the bytes go to the file directly
      have hcap : capacity < p.length := by simpa [hp] using hover
      rw [go_of_direct hf hp hcap] at hok ⊢
      cases hput : b.files.append b.loc p with
      | error e =>
        rw [put_of_error hput] at hok
        simp at hok
      | ok fs =>
        have hnone : ({ b with files := fs } : BufferedFile).failure.isNone = true := by simp [hf]
        rw [put_of_ok hput, if_pos hnone] at hok ⊢
        have hfuel' : Fuelled fuel { b with files := fs } [] :=
          ⟨by omega, fun _ h => by simp at h, fun _ _ h => by simp at h⟩
        obtain ⟨h₁, h₂, h₃, sent, hsent, happ⟩ := ih _ [] hfuel' hf hok
        refine ⟨h₁, h₂, h₃, p ++ sent, ?_, (Files.Appended.of_append hput).trans happ⟩
        simp only [hp, List.append_nil] at hsent
        rw [hp, List.nil_append, List.append_assoc, ← hsent, List.append_nil]
    · -- a buffer that holds something is filled up and written out first
      rw [go_of_spill hf hp hover] at hok ⊢
      have hp₁ : b.pending ++ p.take (capacity - b.pending.length) ≠ [] := by simp [hp]
      cases hput : b.files.append b.loc (b.pending ++ p.take (capacity - b.pending.length)) with
      | error e =>
        rw [flush_of_error (b := { b with pending := b.pending ++ p.take (capacity - b.pending.length) })
          hf hp₁ hput, go_of_failed rfl] at hok
        simp at hok
      | ok fs =>
        rw [flush_of_ok (b := { b with pending := b.pending ++ p.take (capacity - b.pending.length) })
          hf hp₁ hput] at hok ⊢
        dsimp only at hok ⊢
        have hfuel' : Fuelled fuel { b with files := fs, pending := [] }
            (p.drop (capacity - b.pending.length)) := by
          refine ⟨by omega, fun _ h => ?_, fun _ h => absurd rfl h⟩
          have hbig : capacity < p.length := by simp at h; omega
          have := hfuel.2.2 hf hp hbig
          omega
        obtain ⟨h₁, h₂, h₃, sent, hsent, happ⟩ := ih _ _ hfuel' hf hok
        refine ⟨h₁, h₂, h₃, b.pending ++ p.take (capacity - b.pending.length) ++ sent, ?_,
          (Files.Appended.of_append hput).trans happ⟩
        rw [List.nil_append] at hsent
        rw [List.append_assoc, List.append_assoc, ← hsent, List.take_append_drop]

theorem failure_of_flush {b : BufferedFile} (h : b.flush.1 = none) : b.failure = none := by
  cases hf : b.failure with
  | none => rfl
  | some f => simp [flush_of_failed hf] at h

theorem flush_delivers {b : BufferedFile} (h : b.flush.1 = none) :
    Files.Appended b.files b.loc b.pending b.flush.2.files := by
  have hf := failure_of_flush h
  by_cases hp : b.pending = []
  · rw [flush_of_empty hf hp, hp]
    exact Files.Appended.nil _ _
  · cases hput : b.files.append b.loc b.pending with
    | error e => simp [flush_of_error hf hp hput] at h
    | ok fs =>
      rw [flush_of_ok hf hp hput]
      exact Files.Appended.of_append hput

def Accepting (b : BufferedFile) : Prop :=
  b.failure = none ∧ b.files.get? b.loc ≠ some (.device .full)

theorem go_accepting (fuel : Nat) (b : BufferedFile) (p : Bytes) (h : Accepting b) :
    Accepting (write.go fuel b p).2 := by
  induction fuel generalizing b p with
  | zero => exact h
  | succ fuel ih =>
    obtain ⟨hf, hfull⟩ := h
    by_cases hfit : p.length ≤ capacity - b.pending.length
    · rw [go_of_fits hf hfit]
      exact ⟨hf, hfull⟩
    have hover : capacity - b.pending.length < p.length := by omega
    by_cases hp : b.pending = []
    · have hcap : capacity < p.length := by simpa [hp] using hover
      obtain ⟨fs, hput⟩ := Files.append_ok_of_not_full hfull p
      have hnone : ({ b with files := fs } : BufferedFile).failure.isNone = true := by simp [hf]
      rw [go_of_direct hf hp hcap, put_of_ok hput, if_pos hnone]
      exact ih _ _ ⟨hf, Files.not_full_of_append hput⟩
    · have hp₁ : b.pending ++ p.take (capacity - b.pending.length) ≠ [] := by simp [hp]
      obtain ⟨fs, hput⟩ := Files.append_ok_of_not_full hfull
        (b.pending ++ p.take (capacity - b.pending.length))
      rw [go_of_spill hf hp hover,
        flush_of_ok (b := { b with pending := b.pending ++ p.take (capacity - b.pending.length) })
          hf hp₁ hput]
      exact ih _ _ ⟨hf, Files.not_full_of_append hput⟩

theorem write_accepting {b : BufferedFile} (h : Accepting b) (bs : Bytes) :
    Accepting (writer.write b bs).2 :=
  go_accepting _ b bs h

theorem flush_accepting {b : BufferedFile} (h : Accepting b) : b.flush.1 = none := by
  by_cases hp : b.pending = []
  · rw [flush_of_empty h.1 hp]
  · obtain ⟨fs, hput⟩ := Files.append_ok_of_not_full h.2 b.pending
    rw [flush_of_ok h.1 hp hput]

def Unsent (fs : Files) (loc : List Bytes) (path : Bytes) (o : Sink) (b : BufferedFile) : Prop :=
  o.room = none ∧ b = { files := fs, loc, path, pending := o.held }

theorem unsent_write {fs : Files} {loc : List Bytes} {path : Bytes} (o : Sink) (b : BufferedFile)
    (bs : Bytes) (h : Unsent fs loc path o b)
    (hfit : (Sink.writer.write o bs).2.held.length ≤ capacity) :
    (Sink.writer.write o bs).1 = (writer.write b bs).1 ∧
      Unsent fs loc path (Sink.writer.write o bs).2 (writer.write b bs).2 := by
  obtain ⟨hroom, rfl⟩ := h
  have hs : Sink.writer.write o bs = (none, ⟨o.held ++ bs, none⟩) := Sink.write_of_unlimited hroom bs
  rw [hs] at hfit ⊢
  have hb : writer.write { files := fs, loc, path, pending := o.held } bs =
      (none, { files := fs, loc, path, pending := o.held ++ bs }) :=
    write_of_fits rfl (by simpa using hfit)
  rw [hb]
  exact ⟨rfl, rfl, rfl⟩

structure Feeds (fs : Files) (loc : List Bytes) (path : Bytes) (b : BufferedFile) (o : Sink) : Prop where
  loc_eq : b.loc = loc
  path_eq : b.path = path
  unlimited : o.room = none
  delivered : b.failure = none → ∃ sent, o.held = sent ++ b.pending ∧ Files.Appended fs loc sent b.files

theorem Feeds.start (fs : Files) (loc : List Bytes) (path : Bytes) :
    Feeds fs loc path { files := fs, loc, path } {} :=
  ⟨rfl, rfl, rfl, fun _ => ⟨[], rfl, Files.Appended.nil fs loc⟩⟩

theorem failure_backward (b : BufferedFile) (bs : Bytes) (h : (writer.write b bs).2.failure = none) :
    b.failure = none := by
  cases hb : b.failure with
  | none => rfl
  | some f =>
    have hw : writer.write b bs = (some f, b) := write_of_failed hb bs
    rw [hw] at h
    simp [hb] at h

theorem feeds_write {fs : Files} {loc : List Bytes} {path : Bytes} (b : BufferedFile) (o : Sink)
    (bs : Bytes) (h : Feeds fs loc path b o) (hok : (writer.write b bs).2.failure = none) :
    (writer.write b bs).1 = (Sink.writer.write o bs).1 ∧
      Feeds fs loc path (writer.write b bs).2 (Sink.writer.write o bs).2 := by
  rw [show writer.write b bs = write.go (bs.length + 1) b bs from rfl] at hok ⊢
  have hb := failure_backward b bs hok
  obtain ⟨h₁, h₂, h₃, sent', hsent', happ'⟩ := go_delivers _ b bs (fuelled_write b bs) hb hok
  have hs : Sink.writer.write o bs = (none, ⟨o.held ++ bs, none⟩) :=
    Sink.write_of_unlimited h.unlimited bs
  rw [hs]
  refine ⟨h₁, ⟨h₂.trans h.loc_eq, h₃.trans h.path_eq, rfl, fun _ => ?_⟩⟩
  obtain ⟨sent, hheld, happ⟩ := h.delivered hb
  refine ⟨sent ++ sent', ?_, happ.trans (h.loc_eq ▸ happ')⟩
  show o.held ++ bs = _
  rw [hheld, List.append_assoc, hsent', List.append_assoc]

end BufferedFile

end SymbolSieve
