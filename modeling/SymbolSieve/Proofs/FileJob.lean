import Mathlib
import SymbolSieve.Proofs.SieveRuns
import SymbolSieve.Proofs.BufferedOutput
import SymbolSieve.Proofs.SinkLimit
import SymbolSieve.Cli

namespace SymbolSieve

namespace Job

variable {σ : Type}

theorem checkInput_missing {fs : Files} {path : Bytes} (h : fs.lookup path = .error .noEntry) :
    ∃ f, checkInput fs path = some f ∧ f.kind = .notFound :=
  ⟨.op "open input" Kind.notFound.code path (some (.system "open" path .noEntry)),
    by simp [checkInput, h],
    by simp [Fault.kind, Fault.is, Fault.matchesHere, Kind.ofCode, Kind.code, Sentinel.ofKind?]⟩

theorem checkInput_unusable {fs : Files} {path : Bytes} {e : Errno} (h : fs.lookup path = .error e)
    (he : e ≠ .noEntry) : ∃ f, checkInput fs path = some f ∧ f.kind = .unknown :=
  ⟨.op "open input" Kind.unknown.code path (some (.system "open" path e)),
    by simp [checkInput, h, he],
    by simp [Fault.kind, Fault.is, Fault.matchesHere, Kind.ofCode, Kind.code, Sentinel.ofKind?, he]⟩

theorem checkInput_directory {fs : Files} {path : Bytes} {loc : List Bytes}
    (h : fs.lookup path = .ok (loc, .directory)) :
    ∃ f, checkInput fs path = some f ∧ f.is .isDir = true ∧ f.kind = .unknown :=
  ⟨.op "open input" Kind.unknown.code path (some (.sentinel .isDir)), by simp [checkInput, h],
    by simp [Fault.is, Fault.matchesHere, Kind.ofCode, Kind.code, Sentinel.ofKind?],
    by simp [Fault.kind, Fault.is, Fault.matchesHere, Kind.ofCode, Kind.code, Sentinel.ofKind?]⟩

theorem checkInput_opens {fs : Files} {path : Bytes} {loc : List Bytes} {e : Entry}
    (h : fs.lookup path = .ok (loc, e)) (he : e ≠ .directory) : checkInput fs path = none := by
  cases e <;> simp_all [checkInput]

theorem run_without_decoder (j : Job) (fs : Files) (stdin : Source) (cancelled : Bool) :
    j.run fs (none : Option (Decoder σ × σ)) stdin cancelled =
      { fault := some (.plain (Bytes.ofString "filter: no decoder")), files := fs } := rfl

theorem run_of_input_fault (j : Job) (fs : Files) (d : Decoder σ) (s : σ) (stdin : Source)
    (cancelled : Bool) (hin : j.input ≠ []) {f : Fault} (hf : checkInput fs j.input = some f) :
    j.run fs (some (d, s)) stdin cancelled = { fault := some f, files := fs, decoder := some s } := by
  simp [run, hin, hf]

theorem run_of_create_fault (j : Job) (fs : Files) (d : Decoder σ) (s : σ) (stdin : Source)
    (cancelled : Bool) (hin : j.input = [] ∨ checkInput fs j.input = none) {e : Errno}
    (hc : fs.create j.outputPath = .error e) :
    j.run fs (some (d, s)) stdin cancelled =
      { fault := some (.op "create output" Kind.unknown.code j.outputPath
          (some (.system "open" j.outputPath e))), files := fs, decoder := some s } := by
  rcases hin with hin | hin <;> simp [run, hin, hc]

def fileStart (s : σ) (cancelled : Bool) (fs : Files) (loc : List Bytes) (out : Bytes) :
    Progress σ BufferedFile :=
  { decoder := s, sink := { files := fs, loc, path := out }, cancelled }

def closingFault (b : BufferedFile) (loc : List Bytes) (out : Bytes) : Option Fault :=
  (b.flush.1.map fun f => .op "write output" Kind.unknown.code out (some f)).or
    ((b.flush.2.files.close loc).map fun e =>
      .op "close output" Kind.unknown.code out (some (.system "close" out e)))

theorem closingFault_eq_none {b : BufferedFile} {loc : List Bytes} {out : Bytes} :
    closingFault b loc out = none ↔ b.flush.1 = none := by
  constructor
  · intro h
    rw [closingFault, Option.or_eq_none_iff, Option.map_eq_none_iff] at h
    exact h.1
  · intro h
    rw [closingFault, h]
    rfl

theorem run_of_created (j : Job) (fs : Files) (d : Decoder σ) (s : σ) (stdin : Source)
    (cancelled : Bool) (src : Source) {loc : List Bytes} {fs₁ : Files}
    (hout : fs.create j.outputPath = .ok (loc, fs₁))
    (hin : (j.input = [] ∧ src = stdin) ∨ ∃ iloc c x, j.input ≠ [] ∧
      fs.lookup j.input = .ok (iloc, .file c x) ∧ src = { data := if iloc = loc then [] else c }) :
    let r := Sieve.run d BufferedFile.writer (LineCursor.ofSource src)
      (fileStart s cancelled fs₁ loc j.outputPath)
    j.run fs (some (d, s)) stdin cancelled =
      { tally := r.1.tally, fault := r.2.2.or (closingFault r.1.sink loc j.outputPath),
        files := r.1.sink.flush.2.files, notes := r.1.notes, decoder := some r.1.decoder } := by
  intro r
  unfold run
  rcases hin with ⟨hi, rfl⟩ | ⟨iloc, c, x, hi, hl, rfl⟩
  · simp only [hi, List.isEmpty_nil, if_true, hout, r, fileStart]
    -- the run's fault, if any, else that of the last write
    congr 1
    split <;> simp_all [closingFault]
  · -- the input is looked up again after the output was created
    have hne : j.input.isEmpty = false := List.isEmpty_eq_false_iff.2 hi
    simp only [hne, Bool.false_eq_true, if_false, checkInput_opens hl (by simp), hout,
      Files.lookup_after_create hout hl, Except.toOption, Option.bind_some, Option.getD_some, r,
      fileStart]
    congr 1
    split <;> simp_all [closingFault]

section IntoFile

variable (d : Decoder σ) (src : Source) (s : σ) (cancelled : Bool) (fs : Files) (loc : List Bytes)
  (out : Bytes)

theorem file_run_feeds
    (hok : (Sieve.run d BufferedFile.writer (LineCursor.ofSource src)
      (fileStart s cancelled fs loc out)).1.sink.failure = none) :
    ∃ o, (Sieve.run d Sink.writer (LineCursor.ofSource src)
          ((fileStart s cancelled fs loc out).withSink {})).1 =
        (Sieve.run d BufferedFile.writer (LineCursor.ofSource src)
          (fileStart s cancelled fs loc out)).1.withSink o ∧
      (Sieve.run d Sink.writer (LineCursor.ofSource src)
          ((fileStart s cancelled fs loc out).withSink {})).2.2 =
        (Sieve.run d BufferedFile.writer (LineCursor.ofSource src)
          (fileStart s cancelled fs loc out)).2.2 ∧
      BufferedFile.Feeds fs loc out (Sieve.run d BufferedFile.writer (LineCursor.ofSource src)
        (fileStart s cancelled fs loc out)).1.sink o :=
  Sieve.run_lockstep (BufferedFile.Feeds fs loc out) (fun b => b.failure = none)
    BufferedFile.feeds_write BufferedFile.failure_backward d (c := LineCursor.ofSource src) rfl _ rfl
    (BufferedFile.Feeds.start fs loc out) hok

theorem file_run_delivers
    (hflush : (Sieve.run d BufferedFile.writer (LineCursor.ofSource src)
      (fileStart s cancelled fs loc out)).1.sink.flush.1 = none) :
    let I := Sieve.run d BufferedFile.writer (LineCursor.ofSource src) (fileStart s cancelled fs loc out)
    let R := Sieve.run d Sink.writer (LineCursor.ofSource src) ((fileStart s cancelled fs loc out).withSink {})
    R.1.tally = I.1.tally ∧ R.1.notes = I.1.notes ∧ R.1.decoder = I.1.decoder ∧ R.2.2 = I.2.2 ∧
      Files.Appended fs loc R.1.sink.held I.1.sink.flush.2.files := by
  intro I R
  obtain ⟨o, hR, hRf, hfeeds⟩ :=
    file_run_feeds d src s cancelled fs loc out (BufferedFile.failure_of_flush hflush)
  obtain ⟨sent, hheld, hsent⟩ := hfeeds.delivered (BufferedFile.failure_of_flush hflush)
  have hlast := BufferedFile.flush_delivers hflush
  rw [hfeeds.loc_eq] at hlast
  refine ⟨by rw [hR]; rfl, by rw [hR]; rfl, by rw [hR]; rfl, hRf, ?_⟩
  rw [hR, Progress.withSink_sink, hheld]
  exact hsent.trans hlast

theorem file_run_flushes (hfull : fs.get? loc ≠ some (.device .full)) :
    (Sieve.run d BufferedFile.writer (LineCursor.ofSource src)
      (fileStart s cancelled fs loc out)).1.sink.flush.1 = none := by
  apply BufferedFile.flush_accepting
  obtain ⟨h, -⟩ := Sieve.run_eq_visitAll d BufferedFile.writer (c := LineCursor.ofSource src) rfl
    (fileStart s cancelled fs loc out) rfl
  rw [h]
  exact Sieve.visitAll_sink_forward BufferedFile.Accepting (fun b bs hb => BufferedFile.write_accepting hb bs)
    d _ _ ⟨rfl, hfull⟩

theorem file_run_of_small
    (hsmall : (Sieve.run d Sink.writer (LineCursor.ofSource src)
      ((fileStart s cancelled fs loc out).withSink {})).1.sink.held.length ≤ BufferedFile.capacity) :
    let I := Sieve.run d BufferedFile.writer (LineCursor.ofSource src) (fileStart s cancelled fs loc out)
    let R := Sieve.run d Sink.writer (LineCursor.ofSource src) ((fileStart s cancelled fs loc out).withSink {})
    I.1.tally = R.1.tally ∧ I.1.notes = R.1.notes ∧ I.1.decoder = R.1.decoder ∧ I.2.2 = R.2.2 := by
  intro I R
  obtain ⟨b, hI, hIf, -⟩ := Sieve.run_lockstep (BufferedFile.Unsent fs loc out)
    (fun o => o.held.length ≤ BufferedFile.capacity) BufferedFile.unsent_write
    (Sieve.held_backward BufferedFile.capacity) d (c := LineCursor.ofSource src) rfl
    ((fileStart s cancelled fs loc out).withSink {}) rfl
    (show BufferedFile.Unsent fs loc out {} { files := fs, loc, path := out } from ⟨rfl, rfl⟩) hsmall
  have hI' : I.1 = R.1.withSink b := hI
  exact ⟨by rw [hI']; rfl, by rw [hI']; rfl, by rw [hI']; rfl, hIf⟩

end IntoFile

end Job

namespace Cli

theorem runJob_files_of_code_two {o : Options} {stdin : Bytes} {fs : Files} {clock : Bytes}
    (h : (runJob o stdin fs clock).code = 2) : (runJob o stdin fs clock).files = fs := by
  unfold runJob at h ⊢
  dsimp only at h ⊢
  generalize (if o.config.isEmpty = true then Settings.loadDefault fs else Settings.load fs o.config) =
    settings at h ⊢
  cases settings with
  | error e => rfl
  | ok cfg =>
    -- a job that ran exits with 0, 1, 127 or 130
    exfalso
    dsimp only at h
    generalize (Job.run { input := o.operands.headD [], output := outputFile } fs _ _ false).fault =
      fault at h
    rcases fault with _ | f
    · simp at h
    · dsimp only at h
      by_cases hc : f.is .canceled = true <;> cases hk : f.kind <;> simp [hk, hc] at h

theorem runJob_settings_fault {o : Options} {stdin : Bytes} {fs : Files} {clock : Bytes}
    {e : SettingsError}
    (h : (if o.config.isEmpty then Settings.loadDefault fs else Settings.load fs o.config) = .error e) :
    (runJob o stdin fs clock).code = 2 ∧ (runJob o stdin fs clock).files = fs := by
  unfold runJob
  dsimp only
  rw [h]
  exact ⟨rfl, rfl⟩

theorem run_files_of_code_two {args : List Bytes} {stdin : Bytes} {fs : Files} {clock : Bytes}
    (h : (run args stdin fs clock).code = 2) : (run args stdin fs clock).files = fs := by
  unfold run at h ⊢
  dsimp only at h ⊢
  split
  · split
    · rfl
    · split
      · rfl
      · split
        · rfl
        · simp only [*] at h
          exact runJob_files_of_code_two h
  · split <;> rfl
  · split <;> rfl
  · split
    · rfl
    · split
      · rfl
      · split <;> rfl

theorem run_of_bad_options {args rest : List Bytes} {stdin : Bytes} {fs : Files} {clock : Bytes}
    {m : Bytes} (hl : locate (setupFor args) args = (.main, rest)) (ho : Options.ofArgs rest = .error m) :
    (run args stdin fs clock).code = 2 ∧ (run args stdin fs clock).files = fs := by
  simp [run, hl, ho, usageError]

end Cli

theorem early_job_failure_leaves_files {σ : Type} (j : Job) (fs : Files) (stdin : Source)
    (cancelled : Bool) :
    j.run fs (none : Option (Decoder σ × σ)) stdin cancelled =
        { fault := some (.plain (Bytes.ofString "filter: no decoder")), files := fs } ∧
      (∀ (d : Decoder σ) (s : σ), j.input ≠ [] →
        (fs.lookup j.input = .error .noEntry → ∃ f, f.kind = .notFound ∧
          j.run fs (some (d, s)) stdin cancelled = { fault := some f, files := fs, decoder := some s }) ∧
        (∀ e, fs.lookup j.input = .error e → e ≠ .noEntry → ∃ f, f.kind = .unknown ∧
          j.run fs (some (d, s)) stdin cancelled = { fault := some f, files := fs, decoder := some s }) ∧
        (∀ loc, fs.lookup j.input = .ok (loc, .directory) → ∃ f, f.is .isDir = true ∧
          f.kind = .unknown ∧
          j.run fs (some (d, s)) stdin cancelled = { fault := some f, files := fs, decoder := some s })) ∧
      (∀ (d : Decoder σ) (s : σ) (e : Errno),
        (j.input = [] ∨ ∃ loc entry, fs.lookup j.input = .ok (loc, entry) ∧ entry ≠ .directory) →
        fs.create j.outputPath = .error e →
        j.run fs (some (d, s)) stdin cancelled =
          { fault := some (.op "create output" Kind.unknown.code j.outputPath
              (some (.system "open" j.outputPath e))), files := fs, decoder := some s }) ∧
      (∀ args input clock, (Cli.run args input fs clock).code = 2 →
        (Cli.run args input fs clock).files = fs) ∧
      (∀ args rest input clock m, Cli.locate (Cli.setupFor args) args = (.main, rest) →
        Cli.Options.ofArgs rest = .error m → (Cli.run args input fs clock).code = 2) ∧
      (∀ o input clock e,
        (if o.config.isEmpty then Settings.loadDefault fs else Settings.load fs o.config) = .error e →
        (Cli.runJob o input fs clock).code = 2 ∧ (Cli.runJob o input fs clock).files = fs) := by
  refine ⟨Job.run_without_decoder j fs stdin cancelled, fun d s hin => ⟨fun h => ?_, fun e h he => ?_,
    fun loc h => ?_⟩, fun d s e hin hc => ?_, fun _ _ _ => Cli.run_files_of_code_two,
    fun _ _ _ _ _ hl ho => (Cli.run_of_bad_options hl ho).1,
    fun _ _ _ _ h => Cli.runJob_settings_fault h⟩
  · obtain ⟨f, hf, hk⟩ := Job.checkInput_missing h
    exact ⟨f, hk, Job.run_of_input_fault j fs d s stdin cancelled hin hf⟩
  · obtain ⟨f, hf, hk⟩ := Job.checkInput_unusable h he
    exact ⟨f, hk, Job.run_of_input_fault j fs d s stdin cancelled hin hf⟩
  · obtain ⟨f, hf, hdir, hk⟩ := Job.checkInput_directory h
    exact ⟨f, hdir, hk, Job.run_of_input_fault j fs d s stdin cancelled hin hf⟩
  · -- only an input that opens lets the job go on to create its output
    refine Job.run_of_create_fault j fs d s stdin cancelled ?_ hc
    rcases hin with hin | ⟨loc, entry, hl, he⟩
    · exact .inl hin
    · exact .inr (Job.checkInput_opens hl he)

theorem file_job_runs_sieve {σ : Type} (j : Job) (fs : Files) (d : Decoder σ) (s : σ)
    (stdin : Source) (cancelled : Bool) (src : Source) {loc : List Bytes} {fs₁ : Files}
    (hout : fs.create j.outputPath = .ok (loc, fs₁))
    (hin : (j.input = [] ∧ src = stdin) ∨ ∃ iloc c x, j.input ≠ [] ∧
      fs.lookup j.input = .ok (iloc, .file c x) ∧ src = { data := if iloc = loc then [] else c }) :
    let I := Sieve.run d BufferedFile.writer (LineCursor.ofSource src)
      (Job.fileStart s cancelled fs₁ loc j.outputPath)
    let R := Sieve.run d Sink.writer (LineCursor.ofSource src) { decoder := s, sink := {}, cancelled }
    let J := j.run fs (some (d, s)) stdin cancelled
    (∀ f, I.2.2 = some f → J.fault = some f) ∧
    (I.2.2 = none → J.fault = Job.closingFault I.1.sink loc j.outputPath) ∧
    (J.fault = none → R.2.2 = none ∧ Files.Appended fs₁ loc R.1.sink.held J.files) ∧
    (R.1.sink.held.length ≤ BufferedFile.capacity →
      J.tally = R.1.tally ∧ J.notes = R.1.notes ∧ J.decoder = some R.1.decoder ∧
      ∀ f, R.2.2 = some f → J.fault = some f) ∧
    (fs.get? loc ≠ some (.device .full) →
      J.tally = R.1.tally ∧ J.notes = R.1.notes ∧ J.decoder = some R.1.decoder ∧
      J.fault = R.2.2 ∧ Files.Appended fs₁ loc R.1.sink.held J.files) ∧
    ((fs.get? loc = none ∨ ∃ c x, fs.get? loc = some (.file c x)) →
      (∃ x, J.files.get? loc = some (.file R.1.sink.held x)) ∧
      ∀ l, l ≠ loc → J.files.get? l = fs.get? l) := by
  intro I R J
  have hJ : J = _ := Job.run_of_created j fs d s stdin cancelled src hout hin
  have hI : Sieve.run d BufferedFile.writer (LineCursor.ofSource src)
    (Job.fileStart s cancelled fs₁ loc j.outputPath) = I := rfl
  rw [hI] at hJ
  have hR : R = Sieve.run d Sink.writer (LineCursor.ofSource src)
    ((Job.fileStart s cancelled fs₁ loc j.outputPath).withSink {}) := rfl
  -- what the job reports, read off its own run, the last write of the buffer and the close
  have hJtally : J.tally = I.1.tally := by rw [hJ]
  have hJnotes : J.notes = I.1.notes := by rw [hJ]
  have hJdec : J.decoder = some I.1.decoder := by rw [hJ]
  have hJfiles : J.files = I.1.sink.flush.2.files := by rw [hJ]
  have hJfault : J.fault = I.2.2.or (Job.closingFault I.1.sink loc j.outputPath) := by rw [hJ]
  have hJrun : ∀ f, I.2.2 = some f → J.fault = some f := by
    intro f hf
    rw [hJfault, hf, Option.some_or]
  have hJclose : I.2.2 = none → J.fault = Job.closingFault I.1.sink loc j.outputPath := by
    intro hf
    rw [hJfault, hf, Option.none_or]
  -- a last write without a fault: the job is the run, and the whole output reached the file
  have hdeliver : I.1.sink.flush.1 = none →
      R.1.tally = I.1.tally ∧ R.1.notes = I.1.notes ∧ R.1.decoder = I.1.decoder ∧ R.2.2 = I.2.2 ∧
        Files.Appended fs₁ loc R.1.sink.held J.files := by
    intro hflush
    rw [← hI] at hflush
    have h := Job.file_run_delivers d src s cancelled fs₁ loc j.outputPath hflush
    rw [hI, ← hR] at h
    rw [hJfiles]
    exact h
  have hfull₁ : fs.get? loc ≠ some (.device .full) → I.1.sink.flush.1 = none := by
    intro hfull
    rw [← hI]
    exact Job.file_run_flushes d src s cancelled fs₁ loc j.outputPath (Files.create_not_full hout hfull)
  have haccept : fs.get? loc ≠ some (.device .full) →
      J.tally = R.1.tally ∧ J.notes = R.1.notes ∧ J.decoder = some R.1.decoder ∧
      J.fault = R.2.2 ∧ Files.Appended fs₁ loc R.1.sink.held J.files := by
    intro hfull
    have hflush := hfull₁ hfull
    obtain ⟨ht, hn, hd, hf, happ⟩ := hdeliver hflush
    refine ⟨hJtally.trans ht.symm, hJnotes.trans hn.symm, hJdec.trans (congrArg some hd.symm), ?_, happ⟩
    rw [hJfault, Job.closingFault_eq_none.2 hflush, Option.or_none, hf]
  refine ⟨hJrun, hJclose, fun hnone => ?_, fun hsmall => ?_, haccept, fun hreg => ?_⟩
  · -- no fault: neither the run nor the last write failed
    have hI2 : I.2.2 = none := by
      cases hI2 : I.2.2 with
      | none => rfl
      | some f => rw [hJrun f hI2] at hnone; cases hnone
    have hflush : I.1.sink.flush.1 = none :=
      Job.closingFault_eq_none.1 ((hJclose hI2).symm.trans hnone)
    obtain ⟨-, -, -, hf, happ⟩ := hdeliver hflush
    exact ⟨hf.trans hI2, happ⟩
  · -- an output that fits in the buffer: the run into the file is the run, fault included
    rw [hR] at hsmall
    have h := Job.file_run_of_small d src s cancelled fs₁ loc j.outputPath hsmall
    rw [hI, ← hR] at h
    obtain ⟨ht, hn, hd, hf⟩ := h
    exact ⟨hJtally.trans ht, hJnotes.trans hn, hJdec.trans (congrArg some hd),
      fun f hRf => hJrun f (hf.trans hRf)⟩
  · -- a regular file: it now holds exactly the output
    obtain ⟨x, rfl⟩ := Files.create_regular hout hreg
    have hfull : fs.get? loc ≠ some (.device .full) := by
      rcases hreg with hreg | ⟨c, x', hreg⟩ <;> simp [hreg]
    obtain ⟨-, -, -, -, happ⟩ := haccept hfull
    refine ⟨⟨x, by simpa using happ.get?_file (Files.get?_put_self fs loc _)⟩, fun l hl => ?_⟩
    rw [happ.get?_ne hl, Files.get?_put_ne _ _ hl]

theorem file_job_runs_sieve_on_its_output :
    ({ entries := [([[0x6F]], .file [0x61] false)], home := [] } : Files).create
        (Job.outputPath { input := [0x6F], output := [0x6F] }) =
      .ok ([[0x6F]], Files.put ⟨[([[0x6F]], .file [0x61] false)], []⟩ [[0x6F]] (.file [] false)) ∧
    (([0x6F] : Bytes) = [] ∧ ({ data := [] } : Source) = { data := [] } ∨
      ∃ iloc c x, ([0x6F] : Bytes) ≠ [] ∧
        Files.lookup ⟨[([[0x6F]], .file [0x61] false)], []⟩ [0x6F] = .ok (iloc, .file c x) ∧
        ({ data := [] } : Source) = { data := if iloc = [[0x6F]] then [] else c }) ∧
    let I := Sieve.run (Decoder.recording fun sym => { result := .ok sym }) BufferedFile.writer
      (LineCursor.ofSource { data := [] })
      (Job.fileStart [] false (Files.put ⟨[([[0x6F]], .file [0x61] false)], []⟩ [[0x6F]] (.file [] false))
        [[0x6F]] (Job.outputPath { input := [0x6F], output := [0x6F] }))
    let R := Sieve.run (Decoder.recording fun sym => { result := .ok sym }) Sink.writer
      (LineCursor.ofSource { data := [] }) { decoder := [], sink := {}, cancelled := false }
    let J := Job.run { input := [0x6F], output := [0x6F] } ⟨[([[0x6F]], .file [0x61] false)], []⟩
      (some (Decoder.recording fun sym => { result := .ok sym }, [])) { data := [] } false
    (∀ f, I.2.2 = some f → J.fault = some f) ∧
    (I.2.2 = none →
      J.fault = Job.closingFault I.1.sink [[0x6F]] (Job.outputPath { input := [0x6F], output := [0x6F] })) ∧
    (J.fault = none → R.2.2 = none ∧ Files.Appended
      (Files.put ⟨[([[0x6F]], .file [0x61] false)], []⟩ [[0x6F]] (.file [] false)) [[0x6F]]
      R.1.sink.held J.files) ∧
    (R.1.sink.held.length ≤ BufferedFile.capacity →
      J.tally = R.1.tally ∧ J.notes = R.1.notes ∧ J.decoder = some R.1.decoder ∧
      ∀ f, R.2.2 = some f → J.fault = some f) ∧
    (Files.get? ⟨[([[0x6F]], .file [0x61] false)], []⟩ [[0x6F]] ≠ some (.device .full) →
      J.tally = R.1.tally ∧ J.notes = R.1.notes ∧ J.decoder = some R.1.decoder ∧
      J.fault = R.2.2 ∧ Files.Appended
        (Files.put ⟨[([[0x6F]], .file [0x61] false)], []⟩ [[0x6F]] (.file [] false)) [[0x6F]]
        R.1.sink.held J.files) ∧
    ((Files.get? ⟨[([[0x6F]], .file [0x61] false)], []⟩ [[0x6F]] = none ∨
        ∃ c x, Files.get? ⟨[([[0x6F]], .file [0x61] false)], []⟩ [[0x6F]] = some (.file c x)) →
      (∃ x, J.files.get? [[0x6F]] = some (.file R.1.sink.held x)) ∧
      ∀ l, l ≠ [[0x6F]] → J.files.get? l = Files.get? ⟨[([[0x6F]], .file [0x61] false)], []⟩ l) :=
  ⟨rfl, .inr ⟨[[0x6F]], [0x61], false, by decide, rfl, rfl⟩,
    file_job_runs_sieve _ _ _ _ _ _ _ rfl (.inr ⟨[[0x6F]], [0x61], false, by decide, rfl, rfl⟩)⟩

end SymbolSieve
