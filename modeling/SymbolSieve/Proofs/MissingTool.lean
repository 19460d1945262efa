import Mathlib
import SymbolSieve.Proofs.FileJob
import SymbolSieve.Proofs.SourceLines

namespace SymbolSieve

namespace Host

theorem resolve_error {fs : Files} {name : Bytes} {f : Fault} (h : resolve fs name = .error f) :
    f = .launch name .notOnPath ∨ ∃ e, f = .launch name (.refused e) := by
  unfold resolve at h
  split at h
  · cases h
  split at h
  · -- a path: the entry it names is missing, a directory, or not runnable
    split at h
    · cases h
      exact .inr ⟨_, rfl⟩
    · cases h
      exact .inr ⟨_, rfl⟩
    · split at h
      · cases h
      · cases h
        exact .inr ⟨_, rfl⟩
  · -- a name: nothing along the search path runs
    dsimp only at h
    split at h
    · cases h
    · cases h
      exact .inl rfl

theorem resolve_error_is {fs : Files} {name : Bytes} {f : Fault} (h : resolve fs name = .error f)
    {s : Sentinel} (hs : s ≠ .notExist) : f.is s = false := by
  rcases resolve_error h with rfl | ⟨e, rfl⟩ <;> simp [Fault.is, Fault.matchesHere, hs]

theorem command_error_is {fs : Files} {name : Bytes} {args : List Bytes} {f : Fault}
    (h : command fs name args = .error f) {s : Sentinel} (hs : s ≠ .notExist) : f.is s = false := by
  unfold command at h
  rcases hr : resolve fs name with f' | path
  · rw [hr] at h
    cases h
    exact resolve_error_is hr hs
  · rw [hr] at h
    simp only [bind, Except.bind] at h
    split at h
    · cases h
      simp [Fault.is, Fault.matchesHere, hs]
    · cases h

theorem command_of_resolve_error {fs : Files} {name : Bytes} {f : Fault}
    (h : resolve fs name = .error f) (args : List Bytes) : command fs name args = .error f := by
  rw [command, h]
  rfl

end Host

namespace Tool

def missingOn (fs : Files) (t : Tool) : Bool :=
  match Host.resolve fs t.name with
  | .error f => isMissing f
  | .ok _ => false

theorem command_of_missingOn {fs : Files} {t : Tool} (h : t.missingOn fs = true) (as : List Bytes) :
    ∃ f, Host.command fs t.name as = .error f ∧ isMissing f = true := by
  unfold missingOn at h
  rcases hr : Host.resolve fs t.name with f | p <;> rw [hr] at h
  · exact ⟨f, Host.command_of_resolve_error hr as, h⟩
  · cases h

theorem decode_of_missing {t : Tool} {fs : Files} {symbol : Bytes} {f : Fault}
    (h : Host.command fs t.name (t.args ++ [symbol]) = .error f) (hm : isMissing f = true) :
    t.decode fs false symbol = (.error (.decode Kind.toolMissing.code t.name [] [] (some f)), fs) := by
  simp [decode, run, h, hm]

theorem missing_kind (name : Bytes) {f : Fault} (hf : ∀ s, s ≠ .notExist → f.is s = false) :
    (Fault.decode Kind.toolMissing.code name [] [] (some f)).kind = .toolMissing ∧
      (Fault.decode Kind.toolMissing.code name [] [] (some f)).is .decodeFailure = false := by
  have h₁ := hf .notFound (by decide)
  have h₂ := hf .decodeFailure (by decide)
  simp [Fault.kind, Fault.is, Fault.matchesHere, Kind.code, Kind.ofCode, Sentinel.ofKind?, h₁, h₂]

end Tool

namespace Sieve

variable {σ ω : Type}

theorem visit_of_not_candidate (d : Decoder σ) (w : Writer ω) (p : Progress σ ω) (line : Nat)
    {l : Bytes} (hm : Candidate.test (Text.trim l) = false) :
    visit d w p line l = ({ p with tally := { p.tally with lines := p.tally.lines + 1 } }, none) := by
  simp [visit, hm]

theorem visit_of_refused {d : Decoder σ} (w : Writer ω) {p : Progress σ ω} (line : Nat) {l : Bytes}
    (hm : Candidate.test (Text.trim l) = true) (hc : p.cancelled = false) {f : Fault}
    (hf : (d.decode p.decoder (Text.trim l)).1.result = .error f) (hnd : f.is .decodeFailure = false) :
    (visit d w p line l).2 = some f ∧ (visit d w p line l).1.sink = p.sink := by
  rcases hdec : d.decode p.decoder (Text.trim l) with ⟨⟨res, canc⟩, s⟩
  rw [hdec] at hf
  cases hf
  simp [visit, hm, hc, hdec, hnd]

theorem visitAll_of_refusing (d : Decoder σ) (w : Writer ω) (ls : List Bytes) {p : Progress σ ω}
    (hd : ∀ sym, ∃ f, (d.decode p.decoder sym).1.result = .error f ∧ f.is .decodeFailure = false)
    (hc : p.cancelled = false) :
    (visitAll d w p ls).1.sink = p.sink ∧
      ((visitAll d w p ls).2 = none ↔ ∀ l ∈ ls, Candidate.test (Text.trim l) = false) ∧
      ∀ f, (visitAll d w p ls).2 = some f → ∃ sym, (d.decode p.decoder sym).1.result = .error f := by
  induction ls generalizing p with
  | nil => simp [visitAll_nil]
  | cons l ls ih =>
    by_cases hm : Candidate.test (Text.trim l) = true
    · -- the first candidate: the decoder refuses it and the run stops
      obtain ⟨f, hf, hnd⟩ := hd (Text.trim l)
      obtain ⟨hv, hsink⟩ := visit_of_refused w (p.tally.lines + 1) hm hc hf hnd
      rcases hvis : visit d w p (p.tally.lines + 1) l with ⟨p', _ | f'⟩ <;> rw [hvis] at hv hsink <;> cases hv
      rw [visitAll_cons_of_some hvis]
      refine ⟨hsink, ?_, fun f' hf' => ⟨Text.trim l, by cases hf'; exact hf⟩⟩
      simp only [reduceCtorEq, false_iff, not_forall]
      exact ⟨l, List.mem_cons_self, by simp [hm]⟩
    · -- a line that is no candidate leaves the decoder and the sink as they were
      rw [Bool.not_eq_true] at hm
      rw [visitAll_cons_of_none (visit_of_not_candidate d w p _ hm)]
      obtain ⟨hsink, hnone, hsome⟩ :=
        ih (p := { p with tally := { p.tally with lines := p.tally.lines + 1 } }) hd hc
      refine ⟨hsink, ?_, hsome⟩
      rw [hnone, List.forall_mem_cons]
      simp [hm]

end Sieve

namespace Job

theorem run_of_missing_tool (j : Job) (fs : Files) (t : Tool) (stdin src : Source)
    {loc : List Bytes} {fs₁ : Files}
    (hmissing : ∀ as, ∃ f, Host.command fs t.name as = .error f ∧ Tool.isMissing f = true)
    (hout : fs.create j.outputPath = .ok (loc, fs₁))
    (hin : (j.input = [] ∧ src = stdin) ∨ ∃ iloc c x, j.input ≠ [] ∧
      fs.lookup j.input = .ok (iloc, .file c x) ∧ src = { data := if iloc = loc then [] else c })
    (hclean : src.ending = .clean) :
    let J := j.run fs (some (t.decoder, fs)) stdin false
    J.files = fs₁ ∧
      (J.fault = none ↔
        ∀ l ∈ (LineCursor.ofSource src).drain.1, Candidate.test (Text.trim l) = false) ∧
      ∀ f, J.fault = some f → f.kind = .toolMissing := by
  intro J
  have hJ : J = _ := run_of_created j fs t.decoder fs stdin false src hout hin
  -- the tool refuses every symbol on the host it starts from
  have hd : ∀ sym, ∃ f, (t.decoder.decode fs sym).1.result = .error f ∧
      f.is .decodeFailure = false ∧ f.kind = .toolMissing := by
    intro sym
    obtain ⟨f, hf, hm⟩ := hmissing (t.args ++ [sym])
    have hk := Tool.missing_kind t.name (fun s hs => Host.command_error_is hf hs)
    refine ⟨_, ?_, hk.2, hk.1⟩
    simp [Tool.decoder, Tool.decode_of_missing hf hm]
  set start := fileStart fs false fs₁ loc j.outputPath
  obtain ⟨hrun₁, hrun₂⟩ :=
    Sieve.run_eq_visitAll t.decoder BufferedFile.writer (c := LineCursor.ofSource src) rfl start rfl
  obtain ⟨hsink, hnone, hsome⟩ :=
    Sieve.visitAll_of_refusing t.decoder BufferedFile.writer (LineCursor.ofSource src).drain.1
      (p := start) (fun sym => (hd sym).imp fun _ h => ⟨h.1, h.2.1⟩) rfl
  -- nothing was written, so nothing is buffered and the last write does nothing
  have hflush : (Sieve.run t.decoder BufferedFile.writer (LineCursor.ofSource src) start).1.sink.flush =
      (none, start.sink) := by
    rw [hrun₁, hsink]
    exact BufferedFile.flush_of_empty rfl rfl
  have hend : (LineCursor.ofSource src).ending.failure? = none := by
    simp [LineCursor.ofSource, LineCursor.start, hclean, Ending.failure?]
  rw [hend, Option.map_none, Option.or_none] at hrun₂
  have hclose : closingFault (Sieve.run t.decoder BufferedFile.writer (LineCursor.ofSource src)
      start).1.sink loc j.outputPath = none := closingFault_eq_none.2 (by rw [hflush])
  refine ⟨?_, ?_, fun f hf => ?_⟩
  · rw [hJ]
    dsimp only
    rw [hflush]
    rfl
  · rw [hJ]
    simp [hclose, hrun₂, hnone]
  · rw [hJ] at hf
    simp only [hclose, hrun₂, Option.or_none] at hf
    obtain ⟨sym, hsym⟩ := hsome f hf
    obtain ⟨f', h₁, -, hk⟩ := hd sym
    change (t.decoder.decode fs sym).1.result = .error f at hsym
    rw [h₁] at hsym
    cases hsym
    exact hk

end Job

theorem Except.eq_ok_of_toOption {ε α : Type} {x : Except ε α} {a : α} (h : x.toOption = some a) :
    x = .ok a := by
  cases x with
  | error e => simp [Except.toOption] at h
  | ok a' => simp_all [Except.toOption]

theorem Except.exists_of_toOption_fst {ε α β : Type} {x : Except ε (α × β)} {a : α}
    (h : x.toOption.map Prod.fst = some a) : ∃ b, x = .ok (a, b) := by
  cases x with
  | error e => simp [Except.toOption] at h
  | ok r =>
    simp only [Except.toOption, Option.map_some, Option.some.injEq] at h
    exact ⟨r.2, by rw [← h]⟩

namespace Cli

theorem run_eq_runJob {args rest : List Bytes} {stdin : Bytes} {fs : Files} {clock : Bytes}
    {o : Options} (hl : locate (setupFor args) args = (.main, rest)) (ho : Options.ofArgs rest = .ok o)
    (hhelp : o.help = false) (hone : o.operands.length ≤ 1) :
    run args stdin fs clock = runJob o stdin fs clock := by
  simp [run, hl, ho, hhelp, Nat.not_lt.2 hone]

theorem outputPath_eq (input : Bytes) :
    ({ input, output := outputFile } : Job).outputPath = outputFile := by
  have h : outputFile.isEmpty = false := by decide +kernel
  simp [Job.outputPath, h]

def missingToolMessage (name : Bytes) : Bytes :=
  Bytes.ofString "Error: " ++ name ++ Bytes.ofString " not found. Please ensure it is installed." ++ [0x0A]

theorem runJob_of_missing_tool {o : Options} {stdin : Bytes} {fs : Files} {clock : Bytes}
    {cfg : Settings} {loc : List Bytes} {fs₁ : Files} {src : Source}
    (hcfg : (if o.config.isEmpty then Settings.loadDefault fs else Settings.load fs o.config) = .ok cfg)
    (hmissing : ∀ as, ∃ f, Host.command fs (Tool.name ⟨cfg.tool, cfg.args⟩) as = .error f ∧
      Tool.isMissing f = true)
    (hout : fs.create outputFile = .ok (loc, fs₁))
    (hin : (o.operands.headD [] = [] ∧ src = { data := stdin }) ∨ ∃ iloc c x,
      o.operands.headD [] ≠ [] ∧ fs.lookup (o.operands.headD []) = .ok (iloc, .file c x) ∧
      src = { data := if iloc = loc then [] else c }) :
    (runJob o stdin fs clock).files = fs₁ ∧
      ((runJob o stdin fs clock).code = 127 ↔
        ∃ l ∈ (LineCursor.ofSource src).drain.1, Candidate.test (Text.trim l) = true) ∧
      ((runJob o stdin fs clock).code = 0 ↔
        ∀ l ∈ (LineCursor.ofSource src).drain.1, Candidate.test (Text.trim l) = false) ∧
      ∃ log, (runJob o stdin fs clock).stderr = log ++
        (if (runJob o stdin fs clock).code = 127 then
          missingToolMessage (Tool.name ⟨cfg.tool, cfg.args⟩) else []) ∧ ((cfg.debug || o.debug) = false → log = []) := by
  have hclean : src.ending = .clean := by
    rcases hin with ⟨-, rfl⟩ | ⟨_, _, _, -, -, rfl⟩ <;> rfl
  obtain ⟨hfiles, hnone, hsome⟩ :=
    Job.run_of_missing_tool { input := o.operands.headD [], output := outputFile } fs
      ⟨cfg.tool, cfg.args⟩ { data := stdin } src hmissing (by rw [outputPath_eq]; exact hout) hin hclean
  unfold runJob
  rw [hcfg]
  dsimp only
  refine ⟨hfiles, ?_⟩
  by_cases hf : (({ input := o.operands.headD [], output := outputFile } : Job).run fs
      (some ((⟨cfg.tool, cfg.args⟩ : Tool).decoder, fs)) { data := stdin } false).fault = none
  · -- no fault: no line was a candidate, and only the log is written
    have hno := hnone.1 hf
    simp only [hf]
    rw [if_pos (show ((0 : Nat) == 0) = true from rfl), if_neg (show (0 : Nat) ≠ 127 by decide)]
    refine ⟨⟨fun h => absurd h (by decide), fun ⟨l, hl, hc⟩ => by simp [hno l hl] at hc⟩,
      by simpa using hno, _, rfl, fun h => by simp [h]⟩
  · -- the missing tool stopped the run at a candidate line
    obtain ⟨f, hf⟩ := Option.ne_none_iff_exists'.1 hf
    have hk := hsome f hf
    have hfound : ¬∀ l ∈ (LineCursor.ofSource src).drain.1, Candidate.test (Text.trim l) = false :=
      fun h => by rw [hnone.2 h] at hf; cases hf
    have hmsg : Bytes.ofString "Error: " ++ (Tool.name ⟨cfg.tool, cfg.args⟩ ++
        Bytes.ofString " not found. Please ensure it is installed.") ++ [0x0A] =
        missingToolMessage (Tool.name ⟨cfg.tool, cfg.args⟩) := by
      simp [missingToolMessage]
    simp only [hf, hk]
    rw [if_neg (show ((127 : Nat) == 0) ≠ true by decide), if_pos trivial, hmsg]
    refine ⟨⟨fun _ => by simpa using hfound, fun _ => trivial⟩, ⟨fun h => absurd h (by decide),
      fun h => absurd h hfound⟩, _, rfl, fun h => by simp [h]⟩

end Cli

theorem missing_tool_exit_iff_candidate {args rest : List Bytes} {stdin : Bytes} {fs : Files}
    {clock : Bytes} {o : Cli.Options} {cfg : Settings} {loc : List Bytes} {fs₁ : Files} {src : Source}
    (hl : Cli.locate (Cli.setupFor args) args = (.main, rest)) (ho : Cli.Options.ofArgs rest = .ok o)
    (hhelp : o.help = false) (hone : o.operands.length ≤ 1)
    (hcfg : (if o.config.isEmpty then Settings.loadDefault fs else Settings.load fs o.config) = .ok cfg)
    (hmissing : ∀ as, ∃ f, Host.command fs (Tool.name ⟨cfg.tool, cfg.args⟩) as = .error f ∧
      Tool.isMissing f = true)
    (hout : fs.create Cli.outputFile = .ok (loc, fs₁))
    (hreg : fs.get? loc = none ∨ ∃ c x, fs.get? loc = some (.file c x))
    (hin : (o.operands.headD [] = [] ∧ src = { data := stdin }) ∨ ∃ iloc c x,
      o.operands.headD [] ≠ [] ∧ fs.lookup (o.operands.headD []) = .ok (iloc, .file c x) ∧
      src = { data := if iloc = loc then [] else c }) :
    let E := Cli.run args stdin fs clock
    (E.code = 127 ↔ ∃ l ∈ (LineCursor.ofSource src).drain.1, Candidate.test (Text.trim l) = true) ∧
    (E.code = 0 ↔ ∀ l ∈ (LineCursor.ofSource src).drain.1, Candidate.test (Text.trim l) = false) ∧
    (∃ log, E.stderr = log ++
        (if E.code = 127 then Cli.missingToolMessage (Tool.name ⟨cfg.tool, cfg.args⟩) else []) ∧
      ((cfg.debug || o.debug) = false → log = [])) ∧
    (∃ x, E.files.get? loc = some (.file [] x)) ∧ ∀ l, l ≠ loc → E.files.get? l = fs.get? l := by
  intro E
  have hE : E = Cli.runJob o stdin fs clock := Cli.run_eq_runJob hl ho hhelp hone
  obtain ⟨hfiles, h127, h0, hlog⟩ :=
    @Cli.runJob_of_missing_tool o stdin fs clock cfg loc fs₁ src hcfg hmissing hout hin
  rw [← hE] at hfiles h127 h0 hlog
  -- the output file is created empty, and the run writes nothing to it
  obtain ⟨x, rfl⟩ := Files.create_regular hout hreg
  refine ⟨h127, h0, hlog, ⟨x, by rw [hfiles, Files.get?_put_self]⟩, fun l hne => ?_⟩
  rw [hfiles, Files.get?_put_ne _ _ hne]

theorem missing_tool_exit_on_symbols_file :
    let host := (Files.fresh.put (Files.scratch ++ [Bytes.ofString "tm.yaml"])
      (.file (Bytes.ofString "tool: c2filt-no-such-demangler\n") false)).put
      (Files.scratch ++ [Bytes.ofString "symbols.txt"]) (.file (Bytes.ofString "0000000000C2foo\n") false)
    let E :=
      Cli.run [Bytes.ofString "-c", Bytes.ofString "tm.yaml", Bytes.ofString "symbols.txt"] [] host []
    Tool.missingOn host ⟨Bytes.ofString "c2filt-no-such-demangler", []⟩ = true ∧ E.code = 127 ∧
      E.stderr = Cli.missingToolMessage (Bytes.ofString "c2filt-no-such-demangler") := by
  intro host E
  have hmissing : Tool.missingOn host ⟨Bytes.ofString "c2filt-no-such-demangler", []⟩ = true := by
    decide +kernel
  have hcfg : (Settings.load host (Bytes.ofString "tm.yaml")).toOption =
      some { tool := Bytes.ofString "c2filt-no-such-demangler" } := by
    decide +kernel
  have hloc : (host.create Cli.outputFile).toOption.map Prod.fst =
      some (Files.scratch ++ [Bytes.ofString "result.txt"]) := by
    decide +kernel
  obtain ⟨fs₁, hout⟩ := Except.exists_of_toOption_fst hloc
  have hlookup : (host.lookup (Bytes.ofString "symbols.txt")).toOption =
      some (Files.scratch ++ [Bytes.ofString "symbols.txt"],
        .file (Bytes.ofString "0000000000C2foo\n") false) := by
    decide +kernel
  obtain ⟨h127, -, ⟨log, hlog, hquiet⟩, -⟩ := @missing_tool_exit_iff_candidate
    [Bytes.ofString "-c", Bytes.ofString "tm.yaml", Bytes.ofString "symbols.txt"]
    [Bytes.ofString "-c", Bytes.ofString "tm.yaml", Bytes.ofString "symbols.txt"] [] host []
    { config := Bytes.ofString "tm.yaml", operands := [Bytes.ofString "symbols.txt"] }
    { tool := Bytes.ofString "c2filt-no-such-demangler" } (Files.scratch ++ [Bytes.ofString "result.txt"])
    fs₁ { data := Bytes.ofString "0000000000C2foo\n" } (by decide +kernel) (by decide +kernel) rfl
    (by decide) (by rw [if_neg (by decide +kernel)]; exact Except.eq_ok_of_toOption hcfg)
    (Tool.command_of_missingOn hmissing) hout
    (.inl (by decide +kernel))
    (.inr ⟨_, _, _, by decide +kernel, Except.eq_ok_of_toOption hlookup,
      by rw [if_neg (by decide +kernel)]⟩)
  have hlines : (LineCursor.ofSource { data := Bytes.ofString "0000000000C2foo\n" }).drain.1 =
      [Bytes.ofString "0000000000C2foo"] := by
    rw [(LineCursor.ofSource_yields _ 0).2.1, Source.text_unmarked 0 (by decide +kernel)]
    decide +kernel
  have hcode : E.code = 127 :=
    h127.2 ⟨_, by rw [hlines]; exact List.mem_singleton_self _, by decide +kernel⟩
  refine ⟨hmissing, hcode, ?_⟩
  rw [hlog, hquiet rfl, if_pos hcode, List.nil_append]
  decide +kernel

theorem missing_tool_unseen_when_input_is_output :
    let host := (Files.fresh.put (Files.scratch ++ [Bytes.ofString "tm.yaml"])
      (.file (Bytes.ofString "tool: c2filt-no-such-demangler\n") false)).put
      (Files.scratch ++ [Bytes.ofString "result.txt"]) (.file (Bytes.ofString "0000000000C2foo\n") false)
    let E := Cli.run [Bytes.ofString "-c", Bytes.ofString "tm.yaml", Bytes.ofString "result.txt"] [] host []
    (host.readAll (Bytes.ofString "result.txt")).toOption = some (Bytes.ofString "0000000000C2foo\n") ∧
      Candidate.test (Text.trim (Bytes.ofString "0000000000C2foo")) = true ∧
      Tool.missingOn host ⟨Bytes.ofString "c2filt-no-such-demangler", []⟩ = true ∧
      E.code = 0 ∧ E.stderr = [] := by
  intro host E
  have hmissing : Tool.missingOn host ⟨Bytes.ofString "c2filt-no-such-demangler", []⟩ = true := by
    decide +kernel
  have hcfg : (Settings.load host (Bytes.ofString "tm.yaml")).toOption =
      some { tool := Bytes.ofString "c2filt-no-such-demangler" } := by
    decide +kernel
  have hloc : (host.create Cli.outputFile).toOption.map Prod.fst =
      some (Files.scratch ++ [Bytes.ofString "result.txt"]) := by
    decide +kernel
  obtain ⟨fs₁, hout⟩ := Except.exists_of_toOption_fst hloc
  have hlookup : (host.lookup (Bytes.ofString "result.txt")).toOption =
      some (Files.scratch ++ [Bytes.ofString "result.txt"],
        .file (Bytes.ofString "0000000000C2foo\n") false) := by
    decide +kernel
  have hE : E = Cli.runJob { config := Bytes.ofString "tm.yaml", operands := [Bytes.ofString "result.txt"] }
      [] host [] :=
    @Cli.run_eq_runJob [Bytes.ofString "-c", Bytes.ofString "tm.yaml", Bytes.ofString "result.txt"]
      [Bytes.ofString "-c", Bytes.ofString "tm.yaml", Bytes.ofString "result.txt"] [] host []
      { config := Bytes.ofString "tm.yaml", operands := [Bytes.ofString "result.txt"] }
      (by decide +kernel) (by decide +kernel) rfl (by decide)
  -- the input is read from the emptied output file
  obtain ⟨-, -, h0, ⟨log, hlog, hquiet⟩⟩ := @Cli.runJob_of_missing_tool
    { config := Bytes.ofString "tm.yaml", operands := [Bytes.ofString "result.txt"] } [] host []
    { tool := Bytes.ofString "c2filt-no-such-demangler" } (Files.scratch ++ [Bytes.ofString "result.txt"])
    fs₁ { data := [] } (by rw [if_neg (by decide +kernel)]; exact Except.eq_ok_of_toOption hcfg)
    (Tool.command_of_missingOn hmissing) hout
    (.inr ⟨_, _, _, by decide +kernel, Except.eq_ok_of_toOption hlookup, by rw [if_pos rfl]⟩)
  rw [← hE] at h0 hlog
  have hnil : (LineCursor.ofSource { data := [] }).drain.1 = [] := by
    rw [(LineCursor.ofSource_yields _ 0).2.1, Source.text_unmarked 0 (by decide)]
    rfl
  have hcode : E.code = 0 := h0.2 (by simp [hnil])
  refine ⟨by decide +kernel, by decide +kernel, hmissing, hcode, ?_⟩
  rw [hlog, hquiet rfl, if_neg (by rw [hcode]; decide), List.append_nil]

end SymbolSieve
