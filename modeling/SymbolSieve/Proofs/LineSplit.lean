import SymbolSieve.Stream.Lines

namespace SymbolSieve

namespace Lines

def Plain (l : Bytes) : Prop := cr ∉ l ∧ lf ∉ l

def joinCrLf : Bytes → Bytes
  | [] => []
  | b :: t => if b = cr ∧ t.head? = some lf then joinCrLf t else b :: joinCrLf t

def unifyBreaks (bs : Bytes) : Bytes := (joinCrLf bs).map fun b => if b = cr then lf else b

def dropEmptyLast (ls : List Bytes) : List Bytes :=
  if ls.getLast? = some [] then ls.dropLast else ls

def ofText (bs : Bytes) : List Bytes := dropEmptyLast ((unifyBreaks bs).splitOn lf)

theorem lf_ne_cr : lf ≠ cr := by decide

@[simp] theorem plain_nil : Plain [] := by simp [Plain]

theorem plain_cons {b : UInt8} {l : Bytes} : Plain (b :: l) ↔ (b ≠ cr ∧ b ≠ lf) ∧ Plain l := by
  simp only [Plain, List.mem_cons, not_or]
  grind

@[simp] theorem unifyBreaks_nil : unifyBreaks [] = [] := rfl

@[simp] theorem ofText_nil : ofText [] = [] := rfl

theorem unifyBreaks_cons_of_ne {b : UInt8} (t : Bytes) (hb : b ≠ cr) :
    unifyBreaks (b :: t) = b :: unifyBreaks t := by
  simp [unifyBreaks, joinCrLf, hb]

theorem unifyBreaks_cr (t : Bytes) :
    unifyBreaks (cr :: t) = lf :: unifyBreaks (if t.head? = some lf then t.tail else t) := by
  cases t with
  | nil => rfl
  | cons b t =>
    by_cases hb : b = lf
    · subst hb
      simp [unifyBreaks, joinCrLf, lf_ne_cr]
    · simp [unifyBreaks, joinCrLf, hb]

theorem unifyBreaks_plain_append {l : Bytes} (r : Bytes) (hl : Plain l) :
    unifyBreaks (l ++ r) = l ++ unifyBreaks r := by
  induction l with
  | nil => rfl
  | cons b l ih =>
    obtain ⟨⟨hcr, -⟩, hl⟩ := plain_cons.1 hl
    rw [List.cons_append, unifyBreaks_cons_of_ne _ hcr, ih hl, List.cons_append]

theorem cut_none {t l : Bytes} (h : cut t = (l, none)) : l = t ∧ Plain t := by
  induction t generalizing l with
  | nil => simp_all [cut]
  | cons b t ih =>
    simp only [cut] at h
    split at h
    · cases h
    · split at h
      · cases h
      · rcases hc : cut t with ⟨l', r'⟩
        rw [hc] at h
        cases h
        obtain ⟨rfl, hp⟩ := ih hc
        exact ⟨rfl, plain_cons.2 ⟨⟨by assumption, by assumption⟩, hp⟩⟩

theorem cut_some {t l r : Bytes} (h : cut t = (l, some r)) :
    Plain l ∧ unifyBreaks t = l ++ lf :: unifyBreaks r := by
  induction t generalizing l with
  | nil => simp [cut] at h
  | cons b t ih =>
    simp only [cut] at h
    split at h
    · cases h
      subst b
      exact ⟨plain_nil, unifyBreaks_cons_of_ne _ lf_ne_cr⟩
    · split at h
      · cases h
        subst b
        exact ⟨plain_nil, unifyBreaks_cr t⟩
      · rcases hc : cut t with ⟨l', r'⟩
        rw [hc] at h
        cases h
        obtain ⟨hp, hu⟩ := ih hc
        refine ⟨plain_cons.2 ⟨⟨by assumption, by assumption⟩, hp⟩, ?_⟩
        rw [unifyBreaks_cons_of_ne _ (by assumption), hu, List.cons_append]

theorem cut_plain_append {p : Bytes} (rest : Bytes) (hp : Plain p) :
    cut (p ++ rest) = (p ++ (cut rest).1, (cut rest).2) := by
  induction p with
  | nil => rfl
  | cons b p ih =>
    obtain ⟨⟨hcr, hlf⟩, hp⟩ := plain_cons.1 hp
    simp [cut, hcr, hlf, ih hp]

theorem dropEmptyLast_cons (l : Bytes) {ls : List Bytes} (h : ls ≠ []) :
    dropEmptyLast (l :: ls) = l :: dropEmptyLast ls := by
  obtain ⟨x, xs, rfl⟩ := List.exists_cons_of_ne_nil h
  simp only [dropEmptyLast, List.getLast?_cons_cons]
  split <;> simp [List.dropLast_cons_of_ne_nil]

theorem ofText_cut_some {t l r : Bytes} (h : cut t = (l, some r)) : ofText t = l :: ofText r := by
  obtain ⟨hl, hu⟩ := cut_some h
  rw [ofText, hu, List.splitOn_append_cons_self_of_not_mem hl.2,
    dropEmptyLast_cons _ (List.splitOn_ne_nil _ _)]
  rfl

theorem ofText_plain {t : Bytes} (h : Plain t) : ofText t = if t = [] then [] else [t] := by
  have hu : unifyBreaks t = t := by simpa using unifyBreaks_plain_append [] h
  rw [ofText, hu, List.splitOn_eq_singleton h.2]
  split
  · subst t; rfl
  · simp_all [dropEmptyLast]

theorem induction_cut {motive : Bytes → Prop} (plain : ∀ t, Plain t → motive t)
    (split : ∀ t l r, cut t = (l, some r) → motive r → motive t) (t : Bytes) : motive t := by
  rcases hc : cut t with ⟨l, _ | r⟩
  · exact plain t (cut_none hc).2
  · exact split t l r hc (induction_cut plain split r)
termination_by t.length
decreasing_by exact cut_rest_length hc

theorem cut_some_filter {t l r : Bytes} (h : cut t = (l, some r)) :
    t.filter (fun b => b != cr && b != lf) = l ++ r.filter (fun b => b != cr && b != lf) := by
  induction t generalizing l with
  | nil => simp [cut] at h
  | cons b t ih =>
    simp only [cut] at h
    split at h
    · cases h
      simp [*]
    · split at h
      · cases h
        cases t with
        | nil => simp [*]
        | cons b' t => by_cases hb' : b' = lf <;> simp [*]
      · rcases hc : cut t with ⟨l', r'⟩
        rw [hc] at h
        cases h
        simp [*, ih hc]

theorem plain_of_mem_ofText (t : Bytes) : ∀ l ∈ ofText t, Plain l := by
  induction t using induction_cut with
  | plain t hp =>
    rw [ofText_plain hp]
    split <;> simp_all
  | split t l r hc ih =>
    rw [ofText_cut_some hc]
    exact List.forall_mem_cons.2 ⟨(cut_some hc).1, ih⟩

theorem flatten_ofText (t : Bytes) :
    (ofText t).flatten = t.filter (fun b => b != cr && b != lf) := by
  induction t using induction_cut with
  | plain t hp =>
    rw [ofText_plain hp]
    split
    · simp_all
    · rw [List.flatten_singleton, List.filter_eq_self.2]
      intro b hb
      have : b ≠ cr ∧ b ≠ lf := ⟨fun h => hp.1 (h ▸ hb), fun h => hp.2 (h ▸ hb)⟩
      simp [this]
  | split t l r hc ih =>
    rw [ofText_cut_some hc, List.flatten_cons, ih, cut_some_filter hc]

end Lines

namespace LineCursor

structure View where
  rest : Bytes
  ending : Ending
  count : Nat
  done : Bool

def view (c : LineCursor) : View := ⟨c.rest, c.ending, c.count, c.done⟩

def View.next (v : View) : LineStep × View :=
  if v.done then (.finished, v)
  else
    match Lines.cut v.rest, v.ending with
    | (l, some r), _ => (.line l, { v with rest := r, count := v.count + 1 })
    | (_, none), .failure m => (.failed m, { v with rest := [], done := true })
    | (l, none), .clean =>
      if l = [] then (.finished, { v with rest := [], done := true })
      else (.line l, { v with rest := [], count := v.count + 1, done := true })

theorem next_view (c : LineCursor) : (c.next.1, c.next.2.view) = c.view.next := by
  have hc := readLine_cut c.buffer c.reads
  unfold next View.next
  cases hd : c.done
  · rcases hr : readLine c.buffer c.reads with ⟨l, _ | ⟨buf, rs⟩⟩ <;>
      simp only [hr, Option.map_some, Option.map_none] at hc
    · cases he : c.ending
      · by_cases hl : l = [] <;> simp [view, rest, hd, hc, he, hl]
      · simp [view, rest, hd, hc, he]
    · simp [view, rest, hd, hc]
  · simp [view, hd]

theorem next_fst (c : LineCursor) : c.next.1 = c.view.next.1 := congrArg Prod.fst (next_view c)

theorem view_next (c : LineCursor) : c.next.2.view = c.view.next.2 := congrArg Prod.snd (next_view c)

theorem next_done {c : LineCursor} (h : c.done = true) : c.next = (.finished, c) := by
  simp [next, h]

theorem next_ending (c : LineCursor) : c.next.2.ending = c.ending := by
  unfold next
  split
  · rfl
  · split
    · rfl
    · rfl
    · split <;> rfl

theorem next_congr {c c' : LineCursor} (h : c.view = c'.view) :
    c.next.1 = c'.next.1 ∧ c.next.2.view = c'.next.2.view := by
  rw [next_fst, next_fst, view_next, view_next, h]
  exact ⟨rfl, rfl⟩

theorem steps_congr {c c' : LineCursor} (h : c.view = c'.view) (n : Nat) :
    (c.steps n).1 = (c'.steps n).1 ∧ (c.steps n).2.view = (c'.steps n).2.view := by
  induction n generalizing c c' with
  | zero => exact ⟨rfl, h⟩
  | succ n ih =>
    obtain ⟨h₁, h₂⟩ := next_congr h
    obtain ⟨ih₁, ih₂⟩ := ih h₂
    have hk : c.next.2.count = c'.next.2.count := congrArg View.count h₂
    simp only [steps]
    exact ⟨by rw [h₁, hk, ih₁], ih₂⟩

theorem error?_congr {c c' : LineCursor} (h : c.view = c'.view) : c.error? = c'.error? := by
  have hd : c.done = c'.done := congrArg View.done h
  have he : c.ending = c'.ending := congrArg View.ending h
  simp only [error?, hd, he]

namespace View

theorem next_cases (v : View) :
    (v.done = true ∧ v.next = (.finished, v)) ∨
    (v.done = false ∧ ∃ l r, Lines.cut v.rest = (l, some r) ∧
      v.next = (.line l, ⟨r, v.ending, v.count + 1, false⟩)) ∨
    (v.done = false ∧ ∃ l m, Lines.cut v.rest = (l, none) ∧ v.ending = .failure m ∧
      v.next = (.failed m, ⟨[], v.ending, v.count, true⟩)) ∨
    (v.done = false ∧ v.ending = .clean ∧ v.rest = [] ∧
      v.next = (.finished, ⟨[], .clean, v.count, true⟩)) ∨
    (v.done = false ∧ v.ending = .clean ∧ v.rest ≠ [] ∧ Lines.cut v.rest = (v.rest, none) ∧
      v.next = (.line v.rest, ⟨[], .clean, v.count + 1, true⟩)) := by
  obtain ⟨rest, ending, count, done⟩ := v
  cases done
  · rcases hc : Lines.cut rest with ⟨l, _ | r⟩
    · obtain ⟨rfl, -⟩ := Lines.cut_none hc
      cases ending with
      | clean =>
        by_cases hr : l = []
        · subst hr
          exact .inr (.inr (.inr (.inl ⟨rfl, rfl, rfl, by simp [next, hc]⟩)))
        · exact .inr (.inr (.inr (.inr ⟨rfl, rfl, hr, rfl, by simp [next, hc, hr]⟩)))
      | failure m => exact .inr (.inr (.inl ⟨rfl, l, m, rfl, rfl, by simp [next, hc]⟩))
    · exact .inr (.inl ⟨rfl, l, r, rfl, by simp [next, hc]⟩)
  · exact .inl ⟨rfl, rfl⟩

end View

theorem error?_next_of_line {c : LineCursor} {l : Bytes} (h : c.next.1 = .line l) :
    c.next.2.error? = none := by
  have hv := view_next c
  rw [next_fst] at h
  rcases View.next_cases c.view with ⟨-, hn⟩ | ⟨-, l', r, -, hn⟩ | ⟨-, l', m, -, -, hn⟩ |
      ⟨-, -, -, hn⟩ | ⟨-, he, -, -, hn⟩ <;> rw [hn] at h hv <;> simp only [LineStep.line.injEq,
        reduceCtorEq] at h
  · simp [error?, show c.next.2.done = false from congrArg View.done hv]
  · simp [error?, next_ending, show c.ending = .clean from he, Ending.failure?]

theorem next_line_count {c : LineCursor} {l : Bytes} (h : c.next.1 = .line l) :
    c.next.2.count = c.count + 1 := by
  have hv := congrArg View.count (view_next c)
  rw [next_fst] at h
  rcases View.next_cases c.view with ⟨-, hn⟩ | ⟨-, l', r, -, hn⟩ | ⟨-, l', m, -, -, hn⟩ |
      ⟨-, -, -, hn⟩ | ⟨-, -, -, -, hn⟩ <;> rw [hn] at h hv <;> simp_all [view]

theorem ending_of_next_finished {c : LineCursor} (hc : c.error? = none)
    (h : c.next.1 = .finished) : c.ending = .clean := by
  rw [next_fst] at h
  rcases View.next_cases c.view with ⟨hd, -⟩ | ⟨-, l, r, -, hn⟩ | ⟨-, l, m, -, -, hn⟩ |
      ⟨-, he, -⟩ | ⟨-, he, -⟩
  · -- a cursor that is done and has no error ended cleanly
    cases he : c.ending with
    | clean => rfl
    | failure m => simp [error?, show c.done = true from hd, he, Ending.failure?] at hc
  · simp [hn] at h
  · simp [hn] at h
  · exact he
  · exact he

theorem ending_of_next_failed {c : LineCursor} {m : String} (h : c.next.1 = .failed m) :
    c.ending = .failure m := by
  rw [next_fst] at h
  rcases View.next_cases c.view with ⟨-, hn⟩ | ⟨-, l, r, -, hn⟩ | ⟨-, l, m', -, he, hn⟩ |
      ⟨-, -, -, hn⟩ | ⟨-, -, -, -, hn⟩ <;> rw [hn] at h <;> simp_all [view]

theorem next_clean_nil {c : LineCursor} (hd : c.done = false) (he : c.ending = .clean)
    (h : Lines.ofText c.rest = []) :
    c.next.1 = .finished ∧ c.next.2.done = true ∧ c.next.2.count = c.count := by
  have hv := view_next c
  rw [next_fst]
  rcases hc : Lines.cut c.rest with ⟨l, _ | r⟩
  · obtain ⟨-, hp⟩ := Lines.cut_none hc
    have hnil : c.rest = [] := by
      rw [Lines.ofText_plain hp] at h
      split at h
      · assumption
      · cases h
    have hn : c.view.next = (.finished, ⟨[], .clean, c.count, true⟩) := by
      simp [View.next, view, hd, he, hnil, Lines.cut]
    rw [hn] at hv ⊢
    exact ⟨rfl, congrArg View.done hv, congrArg View.count hv⟩
  · simp [Lines.ofText_cut_some hc] at h

theorem next_clean_cons {c : LineCursor} {l : Bytes} {ls : List Bytes} (hd : c.done = false)
    (he : c.ending = .clean) (h : Lines.ofText c.rest = l :: ls) :
    c.next.1 = .line l ∧ c.next.2.ending = .clean ∧ c.next.2.count = c.count + 1 ∧
      (c.next.2.done = false ∧ Lines.ofText c.next.2.rest = ls ∨ c.next.2.done = true ∧ ls = []) := by
  have hv := view_next c
  rw [next_fst, next_ending, he]
  rcases hc : Lines.cut c.rest with ⟨l', _ | r⟩
  · -- the last line, without a terminator: the cursor is done after it
    obtain ⟨rfl, hp⟩ := Lines.cut_none hc
    have hne : c.rest ≠ [] := by
      rintro h0
      simp [h0] at h
    rw [Lines.ofText_plain hp, if_neg hne] at h
    obtain ⟨rfl, rfl⟩ := List.cons.inj h
    have hn : c.view.next = (.line c.rest, ⟨[], .clean, c.count + 1, true⟩) := by
      simp [View.next, view, hd, he, hc, hne]
    rw [hn] at hv ⊢
    exact ⟨rfl, rfl, congrArg View.count hv, .inr ⟨congrArg View.done hv, rfl⟩⟩
  · rw [Lines.ofText_cut_some hc] at h
    obtain ⟨rfl, rfl⟩ := List.cons.inj h
    have hn : c.view.next = (.line l', ⟨r, c.ending, c.count + 1, false⟩) := by
      simp [View.next, view, hd, hc]
    rw [hn] at hv ⊢
    refine ⟨rfl, rfl, congrArg View.count hv, .inl ⟨congrArg View.done hv, ?_⟩⟩
    rw [show c.next.2.rest = r from congrArg View.rest hv]

theorem steps_done {c : LineCursor} (h : c.done = true) (n : Nat) :
    (c.steps n).1 = List.replicate n (.finished, c.count) := by
  induction n with
  | zero => rfl
  | succ n ih => simp [steps, next_done h, ih, List.replicate_succ]

theorem steps_clean {c : LineCursor} (hd : c.done = false) (he : c.ending = .clean) (n : Nat) :
    (c.steps n).1 = (List.range n).map fun i =>
      if h : i < (Lines.ofText c.rest).length then (.line (Lines.ofText c.rest)[i], c.count + i + 1)
      else (.finished, c.count + (Lines.ofText c.rest).length) := by
  generalize hL : Lines.ofText c.rest = L
  induction n generalizing c L with
  | zero => rfl
  | succ n ih =>
    cases L with
    | nil =>
      obtain ⟨hn, hdone, hk⟩ := next_clean_nil hd he hL
      simp [steps, hn, steps_done hdone, hk, List.range_succ_eq_map, Function.comp_def,
        List.map_const']
    | cons l ls =>
      obtain ⟨hn, he', hk, ⟨hd', hL'⟩ | ⟨hdone, rfl⟩⟩ := next_clean_cons hd he hL
      · simp only [steps, hn, ih hd' he' ls hL', hk, List.range_succ_eq_map, List.map_cons,
          List.map_map]
        congr 1
        refine List.map_congr_left fun i _ => ?_
        by_cases hi : i < ls.length <;> simp [hi] <;> omega
      · -- the last line was unterminated: every later request reports the end
        simp [steps, hn, steps_done hdone, hk, List.range_succ_eq_map, Function.comp_def,
          List.map_const']

theorem drain_of_line {c : LineCursor} {l : Bytes} (h : c.next.1 = .line l) :
    c.drain = (l :: c.next.2.drain.1, c.next.2.drain.2) := by
  rw [drain]
  split <;> simp_all

theorem drain_of_not_line {c : LineCursor} (h : ∀ l, c.next.1 ≠ .line l) : c.drain = ([], c.next.2) := by
  rw [drain]
  split <;> simp_all

theorem drain_done {c : LineCursor} (h : c.done = true) : c.drain = ([], c) := by
  rw [drain_of_not_line (by simp [next_done h]), next_done h]

theorem drain_clean {c : LineCursor} (hd : c.done = false) (he : c.ending = .clean) :
    c.drain.1 = Lines.ofText c.rest ∧
      c.drain.2.count = c.count + (Lines.ofText c.rest).length := by
  generalize hL : Lines.ofText c.rest = L
  induction L generalizing c with
  | nil =>
    obtain ⟨hn, -, hk⟩ := next_clean_nil hd he hL
    rw [drain_of_not_line (by simp [hn])]
    simp [hk]
  | cons l ls ih =>
    obtain ⟨hn, he', hk, ⟨hd', hL'⟩ | ⟨hdone, rfl⟩⟩ := next_clean_cons hd he hL
    · obtain ⟨h1, h2⟩ := ih hd' he' hL'
      rw [drain_of_line hn]
      simp only [h1, h2, hk, List.length_cons, true_and]
      omega
    · rw [drain_of_line hn, drain_done hdone]
      simp [hk]

theorem drain_congr {c c' : LineCursor} (h : c.view = c'.view) : c.drain.1 = c'.drain.1 := by
  fun_induction drain c generalizing c' with
  | case1 c l hl _ ls c₁ hrest ih =>
    obtain ⟨h₁, h₂⟩ := next_congr h
    rw [drain_of_line (h₁ ▸ hl : c'.next.1 = .line l), ← ih h₂, hrest]
  | case2 c hl =>
    obtain ⟨h₁, -⟩ := next_congr h
    rw [drain_of_not_line fun l => h₁ ▸ hl l]

def Yields (c : LineCursor) (ls : List Bytes) : Prop :=
  (∀ n, (c.steps n).1 = (List.range n).map fun i =>
    if h : i < ls.length then (.line ls[i], i + 1) else (.finished, ls.length)) ∧
  c.drain.1 = ls ∧ c.drain.2.count = ls.length

theorem yields_ofText {c : LineCursor} (hd : c.done = false) (he : c.ending = .clean)
    (h0 : c.count = 0) : c.Yields (Lines.ofText c.rest) := by
  obtain ⟨h1, h2⟩ := drain_clean hd he
  refine ⟨fun n => ?_, h1, by rw [h2, h0, Nat.zero_add]⟩
  rw [steps_clean hd he n, h0]
  simp

theorem start_yields (reads : List Bytes) :
    (start reads .clean).Yields (Lines.ofText reads.flatten) :=
  yields_ofText rfl rfl rfl

theorem start_yields_of_flatten {reads : List Bytes} {t : Bytes} (h : reads.flatten = t) :
    (start reads .clean).Yields (Lines.ofText t) :=
  h ▸ start_yields reads

theorem ofSource_yields (data : Bytes) (chunk : Nat) :
    (ofSource ⟨data, chunk, .clean⟩).Yields (Lines.ofText (Source.text ⟨data, chunk, .clean⟩)) :=
  start_yields _

end LineCursor

end SymbolSieve
