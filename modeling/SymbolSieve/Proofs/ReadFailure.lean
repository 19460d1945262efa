import Mathlib
import SymbolSieve.Proofs.Transcoding

namespace SymbolSieve

namespace Utf16

def Unfinished (order : ByteOrder) (w : Bytes) : Prop :=
  w.length ≤ 1 ∨ ∃ a b t, w = a :: b :: t ∧ t.length ≤ 1 ∧ isSurrogate (unit order a b) = true

variable (order : ByteOrder)

theorem decodeFrom_unit (a b : UInt8) (t : Bytes) :
    decodeFrom order .empty (a :: b :: t) =
      if isSurrogate (unit order a b) then decodeFrom order (.surrogate (unit order a b)) t
      else (emit (unit order a b) ++ (decodeFrom order .empty t).1,
        (decodeFrom order .empty t).2) := by
  simp only [decodeFrom, Pending.feed, Pending.ofUnit]
  split <;> simp

theorem decodeFrom_surrogate_unit (u : Nat) (c c' : UInt8) (t : Bytes) :
    decodeFrom order (.surrogate u) (c :: c' :: t) =
      if isTrailing (unit order c c') then
        (pair u (unit order c c') ++ (decodeFrom order .empty t).1, (decodeFrom order .empty t).2)
      else
        (replacement ++ (decodeFrom order .empty (c :: c' :: t)).1,
          (decodeFrom order .empty (c :: c' :: t)).2) := by
  simp only [decodeFrom, Pending.feed]
  split <;> simp

theorem decode_eq (bs : Bytes) :
    decode order bs = (decodeFrom order .empty bs).1 ++ (decodeFrom order .empty bs).2.close := rfl

theorem decode_unit_of_not_surrogate {a b : UInt8} (t : Bytes)
    (hs : isSurrogate (unit order a b) = false) :
    decode order (a :: b :: t) = emit (unit order a b) ++ decode order t := by
  rw [decode_eq, decodeFrom_unit, hs, if_neg Bool.false_ne_true, decode_eq, List.append_assoc]

theorem decode_pair {a b c c' : UInt8} (t : Bytes) (hs : isSurrogate (unit order a b) = true)
    (ht : isTrailing (unit order c c') = true) :
    decode order (a :: b :: c :: c' :: t) = pair (unit order a b) (unit order c c') ++ decode order t := by
  rw [decode_eq, decodeFrom_unit, if_pos hs, decodeFrom_surrogate_unit, if_pos ht, decode_eq,
    List.append_assoc]

theorem decode_lone_surrogate {a b : UInt8} (t : Bytes) (hs : isSurrogate (unit order a b) = true)
    (ht : ∀ c c' t', t = c :: c' :: t' → isTrailing (unit order c c') = false) :
    decode order (a :: b :: t) = replacement ++ decode order t := by
  rw [decode_eq, decodeFrom_unit, if_pos hs]
  match t with
  | [] => rfl
  | [c] => rfl
  | c :: c' :: t' =>
    rw [decodeFrom_surrogate_unit, if_neg (by simp [ht c c' t' rfl]), decode_eq, List.append_assoc]

theorem decodeFrom_withholds : ∀ bs : Bytes,
    ∃ b w, bs = b ++ w ∧ Unfinished order w ∧ (decodeFrom order .empty bs).1 = decode order b
  | [] => ⟨[], [], rfl, .inl (by simp), rfl⟩
  | [a] => ⟨[], [a], rfl, .inl (by simp), rfl⟩
  | a :: a' :: t => by
    cases hs : isSurrogate (unit order a a') with
    | false =>
      obtain ⟨b, w, rfl, hw, hout⟩ := decodeFrom_withholds t
      refine ⟨a :: a' :: b, w, rfl, hw, ?_⟩
      rw [decodeFrom_unit, hs, if_neg Bool.false_ne_true, hout, decode_unit_of_not_surrogate _ _ hs]
    | true =>
      match t with
      | [] => exact ⟨[], [a, a'], rfl, .inr ⟨a, a', [], rfl, by simp, hs⟩, by
          rw [decodeFrom_unit, if_pos hs]; rfl⟩
      | [c] => exact ⟨[], [a, a', c], rfl, .inr ⟨a, a', [c], rfl, by simp, hs⟩, by
          rw [decodeFrom_unit, if_pos hs]; rfl⟩
      | c :: c' :: t' =>
        cases ht : isTrailing (unit order c c') with
        | true =>
          obtain ⟨b, w, rfl, hw, hout⟩ := decodeFrom_withholds t'
          refine ⟨a :: a' :: c :: c' :: b, w, rfl, hw, ?_⟩
          rw [decodeFrom_unit, if_pos hs, decodeFrom_surrogate_unit, if_pos ht, hout,
            decode_pair _ _ hs ht]
        | false =>
          -- the replacement stands for the surrogate, and the next unit starts afresh
          obtain ⟨b, w, hb, hw, hout⟩ := decodeFrom_withholds (c :: c' :: t')
          refine ⟨a :: a' :: b, w, by rw [hb]; rfl, hw, ?_⟩
          rw [decodeFrom_unit, if_pos hs, decodeFrom_surrogate_unit, ht, if_neg Bool.false_ne_true,
            hout, decode_lone_surrogate _ _ hs]
          intro x y z hxyz
          rw [hxyz, List.cons_append, List.cons_append, List.cons.injEq, List.cons.injEq] at hb
          rw [← hb.1, ← hb.2.1, ht]
termination_by bs => bs.length

end Utf16

namespace Transcoder

theorem choose_utf16_mark {bs rest : Bytes} {order : ByteOrder} {p : Utf16.Pending}
    (h : choose bs = (.utf16 order p, rest)) : bs = order.mark ++ rest := by
  unfold choose at h
  split at h
  · rename_i h2
    cases h
    show bs = [0xFF, 0xFE] ++ bs.drop 2
    rw [← h2, List.take_append_drop]
  · split at h
    · rename_i h2
      cases h
      show bs = [0xFE, 0xFF] ++ bs.drop 2
      rw [← h2, List.take_append_drop]
    · split at h <;> cases h

end Transcoder

namespace Source

theorem text_failure_withholds (data : Bytes) (chunk : Nat) (m : String) :
    (data.length < 3 → Source.text ⟨data, chunk, .failure m⟩ = []) ∧
    (3 ≤ data.length → ∃ kept w, data = kept ++ w ∧
      Source.text ⟨data, chunk, .failure m⟩ = Source.text ⟨kept, chunk, .clean⟩ ∧
      (w = [] ∨ ∃ order : ByteOrder, order.mark <+: data ∧ Utf16.Unfinished order w)) := by
  refine ⟨fun h => ?_, fun h => ?_⟩
  · rw [text_failure, Transcoder.feed_sniffing_short (by simpa using h)]
  · have hl : ¬([] ++ data).length < 3 := by simpa using h
    rw [text_failure, Transcoder.feed_sniffing_long hl, List.nil_append]
    rcases Transcoder.choose_cases data with ⟨order, hc⟩ | ⟨rest, hc⟩
    · -- UTF-16: the decoder holds back an unfinished unit or surrogate
      have hmark := Transcoder.choose_utf16_mark hc
      obtain ⟨b, w, hb, hw, hout⟩ := Utf16.decodeFrom_withholds order (data.drop 2)
      refine ⟨order.mark ++ b, w, ?_, ?_, .inr ⟨order, ⟨data.drop 2, hmark.symm⟩, hw⟩⟩
      · rw [List.append_assoc, ← hb, ← hmark]
      · rw [hc, text_utf16_marked, ← hout]
        rfl
    · refine ⟨data, [], (List.append_nil data).symm, ?_, .inl rfl⟩
      rw [hc, text_clean_eq_close, Transcoder.close, hc]
      rfl

end Source

namespace Lines

def complete (t : Bytes) : List Bytes :=
  match t.getLast? with
  | some b => if b = cr ∨ b = lf then ofText t else (ofText t).dropLast
  | none => []

theorem cut_some_sep {t l r : Bytes} (h : cut t = (l, some r)) :
    ∃ sep, t = l ++ sep ++ r ∧ sep ≠ [] ∧ ∀ b ∈ sep, b = cr ∨ b = lf := by
  induction t generalizing l with
  | nil => simp [cut] at h
  | cons b t ih =>
    simp only [cut] at h
    split at h
    · cases h
      exact ⟨[b], rfl, by simp, by simp [*]⟩
    · split at h
      · cases h
        cases t with
        | nil => exact ⟨[b], rfl, by simp, by simp [*]⟩
        | cons b' t =>
          by_cases hb' : b' = lf
          · exact ⟨[b, b'], by simp [hb'], by simp, by simp [*]⟩
          · exact ⟨[b], by simp [hb'], by simp, by simp [*]⟩
      · rcases hc : cut t with ⟨l', r'⟩
        rw [hc] at h
        cases h
        obtain ⟨sep, rfl, hne, hsep⟩ := ih hc
        exact ⟨sep, by simp, hne, hsep⟩

theorem ofText_ne_nil {t : Bytes} (h : t ≠ []) : ofText t ≠ [] := by
  rcases hc : cut t with ⟨l, _ | r⟩
  · obtain ⟨rfl, hp⟩ := cut_none hc
    simp [ofText_plain hp, h]
  · simp [ofText_cut_some hc]

theorem complete_of_last_break {t : Bytes} {b : UInt8} (h : t.getLast? = some b)
    (hb : b = cr ∨ b = lf) : complete t = ofText t := by
  simp only [complete, h, if_pos hb]

theorem complete_of_last_plain {t : Bytes} {b : UInt8} (h : t.getLast? = some b)
    (hb : ¬(b = cr ∨ b = lf)) : complete t = (ofText t).dropLast := by
  simp only [complete, h, if_neg hb]

theorem complete_plain {t : Bytes} (h : Plain t) : complete t = [] := by
  rcases hl : t.getLast? with _ | b
  · simp [complete, hl]
  · have hb : b ∈ t := List.mem_of_getLast? hl
    have hterm : ¬(b = cr ∨ b = lf) := by
      rintro (rfl | rfl)
      · exact h.1 hb
      · exact h.2 hb
    have ht : t ≠ [] := List.ne_nil_of_mem hb
    rw [complete_of_last_plain hl hterm, ofText_plain h, if_neg ht, List.dropLast_singleton]

theorem complete_cut_some {t l r : Bytes} (h : cut t = (l, some r)) :
    complete t = l :: complete r := by
  obtain ⟨sep, rfl, hne, hsep⟩ := cut_some_sep h
  have ho := ofText_cut_some h
  rcases hr : r.getLast? with _ | b
  · -- the terminator is the end of the text
    have hr0 : r = [] := List.getLast?_eq_none_iff.1 hr
    subst hr0
    obtain ⟨x, hx⟩ := Option.isSome_iff_exists.1 (List.getLast?_isSome.2 hne)
    have hlast : (l ++ sep ++ []).getLast? = some x := by simp [List.getLast?_append, hx]
    rw [complete_of_last_break hlast (hsep x (List.mem_of_getLast? hx)), ho]
    rfl
  · have hlast : (l ++ sep ++ r).getLast? = some b := by simp [List.getLast?_append, hr]
    have hr0 : r ≠ [] := by
      rintro rfl
      cases hr
    by_cases hb : b = cr ∨ b = lf
    · rw [complete_of_last_break hlast hb, complete_of_last_break hr hb, ho]
    · rw [complete_of_last_plain hlast hb, complete_of_last_plain hr hb, ho,
        List.dropLast_cons_of_ne_nil (ofText_ne_nil hr0)]

theorem cut_append_of_some {t l r : Bytes} (h : cut t = (l, some r)) (y : Bytes) :
    ∃ r', cut (t ++ y) = (l, some r') ∧ (r' = r ++ y ∨ r = []) := by
  induction t generalizing l with
  | nil => simp [cut] at h
  | cons b t ih =>
    simp only [cut] at h
    by_cases hlf : b = lf
    · simp only [if_pos hlf, Prod.mk.injEq, Option.some.injEq] at h
      obtain ⟨rfl, rfl⟩ := h
      exact ⟨t ++ y, by simp only [List.cons_append, cut, if_pos hlf], .inl rfl⟩
    by_cases hcr : b = cr
    · simp only [if_neg hlf, if_pos hcr, Prod.mk.injEq, Option.some.injEq] at h
      obtain ⟨rfl, rfl⟩ := h
      -- a carriage return at the very end may meet a line feed only in what follows
      cases t with
      | nil =>
        refine ⟨if y.head? = some lf then y.tail else y, ?_, .inr (by simp)⟩
        simp only [List.nil_append, List.cons_append, cut, if_neg hlf, if_pos hcr]
      | cons b' t =>
        refine ⟨if b' = lf then t ++ y else b' :: (t ++ y), ?_, .inl ?_⟩
        · by_cases hb' : b' = lf <;> simp [cut, hcr, hb', lf_ne_cr.symm]
        · by_cases hb' : b' = lf <;> simp [hb']
    · rcases hc : cut t with ⟨l', r'⟩
      simp only [if_neg hlf, if_neg hcr, hc, Prod.mk.injEq] at h
      obtain ⟨rfl, rfl⟩ := h
      obtain ⟨r'', hc', hr''⟩ := ih hc
      exact ⟨r'', by simp only [List.cons_append, cut, if_neg hlf, if_neg hcr, hc'], hr''⟩

theorem complete_prefix (t y : Bytes) : complete t <+: ofText (t ++ y) := by
  induction t using induction_cut with
  | plain t hp =>
    rw [complete_plain hp]
    exact List.nil_prefix
  | split t l r hc ih =>
    obtain ⟨r', hc', hr'⟩ := cut_append_of_some hc y
    rw [complete_cut_some hc, ofText_cut_some hc']
    rcases hr' with rfl | rfl
    · exact List.cons_prefix_cons.2 ⟨rfl, ih⟩
    · rw [show complete [] = [] from rfl]
      exact List.cons_prefix_cons.2 ⟨rfl, List.nil_prefix⟩

end Lines

namespace LineCursor

def FailsAfter (c : LineCursor) (ls : List Bytes) (m : String) : Prop :=
  (∀ n, (c.steps n).1 = (List.range n).map fun i =>
    if h : i < ls.length then (.line ls[i], i + 1)
    else if i = ls.length then (.failed m, ls.length) else (.finished, ls.length)) ∧
  (∀ n, (c.steps n).2.error? = if n ≤ ls.length then none else some m) ∧
  c.drain.1 = ls ∧ c.drain.2.count = ls.length

variable {c : LineCursor} {m : String}

theorem next_failure_nil (hd : c.done = false) (he : c.ending = .failure m)
    (h : Lines.complete c.rest = []) :
    c.next.1 = .failed m ∧ c.next.2.done = true ∧ c.next.2.count = c.count := by
  have hv := view_next c
  rw [next_fst]
  rcases hc : Lines.cut c.rest with ⟨l, _ | r⟩
  · have hn : c.view.next = (.failed m, ⟨[], c.ending, c.count, true⟩) := by
      simp [View.next, view, hd, hc, he]
    rw [hn] at hv ⊢
    exact ⟨rfl, congrArg View.done hv, congrArg View.count hv⟩
  · simp [Lines.complete_cut_some hc] at h

theorem next_complete_cons {l : Bytes} {ls : List Bytes} (hd : c.done = false)
    (h : Lines.complete c.rest = l :: ls) :
    c.next.1 = .line l ∧ c.next.2.done = false ∧ c.next.2.count = c.count + 1 ∧
      Lines.complete c.next.2.rest = ls := by
  have hv := view_next c
  rw [next_fst]
  rcases hc : Lines.cut c.rest with ⟨l', _ | r⟩
  · simp [Lines.complete_plain (Lines.cut_none hc).2] at h
  · rw [Lines.complete_cut_some hc] at h
    obtain ⟨rfl, rfl⟩ := List.cons.inj h
    have hn : c.view.next = (.line l', ⟨r, c.ending, c.count + 1, false⟩) := by
      simp [View.next, view, hd, hc]
    rw [hn] at hv ⊢
    refine ⟨rfl, congrArg View.done hv, congrArg View.count hv, ?_⟩
    rw [show c.next.2.rest = r from congrArg View.rest hv]

theorem error?_of_not_done (hd : c.done = false) : c.error? = none := by
  simp [error?, hd]

theorem steps_snd_done (h : c.done = true) (n : Nat) : (c.steps n).2 = c := by
  induction n with
  | zero => rfl
  | succ n ih => simp [steps, next_done h, ih]

theorem steps_failure (hd : c.done = false) (he : c.ending = .failure m) (n : Nat) :
    (c.steps n).1 = (List.range n).map (fun i =>
      if h : i < (Lines.complete c.rest).length then
        (.line (Lines.complete c.rest)[i], c.count + i + 1)
      else if i = (Lines.complete c.rest).length then
        (.failed m, c.count + (Lines.complete c.rest).length)
      else (.finished, c.count + (Lines.complete c.rest).length)) ∧
    (c.steps n).2.error? = if n ≤ (Lines.complete c.rest).length then none else some m := by
  generalize hL : Lines.complete c.rest = L
  induction n generalizing c L with
  | zero => exact ⟨rfl, by simp [steps, error?_of_not_done hd]⟩
  | succ n ih =>
    cases L with
    | nil =>
      -- the failure is reported now, and the cursor is finished from then on
      obtain ⟨hn, hdone, hk⟩ := next_failure_nil hd he hL
      refine ⟨?_, ?_⟩
      · simp only [steps, hn, steps_done hdone, hk, List.range_succ_eq_map, List.map_cons]
        simp [Function.comp_def, List.map_const']
      · have hs : (c.steps (n + 1)).2 = c.next.2 := by
          simp only [steps]
          exact steps_snd_done hdone n
        rw [hs]
        simp [error?, hdone, next_ending, he, Ending.failure?]
    | cons l ls =>
      obtain ⟨hn, hd', hk, hL'⟩ := next_complete_cons hd hL
      obtain ⟨h1, h2⟩ := ih hd' (by rw [next_ending, he]) ls hL'
      refine ⟨?_, ?_⟩
      · simp only [steps, hn, h1, hk, List.range_succ_eq_map, List.map_cons, List.map_map]
        congr 1
        refine List.map_congr_left fun i _ => ?_
        by_cases hi : i < ls.length
        · simp [hi]
          omega
        · by_cases hi' : i = ls.length <;> simp [hi, hi'] <;> omega
      · simp only [steps, h2, List.length_cons, Nat.add_le_add_iff_right]

theorem drain_failure (hd : c.done = false) (he : c.ending = .failure m) :
    c.drain.1 = Lines.complete c.rest ∧
      c.drain.2.count = c.count + (Lines.complete c.rest).length := by
  generalize hL : Lines.complete c.rest = L
  induction L generalizing c with
  | nil =>
    obtain ⟨hn, -, hk⟩ := next_failure_nil hd he hL
    rw [drain_of_not_line (by simp [hn])]
    simp [hk]
  | cons l ls ih =>
    obtain ⟨hn, hd', hk, hL'⟩ := next_complete_cons hd hL
    obtain ⟨h1, h2⟩ := ih hd' (by rw [next_ending, he]) hL'
    rw [drain_of_line hn]
    simp only [h1, h2, hk, List.length_cons, true_and]
    omega

theorem failsAfter_complete (hd : c.done = false) (he : c.ending = .failure m) (h0 : c.count = 0) :
    c.FailsAfter (Lines.complete c.rest) m := by
  obtain ⟨h1, h2⟩ := drain_failure hd he
  refine ⟨fun n => ?_, fun n => (steps_failure hd he n).2, h1, by rw [h2, h0, Nat.zero_add]⟩
  rw [(steps_failure hd he n).1, h0]
  simp

end LineCursor

end SymbolSieve
