import SymbolSieve.Stream.Transcoder

namespace SymbolSieve

namespace Lines

def lf : UInt8 := 0x0A

def cr : UInt8 := 0x0D

def cut : Bytes → Bytes × Option Bytes
  | [] => ([], none)
  | b :: t =>
    if b = lf then ([], some t)
    else if b = cr then ([], some (if t.head? = some lf then t.tail else t))
    else
      let (l, r) := cut t
      (b :: l, r)

theorem cut_rest_length {bs r : Bytes} {l : Bytes} (h : cut bs = (l, some r)) :
    r.length < bs.length := by
  induction bs generalizing l with
  | nil => simp [cut] at h
  | cons b t ih =>
    simp only [cut] at h
    split at h
    · cases h; simp
    · split at h
      · cases h
        cases t with
        | nil => simp
        | cons c u => split <;> simp only [List.length_cons, List.tail_cons] <;> omega
      · rcases hc : cut t with ⟨l', r'⟩
        rw [hc] at h
        cases h
        have := ih hc
        simp only [List.length_cons]
        omega

end Lines

inductive LineStep where
  | line (text : Bytes)
  | finished
  | failed (message : String)
deriving DecidableEq, Repr

structure LineCursor where
  buffer : Bytes
  reads : List Bytes
  ending : Ending
  count : Nat := 0
  done : Bool := false
deriving DecidableEq, Repr

namespace LineCursor

def readByte : Bytes → List Bytes → Option (UInt8 × Bytes × List Bytes)
  | b :: buf, rs => some (b, buf, rs)
  | [], [] => none
  | [], r :: rs => readByte r rs

def fill : Bytes → List Bytes → Bytes × List Bytes
  | [], r :: rs => fill r rs
  | buf, rs => (buf, rs)

def skipLf (buf : Bytes) (rs : List Bytes) : Bytes × List Bytes :=
  match fill buf rs with
  | (b :: buf', rs') => if b = Lines.lf then (buf', rs') else (b :: buf', rs')
  | ([], _) => ([], [])

theorem readByte_some {buf buf' : Bytes} {rs rs' : List Bytes} {b : UInt8}
    (h : readByte buf rs = some (b, buf', rs')) : buf ++ rs.flatten = b :: (buf' ++ rs'.flatten) := by
  induction rs generalizing buf with
  | nil =>
    cases buf with
    | nil => cases h
    | cons b₀ buf₀ =>
      cases h
      rfl
  | cons r rs ih =>
    cases buf with
    | nil => simpa using ih h
    | cons b₀ buf₀ =>
      cases h
      rfl

theorem readByte_none {buf : Bytes} {rs : List Bytes} (h : readByte buf rs = none) :
    buf ++ rs.flatten = [] := by
  induction rs generalizing buf with
  | nil =>
    cases buf with
    | nil => rfl
    | cons b₀ buf₀ => cases h
  | cons r rs ih =>
    cases buf with
    | nil => simpa using ih h
    | cons b₀ buf₀ => cases h

theorem fill_rest (buf : Bytes) (rs : List Bytes) :
    (fill buf rs).1 ++ (fill buf rs).2.flatten = buf ++ rs.flatten := by
  induction rs generalizing buf with
  | nil => cases buf <;> rfl
  | cons r rs ih =>
    cases buf with
    | nil => simpa [fill] using ih r
    | cons b₀ buf₀ => rfl

theorem fill_eq_nil {buf : Bytes} {rs rs' : List Bytes} (h : fill buf rs = ([], rs')) : rs' = [] := by
  induction rs generalizing buf with
  | nil =>
    cases buf with
    | nil => cases h; rfl
    | cons b₀ buf₀ => cases h
  | cons r rs ih =>
    cases buf with
    | nil => exact ih h
    | cons b₀ buf₀ => cases h

theorem skipLf_rest (buf : Bytes) (rs : List Bytes) :
    (skipLf buf rs).1 ++ (skipLf buf rs).2.flatten =
      let t := buf ++ rs.flatten
      if t.head? = some Lines.lf then t.tail else t := by
  have h := fill_rest buf rs
  unfold skipLf
  split
  · rename_i b buf' rs' hf
    rw [hf] at h
    simp only [← h, List.cons_append, List.head?_cons, Option.some.injEq, List.tail_cons]
    split <;> rfl
  · rename_i rs' hf
    rw [hf, fill_eq_nil hf] at h
    simp [← h]

def readLine (buf : Bytes) (rs : List Bytes) : Bytes × Option (Bytes × List Bytes) :=
  match h : readByte buf rs with
  | none => ([], none)
  | some (b, buf', rs') =>
    if b = Lines.lf then ([], some (buf', rs'))
    else if b = Lines.cr then ([], some (skipLf buf' rs'))
    else
      have : (buf' ++ rs'.flatten).length < (buf ++ rs.flatten).length := by
        rw [readByte_some h, List.length_cons]
        omega
      let (l, r) := readLine buf' rs'
      (b :: l, r)
termination_by (buf ++ rs.flatten).length
decreasing_by exact this

theorem readLine_cut (buf : Bytes) (rs : List Bytes) :
    Lines.cut (buf ++ rs.flatten) =
      ((readLine buf rs).1, (readLine buf rs).2.map fun p => p.1 ++ p.2.flatten) := by
  fun_induction readLine buf rs with
  | case1 buf rs h => simp [readByte_none h, Lines.cut]
  | case2 buf rs buf' rs' h => simp [readByte_some h, Lines.cut]
  | case3 buf rs buf' rs' h hc =>
    rw [readByte_some h, Option.map_some, skipLf_rest]
    simp [Lines.cut, hc]
  | case4 buf rs b buf' rs' h hb hc _ l r hl ih =>
    rw [readByte_some h, Lines.cut, if_neg hb, if_neg hc, ih, hl]

def start (reads : List Bytes) (ending : Ending) : LineCursor := ⟨[], reads, ending, 0, false⟩

def ofSource (s : Source) : LineCursor := start s.decoded s.ending

def rest (c : LineCursor) : Bytes := c.buffer ++ c.reads.flatten

def error? (c : LineCursor) : Option String := if c.done then c.ending.failure? else none

def next (c : LineCursor) : LineStep × LineCursor :=
  if c.done then (.finished, c)
  else
    match readLine c.buffer c.reads, c.ending with
    | (l, some (buf, rs)), _ =>
      (.line l, { c with buffer := buf, reads := rs, count := c.count + 1 })
    | (_, none), .failure m => (.failed m, { c with buffer := [], reads := [], done := true })
    | (l, none), .clean =>
      if l = [] then (.finished, { c with buffer := [], reads := [], done := true })
      else (.line l, { c with buffer := [], reads := [], count := c.count + 1, done := true })

def size (c : LineCursor) : Nat := if c.done then 0 else c.rest.length + 1

theorem size_next_lt {c : LineCursor} {l : Bytes} (h : (next c).1 = .line l) :
    (next c).2.size < c.size := by
  unfold next at h ⊢
  by_cases hd : c.done
  · simp [hd] at h
  · simp only [hd, Bool.false_eq_true, if_false] at h ⊢
    split at h
    · rename_i l' buf rs _ hr
      have hc := readLine_cut c.buffer c.reads
      simp only [hr, Option.map_some] at hc
      have := Lines.cut_rest_length hc
      simp only [size, rest, hd, Bool.false_eq_true, if_false]
      omega
    · simp at h
    · split at h
      · simp at h
      · rename_i hl
        simp [size, hd, hl]

def drain (c : LineCursor) : List Bytes × LineCursor :=
  match h : (next c).1 with
  | .line l =>
    have := size_next_lt h
    let (ls, c') := drain (next c).2
    (l :: ls, c')
  | _ => ([], (next c).2)
termination_by c.size

def steps (c : LineCursor) : Nat → List (LineStep × Nat) × LineCursor
  | 0 => ([], c)
  | n + 1 =>
    let (s, c') := c.next
    let (more, c'') := c'.steps n
    ((s, c'.count) :: more, c'')

end LineCursor

end SymbolSieve
