import Mathlib
import SymbolSieve.Host.Files

namespace SymbolSieve

namespace Files

theorem lookup_replace (es : List (List Bytes × Entry)) (loc l : List Bytes) (e : Entry) :
    (es.map fun (l', old) => (l', if l' == loc then e else old)).lookup l =
      (es.lookup l).map fun old => if l = loc then e else old := by
  induction es with
  | nil => rfl
  | cons p es ih =>
    obtain ⟨l', old⟩ := p
    by_cases h : l = l'
    · subst h
      simp
    · have hb : (l == l') = false := beq_false_of_ne h
      simp only [List.map_cons, List.lookup_cons, hb]
      exact ih

theorem lookup_ne_none_of_any {es : List (List Bytes × Entry)} {loc : List Bytes}
    (h : es.any (·.1 == loc) = true) : es.lookup loc ≠ none := by
  obtain ⟨⟨a, b⟩, hp, hpl⟩ := List.any_eq_true.1 h
  have ha : a = loc := by simpa using hpl
  subst ha
  rw [Ne, List.lookup_eq_none_iff]
  intro hall
  simpa using hall _ hp

theorem lookup_eq_none_of_not_any {es : List (List Bytes × Entry)} {loc : List Bytes}
    (h : ¬es.any (·.1 == loc) = true) : es.lookup loc = none := by
  rw [List.lookup_eq_none_iff]
  rintro ⟨a, b⟩ hp
  have hne : loc ≠ a := by
    rintro rfl
    exact h (List.any_eq_true.2 ⟨(loc, b), hp, by simp⟩)
  simpa using hne

@[simp] theorem home_put (fs : Files) (loc : List Bytes) (e : Entry) : (fs.put loc e).home = fs.home := by
  unfold put
  split <;> rfl

@[simp] theorem get?_put_self (fs : Files) (loc : List Bytes) (e : Entry) :
    (fs.put loc e).get? loc = some e := by
  unfold put get?
  split
  · rename_i h
    rw [lookup_replace]
    cases hl : fs.entries.lookup loc with
    | none => exact absurd hl (lookup_ne_none_of_any h)
    | some old => simp
  · rename_i h
    simp [List.lookup_append, lookup_eq_none_of_not_any h]

theorem get?_put_ne (fs : Files) {loc l : List Bytes} (e : Entry) (h : l ≠ loc) :
    (fs.put loc e).get? l = fs.get? l := by
  unfold put get?
  split
  · rw [lookup_replace]
    cases fs.entries.lookup l <;> simp [h]
  · have hb : (l == loc) = false := beq_false_of_ne h
    simp [List.lookup_append, List.lookup_cons, hb]

theorem put_put (fs : Files) (loc : List Bytes) (e₁ e₂ : Entry) :
    (fs.put loc e₁).put loc e₂ = fs.put loc e₂ := by
  by_cases h : fs.entries.any (·.1 == loc) = true
  · -- the location is there: both puts replace in place
    have h' : (fs.put loc e₁).entries.any (·.1 == loc) = true := by
      simp only [put, h, if_true, List.any_map, Function.comp_def]
    simp only [put, h, if_true] at h' ⊢
    simp only [h', if_true, List.map_map]
    congr 1
    apply List.map_congr_left
    rintro ⟨l, old⟩ -
    by_cases hl : l = loc <;> simp [hl]
  · -- the first put adds the location at the end, where the second replaces it
    have hnot : ∀ p ∈ fs.entries, p.1 ≠ loc := fun p hp hc =>
      h (List.any_eq_true.2 ⟨p, hp, by simp [hc]⟩)
    have h' : (fs.put loc e₁).entries.any (·.1 == loc) = true := by simp [put, h]
    simp only [put, h, if_false, Bool.false_eq_true] at h' ⊢
    simp only [h', if_true, List.map_append, List.map_cons, List.map_nil, beq_self_eq_true]
    have hid : (fs.entries.map fun p => (p.1, if p.1 = loc then e₂ else p.2)) = fs.entries := by
      conv_rhs => rw [← List.map_id fs.entries]
      exact List.map_congr_left fun p hp => by simp [hnot p hp]
    simp [hid]

theorem append_of_file {fs : Files} {loc : List Bytes} {c : Bytes} {x : Bool}
    (h : fs.get? loc = some (.file c x)) (bs : Bytes) :
    fs.append loc bs = .ok (fs.put loc (.file (c ++ bs) x)) := by
  simp [append, h]

theorem append_of_full {fs : Files} {loc : List Bytes} (h : fs.get? loc = some (.device .full))
    (bs : Bytes) : fs.append loc bs = .error .noSpace := by
  simp [append, h]

theorem append_of_plain {fs : Files} {loc : List Bytes} (hf : ∀ c x, fs.get? loc ≠ some (.file c x))
    (hfull : fs.get? loc ≠ some (.device .full)) (bs : Bytes) : fs.append loc bs = .ok fs := by
  unfold append
  split
  · rename_i c x h
    exact absurd h (hf c x)
  · rename_i h
    exact absurd h hfull
  · rfl

theorem append_ok_of_not_full {fs : Files} {loc : List Bytes}
    (hfull : fs.get? loc ≠ some (.device .full)) (bs : Bytes) : ∃ fs', fs.append loc bs = .ok fs' := by
  by_cases hf : ∃ c x, fs.get? loc = some (.file c x)
  · obtain ⟨c, x, hc⟩ := hf
    exact ⟨_, append_of_file hc bs⟩
  · exact ⟨fs, append_of_plain (by simpa using hf) hfull bs⟩

theorem append_cases {fs fs' : Files} {loc : List Bytes} {bs : Bytes} (h : fs.append loc bs = .ok fs') :
    (∃ c x, fs.get? loc = some (.file c x) ∧ fs' = fs.put loc (.file (c ++ bs) x)) ∨
      ((∀ c x, fs.get? loc ≠ some (.file c x)) ∧ fs.get? loc ≠ some (.device .full) ∧ fs' = fs) := by
  by_cases hf : ∃ c x, fs.get? loc = some (.file c x)
  · obtain ⟨c, x, hc⟩ := hf
    rw [append_of_file hc] at h
    cases h
    exact .inl ⟨c, x, hc, rfl⟩
  · have hf' : ∀ c x, fs.get? loc ≠ some (.file c x) := by simpa using hf
    by_cases hfull : fs.get? loc = some (.device .full)
    · rw [append_of_full hfull] at h
      cases h
    · rw [append_of_plain hf' hfull] at h
      cases h
      exact .inr ⟨hf', hfull, rfl⟩

theorem append_append {fs fs' : Files} {loc : List Bytes} {a : Bytes} (h : fs.append loc a = .ok fs')
    (b : Bytes) : fs'.append loc b = fs.append loc (a ++ b) := by
  rcases append_cases h with ⟨c, x, hc, rfl⟩ | ⟨hf, hfull, rfl⟩
  · rw [append_of_file (get?_put_self _ _ _), append_of_file hc, put_put, List.append_assoc]
  · rw [append_of_plain hf hfull, append_of_plain hf hfull]

theorem get?_append_ne {fs fs' : Files} {loc : List Bytes} {bs : Bytes} (h : fs.append loc bs = .ok fs')
    {l : List Bytes} (hl : l ≠ loc) : fs'.get? l = fs.get? l := by
  rcases append_cases h with ⟨c, x, -, rfl⟩ | ⟨-, -, rfl⟩
  · exact get?_put_ne _ _ hl
  · rfl

theorem not_full_of_append {fs fs' : Files} {loc : List Bytes} {bs : Bytes}
    (h : fs.append loc bs = .ok fs') : fs'.get? loc ≠ some (.device .full) := by
  rcases append_cases h with ⟨c, x, -, rfl⟩ | ⟨-, hfull, rfl⟩
  · simp
  · exact hfull

def Appended (fs : Files) (loc : List Bytes) (bs : Bytes) (fs' : Files) : Prop :=
  (bs = [] ∧ fs' = fs) ∨ fs.append loc bs = .ok fs'

namespace Appended

variable {fs fs' fs'' : Files} {loc : List Bytes} {a b : Bytes}

theorem nil (fs : Files) (loc : List Bytes) : Appended fs loc [] fs := .inl ⟨rfl, rfl⟩

theorem of_append (h : fs.append loc a = .ok fs') : Appended fs loc a fs' := .inr h

theorem trans (h₁ : Appended fs loc a fs') (h₂ : Appended fs' loc b fs'') :
    Appended fs loc (a ++ b) fs'' := by
  rcases h₁ with ⟨rfl, rfl⟩ | h₁
  · simpa using h₂
  · rcases h₂ with ⟨rfl, rfl⟩ | h₂
    · rw [List.append_nil]
      exact .inr h₁
    · exact .inr ((append_append h₁ b).symm.trans h₂)

theorem get?_ne (h : Appended fs loc a fs') {l : List Bytes} (hl : l ≠ loc) : fs'.get? l = fs.get? l := by
  rcases h with ⟨-, rfl⟩ | h
  · rfl
  · exact get?_append_ne h hl

theorem get?_file {c : Bytes} {x : Bool} (hc : fs.get? loc = some (.file c x))
    (h : Appended fs loc a fs') : fs'.get? loc = some (.file (c ++ a) x) := by
  rcases h with ⟨rfl, rfl⟩ | h
  · simpa using hc
  · rw [append_of_file hc] at h
    cases h
    exact get?_put_self _ _ _

end Appended

theorem walk_of_directories {fs fs' : Files}
    (hdir : ∀ l, fs.get? l = some .directory → fs'.get? l = some .directory) :
    ∀ (here ns : List Bytes) (r : List Bytes), locate.walk fs here ns = .ok r →
      locate.walk fs' here ns = .ok r := by
  intro here ns
  induction ns generalizing here with
  | nil => intro r h; simpa [locate.walk] using h
  | cons n rest ih =>
    intro r h
    rw [locate.walk] at h ⊢
    generalize (if n == [0x2E, 0x2E] then here.dropLast else here ++ [n]) = next at h ⊢
    by_cases hskip : (rest.isEmpty || n == [0x2E, 0x2E]) = true
    · rw [if_pos hskip] at h ⊢
      exact ih next r h
    · -- a name before the last must be a directory, in both files
      rw [if_neg hskip] at h ⊢
      cases hg : fs.get? next with
      | none => rw [hg] at h; cases h
      | some e =>
        cases e with
        | directory =>
          rw [hg] at h
          rw [hdir next hg]
          exact ih next r h
        | _ => rw [hg] at h; cases h

theorem locate_of_directories {fs fs' : Files} (hhome : fs'.home = fs.home)
    (hdir : ∀ l, fs.get? l = some .directory → fs'.get? l = some .directory) {path : Bytes}
    {v : List Bytes × Bool} (h : fs.locate path = .ok v) : fs'.locate path = .ok v := by
  unfold locate at h ⊢
  split at h
  · cases h
  · rename_i hp
    rw [if_neg hp, hhome]
    dsimp only at h ⊢
    cases hw : locate.walk fs (if path.head? == some 0x2F then [] else fs.home) (names path) with
    | error e => rw [hw] at h; cases h
    | ok r =>
      rw [hw] at h
      rw [walk_of_directories hdir _ _ r hw]
      exact h

theorem create_cases {fs fs₁ : Files} {path : Bytes} {loc : List Bytes}
    (h : fs.create path = .ok (loc, fs₁)) :
    (∃ t, fs.locate path = .ok (loc, t)) ∧
      ((∃ dev, fs.get? loc = some (.device dev) ∧ fs₁ = fs) ∨
        ∃ x, fs₁ = fs.put loc (.file [] x) ∧ (fs.get? loc = none ∨ ∃ c, fs.get? loc = some (.file c x))) := by
  unfold create at h
  cases hl : fs.locate path with
  | error e => simp [hl, bind, Except.bind] at h
  | ok v =>
    obtain ⟨loc', t⟩ := v
    cases hg : fs.get? loc' with
    | none =>
      cases t <;> simp [hl, hg, bind, Except.bind, pure, Except.pure, throw, throwThe,
        MonadExceptOf.throw] at h
      obtain ⟨rfl, rfl⟩ := h
      exact ⟨⟨false, rfl⟩, .inr ⟨false, rfl, .inl hg⟩⟩
    | some e =>
      cases e with
      | file c x =>
        cases t <;> simp [hl, hg, bind, Except.bind, pure, Except.pure, throw, throwThe,
          MonadExceptOf.throw] at h
        obtain ⟨rfl, rfl⟩ := h
        exact ⟨⟨false, rfl⟩, .inr ⟨x, rfl, .inr ⟨c, hg⟩⟩⟩
      | directory => simp [hl, hg, bind, Except.bind, throw, throwThe, MonadExceptOf.throw] at h
      | device dev =>
        simp [hl, hg, bind, Except.bind, pure, Except.pure] at h
        obtain ⟨rfl, rfl⟩ := h
        exact ⟨⟨t, rfl⟩, .inl ⟨dev, hg, rfl⟩⟩
      | program name => simp [hl, hg, bind, Except.bind, throw, throwThe, MonadExceptOf.throw] at h

theorem create_keeps_directories {fs fs₁ : Files} {path : Bytes} {loc : List Bytes}
    (h : fs.create path = .ok (loc, fs₁)) (l : List Bytes) (hl : fs.get? l = some .directory) :
    fs₁.get? l = some .directory := by
  rcases (create_cases h).2 with ⟨dev, -, rfl⟩ | ⟨x, rfl, hold⟩
  · exact hl
  · have hne : l ≠ loc := by
      rintro rfl
      rcases hold with hold | ⟨c, hold⟩ <;> simp [hl] at hold
    rw [get?_put_ne _ _ hne, hl]

theorem create_home {fs fs₁ : Files} {path : Bytes} {loc : List Bytes}
    (h : fs.create path = .ok (loc, fs₁)) : fs₁.home = fs.home := by
  rcases (create_cases h).2 with ⟨dev, -, rfl⟩ | ⟨x, rfl, -⟩
  · rfl
  · exact home_put _ _ _

theorem create_not_full {fs fs₁ : Files} {path : Bytes} {loc : List Bytes}
    (h : fs.create path = .ok (loc, fs₁)) (hfull : fs.get? loc ≠ some (.device .full)) :
    fs₁.get? loc ≠ some (.device .full) := by
  rcases (create_cases h).2 with ⟨dev, -, rfl⟩ | ⟨x, rfl, -⟩
  · exact hfull
  · simp

theorem create_regular {fs fs₁ : Files} {path : Bytes} {loc : List Bytes}
    (h : fs.create path = .ok (loc, fs₁))
    (hreg : fs.get? loc = none ∨ ∃ c x, fs.get? loc = some (.file c x)) :
    ∃ x, fs₁ = fs.put loc (.file [] x) := by
  rcases (create_cases h).2 with ⟨dev, hdev, -⟩ | ⟨x, rfl, -⟩
  · rcases hreg with hreg | ⟨c, x, hreg⟩ <;> simp [hreg] at hdev
  · exact ⟨x, rfl⟩

theorem lookup_after_create {fs fs₁ : Files} {out path : Bytes} {loc iloc : List Bytes} {c : Bytes}
    {x : Bool} (hc : fs.create out = .ok (loc, fs₁)) (hl : fs.lookup path = .ok (iloc, .file c x)) :
    fs₁.lookup path = .ok (iloc, .file (if iloc = loc then [] else c) x) := by
  unfold lookup at hl ⊢
  cases hloc : fs.locate path with
  | error e => simp [hloc, bind, Except.bind] at hl
  | ok v =>
    obtain ⟨iloc', t⟩ := v
    have hloc₁ := locate_of_directories (create_home hc) (create_keeps_directories hc) hloc
    cases hg : fs.get? iloc' with
    | none => simp [hloc, hg, bind, Except.bind, throw, throwThe, MonadExceptOf.throw] at hl
    | some e =>
      -- only a regular file found without a trailing `/` is looked up
      cases t <;> cases e <;> simp [hloc, hg, bind, Except.bind, pure, Except.pure, throw, throwThe,
        MonadExceptOf.throw] at hl
      rename_i c' x'
      obtain ⟨rfl, hc', hx'⟩ := hl
      subst c' x'
      have hg₁ : fs₁.get? iloc' = some (.file (if iloc' = loc then [] else c) x) := by
        by_cases hsame : iloc' = loc
        · subst hsame
          rcases (create_cases hc).2 with ⟨dev, hdev, -⟩ | ⟨x', rfl, hold⟩
          · simp [hg] at hdev
          · rcases hold with hold | ⟨c', hold⟩ <;> simp_all
        · rcases (create_cases hc).2 with ⟨dev, -, rfl⟩ | ⟨x', rfl, -⟩
          · simp [hg, hsame]
          · rw [get?_put_ne _ _ hsame, hg, if_neg hsame]
      simp [hloc₁, hg₁, bind, Except.bind, pure, Except.pure]

end Files

end SymbolSieve
