import Mathlib.Data.List.Forall2

/-!
# Steps that may fail

When a chain of steps or a walk over a list answers: exactly when every step does.

## Main results

* `Except.bind_eq_ok_iff`, `Except.map_fst_eq_ok_iff` — one step after the other.
* `Except.toOption_congr` — steps that answer alike, whatever their faults.
* `Except.forM_eq_ok_iff`, `Except.mapM_eq_ok_iff`, `Except.exists_mapM_eq_ok_iff`,
  `Except.exists_of_mapM_eq_ok`, `Except.map_of_mapM_eq_ok`, `Except.mapM_eq_error_iff`,
  `Except.foldlM_invariant`, `Option.foldlM_invariant` — walks over lists.
-/

namespace Scaffold.Except

universe u v w

variable {ε : Type u} {α β : Type v}

theorem error_ne_ok (e : ε) (a : α) : (.error e : Except ε α) ≠ .ok a := by
  intro h
  cases h

theorem bind_eq_ok_iff {x : Except ε α} {f : α → Except ε β} {b : β} :
    (x >>= f) = .ok b ↔ ∃ a, x = .ok a ∧ f a = .ok b := by
  cases x with
  | error e =>
    refine iff_of_false (error_ne_ok e b) ?_
    rintro ⟨a, h, -⟩
    exact error_ne_ok e a h
  | ok a =>
    constructor
    · exact fun h => ⟨a, rfl, h⟩
    · rintro ⟨_, ⟨⟩, h⟩
      exact h

theorem exists_eq_ok_of_isOk {x : Except ε α} (h : x.isOk = true) : ∃ a, x = .ok a := by
  cases x with
  | error e => cases h
  | ok a => exact ⟨a, rfl⟩

/-- A step that also leaves a state behind still answers when its answer is changed. -/
theorem map_fst_eq_ok_iff {σ : Type w} {x : Except ε α × σ} {f : α → β} {b : β} {s : σ} :
    (x.1.map f, x.2) = (.ok b, s) ↔ ∃ a, x = (.ok a, s) ∧ b = f a := by
  obtain ⟨result, s'⟩ := x
  cases result with
  | error e =>
    refine iff_of_false (fun h => error_ne_ok e b (Prod.mk.inj h).1) ?_
    rintro ⟨a, h, -⟩
    exact error_ne_ok e a (Prod.mk.inj h).1
  | ok a =>
    constructor
    · intro h
      obtain ⟨hb, rfl⟩ := Prod.mk.inj h
      exact ⟨a, rfl, (Except.ok.inj hb).symm⟩
    · rintro ⟨_, ⟨⟩, rfl⟩
      rfl

/-- A walk that only looks answers when every look does. -/
theorem forM_eq_ok_iff {f : α → Except ε PUnit} {l : List α} :
    l.forM f = .ok ⟨⟩ ↔ ∀ a ∈ l, f a = .ok ⟨⟩ := by
  induction l with
  | nil => exact iff_of_true rfl (List.forall_mem_nil _)
  | cons a l ih =>
    have hstep : (a :: l).forM f = (f a >>= fun _ => l.forM f) := rfl
    rw [hstep, bind_eq_ok_iff, List.forall_mem_cons, ← ih]
    exact ⟨fun ⟨_, ha, hl⟩ => ⟨ha, hl⟩, fun ⟨ha, hl⟩ => ⟨⟨⟩, ha, hl⟩⟩

/-- A walk answers item by item. -/
theorem mapM_eq_ok_iff {f : α → Except ε β} {P : α → β → Prop} {l : List α}
    (hf : ∀ a ∈ l, ∀ b, f a = .ok b ↔ P a b) {out : List β} :
    l.mapM f = .ok out ↔ List.Forall₂ P l out := by
  induction l generalizing out with
  | nil =>
    rw [List.forall₂_nil_left_iff]
    exact ⟨fun h => (Except.ok.inj h).symm, fun h => h ▸ rfl⟩
  | cons a l ih =>
    obtain ⟨ha, hl⟩ := List.forall_mem_cons.mp hf
    rw [List.mapM_cons, bind_eq_ok_iff, List.forall₂_cons_left_iff]
    refine exists_congr fun b => ?_
    rw [bind_eq_ok_iff]
    constructor
    · rintro ⟨hb, rest, hrest, h⟩
      exact ⟨rest, (ha b).mp hb, (ih hl).mp hrest, (Except.ok.inj h).symm⟩
    · rintro ⟨rest, hb, hrest, rfl⟩
      exact ⟨(ha b).mpr hb, rest, (ih hl).mpr hrest, rfl⟩

theorem toOption_eq_some_iff {x : Except ε α} {a : α} : x.toOption = some a ↔ x = .ok a := by
  cases x with
  | error e => exact iff_of_false nofun (error_ne_ok e a)
  | ok b =>
    rw [Except.ok.injEq]
    exact Option.some_inj

theorem toOption_congr {ε' : Type w} {x : Except ε α} {y : Except ε' α}
    (h : ∀ a, x = .ok a ↔ y = .ok a) : x.toOption = y.toOption := by
  refine Option.ext fun a => ?_
  rw [toOption_eq_some_iff, toOption_eq_some_iff, h]

theorem mapM_eq_ok_iff_toOption {f : α → Except ε β} {l : List α} {out : List β} :
    l.mapM f = .ok out ↔ l.map (fun a => (f a).toOption) = out.map some := by
  rw [mapM_eq_ok_iff fun a _ b => toOption_eq_some_iff.symm, ← List.forall₂_eq_eq_eq,
    List.forall₂_map_left_iff, List.forall₂_map_right_iff]

/-- A walk answers exactly if all items do. -/
theorem exists_mapM_eq_ok_iff {f : α → Except ε β} {l : List α} :
    (∃ out, l.mapM f = .ok out) ↔ ∀ a ∈ l, ∃ b, f a = .ok b := by
  induction l with
  | nil => exact iff_of_true ⟨[], rfl⟩ (List.forall_mem_nil _)
  | cons a l ih =>
    rw [List.forall_mem_cons, ← ih]
    constructor
    · rintro ⟨out, h⟩
      rw [List.mapM_cons, bind_eq_ok_iff] at h
      obtain ⟨b, hb, h⟩ := h
      obtain ⟨rest, hrest, -⟩ := bind_eq_ok_iff.mp h
      exact ⟨⟨b, hb⟩, rest, hrest⟩
    · rintro ⟨⟨b, hb⟩, rest, hrest⟩
      refine ⟨b :: rest, ?_⟩
      rw [List.mapM_cons, hb, hrest]
      rfl

/-- Everything that a walk answers is the answer to something on the list. -/
theorem exists_of_mapM_eq_ok {f : α → Except ε β} {l : List α} {out : List β}
    (h : l.mapM f = .ok out) {b : β} (hb : b ∈ out) : ∃ a ∈ l, f a = .ok b := by
  induction l generalizing out with
  | nil =>
    obtain rfl := Except.ok.inj h
    cases hb
  | cons a l ih =>
    rw [List.mapM_cons, bind_eq_ok_iff] at h
    obtain ⟨b', ha, h⟩ := h
    rw [bind_eq_ok_iff] at h
    obtain ⟨rest, hl, h⟩ := h
    obtain rfl := Except.ok.inj h
    rcases List.mem_cons.mp hb with rfl | hb
    · exact ⟨a, List.mem_cons_self, ha⟩
    · obtain ⟨a', hmem, ha'⟩ := ih hl hb
      exact ⟨a', List.mem_cons_of_mem _ hmem, ha'⟩

/-- What the answers of a walk tell is told by what the walk is over, in its order. -/
theorem map_of_mapM_eq_ok {γ : Type v} {f : α → Except ε β} {g : α → γ} {k : β → γ}
    (hstep : ∀ a b, f a = .ok b → k b = g a) {l : List α} {out : List β}
    (h : l.mapM f = .ok out) : out.map k = l.map g := by
  induction l generalizing out with
  | nil =>
    obtain rfl := Except.ok.inj h
    rfl
  | cons a l ih =>
    rw [List.mapM_cons, bind_eq_ok_iff] at h
    obtain ⟨b, ha, h⟩ := h
    rw [bind_eq_ok_iff] at h
    obtain ⟨rest, hl, h⟩ := h
    obtain rfl := Except.ok.inj h
    rw [List.map_cons, List.map_cons, hstep a b ha, ih hl]

/-- **A walk fails at the first thing that is refused**, with the fault of that. -/
theorem mapM_eq_error_iff {f : α → Except ε β} {refused : α → Bool} {fault : α → ε} {l : List α}
    (hrefused : ∀ a ∈ l, refused a = true → f a = .error (fault a))
    (hother : ∀ a ∈ l, refused a = false → ∃ b, f a = .ok b) {e : ε} :
    l.mapM f = .error e ↔ ∃ a, l.find? refused = some a ∧ e = fault a := by
  induction l with
  | nil =>
    refine iff_of_false (fun h => error_ne_ok _ _ h.symm) ?_
    rintro ⟨a, h, -⟩
    cases h
  | cons a l ih =>
    have ⟨hrefused_a, hrefused_l⟩ := List.forall_mem_cons.mp hrefused
    have ⟨hother_a, hother_l⟩ := List.forall_mem_cons.mp hother
    rw [List.mapM_cons, List.find?_cons]
    cases ha : refused a with
    | true =>
      rw [hrefused_a ha]
      constructor
      · exact fun h => ⟨a, rfl, (Except.error.inj h).symm⟩
      · rintro ⟨_, ⟨⟩, rfl⟩
        rfl
    | false =>
      obtain ⟨b, hb⟩ := hother_a ha
      rw [hb, ← ih hrefused_l hother_l]
      show (l.mapM f >>= fun rest => pure (b :: rest)) = .error e ↔ _
      cases l.mapM f with
      | error e' => exact Iff.rfl
      | ok rest =>
        exact iff_of_false (fun h => error_ne_ok _ _ h.symm) fun h => error_ne_ok _ _ h.symm

/-- What holds at the start of a walk and is kept by its steps holds at the end. -/
theorem foldlM_invariant {σ : Type v} {P : σ → Prop} {f : σ → α → Except ε σ} {l : List α}
    {s out : σ} (h : l.foldlM f s = .ok out) (hs : P s)
    (hstep : ∀ s a s', P s → f s a = .ok s' → P s') : P out := by
  induction l generalizing s with
  | nil =>
    obtain rfl := Except.ok.inj h
    exact hs
  | cons a l ih =>
    rw [List.foldlM_cons, bind_eq_ok_iff] at h
    obtain ⟨s', ha, hl⟩ := h
    exact ih hl (hstep s a s' hs ha)

end Scaffold.Except

/-- What holds at the start of a walk and is kept by its steps holds at the end, for steps that
fail without a word. -/
theorem Scaffold.Option.foldlM_invariant {α σ : Type*} {P : σ → Prop} {f : σ → α → Option σ}
    {l : List α} {s out : σ} (h : l.foldlM f s = some out) (hs : P s)
    (hstep : ∀ a ∈ l, ∀ s s', P s → f s a = some s' → P s') : P out := by
  induction l generalizing s with
  | nil =>
    obtain rfl := Option.some.inj h
    exact hs
  | cons a l ih =>
    rw [List.foldlM_cons] at h
    obtain ⟨s', ha, hl⟩ := Option.bind_eq_some_iff.mp h
    obtain ⟨hhead, htail⟩ := List.forall_mem_cons.mp hstep
    exact ih hl (hhead s s' hs ha) htail
