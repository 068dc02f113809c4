import Billing.Fault
import Mathlib.Data.List.Forall2

/-!
# Computations that succeed

What a successful computation says of its parts: a sequence of steps succeeds if each of them does
(`bind_eq_ok`, `map_eq_ok`, `mapM_eq_ok`), and is stopped by what can stop one of them (`StopsBy`).
-/

namespace Billing

variable {β γ : Type}

theorem pure_eq_ok {a b : β} : (pure a : Except Fault β) = .ok b ↔ a = b := by
  simp [pure, Except.pure]

theorem bind_eq_ok {ε : Type} {x : Except ε β} {f : β → Except ε γ} {c : γ} :
    (x >>= f) = .ok c ↔ ∃ b, x = .ok b ∧ f b = .ok c := by
  cases x <;> simp [bind, Except.bind]

theorem exists_bind_eq_ok {x : Except Fault β} {f : β → Except Fault γ} {b : β} (hx : x = .ok b)
    (hf : ∃ c, f b = .ok c) : ∃ c, (x >>= f) = .ok c := by
  obtain ⟨c, hc⟩ := hf
  exact ⟨c, bind_eq_ok.2 ⟨b, hx, hc⟩⟩

theorem map_eq_ok {ε : Type} {x : Except ε β} {f : β → γ} {c : γ} :
    (f <$> x) = .ok c ↔ ∃ b, x = .ok b ∧ f b = c := by
  cases x <;> simp [Functor.map, Except.map]

theorem exceptMap_eq_ok {ε : Type} {x : Except ε β} {f : β → γ} {c : γ} :
    x.map f = .ok c ↔ ∃ b, x = .ok b ∧ f b = c := map_eq_ok

theorem eq_of_map_snd {x : Except Fault (β × γ)} {b : β} {c c' : γ} (h : x = .ok (b, c))
    (hsnd : x.map (·.2) = .ok c') : c = c' := by
  rw [h] at hsnd
  exact Except.ok.inj hsnd

theorem exists_of_isOk {x : Except Fault β} (h : x.isOk) : ∃ b, x = .ok b := by
  cases x with
  | ok b => exact ⟨b, rfl⟩
  | error => cases h

theorem mapM_eq_ok {f : β → Except Fault γ} {xs : List β} {ys : List γ} :
    xs.mapM f = .ok ys ↔ List.Forall₂ (fun x y => f x = .ok y) xs ys := by
  induction xs generalizing ys with
  | nil => rw [List.mapM_nil, pure_eq_ok, List.forall₂_nil_left_iff, eq_comm]
  | cons x xs ih =>
    simp only [List.mapM_cons, bind_eq_ok, pure_eq_ok, ih, List.forall₂_cons_left_iff]
    exact ⟨fun ⟨y, hy, rest, hrest, e⟩ => ⟨y, rest, hy, hrest, e.symm⟩,
      fun ⟨y, rest, hy, hrest, e⟩ => ⟨y, hy, rest, hrest, e.symm⟩⟩

theorem exists_of_mem_right {r : β → γ → Prop} {xs : List β} {ys : List γ}
    (h : List.Forall₂ r xs ys) {y : γ} (hy : y ∈ ys) : ∃ x ∈ xs, r x y := by
  induction h with
  | nil => simp at hy
  | cons hr _ ih =>
    obtain rfl | hy := List.mem_cons.1 hy
    · exact ⟨_, List.mem_cons_self, hr⟩
    · obtain ⟨x, hx, hr⟩ := ih hy
      exact ⟨x, List.mem_cons_of_mem _ hx, hr⟩

theorem exists_of_mem_mapM {f : β → Except Fault γ} {xs : List β} {ys : List γ} {y : γ}
    (h : xs.mapM f = .ok ys) (hy : y ∈ ys) : ∃ x ∈ xs, f x = .ok y :=
  exists_of_mem_right (mapM_eq_ok.1 h) hy

theorem exists_of_mapM_eq_ok {f : β → Except Fault γ} {xs : List β} {ys : List γ} {x : β}
    (h : xs.mapM f = .ok ys) (hx : x ∈ xs) : ∃ y, f x = .ok y := by
  obtain ⟨y, -, hy⟩ := exists_of_mem_right (r := flip _) (mapM_eq_ok.1 h).flip hx
  exact ⟨y, hy⟩

theorem exists_of_mapM_eq_error {f : β → Except Fault γ} {xs : List β} {cause : Fault}
    (h : xs.mapM f = .error cause) : ∃ x ∈ xs, f x = .error cause := by
  induction xs with
  | nil => cases h
  | cons x xs ih =>
    rw [List.mapM_cons] at h
    cases hx : f x with
    | error e =>
      rw [hx] at h
      obtain rfl : e = cause := Except.error.inj h
      exact ⟨x, List.mem_cons_self, hx⟩
    | ok y =>
      cases hxs : xs.mapM f with
      | error e =>
        rw [hx, hxs] at h
        obtain rfl : e = cause := Except.error.inj h
        obtain ⟨x', hx', he⟩ := ih hxs
        exact ⟨x', List.mem_cons_of_mem _ hx', he⟩
      | ok ys =>
        rw [hx, hxs] at h
        cases h

/-- Of computations that all fail for the same cause, if they fail, one is enough. -/
theorem mapM_eq_error {f : β → Except Fault γ} {xs : List β} {x : β} {cause : Fault}
    (hx : x ∈ xs) (hfail : f x = .error cause)
    (hall : ∀ x e, x ∈ xs → f x = .error e → e = cause) : xs.mapM f = .error cause := by
  cases h : xs.mapM f with
  | error e =>
    obtain ⟨y, hy, he⟩ := exists_of_mapM_eq_error h
    rw [hall y e hy he]
  | ok ys =>
    obtain ⟨y, hy⟩ := exists_of_mapM_eq_ok h hx
    rw [hfail] at hy
    cases hy

/-- Whatever stops a computation is a cause of this sort. -/
def StopsBy (P : Fault → Prop) (x : Except Fault β) : Prop := ∀ cause, x = .error cause → P cause

namespace StopsBy

variable {P : Fault → Prop} {x : Except Fault β}

theorem of_ok {b : β} (h : x = .ok b) : StopsBy P x := by
  intro cause hcause
  cases h.symm.trans hcause

theorem bind {f : β → Except Fault γ} (hx : StopsBy P x)
    (hf : ∀ b, x = .ok b → StopsBy P (f b)) : StopsBy P (x >>= f) := by
  cases hcase : x with
  | error e =>
    rintro cause ⟨⟩
    exact hx e hcase
  | ok b => exact hf b hcase

theorem map (hx : StopsBy P x) (f : β → γ) : StopsBy P (f <$> x) := by
  cases hcase : x with
  | error e =>
    rintro cause ⟨⟩
    exact hx e hcase
  | ok b => exact of_ok rfl

/-- What nothing stops succeeds. -/
theorem exists_ok (hx : StopsBy P x) (hP : ∀ cause, ¬ P cause) : ∃ b, x = .ok b := by
  cases hcase : x with
  | error e => exact absurd (hx e hcase) (hP e)
  | ok b => exact ⟨b, rfl⟩

end StopsBy

theorem mapM_eq_ok_map {f : β → Except Fault γ} {g : β → γ} {xs : List β}
    (h : ∀ x ∈ xs, f x = .ok (g x)) : xs.mapM f = .ok (xs.map g) := by
  rw [mapM_eq_ok, List.forall₂_map_right_iff, List.forall₂_same]
  exact h

end Billing
