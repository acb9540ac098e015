import JobChain.Act

/-!
# Acts, looked at from outside

Eight ways to reason about an act without opening it.

* `Act.bind_eq_ok_iff`: one act after another yields a value iff both do.
* `Act.bind_of_ok`, `Act.bind_of_error`: one act after another from a state from which it is known
  how the first ends.
* `Act.Yields`: an act never fails, whatever the state, and its values have a property.
* `Act.Ends`: the values of an act have a property, and so have its failures together with the
  states that they leave.
* `Act.Reaches`: from one state an act yields a value and comes to a state, and the two have a
  property together.
* `Act.Keeps`: what holds of the state before an act holds after it, even if it fails.
* `Act.Mimics`: an act does to a state what another does to an image of the state, and comes to the
  same.  Acts that are put together from mimics are mimics.
* `Act.MimicsWithin`: an act mimics another until a count passes a bound, and fails then.
-/

namespace JobChain.Act

variable {ε σ τ α β : Type}

/-! ## Acts that yield a value -/

theorem bind_eq_ok_iff {x : Act ε σ α} {f : α → Act ε σ β} {s s' : σ} {b : β} :
    (x >>= f) s = (.ok b, s') ↔ ∃ a t, x s = (.ok a, t) ∧ f a t = (.ok b, s') := by
  rw [bind_apply]
  rcases x s with ⟨e | a, t⟩
  · simp
  · constructor
    · intro h
      exact ⟨a, t, rfl, h⟩
    · rintro ⟨_, _, ⟨⟩, h⟩
      exact h

theorem bind_of_ok {x : Act ε σ α} {s t : σ} {a : α} (h : x s = (.ok a, t)) (f : α → Act ε σ β) :
    (x >>= f) s = f a t := by
  rw [bind_apply, h]

theorem bind_of_error {x : Act ε σ α} {s t : σ} {e : ε} (h : x s = (.error e, t))
    (f : α → Act ε σ β) : (x >>= f) s = (.error e, t) := by
  rw [bind_apply, h]

theorem pure_bind (a : α) (f : α → Act ε σ β) : pure a >>= f = f a := rfl

theorem bind_pure (x : Act ε σ α) : x >>= pure = x := by
  funext s
  rw [bind_apply]
  rcases x s with ⟨e | a, t⟩ <;> rfl

theorem bind_assoc {γ : Type} (x : Act ε σ α) (f : α → Act ε σ β) (g : β → Act ε σ γ) :
    x >>= f >>= g = x >>= fun a => f a >>= g := by
  funext s
  rw [bind_apply, bind_apply, bind_apply]
  rcases x s with ⟨e | a, t⟩ <;> rfl

theorem ofExcept_eq_ok_iff {x : Except ε α} {a : α} {s s' : σ} :
    ofExcept x s = (.ok a, s') ↔ x = .ok a ∧ s' = s := by
  cases x with
  | error e => simp [ofExcept, fail]
  | ok b => simp [ofExcept, done, eq_comm]

theorem pure_eq_ok_iff {a b : α} {s s' : σ} :
    (pure a : Act ε σ α) s = (.ok b, s') ↔ b = a ∧ s' = s := by
  simp [eq_comm]

/-- An act that never fails and whose values have a property. -/
def Yields (P : α → Prop) (x : Act ε σ α) : Prop := ∀ s, ∃ a, (x s).1 = .ok a ∧ P a

/-! ## How acts end -/

/-- The values of the act have a property, and so have its failures together with the states that
they leave. -/
def Ends (P : α → Prop) (E : ε → σ → Prop) (x : Act ε σ α) : Prop :=
  ∀ s, (∀ a, (x s).1 = .ok a → P a) ∧ ∀ e, (x s).1 = .error e → E e (x s).2

namespace Ends

variable {P : α → Prop} {Q : β → Prop} {E : ε → σ → Prop}

theorem pure {a : α} (h : P a) : Ends P E (pure a : Act ε σ α) := by
  intro s
  refine ⟨fun b hb => ?_, fun e he => ?_⟩
  · cases hb
    exact h
  · cases he

theorem bind {x : Act ε σ α} {f : α → Act ε σ β} (hx : Ends P E x)
    (hf : ∀ a, P a → Ends Q E (f a)) : Ends Q E (x >>= f) := by
  intro s
  obtain ⟨hvalue, hfailure⟩ := hx s
  rw [bind_apply]
  rcases hrun : x s with ⟨e | a, t⟩
  · rw [hrun] at hfailure
    refine ⟨fun b hb => ?_, fun e' he => ?_⟩
    · cases hb
    · cases he
      exact hfailure e rfl
  · rw [hrun] at hvalue
    exact hf a (hvalue a rfl) t

/-- An act that can end with no failure yields a value. -/
theorem yields {x : Act ε σ α} (hx : Ends P E x) (hE : ∀ e s, ¬E e s) : Yields P x := by
  intro s
  obtain ⟨hvalue, hfailure⟩ := hx s
  cases hrun : (x s).1 with
  | error e => exact absurd (hfailure e hrun) (hE e _)
  | ok a => exact ⟨a, rfl, hvalue a hrun⟩

end Ends

/-! ## What acts come to -/

/-- From a state the act yields a value and comes to a state, and these have a property. -/
def Reaches (x : Act ε σ α) (s : σ) (Q : α → σ → Prop) : Prop := ∃ a s', x s = (.ok a, s') ∧ Q a s'

namespace Reaches

variable {s : σ}

theorem pure {a : α} {Q : α → σ → Prop} (h : Q a s) : Reaches (pure a : Act ε σ α) s Q :=
  ⟨a, s, rfl, h⟩

theorem bind {x : Act ε σ α} {f : α → Act ε σ β} {Q : α → σ → Prop} {R : β → σ → Prop}
    (hx : Reaches x s Q) (hf : ∀ a s', Q a s' → Reaches (f a) s' R) : Reaches (x >>= f) s R := by
  obtain ⟨a, s', hxs, hQ⟩ := hx
  obtain ⟨b, s'', hfs, hR⟩ := hf a s' hQ
  exact ⟨b, s'', bind_eq_ok_iff.mpr ⟨a, s', hxs, hfs⟩, hR⟩

end Reaches

/-! ## What acts leave as it is -/

/-- A property that the state keeps, whether the act fails or not. -/
def Keeps (P : σ → Prop) (x : Act ε σ α) : Prop := ∀ s, P s → P (x s).2

namespace Keeps

variable {P : σ → Prop}

theorem pure (a : α) : Keeps P (pure a : Act ε σ α) := fun _ h => h

theorem fail (e : ε) : Keeps P (fail e : Act ε σ α) := fun _ h => h

theorem bind {x : Act ε σ α} {f : α → Act ε σ β} (hx : Keeps P x) (hf : ∀ a, Keeps P (f a)) :
    Keeps P (x >>= f) := by
  intro s hs
  have hxs := hx s hs
  rw [bind_apply]
  rcases hrun : x s with ⟨e | a, t⟩
  · rw [hrun] at hxs
    exact hxs
  · rw [hrun] at hxs
    exact hf a t hxs

end Keeps

/-! ## Acts that mimic others -/

/-- The act `x` does to a state what `y` does to its image, and comes to the same. -/
def Mimics (image : σ → τ) (x : Act ε σ α) (y : Act ε τ α) : Prop :=
  ∀ s, y (image s) = ((x s).1, image (x s).2)

namespace Mimics

variable {image : σ → τ}

theorem pure (a : α) : Mimics image (pure a : Act ε σ α) (pure a) := fun _ => rfl

theorem fail (e : ε) : Mimics image (fail e : Act ε σ α) (fail e) := fun _ => rfl

theorem bind {x : Act ε σ α} {y : Act ε τ α} {f : α → Act ε σ β} {g : α → Act ε τ β}
    (hx : Mimics image x y) (hf : ∀ a, Mimics image (f a) (g a)) :
    Mimics image (x >>= f) (y >>= g) := by
  intro s
  rw [bind_apply, bind_apply, hx s]
  rcases x s with ⟨e | a, t⟩
  · rfl
  · exact hf a t

end Mimics

/-! ## Acts that mimic others up to a bound -/

/-- The act `x` makes a count grow.  As long as the count is within a bound, `y` does to the image
of a state what `x` does to the state, and comes to the same.  Where `x` takes the count beyond the
bound, `y` fails. -/
structure MimicsWithin (count : σ → Nat) (bound : Nat) (failure : ε) (image : σ → τ)
    (x : Act ε σ α) (y : Act ε τ α) : Prop where
  grows : ∀ s, count s ≤ count (x s).2
  within : ∀ s, count (x s).2 ≤ bound → y (image s) = ((x s).1, image (x s).2)
  beyond : ∀ s, count s ≤ bound → bound < count (x s).2 → (y (image s)).1 = .error failure

namespace MimicsWithin

variable {count : σ → Nat} {bound : Nat} {failure : ε} {image : σ → τ}

/-- An act that leaves the count as it is never comes to the bound. -/
theorem of_mimics {x : Act ε σ α} {y : Act ε τ α} (h : Mimics image x y)
    (hcount : ∀ s, count (x s).2 = count s) : MimicsWithin count bound failure image x y where
  grows s := Nat.le_of_eq (hcount s).symm
  within s _ := h s
  beyond s hs hgrown := by
    rw [hcount] at hgrown
    exact absurd hs (Nat.not_le.mpr hgrown)

theorem bind {x : Act ε σ α} {y : Act ε τ α} {f : α → Act ε σ β} {g : α → Act ε τ β}
    (hx : MimicsWithin count bound failure image x y)
    (hf : ∀ a, MimicsWithin count bound failure image (f a) (g a)) :
    MimicsWithin count bound failure image (x >>= f) (y >>= g) := by
  constructor
  case grows =>
    intro s
    have hgrows := hx.grows s
    rw [bind_apply]
    rcases hrun : x s with ⟨e | a, t⟩
    · rwa [hrun] at hgrows
    · rw [hrun] at hgrows
      exact Nat.le_trans hgrows ((hf a).grows t)
  case within =>
    intro s hbound
    have hwithin := hx.within s
    rw [bind_apply] at hbound ⊢
    rw [bind_apply]
    rcases hrun : x s with ⟨e | a, t⟩
    · rw [hrun] at hwithin hbound
      rw [hwithin hbound]
    · rw [hrun] at hwithin hbound
      rw [hwithin (Nat.le_trans ((hf a).grows t) hbound)]
      exact (hf a).within t hbound
  case beyond =>
    intro s hs hbound
    have hwithin := hx.within s
    have hbeyond := hx.beyond s hs
    rw [bind_apply] at hbound ⊢
    rcases hrun : x s with ⟨e | a, t⟩
    · rw [hrun] at hbeyond hbound
      rcases hy : y (image s) with ⟨result, t'⟩
      rw [hy] at hbeyond
      obtain rfl : result = .error failure := hbeyond hbound
      rfl
    · rw [hrun] at hwithin hbeyond hbound
      -- the bound is passed by the first act or by the second
      by_cases hfirst : count t ≤ bound
      · rw [hwithin hfirst]
        exact (hf a).beyond t hfirst hbound
      · rcases hy : y (image s) with ⟨result, t'⟩
        rw [hy] at hbeyond
        obtain rfl : result = .error failure := hbeyond (Nat.lt_of_not_le hfirst)
        rfl

end MimicsWithin

end JobChain.Act
