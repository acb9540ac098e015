/-!
# Acts

An act works on a state of type `σ`.  It yields a value or fails, and what it did to the state
before it failed stays done.

* `Act.bind_apply`: acts in sequence.
* `Act.attempt`: an act whose failure is its value.
-/

namespace JobChain

/-- An act on a state `σ` that yields an `α` or fails with an `ε`. -/
def Act (ε σ α : Type) : Type := σ → Except ε α × σ

namespace Act

variable {ε ε' σ α β : Type}

/-- The act that yields a value and does nothing. -/
def done (a : α) : Act ε σ α := fun s => (.ok a, s)

/-- The act that fails. -/
def fail (e : ε) : Act ε σ α := fun s => (.error e, s)

/-- One act after another. -/
def andThen (x : Act ε σ α) (f : α → Act ε σ β) : Act ε σ β := fun s =>
  match x s with
  | (.ok a, s') => f a s'
  | (.error e, s') => (.error e, s')

instance : Monad (Act ε σ) where
  pure := done
  bind := andThen

/-- The state. -/
def get : Act ε σ σ := fun s => (.ok s, s)

/-- The act that changes the state. -/
def modify (f : σ → σ) : Act ε σ Unit := fun s => (.ok (), f s)

/-- The act that yields a result that is there already. -/
def ofExcept : Except ε α → Act ε σ α
  | .ok a => done a
  | .error e => fail e

/-- The act whose failure is told in other terms. -/
def mapError (f : ε → ε') (x : Act ε σ α) : Act ε' σ α := fun s => ((x s).1.mapError f, (x s).2)

/-- The act whose failure is part of its value. -/
def attempt (x : Act ε σ α) : Act ε' σ (Except ε α) := fun s => (.ok (x s).1, (x s).2)

@[simp] theorem pure_apply (a : α) (s : σ) : (pure a : Act ε σ α) s = (.ok a, s) := rfl

@[simp] theorem fail_apply (e : ε) (s : σ) : (fail e : Act ε σ α) s = (.error e, s) := rfl

theorem bind_apply (x : Act ε σ α) (f : α → Act ε σ β) (s : σ) :
    (x >>= f) s = match x s with
      | (.ok a, s') => f a s'
      | (.error e, s') => (.error e, s') := rfl

@[simp] theorem get_apply (s : σ) : (get : Act ε σ σ) s = (.ok s, s) := rfl

@[simp] theorem modify_apply (f : σ → σ) (s : σ) :
    (modify f : Act ε σ Unit) s = (.ok (), f s) := rfl

@[simp] theorem mapError_apply (f : ε → ε') (x : Act ε σ α) (s : σ) :
    mapError f x s = ((x s).1.mapError f, (x s).2) := rfl

@[simp] theorem attempt_apply (x : Act ε σ α) (s : σ) :
    (attempt x : Act ε' σ _) s = (.ok (x s).1, (x s).2) := rfl

end Act

end JobChain
