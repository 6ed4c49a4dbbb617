/-!
# Steps that may fail

Two steps in a row succeed if the first one does, and so does the second one on what the first one
made.
-/
namespace SmokeProbe

variable {A B E : Type}

@[simp] theorem ok_bind (a : A) (f : A → Except E B) : (Except.ok a >>= f) = f a := rfl

@[simp] theorem error_bind (e : E) (f : A → Except E B) : (Except.error e >>= f) = .error e := rfl

theorem bind_eq_ok {r : Except E A} {f : A → Except E B} {b : B} :
    (r >>= f) = .ok b ↔ ∃ a, r = .ok a ∧ f a = .ok b := by
  cases r <;> simp

theorem map_eq_ok {r : Except E A} {f : A → B} {b : B} :
    r.map f = .ok b ↔ ∃ a, r = .ok a ∧ f a = b := by
  cases r <;> simp [Except.map]

end SmokeProbe
