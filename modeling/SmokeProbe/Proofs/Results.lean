import Mathlib.Data.List.Forall2
import SmokeProbe.Fallible

/-!
# Results of readers

How a reader of a list succeeds that is made of one for each entry: every one of them does.
-/
namespace SmokeProbe

variable {A B : Type}

theorem exists_of_mem_right {R : A → B → Prop} {as : List A} {bs : List B}
    (h : List.Forall₂ R as bs) {b : B} (hb : b ∈ bs) : ∃ a ∈ as, R a b := by
  induction h with
  | nil => cases hb
  | cons hab _ ih =>
    rcases List.mem_cons.mp hb with rfl | hb
    · exact ⟨_, List.mem_cons_self, hab⟩
    · obtain ⟨a, ha, hr⟩ := ih hb
      exact ⟨a, List.mem_cons_of_mem _ ha, hr⟩

theorem exists_of_mem_left {R : A → B → Prop} {as : List A} {bs : List B}
    (h : List.Forall₂ R as bs) {a : A} (ha : a ∈ as) : ∃ b ∈ bs, R a b :=
  exists_of_mem_right h.flip ha

theorem mapM_eq_some {f : A → Option B} {as : List A} {bs : List B} :
    as.mapM f = some bs ↔ List.Forall₂ (fun a b => f a = some b) as bs := by
  induction as generalizing bs with
  | nil =>
    rw [List.mapM_nil, List.forall₂_nil_left_iff]
    exact ⟨fun h => (Option.some.inj h).symm, fun h => congrArg some h.symm⟩
  | cons a as ih =>
    simp only [List.mapM_cons, Option.bind_eq_bind, Option.bind_eq_some_iff,
      List.forall₂_cons_left_iff]
    constructor
    · intro ⟨b, hb, bs', hbs, h⟩
      exact ⟨b, bs', hb, ih.mp hbs, (Option.some.inj h).symm⟩
    · intro ⟨b, bs', hb, hbs, h⟩
      exact ⟨b, hb, bs', ih.mpr hbs, congrArg some h.symm⟩

theorem exists_of_mapM {f : A → Option B} {as : List A} {bs : List B}
    (h : as.mapM f = some bs) {b : B} (hb : b ∈ bs) : ∃ a ∈ as, f a = some b :=
  exists_of_mem_right (mapM_eq_some.mp h) hb

theorem exists_of_mem_mapM {f : A → Option B} {as : List A} {bs : List B}
    (h : as.mapM f = some bs) {a : A} (ha : a ∈ as) : ∃ b ∈ bs, f a = some b :=
  exists_of_mem_left (mapM_eq_some.mp h) ha

end SmokeProbe
