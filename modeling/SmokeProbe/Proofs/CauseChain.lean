import SmokeProbe.Probe.Error

/-!
# Chains of causes

A description grows along the chain of causes. Each cause either stands at the end of what has been
said already, and then nothing is added, or it is added behind a colon. So a description says every
cause, and says nothing more for a cause that is empty or stands directly behind itself.
-/
namespace SmokeProbe.ProbeError

def EndsWith (text cause : String) : Prop := cause.toList <:+ text.toList

section
variable {text cause : String}

theorem appendCause_of_endsWith (h : EndsWith text cause) : appendCause text cause = text :=
  if_pos (List.isSuffixOf_iff_suffix.mpr h)

theorem appendCause_of_not_endsWith (h : ¬ EndsWith text cause) :
    appendCause text cause = text ++ ": " ++ cause :=
  if_neg (by rwa [List.isSuffixOf_iff_suffix])

theorem endsWith_append (front text : String) : EndsWith (front ++ text) text := by
  rw [EndsWith, String.toList_append]
  exact List.suffix_append _ _

theorem endsWith_empty (text : String) : EndsWith text "" := by
  rw [EndsWith, String.toList_empty]
  exact List.nil_suffix

theorem appendCause_cases (text cause : String) :
    appendCause text cause = text ∨ appendCause text cause = text ++ ": " ++ cause := by
  by_cases h : EndsWith text cause
  · exact .inl (appendCause_of_endsWith h)
  · exact .inr (appendCause_of_not_endsWith h)

theorem appendCause_endsWith (text cause : String) : EndsWith (appendCause text cause) cause := by
  by_cases h : EndsWith text cause
  · rw [appendCause_of_endsWith h]
    exact h
  · rw [appendCause_of_not_endsWith h]
    exact endsWith_append _ _

theorem appendCause_eq_self : appendCause text cause = text ↔ EndsWith text cause := by
  constructor
  · intro h
    have hends := appendCause_endsWith text cause
    rwa [h] at hends
  · exact appendCause_of_endsWith

theorem prefix_appendCause (text cause : String) :
    text.toList <+: (appendCause text cause).toList := by
  by_cases h : EndsWith text cause
  · exact ⟨[], by rw [List.append_nil, appendCause_of_endsWith h]⟩
  · rw [appendCause_of_not_endsWith h, String.toList_append, String.toList_append,
      List.append_assoc]
    exact List.prefix_append _ _

end

/-! ## Along a chain -/

variable {message : String} {causes : List String}

theorem withCauses_cons (message cause : String) (causes : List String) :
    withCauses message (cause :: causes) = withCauses (appendCause message cause) causes := rfl

theorem withCauses_append (message : String) (front back : List String) :
    withCauses message (front ++ back) = withCauses (withCauses message front) back :=
  List.foldl_append

theorem withCauses_take_succ (message : String) {k : Nat} (hk : k < causes.length) :
    withCauses message (causes.take (k + 1)) =
      appendCause (withCauses message (causes.take k)) causes[k] := by
  rw [List.take_succ_eq_append_getElem hk, withCauses_append]
  rfl

theorem prefix_withCauses (message : String) (causes : List String) :
    message.toList <+: (withCauses message causes).toList := by
  induction causes generalizing message with
  | nil => exact List.prefix_refl _
  | cons cause causes ih => exact (prefix_appendCause message cause).trans (ih _)

/-- A cause stands at the end when it is reached, and what is said stays said. -/
theorem infix_withCauses {cause : String} (h : cause ∈ causes) :
    cause.toList <:+: (withCauses message causes).toList := by
  obtain ⟨front, back, rfl⟩ := List.append_of_mem h
  rw [withCauses_append, withCauses_cons]
  have hends := appendCause_endsWith (withCauses message front) cause
  exact hends.isInfix.trans (prefix_withCauses _ back).isInfix

/-- A chain with more causes in it: empty ones in any place, and copies directly behind a cause. -/
inductive Padded : List String → List String → Prop
  | nil : Padded [] []
  | cons {causes more : List String} (cause : String) : Padded causes more →
      Padded (cause :: causes) (cause :: more)
  | empty {causes more : List String} : Padded causes more → Padded causes ("" :: more)
  | again {causes more : List String} {cause : String} : Padded causes (cause :: more) →
      Padded causes (cause :: cause :: more)

theorem Padded.withCauses_eq {more : List String} (h : Padded causes more) (message : String) :
    withCauses message more = withCauses message causes := by
  induction h generalizing message with
  | nil => rfl
  | cons cause _ ih => exact ih _
  | empty _ ih =>
    rw [withCauses_cons, appendCause_of_endsWith (endsWith_empty message), ih]
  | again _ ih =>
    rw [withCauses_cons, withCauses_cons, appendCause_of_endsWith (appendCause_endsWith _ _),
      ← withCauses_cons, ih]

theorem describe_of_no_causes {e : ProbeError} (h : e.causes = []) : e.describe = e.message := by
  rw [describe, h]
  rfl

/-- A description is the message followed by the causes one by one: it only grows, it ends with the
cause that was reached last, and it is left as it is exactly if it ends with that cause already.
So every cause occurs in it, and causes that are empty or directly repeated do not change it. The
errors that do not come from an exchange are described by their messages. -/
theorem describe_causes :
    (∀ (message : String) (causes : List String),
      let shown := fun k => withCauses message (causes.take k)
      shown 0 = message ∧ shown causes.length = withCauses message causes ∧
      (∀ (k : Nat) (hk : k < causes.length),
        (shown k).toList <+: (shown (k + 1)).toList ∧ EndsWith (shown (k + 1)) causes[k] ∧
        (shown (k + 1) = shown k ∨ shown (k + 1) = shown k ++ ": " ++ causes[k]) ∧
        (shown (k + 1) = shown k ↔ EndsWith (shown k) causes[k])) ∧
      (∀ cause ∈ causes, cause.toList <:+: (withCauses message causes).toList) ∧
      ∀ more, Padded causes more → withCauses message more = withCauses message causes) ∧
    (∀ e : ProbeError, e.describe = withCauses e.message e.causes) ∧
    (∀ error, (encoding error).describe = (encoding error).message) ∧
    (∀ reason, (invalidUrl reason).describe = (invalidUrl reason).message) ∧
    (∀ text, (invalidPort text).describe = (invalidPort text).message) := by
  refine ⟨fun message causes => ?_, fun _ => rfl, fun error => ?_,
    fun _ => describe_of_no_causes rfl, fun _ => describe_of_no_causes rfl⟩
  · intro shown
    refine ⟨?_, ?_, fun k hk => ?_, fun cause h => infix_withCauses h,
      fun more h => h.withCauses_eq message⟩
    · simp only [shown, List.take_zero]
      rfl
    · simp only [shown, List.take_length]
    · simp only [shown, withCauses_take_succ message hk]
      exact ⟨prefix_appendCause _ _, appendCause_endsWith _ _, appendCause_cases _ _,
        appendCause_eq_self⟩
  · -- The only cause is the text that the message ends with.
    have hends := endsWith_append "Failed to encode request body: " error.message
    exact appendCause_of_endsWith hends

/-- A cause may end where several causes and the colons between them stand. -/
example : withCauses "a" ["b", "a: b"] = "a: b" := by decide +kernel

end SmokeProbe.ProbeError
