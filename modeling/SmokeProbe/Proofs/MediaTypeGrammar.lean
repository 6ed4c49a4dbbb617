import SmokeProbe.Http.MediaType
import SmokeProbe.Proofs.TextPieces

/-!
# The grammar of media types

What a `Content-Type` header may look like, as a grammar: two names with a slash between them, and
parameters behind semicolons. The reader of media types takes just the texts of this grammar, so the
charset that it finds is the one which the first parameter of that name declares.
-/
namespace SmokeProbe.Http.MediaType

/-! ## The grammar -/

def IsName (s : List Char) : Prop := s ≠ [] ∧ ∀ c ∈ s, isToken c = true

def IsSpaces (s : List Char) : Prop := ∀ c ∈ s, c = ' '

/-- A text that gives a value: the value itself, or the value in quotes with spaces behind them. The
first character between the quotes may be a quote. -/
inductive Value : List Char → List Char → Prop
  | plain (v : List Char) : IsName v → Value v v
  | quoted (c : Char) (v spaces : List Char) : (∀ d ∈ c :: v, isQuotable d = true) → '\x22' ∉ v →
      IsSpaces spaces → Value ('\x22' :: c :: (v ++ '\x22' :: spaces)) (c :: v)

/-- A text that gives parameters. A semicolon may stand behind the last of them, and the last value
may be missing. -/
inductive Parameters : List Char → List (List Char × List Char) → Prop
  | blank (spaces : List Char) : IsSpaces spaces → Parameters spaces []
  | unvalued (spaces name : List Char) : IsSpaces spaces → IsName name →
      Parameters (spaces ++ (name ++ ['='])) [(name, [])]
  | last (spaces name t v : List Char) : IsSpaces spaces → IsName name → Value t v →
      Parameters (spaces ++ (name ++ '=' :: t)) [(name, v)]
  | more (spaces name t v rest : List Char) (ps : List (List Char × List Char)) :
      IsSpaces spaces → IsName name → Value t v → Parameters rest ps →
      Parameters (spaces ++ (name ++ '=' :: (t ++ ';' :: rest))) ((name, v) :: ps)

/-- A media type with its parameters. Without parameters the second name may be missing. -/
inductive Written : List Char → List (List Char × List Char) → Prop
  | bare (type subtype : List Char) : IsName type → (∀ c ∈ subtype, isToken c = true) →
      Written (type ++ '/' :: subtype) []
  | parametric (type subtype s : List Char) (ps : List (List Char × List Char)) : IsName type →
      IsName subtype → Parameters s ps → Written (type ++ '/' :: (subtype ++ ';' :: s)) ps

def IsCharset (name : List Char) : Prop := name.map Char.toLower = "charset".toList

/-- The text is a media type, and the first of its parameters for the charset has the label as its
value. -/
def Declares (s label : List Char) : Prop :=
  ∃ before name after, Written s (before ++ (name, label) :: after) ∧ IsCharset name ∧
    ∀ p ∈ before, ¬ IsCharset p.1

/-! ## Values -/

theorem isSpaces_iff {s : List Char} : IsSpaces s ↔ ∀ c ∈ s, (c == ' ') = true := by
  simp only [IsSpaces, beq_iff_eq]

theorem quoted?_of_quotable {c : Char} {v : List Char} (hv : ∀ d ∈ c :: v, isQuotable d = true)
    (hquote : '\x22' ∉ v) (rest : List Char) :
    quoted? (c :: (v ++ '\x22' :: rest)) = some (c :: v, rest) := by
  have hfront : ∀ d ∈ v, (d != '\x22') = true := fun d hd =>
    bne_iff_ne.mpr (ne_of_mem_of_not_mem hd hquote)
  have htake : (v ++ '\x22' :: rest).takeWhile (· != '\x22') = v :=
    Text.takeWhile_span rfl rest hfront
  have hdrop : (v ++ '\x22' :: rest).dropWhile (· != '\x22') = '\x22' :: rest :=
    Text.dropWhile_span rfl rest hfront
  unfold quoted?
  simp only
  rw [htake, hdrop]
  exact if_pos (List.all_eq_true.mpr hv)

theorem eq_of_quoted? {s v rest : List Char} (h : quoted? s = some (v, rest)) :
    ∃ c u, v = c :: u ∧ s = c :: (u ++ '\x22' :: rest) ∧ (∀ d ∈ v, isQuotable d = true) ∧
      '\x22' ∉ u := by
  cases s with
  | nil => cases h
  | cons c s =>
    unfold quoted? at h
    simp only at h
    cases hdrop : s.dropWhile (· != '\x22') with
    | nil => simp [hdrop] at h
    | cons q behind =>
      obtain ⟨hs, hfront, hq⟩ := Text.span_of_dropWhile hdrop
      rw [hdrop] at h
      simp only [Option.ite_none_right_eq_some, List.all_eq_true, Option.some.injEq,
        Prod.mk.injEq] at h
      obtain ⟨hquotable, rfl, rfl⟩ := h
      obtain rfl : q = '\x22' := by simpa using hq
      refine ⟨c, _, rfl, congrArg (c :: ·) hs, hquotable, ?_⟩
      intro hmem
      simpa using hfront _ hmem

theorem afterQuoted?_spaces {spaces : List Char} (h : IsSpaces spaces) :
    afterQuoted? spaces = some [] := by
  rw [afterQuoted?, List.dropWhile_eq_nil_iff.mpr (isSpaces_iff.mp h)]

theorem afterQuoted?_semicolon {spaces : List Char} (h : IsSpaces spaces) (rest : List Char) :
    afterQuoted? (spaces ++ ';' :: rest) = some rest := by
  rw [afterQuoted?, Text.dropWhile_span (by decide) rest (isSpaces_iff.mp h)]
  rfl

theorem eq_of_afterQuoted? {s rest : List Char} (h : afterQuoted? s = some rest) :
    ∃ spaces, IsSpaces spaces ∧ (s = spaces ∧ rest = [] ∨ s = spaces ++ ';' :: rest) := by
  unfold afterQuoted? at h
  cases hdrop : s.dropWhile (· == ' ') with
  | nil =>
    rw [hdrop] at h
    cases h
    exact ⟨s, isSpaces_iff.mpr (List.dropWhile_eq_nil_iff.mp hdrop), .inl ⟨rfl, rfl⟩⟩
  | cons c behind =>
    obtain ⟨hs, hspaces, _⟩ := Text.span_of_dropWhile hdrop
    rw [hdrop] at h
    simp only [Option.ite_none_right_eq_some, Option.some.injEq] at h
    obtain ⟨rfl, rfl⟩ := h
    exact ⟨_, isSpaces_iff.mpr hspaces, .inr hs⟩

theorem value?_quote (s : List Char) : value? ('\x22' :: s) =
    (quoted? s).bind fun r => (afterQuoted? r.2).bind fun rest => some (r.1, rest) := rfl

theorem value?_token {s : List Char} (h : ∀ t, s ≠ '\x22' :: t) : value? s =
    match s.dropWhile isToken with
    | [] => some (s.takeWhile isToken, [])
    | c :: rest => if c = ';' ∧ s.takeWhile isToken ≠ [] then some (s.takeWhile isToken, rest)
      else none := by
  unfold value?
  split
  · next t => exact absurd rfl (h t)
  · rfl

/-- Every text that gives a value is read as it, at the end and in front of a semicolon. -/
theorem value?_of_value {t v : List Char} (h : Value t v) :
    value? t = some (v, []) ∧ ∀ rest, value? (t ++ ';' :: rest) = some (v, rest) := by
  cases h with
  | plain _ hv =>
    have hquote : ∀ s u, t ++ s ≠ '\x22' :: u := by
      intro s u hu
      obtain ⟨c, w, rfl⟩ := List.exists_cons_of_ne_nil hv.1
      obtain ⟨rfl, _⟩ := List.cons.inj hu
      exact absurd (hv.2 _ List.mem_cons_self) (by decide)
    constructor
    · have hself := hquote []
      rw [List.append_nil] at hself
      rw [value?_token hself, List.takeWhile_eq_self_iff.mpr hv.2,
        List.dropWhile_eq_nil_iff.mpr hv.2]
    · intro rest
      rw [value?_token (hquote _), Text.takeWhile_span (by decide) rest hv.2,
        Text.dropWhile_span (by decide) rest hv.2]
      exact if_pos ⟨rfl, hv.1⟩
  | quoted c v spaces hv hquote hspaces =>
    constructor
    · rw [value?_quote, quoted?_of_quotable hv hquote, Option.bind_some,
        afterQuoted?_spaces hspaces]
      rfl
    · intro rest
      rw [List.cons_append, List.cons_append, List.append_assoc, List.cons_append, value?_quote,
        quoted?_of_quotable hv hquote, Option.bind_some, afterQuoted?_semicolon hspaces]
      rfl

/-- A value that is read is given by the text in front of a semicolon or of the end. -/
theorem eq_of_value? {s v rest : List Char} (h : value? s = some (v, rest)) :
    (s = [] ∧ v = [] ∧ rest = []) ∨ (Value s v ∧ rest = []) ∨
      ∃ t, Value t v ∧ s = t ++ ';' :: rest := by
  by_cases hquote : ∃ t, s = '\x22' :: t
  · obtain ⟨t, rfl⟩ := hquote
    rw [value?_quote] at h
    obtain ⟨⟨v', behind⟩, hquoted, h⟩ := Option.bind_eq_some_iff.mp h
    obtain ⟨rest', hafter, h⟩ := Option.bind_eq_some_iff.mp h
    cases h
    obtain ⟨c, u, rfl, rfl, hquotable, hu⟩ := eq_of_quoted? hquoted
    obtain ⟨spaces, hspaces, hend⟩ := eq_of_afterQuoted? hafter
    rcases hend with ⟨rfl, rfl⟩ | rfl
    · exact .inr (.inl ⟨.quoted c u behind hquotable hu hspaces, rfl⟩)
    · exact .inr (.inr ⟨_, .quoted c u spaces hquotable hu hspaces, by simp⟩)
  · rw [value?_token (not_exists.mp hquote)] at h
    cases hdrop : s.dropWhile isToken with
    | nil =>
      have hall := List.dropWhile_eq_nil_iff.mp hdrop
      rw [hdrop, List.takeWhile_eq_self_iff.mpr hall] at h
      cases h
      by_cases hs : s = []
      · exact .inl ⟨hs, hs, rfl⟩
      · exact .inr (.inl ⟨.plain s ⟨hs, hall⟩, rfl⟩)
    | cons c behind =>
      obtain ⟨hs, hall, _⟩ := Text.span_of_dropWhile hdrop
      rw [hdrop] at h
      simp only [Option.ite_none_right_eq_some, Option.some.injEq, Prod.mk.injEq] at h
      obtain ⟨⟨rfl, hne⟩, rfl, rfl⟩ := h
      exact .inr (.inr ⟨_, .plain _ ⟨hne, hall⟩, hs⟩)

/-! ## Parameters -/

/-- A parameter is read as its name and its value, with the parameters behind it. -/
theorem parametersFrom_name {spaces name : List Char} (hspaces : IsSpaces spaces)
    (hname : IsName name) (fuel : Nat) (t : List Char) :
    parametersFrom (fuel + 1) (spaces ++ (name ++ '=' :: t)) =
      (value? t).bind fun r => (parametersFrom fuel r.2).bind fun ps =>
        some ((name, r.1) :: ps) := by
  obtain ⟨c, more, rfl⟩ := List.exists_cons_of_ne_nil hname.1
  have hc : (c == ' ') = false := by
    rw [beq_eq_false_iff_ne]
    rintro rfl
    exact absurd (hname.2 _ List.mem_cons_self) (by decide)
  have hdrop : (spaces ++ (c :: more ++ '=' :: t)).dropWhile (· == ' ') = c :: more ++ '=' :: t :=
    Text.dropWhile_span (p := (· == ' ')) hc _ (isSpaces_iff.mp hspaces)
  rw [parametersFrom]
  simp only [hdrop]
  rw [if_neg (by simp), Text.takeWhile_span (by decide) t hname.2,
    Text.dropWhile_span (by decide) t hname.2]
  exact if_pos ⟨rfl, hname.1⟩

theorem parametersFrom_nil (fuel : Nat) : parametersFrom fuel [] = some [] := by
  cases fuel <;> rfl

/-- Parameters that are read begin with a name, or there are none. -/
theorem eq_of_parametersFrom {fuel : Nat} {s : List Char} {ps : List (List Char × List Char)}
    (h : parametersFrom (fuel + 1) s = some ps) : IsSpaces s ∧ ps = [] ∨
      ∃ spaces name t, IsSpaces spaces ∧ IsName name ∧ s = spaces ++ (name ++ '=' :: t) := by
  unfold parametersFrom at h
  simp only at h
  cases hdrop : s.dropWhile (· == ' ') with
  | nil =>
    rw [hdrop] at h
    cases h
    exact .inl ⟨isSpaces_iff.mpr (List.dropWhile_eq_nil_iff.mp hdrop), rfl⟩
  | cons c behind =>
    obtain ⟨hs, hspaces, _⟩ := Text.span_of_dropWhile hdrop
    rw [hdrop, if_neg (by simp)] at h
    cases hname : (c :: behind).dropWhile isToken with
    | nil => simp [hname] at h
    | cons d t =>
      obtain ⟨hbehind, htoken, _⟩ := Text.span_of_dropWhile hname
      simp only [hname, Option.ite_none_right_eq_some] at h
      obtain ⟨⟨rfl, hne⟩, _⟩ := h
      refine .inr ⟨_, _, t, isSpaces_iff.mpr hspaces, ⟨hne, htoken⟩, ?_⟩
      rw [← hbehind]
      exact hs

theorem parameters_of_read {fuel : Nat} {s : List Char} {ps : List (List Char × List Char)}
    (hfuel : s.length ≤ fuel) (h : parametersFrom fuel s = some ps) : Parameters s ps := by
  induction fuel generalizing s ps with
  | zero =>
    obtain rfl := List.eq_nil_of_length_eq_zero (Nat.le_zero.mp hfuel)
    cases h
    exact .blank [] (List.forall_mem_nil _)
  | succ fuel ih =>
    rcases eq_of_parametersFrom h with ⟨hspaces, rfl⟩ | ⟨spaces, name, t, hspaces, hname, rfl⟩
    · exact .blank s hspaces
    · rw [parametersFrom_name hspaces hname] at h
      obtain ⟨⟨v, rest⟩, hvalue, h⟩ := Option.bind_eq_some_iff.mp h
      obtain ⟨more, hmore, h⟩ := Option.bind_eq_some_iff.mp h
      cases h
      rcases eq_of_value? hvalue with ⟨rfl, rfl, rfl⟩ | ⟨ht, rfl⟩ | ⟨t, ht, rfl⟩
      · rw [parametersFrom_nil] at hmore
        cases hmore
        exact .unvalued spaces name hspaces hname
      · rw [parametersFrom_nil] at hmore
        cases hmore
        exact .last spaces name t v hspaces hname ht
      · refine .more spaces name t v rest more hspaces hname ht (ih ?_ hmore)
        simp only [List.length_append, List.length_cons] at hfuel
        omega

theorem read_of_parameters {s : List Char} {ps : List (List Char × List Char)}
    (h : Parameters s ps) {fuel : Nat} (hfuel : s.length ≤ fuel) :
    parametersFrom fuel s = some ps := by
  induction h generalizing fuel with
  | blank spaces hspaces =>
    cases fuel with
    | zero => rfl
    | succ fuel =>
      rw [parametersFrom, List.dropWhile_eq_nil_iff.mpr (isSpaces_iff.mp hspaces)]
      rfl
  | unvalued spaces name hspaces hname =>
    cases fuel with
    | zero => simp at hfuel
    | succ fuel =>
      rw [parametersFrom_name hspaces hname, show value? [] = some ([], []) from rfl,
        Option.bind_some, parametersFrom_nil]
      rfl
  | last spaces name t v hspaces hname ht =>
    cases fuel with
    | zero => simp at hfuel
    | succ fuel =>
      rw [parametersFrom_name hspaces hname, (value?_of_value ht).1, Option.bind_some,
        parametersFrom_nil]
      rfl
  | more spaces name t v rest ps hspaces hname ht _ ih =>
    cases fuel with
    | zero => simp at hfuel
    | succ fuel =>
      have hrest : rest.length ≤ fuel := by
        simp only [List.length_append, List.length_cons] at hfuel
        omega
      rw [parametersFrom_name hspaces hname, (value?_of_value ht).2, Option.bind_some, ih hrest]
      rfl

/-- The reader of parameters takes just the texts that give parameters. -/
theorem parametersFrom_iff {fuel : Nat} {s : List Char} {ps : List (List Char × List Char)}
    (hfuel : s.length ≤ fuel) : parametersFrom fuel s = some ps ↔ Parameters s ps :=
  ⟨parameters_of_read hfuel, fun h => read_of_parameters h hfuel⟩

/-! ## Media types -/

/-- A media type is read behind its slash. -/
theorem parameters?_slash {type : List Char} (h : IsName type) (s : List Char) :
    parameters? (type ++ '/' :: s) =
      match s.dropWhile isToken with
      | [] => some []
      | c :: rest =>
        if c = ';' ∧ s.takeWhile isToken ≠ [] then parametersFrom rest.length rest else none := by
  obtain ⟨c, more, rfl⟩ := List.exists_cons_of_ne_nil h.1
  unfold parameters?
  simp only
  rw [Text.takeWhile_span (by decide) s h.2, Text.dropWhile_span (by decide) s h.2]
  simp only
  rw [if_pos trivial]
  cases s.dropWhile isToken <;> rfl

theorem eq_of_parameters? {s : List Char} {ps : List (List Char × List Char)}
    (h : parameters? s = some ps) : ∃ type t, IsName type ∧ s = type ++ '/' :: t := by
  unfold parameters? at h
  simp only at h
  split at h
  · next c more d t htake hdrop =>
    obtain ⟨hs, htoken, _⟩ := Text.span_of_dropWhile hdrop
    split at h
    · next hslash =>
      rw [hslash] at hs
      refine ⟨_, t, ⟨?_, htoken⟩, hs⟩
      rw [htake]
      exact List.cons_ne_nil _ _
    · cases h
  · cases h

/-- The reader of media types takes just the media types. -/
theorem parameters?_iff {s : List Char} {ps : List (List Char × List Char)} :
    parameters? s = some ps ↔ Written s ps := by
  constructor
  · intro h
    obtain ⟨type, t, htype, rfl⟩ := eq_of_parameters? h
    rw [parameters?_slash htype] at h
    cases hdrop : t.dropWhile isToken with
    | nil =>
      rw [hdrop] at h
      cases h
      exact .bare type t htype (List.dropWhile_eq_nil_iff.mp hdrop)
    | cons c rest =>
      obtain ⟨ht, htoken, _⟩ := Text.span_of_dropWhile hdrop
      rw [hdrop] at h
      simp only [Option.ite_none_right_eq_some] at h
      obtain ⟨⟨rfl, hne⟩, h⟩ := h
      rw [ht]
      exact .parametric type _ rest ps htype ⟨hne, htoken⟩
        ((parametersFrom_iff (Nat.le_refl _)).mp h)
  · intro h
    cases h with
    | bare type subtype htype hsubtype =>
      rw [parameters?_slash htype, List.dropWhile_eq_nil_iff.mpr hsubtype]
    | parametric type subtype s ps htype hsubtype hs =>
      rw [parameters?_slash htype, Text.takeWhile_span (by decide) s hsubtype.2,
        Text.dropWhile_span (by decide) s hsubtype.2]
      exact (if_pos ⟨rfl, hsubtype.1⟩).trans ((parametersFrom_iff (Nat.le_refl _)).mpr hs)

/-- The label that is found is the one that is declared. -/
theorem charsetLabel?_iff {s label : List Char} :
    charsetLabel? s = some label ↔ Declares s label := by
  have hcharset : ∀ p : List Char × List Char,
      (p.1.map Char.toLower == "charset".toList) = true ↔ IsCharset p.1 := fun _ => beq_iff_eq
  unfold charsetLabel?
  constructor
  · intro h
    obtain ⟨ps, hps, h⟩ := Option.bind_eq_some_iff.mp h
    obtain ⟨⟨name, _⟩, hfind, rfl⟩ := Option.map_eq_some_iff.mp h
    obtain ⟨hname, before, after, rfl, hbefore⟩ := List.find?_eq_some_iff_append.mp hfind
    refine ⟨before, name, after, parameters?_iff.mp hps, (hcharset _).mp hname, ?_⟩
    intro p hp hcontra
    have hnot := hbefore p hp
    rw [(hcharset p).mpr hcontra] at hnot
    cases hnot
  · rintro ⟨before, name, after, hwritten, hname, hbefore⟩
    have hskipped : ∀ p ∈ before, (!(p.1.map Char.toLower == "charset".toList)) = true := by
      intro p hp
      rw [Bool.not_eq_true', ← Bool.not_eq_true, hcharset]
      exact hbefore p hp
    have hfind : (before ++ (name, label) :: after).find?
        (fun p => p.1.map Char.toLower == "charset".toList) = some (name, label) :=
      List.find?_eq_some_iff_append.mpr
        ⟨(hcharset (name, label)).mpr hname, before, after, rfl, hskipped⟩
    rw [parameters?_iff.mpr hwritten, Option.bind_some, hfind]
    rfl

end SmokeProbe.Http.MediaType
