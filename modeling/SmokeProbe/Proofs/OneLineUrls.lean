import SmokeProbe.Proofs.EndpointJoining

/-!
# URLs on one line

No URL that is read has a line feed in it, whatever text it is read from and whatever it is completed
from. A line feed is spelled out wherever a part is encoded, and the parts that are not encoded, the
scheme, the host and the drive of a file, are made of other characters only.
-/
namespace SmokeProbe

namespace Url

theorem Percent.lineFeed_not_mem_encode {set : Char → Bool} (hset : Settled set)
    (h : set '\n' = true) (s : List Char) : '\n' ∉ encode set s := by
  intro hmem
  rw [encode_avoids hset _ hmem] at h
  cases h

theorem lineFeed_not_mem_encoded {set : Char → Bool} (hset : Percent.Settled set)
    (h : set '\n' = true) (s : List Char) :
    '\n' ∉ (String.ofList (Percent.encode set s)).toList := by
  rw [String.toList_ofList]
  exact Percent.lineFeed_not_mem_encode hset h s

/-! ## Paths -/

namespace Path

def IsOneLine : Path → Prop
  | .segments list => ∀ s ∈ list, '\n' ∉ s.toList
  | .rootless s => '\n' ∉ s.toList

theorem finish_oneLine (kind : SchemeKind) (done : List (List Char)) (s : List Char) :
    '\n' ∉ finish kind done s := by
  have hencode := Percent.lineFeed_not_mem_encode Percent.settled_path (by decide)
  unfold finish
  split
  · next a b =>
    split
    · next hdrive =>
      have ha : a ≠ '\n' := by
        rintro rfl
        exact absurd hdrive.2.2 (by simp [isDrive])
      simp [ha.symm]
    · exact hencode _
  · exact hencode _

/-- Every step adds segments without line feeds only. -/
theorem resolve_oneLine {kind : SchemeKind} {done raw : List (List Char)}
    (hdone : ∀ s ∈ done, '\n' ∉ s) : ∀ s ∈ resolve kind done raw, '\n' ∉ s := by
  induction raw generalizing done with
  | nil => exact hdone
  | cons t raw ih =>
    have hup : ∀ s ∈ up kind done, '\n' ∉ s := fun s hs => hdone s (mem_up hs)
    have hempty : ∀ done : List (List Char),
        (∀ s ∈ done, '\n' ∉ s) → ∀ s ∈ [] :: done, '\n' ∉ s :=
      fun done h => List.forall_mem_cons.mpr ⟨List.not_mem_nil, h⟩
    rw [resolve]
    apply ih
    split
    · split
      · exact hempty _ hup
      · exact hup
    · split
      · split
        · exact hempty _ hdone
        · exact hdone
      · exact List.forall_mem_cons.mpr ⟨finish_oneLine kind done t, hdone⟩

theorem below_oneLine {kind : SchemeKind} {start : List (List Char)}
    (h : ∀ s ∈ start, '\n' ∉ s) (raw : List (List Char)) :
    ∀ s ∈ below kind start raw, '\n' ∉ s := by
  intro s hs
  exact resolve_oneLine (fun t ht => h t (List.mem_reverse.mp ht)) s (List.mem_reverse.mp hs)

theorem segments_oneLine {parts : List (List Char)} (h : ∀ s ∈ parts, '\n' ∉ s) :
    (segments (parts.map String.ofList)).IsOneLine := by
  intro t ht
  obtain ⟨s, hs, rfl⟩ := List.mem_map.mp ht
  rw [String.toList_ofList]
  exact h s hs

theorem ofTextBelow_oneLine (kind : SchemeKind) {start : List String}
    (h : ∀ s ∈ start, '\n' ∉ s.toList) (s : List Char) :
    (ofTextBelow kind start s).IsOneLine := by
  apply segments_oneLine
  apply below_oneLine
  intro t ht
  obtain ⟨a, ha, rfl⟩ := List.mem_map.mp ht
  exact h a ha

theorem ofText_oneLine (kind : SchemeKind) (s : List Char) : (ofText kind s).IsOneLine := by
  have hnil : ∀ t ∈ ([] : List String), '\n' ∉ t.toList := by simp
  unfold ofText
  split
  · exact hnil
  · exact ofTextBelow_oneLine kind hnil s

theorem IsOneLine.parent {p : Path} (h : p.IsOneLine) : ∀ s ∈ p.parent, '\n' ∉ s.toList := by
  cases p with
  | segments list => exact fun s hs => h s ((List.dropLast_sublist list).subset hs)
  | rootless s => simp [Path.parent]

theorem IsOneLine.text {p : Path} (h : p.IsOneLine) : '\n' ∉ p.text := by
  cases p with
  | segments list =>
    intro hmem
    obtain ⟨a, ha, hc⟩ := List.mem_flatMap.mp hmem
    obtain ⟨s, hs, rfl⟩ := List.mem_map.mp ha
    rcases List.mem_cons.mp hc with hslash | hc
    · cases hslash
    · exact h s hs hc
  | rootless s => exact h

end Path

/-! ## Hosts -/

theorem Percent.IsVisible.ne_lineFeed {c : Char} (h : IsVisible c) : c ≠ '\n' := by
  rintro rfl
  exact absurd h (by decide)

namespace Host

theorem IsCanonical.oneLine {h : Host} (hh : h.IsCanonical) : '\n' ∉ h.text :=
  fun hmem => (hh.chars _ hmem).visible.ne_lineFeed rfl

theorem parse_oneLine {s : List Char} {h : Host} (hs : Host.parse s = .ok h) : '\n' ∉ h.text :=
  (parse_canonical hs).oneLine

theorem parseOther_oneLine {s : List Char} {h : Host} (hs : Host.parseOther s = .ok h) :
    '\n' ∉ h.text := by
  unfold parseOther at hs
  split at hs
  · rw [← parse_bracketed] at hs
    exact parse_oneLine hs
  · split at hs
    · cases hs
    · cases hs
      exact lineFeed_not_mem_encoded Percent.settled_control (by decide) _

end Host

/-! ## URLs -/

/-- A URL of which no part has a line feed. -/
structure IsOneLine (u : Url) : Prop where
  scheme : '\n' ∉ u.scheme.toList
  username : '\n' ∉ u.username.toList
  password : ∀ p, u.password = some p → '\n' ∉ p.toList
  host : ∀ h, u.host = some h → '\n' ∉ h.text
  path : u.path.IsOneLine
  query : ∀ q, u.query = some q → '\n' ∉ q.toList
  fragment : ∀ f, u.fragment = some f → '\n' ∉ f.toList

namespace IsOneLine
variable {u : Url} (h : u.IsOneLine)
include h

theorem withoutUserinfo : u.withoutUserinfo.IsOneLine :=
  ⟨h.scheme, List.not_mem_nil, nofun, h.host, h.path, h.query, h.fragment⟩

theorem withoutFragment : u.withoutFragment.IsOneLine :=
  ⟨h.scheme, h.username, h.password, h.host, h.path, h.query, nofun⟩

theorem withPath {p : Path} (hp : p.IsOneLine) : ({ u with path := p } : Url).IsOneLine :=
  ⟨h.scheme, h.username, h.password, h.host, hp, h.query, h.fragment⟩

theorem userinfoText : '\n' ∉ u.userinfoText := by
  unfold Url.userinfoText
  simp only
  split
  · exact List.not_mem_nil
  · rw [List.mem_append, List.mem_append, not_or, not_or]
    refine ⟨⟨h.username, ?_⟩, by decide⟩
    cases hp : u.password with
    | none => exact List.not_mem_nil
    | some p => exact List.not_mem_cons_of_ne_of_not_mem (by decide) (h.password p hp)

theorem authority : '\n' ∉ u.authority := by
  unfold Url.authority
  cases hh : u.host with
  | none => exact List.not_mem_nil
  | some host =>
    simp only [List.mem_append, not_or]
    refine ⟨h.host host hh, ?_⟩
    unfold Url.portText
    cases u.port with
    | none => exact List.not_mem_nil
    | some p =>
      refine List.not_mem_cons_of_ne_of_not_mem (by decide) fun hmem => ?_
      exact absurd (Text.isDigit_of_mem_decimal hmem) (by decide)

theorem pathText : '\n' ∉ u.pathText := by
  have hpath := h.path.text
  unfold Url.pathText
  split
  · exact List.not_mem_cons_of_ne_of_not_mem (by decide)
      (List.not_mem_cons_of_ne_of_not_mem (by decide) hpath)
  · exact hpath

/-- The written form is on one line as well. -/
theorem chars : '\n' ∉ u.chars := by
  have hafter : ∀ (d : Char) (part : Option String), '\n' ≠ d →
      (∀ s, part = some s → '\n' ∉ s.toList) → '\n' ∉ after d part := by
    intro d part hd hpart
    cases part with
    | none => exact List.not_mem_nil
    | some s => exact List.not_mem_cons_of_ne_of_not_mem hd (hpart s rfl)
  have hquery := hafter '?' u.query (by decide) h.query
  have hfragment := hafter '#' u.fragment (by decide) h.fragment
  unfold Url.chars
  simp only [List.mem_append, List.mem_cons]
  rintro ((((hmem | hmem | hmem) | hmem) | hmem) | hmem)
  · exact h.scheme hmem
  · cases hmem
  · cases hhost : u.host with
    | none => simp [hhost] at hmem
    | some host => simp [hhost, h.userinfoText, h.authority] at hmem
  · exact h.pathText hmem
  · exact hquery hmem
  · exact hfragment hmem

theorem text : '\n' ∉ u.text.toList := by
  rw [Url.text, String.toList_ofList]
  exact h.chars

end IsOneLine

theorem IsCanonical.oneLine {u : Url} (h : u.IsCanonical) : u.IsOneLine where
  scheme := by
    have hschemes : ∀ s ∈ networkSchemes, '\n' ∉ s.toList := by decide
    exact hschemes _ h.scheme
  username hmem := absurd (h.username _ hmem) (by decide)
  password p hp hmem := absurd ((h.password p hp).2 _ hmem) (by decide)
  host host hh := by
    obtain ⟨host', hhost', hcanonical⟩ := h.host
    rw [hh] at hhost'
    cases hhost'
    exact hcanonical.oneLine
  path := by
    obtain ⟨list, hlist, -, hfinal⟩ := h.path
    rw [hlist]
    exact fun s hs hmem => absurd ((hfinal s hs).encoded _ hmem) (by decide)
  query q hq hmem := absurd (h.query q hq _ hmem) (by decide)
  fragment f hf hmem := absurd (h.fragment f hf _ hmem) (by decide)

/-! ## What is read is on one line -/

theorem dress_oneLine {u : Url} (h : u.IsOneLine) (o : Outline) : (o.dress u).IsOneLine where
  scheme := h.scheme
  username := h.username
  password := h.password
  host := h.host
  path := h.path
  query q hq := by
    obtain ⟨s, -, rfl⟩ := Option.map_eq_some_iff.mp hq
    unfold encodeQuery
    cases u.kind.isSpecial with
    | true => exact lineFeed_not_mem_encoded Percent.settled_specialQuery (by decide) s
    | false => exact lineFeed_not_mem_encoded Percent.settled_query (by decide) s
  fragment f hf := by
    obtain ⟨s, -, rfl⟩ := Option.map_eq_some_iff.mp hf
    exact lineFeed_not_mem_encoded Percent.settled_fragment (by decide) s

theorem scheme?_oneLine {s rest : List Char} {scheme : String}
    (h : scheme? s = some (scheme, rest)) : '\n' ∉ scheme.toList := fun hmem =>
  absurd (isSchemeChar_of_scheme? h _ hmem) (by decide)

theorem userinfo_oneLine (s : List Char) :
    '\n' ∉ (userinfo s).1.toList ∧ ∀ p, (userinfo s).2 = some p → '\n' ∉ p.toList := by
  obtain ⟨husername, hpassword⟩ := userinfo_avoids s
  exact ⟨fun hmem => absurd (husername _ hmem) (by decide),
    fun p hp hmem => absurd ((hpassword p hp).2 _ hmem) (by decide)⟩

theorem networkUrl_oneLine {scheme : String} (hscheme : '\n' ∉ scheme.toList) {o : Outline}
    {s : List Char} {u : Url} (h : networkUrl scheme o s = .ok u) : u.IsOneLine := by
  obtain ⟨a, ha, hu⟩ := bind_eq_ok.mp h
  cases hu
  obtain ⟨info, place, hplace, hinfo⟩ := networkAuthority_ok ha
  obtain ⟨husername, hpassword⟩ := userinfo_oneLine info
  rw [hinfo] at husername hpassword
  apply dress_oneLine
  refine ⟨hscheme, husername, hpassword, ?_, Path.ofText_oneLine _ _, nofun, nofun⟩
  rintro host ⟨⟩
  exact (hostAndPort_canonical hplace).1.oneLine

theorem fileUrl_oneLine {o : Outline} {s : List Char} {u : Url} (h : fileUrl o s = .ok u) :
    u.IsOneLine := by
  obtain ⟨host, rest, rfl, hhost⟩ := fileUrl_place h
  have hname : '\n' ∉ (Host.name "").text := by decide
  apply dress_oneLine
  have hscheme : '\n' ∉ "file".toList := by decide
  refine ⟨hscheme, List.not_mem_nil, nofun, ?_, ?_, nofun, nofun⟩
  · rintro _ ⟨⟩
    split
    · exact hname
    · rcases hhost with rfl | ⟨name, hparse⟩
      · exact hname
      · exact Host.parse_oneLine hparse
  · apply Path.segments_oneLine
    split
    · simp
    · intro t ht
      exact Path.below_oneLine (by simp) _ t ((List.dropWhile_sublist _).subset ht)

theorem otherUrl_oneLine {scheme : String} (hscheme : '\n' ∉ scheme.toList) {o : Outline}
    {s : List Char} {u : Url} (h : otherUrl scheme o s = .ok u) : u.IsOneLine := by
  have hbare : ∀ p : Path, p.IsOneLine → ({ scheme := scheme, path := p } : Url).IsOneLine :=
    fun p hp => ⟨hscheme, List.not_mem_nil, nofun, nofun, hp, nofun, nofun⟩
  unfold otherUrl at h
  split at h
  · obtain ⟨⟨a, path⟩, ha, h⟩ := bind_eq_ok.mp h
    cases h
    obtain ⟨info, name, hhost, hinfo⟩ := otherAuthority_ok ha
    obtain ⟨husername, hpassword⟩ := userinfo_oneLine info
    rw [hinfo] at husername hpassword
    apply dress_oneLine
    refine ⟨hscheme, husername, hpassword, ?_, Path.ofText_oneLine _ _, nofun, nofun⟩
    rintro host ⟨⟩
    exact Host.parseOther_oneLine hhost
  · cases h
    exact dress_oneLine (hbare _ (Path.ofText_oneLine _ _)) o
  · cases h
    refine dress_oneLine (hbare _ ?_) o
    exact lineFeed_not_mem_encoded Percent.settled_control (by decide) _

theorem absolute_oneLine {scheme : String} (hscheme : '\n' ∉ scheme.toList) {o : Outline}
    {s : List Char} {u : Url} (h : absolute scheme o s = .ok u) : u.IsOneLine := by
  unfold absolute at h
  split at h
  · exact networkUrl_oneLine hscheme h
  · exact fileUrl_oneLine h
  · exact otherUrl_oneLine hscheme h

theorem relative_oneLine {base : Url} (hbase : base.IsOneLine) {o : Outline} {u : Url}
    (h : relative base o = .ok u) : u.IsOneLine := by
  unfold relative at h
  simp only at h
  split at h
  · split at h
    · cases h
      exact dress_oneLine hbase o
    · cases h
      refine ⟨hbase.scheme, hbase.username, hbase.password, hbase.host, hbase.path, hbase.query, ?_⟩
      exact (dress_oneLine hbase o).fragment
  · exact networkUrl_oneLine hbase.scheme h
  · split at h
    · exact networkUrl_oneLine hbase.scheme h
    · split at h
      · cases h
        exact dress_oneLine (hbase.withPath (Path.ofText_oneLine _ _)) o
      · cases h
        exact dress_oneLine (hbase.withPath (Path.ofTextBelow_oneLine _ hbase.path.parent _)) o

/-- A reference leads from a URL on one line to another one. -/
theorem join_oneLine {base : Url} (hbase : base.IsOneLine) {reference : String} {u : Url}
    (h : join base reference = .ok u) : u.IsOneLine := by
  unfold join parseWith at h
  simp only at h
  split at h
  · next scheme rest b hscheme hb =>
    cases hb
    split at h
    · exact relative_oneLine hbase h
    · exact absolute_oneLine (scheme?_oneLine hscheme) h
  · next hb => cases hb
  · next b _ hb =>
    cases hb
    exact relative_oneLine hbase h
  · next hb => cases hb

end Url

end SmokeProbe
