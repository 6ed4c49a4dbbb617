import SmokeProbe.Proofs.PortBehindHost

/-!
# Host and port given separately

Without a base URL, host and port are put behind the slashes of a URL with a colon between them, and
the whole is read like any other URL. The host is not looked at before. If a delimiter in it ends
the authority, the port behind it is no port any more but the end of a path, a query or a fragment,
and the port that is probed does not depend on it. The main statement says exactly for which hosts
the given port is the one that is probed, and for which the endpoints consist of the host, the port
and the path of the operation alone.
-/
namespace SmokeProbe

namespace Url

/-! ## Pasting a host -/

/-- A host text without tabs and line breaks. -/
def unbroken (host : String) : List Char := host.toList.filter fun c => !isLineBreakOrTab c

/-- A host text as it is found behind the slashes of a scheme: without tabs and line breaks, and
without slashes in front. -/
def pasted (host : String) : List Char := (unbroken host).dropWhile (Path.isSlash .network)

/-- The characters that end an authority. -/
def isEnd (c : Char) : Bool := ['/', '\x5c', '?', '#'].contains c

theorem cleaned_hostUrlText (host : String) (port : UInt16) :
    cleaned (Config.hostUrlText host port).toList =
      "http://".toList ++ (unbroken host ++ portBehind port) := by
  have htext : (Config.hostUrlText host port).toList =
      "http://".toList ++ (host.toList ++ portBehind port) := by
    simp [Config.hostUrlText, portBehind]
  have hsurrounding := portBehind_avoids port (p := isSurrounding) (by decide)
  have hbreak := portBehind_avoids port (p := fun c => isLineBreakOrTab c) (by decide)
  rw [htext, cleaned, Text.stripBoth_of_ends]
  · have hkept : (portBehind port).filter (fun c => !isLineBreakOrTab c) = portBehind port :=
      List.filter_eq_self.mpr fun c hc => by rw [hbreak c hc]; rfl
    rw [List.filter_append, List.filter_append, hkept]
    rfl
  · intro c hc
    cases hc
    rfl
  · intro c hc
    rw [← List.append_assoc,
      List.getLast?_append_of_ne_nil _ (show portBehind port ≠ [] from List.cons_ne_nil _ _)] at hc
    exact hsurrounding c (List.mem_of_getLast? hc)

theorem outline_behind {front : List Char} (h : ∀ c ∈ front, c ≠ '#' ∧ c ≠ '?') (s : List Char) :
    Outline.of (front ++ s) = { Outline.of s with main := front ++ (Outline.of s).main } := by
  unfold Outline.of
  rw [Text.cut_behind fun c hc => beq_eq_false_iff_ne.mpr (h c hc).1]
  simp only
  rw [Text.cut_behind fun c hc => beq_eq_false_iff_ne.mpr (h c hc).2]

theorem parse_hostUrlText (host : String) (port : UInt16) :
    let o := Outline.of (unbroken host ++ portBehind port)
    parse (Config.hostUrlText host port) =
      networkUrl "http" o (o.main.dropWhile (Path.isSlash .network)) := by
  intro o
  have hfront : ∀ c ∈ "http://".toList, c ≠ '#' ∧ c ≠ '?' := List.all_iff_forall_prop.mp (by decide)
  unfold parse parseWith
  rw [cleaned_hostUrlText, outline_behind hfront]
  rfl

theorem networkUrl_split (scheme : String) (o : Outline) {front rest : List Char}
    (hfront : ∀ c ∈ front, Path.isSlash .network c = false)
    (hrest : ∀ c ∈ rest.head?, Path.isSlash .network c = true) :
    networkUrl scheme o (front ++ rest) = networkAuthority scheme front >>= fun a =>
      .ok (o.dress
        { scheme := scheme, username := a.username, password := a.password, host := some a.host
          port := a.port, path := .ofText .network rest }) := by
  have hpass : ∀ c ∈ front, (!Path.isSlash .network c) = true := fun c hc => by rw [hfront c hc]; rfl
  have hstop : rest.takeWhile (fun c => !Path.isSlash .network c) = [] ∧
      rest.dropWhile (fun c => !Path.isSlash .network c) = rest := by
    cases rest with
    | nil => exact ⟨rfl, rfl⟩
    | cons c rest => simp [hrest c rfl]
  unfold networkUrl
  simp only
  rw [List.takeWhile_append_of_pos hpass, List.dropWhile_append_of_pos hpass, hstop.1, hstop.2,
    List.append_nil]
  rfl

theorem isEnd_iff {c : Char} :
    isEnd c = true ↔ c = '?' ∨ c = '#' ∨ Path.isSlash .network c = true := by
  simp only [isEnd, Path.isSlash, SchemeKind.isSpecial, List.contains_iff_mem, List.mem_cons,
    List.not_mem_nil, or_false, Bool.or_eq_true, Bool.and_eq_true, beq_iff_eq]
  have hspecial : (SchemeKind.network != .other) = true := rfl
  rw [hspecial]
  tauto

theorem mem_pasted {host : String} {c : Char} (h : c ∈ unbroken host)
    (hslash : Path.isSlash .network c = false) : c ∈ pasted host := by
  rw [← List.takeWhile_append_dropWhile (p := Path.isSlash .network) (l := unbroken host),
    List.mem_append] at h
  rcases h with h | h
  · rw [List.mem_takeWhile_imp h] at hslash
    cases hslash
  · exact h

theorem mem_unbroken {host : String} {c : Char} (h : c ∈ pasted host) : c ∈ unbroken host :=
  (List.dropWhile_sublist _).subset h

theorem dropWhile_pasted (host : String) (port : UInt16) :
    (unbroken host ++ portBehind port).dropWhile (Path.isSlash .network) =
      pasted host ++ portBehind port := by
  rw [List.dropWhile_append]
  split
  · next hempty =>
    rw [pasted, List.isEmpty_iff.mp hempty]
    rfl
  · rfl

theorem outline_plain {host : String} (h : ∀ c ∈ unbroken host, c ≠ '?' ∧ c ≠ '#') (port : UInt16) :
    Outline.of (unbroken host ++ portBehind port) =
      ⟨unbroken host ++ portBehind port, none, none⟩ := by
  have hquery : ∀ c ∈ unbroken host ++ portBehind port, (c == '?') = false :=
    List.forall_mem_append.mpr ⟨fun c hc => beq_eq_false_iff_ne.mpr (h c hc).1,
      portBehind_avoids port (p := (· == '?')) (by decide)⟩
  have hfragment : ∀ c ∈ unbroken host ++ portBehind port, (c == '#') = false :=
    List.forall_mem_append.mpr ⟨fun c hc => beq_eq_false_iff_ne.mpr (h c hc).2,
      portBehind_avoids port (p := (· == '#')) (by decide)⟩
  unfold Outline.of
  rw [Text.cut_eq_self hfragment]
  simp only
  rw [Text.cut_eq_self hquery]

theorem outline_cut {host : String} (h : ∃ c ∈ unbroken host, c = '?' ∨ c = '#') :
    ∃ main, ∀ port, (Outline.of (unbroken host ++ portBehind port)).main = main ∧
      ((Outline.of (unbroken host ++ portBehind port)).query ≠ none ∨
        (Outline.of (unbroken host ++ portBehind port)).fragment ≠ none) := by
  unfold Outline.of
  by_cases hfragment : ∃ c ∈ unbroken host, (c == '#') = true
  · obtain ⟨front, back, hcut⟩ := Text.exists_cut_of_mem hfragment
    refine ⟨(Text.cut (· == '?') front).1, fun port => ?_⟩
    rw [hcut]
    exact ⟨rfl, .inr nofun⟩
  · have hnone : ∀ port, ∀ c ∈ unbroken host ++ portBehind port, (c == '#') = false := fun port =>
      List.forall_mem_append.mpr ⟨fun c hc => by simpa using fun heq => hfragment ⟨c, hc, heq⟩,
        portBehind_avoids port (p := (· == '#')) (by decide)⟩
    have hquery : ∃ c ∈ unbroken host, (c == '?') = true := by
      obtain ⟨c, hc, rfl | rfl⟩ := h
      · exact ⟨_, hc, by decide⟩
      · exact absurd ⟨_, hc, by decide⟩ hfragment
    obtain ⟨front, back, hcut⟩ := Text.exists_cut_of_mem hquery
    refine ⟨front, fun port => ?_⟩
    rw [Text.cut_eq_self (hnone port)]
    dsimp only
    rw [hcut]
    exact ⟨rfl, .inl nofun⟩

/-- A host text with an end of the authority in it: all that is read in front of that end is the
same for every port, and the port is read as something else. -/
theorem parse_ended {host : String} (h : ∃ c ∈ pasted host, isEnd c = true) :
    ∃ front, ∀ port, ∃ (o : Outline) (rest : List Char),
      parse (Config.hostUrlText host port) = (networkAuthority "http" front >>= fun a =>
        .ok (o.dress
          { scheme := "http", username := a.username, password := a.password, host := some a.host
            port := a.port, path := .ofText .network rest })) ∧
      (o.query ≠ none ∨ o.fragment ≠ none ∨ ':' ∈ (Path.ofText .network rest).text) := by
  by_cases hcut : ∃ c ∈ unbroken host, c = '?' ∨ c = '#'
  · obtain ⟨main, hmain⟩ := outline_cut hcut
    refine ⟨(main.dropWhile (Path.isSlash .network)).takeWhile fun c => !Path.isSlash .network c,
      fun port => ⟨Outline.of (unbroken host ++ portBehind port),
        (main.dropWhile (Path.isSlash .network)).dropWhile fun c => !Path.isSlash .network c, ?_⟩⟩
    obtain ⟨heq, hrest⟩ := hmain port
    rw [parse_hostUrlText, heq]
    exact ⟨rfl, hrest.imp_right .inl⟩
  · -- The authority ends at the first slash, and the port in the last segment of the path.
    have hplain : ∀ c ∈ unbroken host, c ≠ '?' ∧ c ≠ '#' := fun c hc =>
      not_or.mp fun heq => hcut ⟨c, hc, heq⟩
    have hslash : ∃ c ∈ pasted host, Path.isSlash .network c = true := by
      obtain ⟨c, hc, hend⟩ := h
      rcases isEnd_iff.mp hend with heq | heq | hs
      · exact absurd heq (hplain c (mem_unbroken hc)).1
      · exact absurd heq (hplain c (mem_unbroken hc)).2
      · exact ⟨c, hc, hs⟩
    obtain ⟨front, d, back, hpasted, hd, hfront⟩ := Text.exists_first hslash
    refine ⟨front, fun port => ⟨⟨unbroken host ++ portBehind port, none, none⟩,
      d :: back ++ portBehind port, ?_, .inr (.inr ?_)⟩⟩
    · rw [parse_hostUrlText, outline_plain hplain port]
      simp only
      rw [dropWhile_pasted, hpasted, List.append_assoc]
      exact networkUrl_split _ _ hfront (by rintro c ⟨⟩; exact hd)
    · exact Path.mem_ofText (by decide) (by decide) hd
        (portBehind_avoids port (by decide)) List.mem_cons_self

/-- A host text without such an end: the port stands at the end of the authority. -/
theorem parse_unended {host : String} (h : ∀ c ∈ pasted host, isEnd c = false) (port : UInt16) :
    parse (Config.hostUrlText host port) =
      (networkAuthority "http" (pasted host ++ portBehind port) >>= fun a =>
        .ok { scheme := "http", username := a.username, password := a.password, host := some a.host
              port := a.port, path := .segments [""] }) := by
  have hplain : ∀ c ∈ unbroken host, c ≠ '?' ∧ c ≠ '#' := by
    refine fun c hc => ⟨?_, ?_⟩
    · rintro rfl
      exact absurd (h _ (mem_pasted hc (by decide))) (by decide)
    · rintro rfl
      exact absurd (h _ (mem_pasted hc (by decide))) (by decide)
  have hslash : ∀ c ∈ pasted host ++ portBehind port, Path.isSlash .network c = false := by
    refine List.forall_mem_append.mpr ⟨fun c hc => ?_, portBehind_avoids port (by decide)⟩
    rw [← Bool.not_eq_true]
    intro hslash
    exact absurd (isEnd_iff.mpr (.inr (.inr hslash))) (by simp [h c hc])
  rw [parse_hostUrlText, outline_plain hplain port]
  have hnone : ∀ c ∈ ([] : List Char).head?, Path.isSlash .network c = true := by simp
  have hsplit := networkUrl_split "http" ⟨unbroken host ++ portBehind port, none, none⟩ hslash hnone
  rw [List.append_nil] at hsplit
  simp only
  rw [dropWhile_pasted, hsplit]
  rfl

section
variable {host : String} {port : UInt16} {u : Url}
  (hu : parse (Config.hostUrlText host port) = .ok u)
include hu

theorem parse_ended_ports (h : ∃ c ∈ pasted host, isEnd c = true) :
    (u.query ≠ none ∨ u.fragment ≠ none ∨ ':' ∈ u.path.text) ∧
    ∀ other, ∃ v, parse (Config.hostUrlText host other) = .ok v ∧ v.scheme = "http" ∧
      v.host.isSome ∧ v.host = u.host ∧ v.port = u.port := by
  obtain ⟨front, hparse⟩ := parse_ended h
  obtain ⟨o, rest, heq, htrace⟩ := hparse port
  rw [heq] at hu
  obtain ⟨a, ha, hdress⟩ := bind_eq_ok.mp hu
  cases hdress
  refine ⟨?_, fun other => ?_⟩
  · rcases htrace with hquery | hfragment | hcolon
    · exact .inl (by simpa [Outline.dress] using hquery)
    · exact .inr (.inl (by simpa [Outline.dress] using hfragment))
    · exact .inr (.inr hcolon)
  · obtain ⟨o', rest', heq', -⟩ := hparse other
    rw [heq', ha]
    exact ⟨_, rfl, rfl, rfl, rfl, rfl⟩

theorem parse_unended_ports (h : ∀ c ∈ pasted host, isEnd c = false) :
    u.scheme = "http" ∧ u.host.isSome ∧ u.path = .segments [""] ∧ u.query = none ∧
    u.fragment = none ∧ (u.username = "" ∧ u.password = none ↔ LacksUserinfo (pasted host)) ∧
    ∀ other, parse (Config.hostUrlText host other) = .ok { u with port := keptPort other } := by
  rw [parse_unended h] at hu
  obtain ⟨a, ha, hparts⟩ := bind_eq_ok.mp hu
  cases hparts
  obtain ⟨hports, hinfo⟩ := networkAuthority_portBehind ha
  refine ⟨rfl, rfl, rfl, rfl, rfl, hinfo, fun other => ?_⟩
  rw [parse_unended h, hports other]
  rfl

end

/-- A host and a port under the plain scheme, and nothing else. -/
structure IsServer (u : Url) (port : UInt16) : Prop where
  scheme : u.scheme = "http"
  port : u.effectivePort = some port
  path : u.path.text = ['/']
  username : u.username = ""
  password : u.password = none
  query : u.query = none
  fragment : u.fragment = none

end Url

namespace Config

/-- The host text of a configuration has something in it that ends the authority it is put into. -/
def EndsAuthority (c : Config) : Prop := ∃ d ∈ Url.pasted c.host, Url.isEnd d = true

instance (c : Config) : Decidable c.EndsAuthority :=
  inferInstanceAs (Decidable (∃ d ∈ Url.pasted c.host, Url.isEnd d = true))

/-- The host text of a configuration is, once it is put into a URL, nothing but a host. -/
def NamesServer (c : Config) : Prop := ¬ c.EndsAuthority ∧ Url.LacksUserinfo (Url.pasted c.host)

theorem baseUrlText_of_none {c : Config} (hbase : c.baseUrl = none) :
    c.baseUrlText = hostUrlText c.host c.port := by
  rw [baseUrlText, hbase]
  rfl

theorem resolve_of_parse {c : Config} {u : Url} (hbase : c.baseUrl = none)
    (hu : Url.parse (hostUrlText c.host c.port) = .ok u) (hscheme : u.scheme = "http")
    (hhost : u.host.isSome) : c.resolve = .ok u := by
  have hweb : Http.isWebScheme u.scheme = true := by rw [hscheme]; rfl
  rw [resolve, baseUrlText_of_none hbase, readBaseUrl, hu]
  simp only
  rw [hweb, if_neg (by decide), if_neg (Option.ne_none_iff_isSome.mpr hhost)]

/-- With an end of the authority in the host text, host and port that are read are the same
whatever port is given, and what is read is more than a host. -/
theorem resolve_ended {c : Config} {u : Url} (hbase : c.baseUrl = none) (hu : c.resolve = .ok u)
    (h : c.EndsAuthority) :
    (u.query ≠ none ∨ u.fragment ≠ none ∨ ':' ∈ u.path.text) ∧
    ∀ port, ∃ v, ({ c with port := port } : Config).resolve = .ok v ∧ v.host = u.host ∧
      v.effectivePort = u.effectivePort := by
  have hparse := parse_of_resolve hu
  rw [baseUrlText_of_none hbase] at hparse
  obtain ⟨htrace, hports⟩ := Url.parse_ended_ports hparse h
  have hscheme : u.scheme = "http" := by
    obtain ⟨v, hv, hscheme, -⟩ := hports c.port
    rw [hparse] at hv
    cases hv
    exact hscheme
  refine ⟨htrace, fun port => ?_⟩
  obtain ⟨v, hv, hscheme', hsome, hhost, hport⟩ := hports port
  refine ⟨v, resolve_of_parse hbase hv hscheme' hsome, hhost, ?_⟩
  rw [Url.effectivePort, Url.effectivePort, hport, hscheme, hscheme']

/-- Without such an end the port given is the one that is read, and only user information can stand
beside host and port. -/
theorem resolve_unended {c : Config} {u : Url} (hbase : c.baseUrl = none) (hu : c.resolve = .ok u)
    (h : ¬ c.EndsAuthority) :
    u = { scheme := "http", username := u.username, password := u.password, host := u.host
          port := Url.keptPort c.port, path := .segments [""] } ∧
    (u.username = "" ∧ u.password = none ↔ Url.LacksUserinfo (Url.pasted c.host)) ∧
    ∀ port, ({ c with port := port } : Config).resolve = .ok { u with port := Url.keptPort port } := by
  have hparse := parse_of_resolve hu
  rw [baseUrlText_of_none hbase] at hparse
  have hnone : ∀ d ∈ Url.pasted c.host, Url.isEnd d = false := by
    intro d hd
    rw [← Bool.not_eq_true]
    exact fun hend => h ⟨d, hd, hend⟩
  obtain ⟨hscheme, hsome, hpath, hquery, hfragment, hinfo, hports⟩ :=
    Url.parse_unended_ports hparse hnone
  refine ⟨?_, hinfo, fun port => resolve_of_parse hbase (hports port) hscheme hsome⟩
  have hsame := hports c.port
  rw [hparse] at hsame
  cases u
  simp_all

end Config

namespace Prober

/-- What an endpoint is if it consists of a host, a port and the path of the operation alone. -/
def plainEndpoint (host : Option Url.Host) (port : UInt16) (op : Operation) : Url :=
  { scheme := "http", host := host, port := Url.keptPort port, path := .segments op.segments }

/-- A colon in the path stays in the path of an endpoint, and no operation has one in its own. -/
theorem endpoint_ne_plain {u : Url} (hu : u.IsCanonical) (hcolon : ':' ∈ u.path.text)
    {host : Option Url.Host} {port : UInt16} (op : Operation) :
    (Prober.mk u).endpoint op ≠ plainEndpoint host port op := by
  intro heq
  have hjoined := (endpoint_joined hu op).2
  have hplain : (plainEndpoint host port op).path.text = op.path.toList := (op.led_segments).symm
  rw [heq, hplain] at hjoined
  obtain ⟨⟨n, hn⟩, -⟩ := Text.withoutSlashes_split u.path.text
  have hempty : Text.withoutSlashes u.path.text = [] := by
    simpa using hjoined.symm
  rw [hn, hempty, List.nil_append] at hcolon
  exact absurd (List.eq_of_mem_replicate hcolon) (by decide)

end Prober

namespace Config

/-- A host text names a server exactly if it does not end the authority it is put into and has no
user information in it. Then, and only then, what is resolved is the host and the port given, and
the endpoints are these and the paths of the operations. If it does end the authority, the port
given is never the one that is probed, except by chance. -/
theorem resolve_hostAndPort {c : Config} {u : Url} (hbase : c.baseUrl = none)
    (hu : c.resolve = .ok u) :
    (u.IsServer c.port ↔ c.NamesServer) ∧
    (∀ op, (Prober.mk u).endpoint op = Prober.plainEndpoint u.host c.port op ↔ c.NamesServer) ∧
    ∀ port, ∃ v, ({ c with port := port } : Config).resolve = .ok v ∧ v.host = u.host ∧
      v.effectivePort = if c.EndsAuthority then u.effectivePort else some port := by
  have hcanonical := (resolve_canonical hu).1
  by_cases h : c.EndsAuthority
  · obtain ⟨htrace, hports⟩ := resolve_ended hbase hu h
    have hnot : ¬ c.NamesServer := fun hnames => hnames.1 h
    refine ⟨iff_of_false ?_ hnot, fun op => iff_of_false ?_ hnot, ?_⟩
    · intro hserver
      rcases htrace with hquery | hfragment | hcolon
      · exact hquery hserver.query
      · exact hfragment hserver.fragment
      · rw [hserver.path] at hcolon
        exact absurd hcolon (by decide)
    · intro heq
      rcases htrace with hquery | hfragment | hcolon
      · exact hquery (congrArg Url.query heq)
      · exact hfragment (congrArg Url.fragment heq)
      · exact Prober.endpoint_ne_plain hcanonical hcolon op heq
    · intro port
      rw [if_pos h]
      exact hports port
  · obtain ⟨hparts, hinfo, hports⟩ := resolve_unended hbase hu h
    have hscheme : u.scheme = "http" := by rw [hparts]
    have hnames : c.NamesServer ↔ u.username = "" ∧ u.password = none := by
      rw [NamesServer, hinfo, and_iff_right h]
    refine ⟨?_, fun op => ?_, fun port => ?_⟩
    · rw [hnames]
      constructor
      · exact fun hserver => ⟨hserver.username, hserver.password⟩
      · rintro ⟨husername, hpassword⟩
        have hport : u.port = Url.keptPort c.port := by rw [hparts]
        have hpath : u.path = .segments [""] := by rw [hparts]
        exact ⟨hscheme, Url.effectivePort_kept hscheme hport, by rw [hpath]; rfl, husername,
          hpassword, by rw [hparts], by rw [hparts]⟩
    · rw [hnames]
      constructor
      · exact fun heq => ⟨congrArg Url.username heq, congrArg Url.password heq⟩
      · rintro ⟨husername, hpassword⟩
        rw [hparts, husername, hpassword]
        cases op <;> rfl
    · rw [if_neg h]
      exact ⟨_, hports port, rfl, Url.effectivePort_kept hscheme rfl⟩

/-- A host text with an address in brackets and a tab in it, behind an at sign. -/
theorem resolve_hostAndPort_brackets :
    let c : Config := { host := "/@[::\t1]", port := 80 }
    let u : Url := {
      scheme := "http"
      host := some (.ipv6 ⟨[0, 0, 0, 0, 0, 0, 0, 1], rfl, by decide⟩), path := .segments [""] }
    (c.baseUrl = none ∧ c.resolve = .ok u) ∧
    (u.IsServer c.port ↔ c.NamesServer) ∧
    (∀ op, (Prober.mk u).endpoint op = Prober.plainEndpoint u.host c.port op ↔ c.NamesServer) ∧
    ∀ port, ∃ v, ({ c with port := port } : Config).resolve = .ok v ∧ v.host = u.host ∧
      v.effectivePort = if c.EndsAuthority then u.effectivePort else some port := by
  intro c u
  have hu : c.resolve = .ok u := by decide +kernel
  have hbase : c.baseUrl = none := rfl
  exact ⟨⟨hbase, hu⟩, resolve_hostAndPort hbase hu⟩

/-- A slash behind the host, and the port given is the end of the path: the default port is probed
instead. -/
theorem slash_hides_port :
    let c : Config := { host := "[::1]/", port := 8081 }
    let u : Url := {
      scheme := "http"
      host := some (.ipv6 ⟨[0, 0, 0, 0, 0, 0, 0, 1], rfl, by decide⟩)
      path := .segments [":8081"] }
    c.baseUrl = none ∧ c.resolve = .ok u ∧ u.effectivePort = some 80 ∧ ¬ u.IsServer c.port ∧
      ((Prober.mk u).endpoint .deploy).text = "http://[::1]/:8081/api/dapp/deploy" := by
  intro c u
  have hu : c.resolve = .ok u := by decide +kernel
  have hendpoint : ((Prober.mk u).endpoint .deploy).text =
      "http://[::1]/:8081/api/dapp/deploy" := by decide +kernel
  exact ⟨rfl, hu, rfl, fun hserver => absurd hserver.port (by decide), hendpoint⟩

end Config

end SmokeProbe
