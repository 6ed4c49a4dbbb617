import SmokeProbe.Http.Exchange
import SmokeProbe.Proofs.PercentEncoding
import SmokeProbe.Proofs.Results

/-!
# User information and the request that it leaves

User name and password become an authorization header and leave the URL, provided that they decode
to text. A URL without them and a URL from which they were taken then lead to the same exchange: the
requests differ in nothing but that header.
-/
namespace SmokeProbe

namespace Url

theorem Percent.decode_ne_nil {s : List Char} (h : s ≠ []) : Percent.decode s ≠ [] := by
  cases s with
  | nil => exact absurd rfl h
  | cons c s =>
    unfold Percent.decode
    split
    · split
      · split <;> simp
      · simp
    · simp [Text.Utf8.encodeChar_ne_nil]

/-- User name and password, where there are any, percent-decode to text. -/
structure TextUserinfo (u : Url) : Prop where
  username : (Http.Credentials.decoded? u.username).isSome
  password : ∀ p, u.password = some p → (Http.Credentials.decoded? p).isSome

@[simp] theorem withoutUserinfo_username (u : Url) : u.withoutUserinfo.username = "" := rfl

@[simp] theorem withoutUserinfo_password (u : Url) : u.withoutUserinfo.password = none := rfl

@[simp] theorem withoutUserinfo_withoutUserinfo (u : Url) :
    u.withoutUserinfo.withoutUserinfo = u.withoutUserinfo := rfl

theorem withoutUserinfo_eq_self {u : Url} (hu : u.username = "") (hp : u.password = none) :
    u.withoutUserinfo = u := by
  cases u
  cases hu
  cases hp
  rfl

theorem textUserinfo_withoutUserinfo (u : Url) : u.withoutUserinfo.TextUserinfo :=
  ⟨show (Http.Credentials.decoded? "").isSome by decide +kernel, by rintro p ⟨⟩⟩

/-- There is a user name or a password that is not empty. -/
def HasUserinfo (u : Url) : Prop := u.username ≠ "" ∨ ∃ p, u.password = some p ∧ p ≠ ""

/-- No password is read as an empty one. -/
theorem userinfo_password (s : List Char) : (userinfo s).2 ≠ some "" := by
  unfold userinfo
  split
  · next c password _ =>
    intro h
    have hnil : Percent.encode Percent.inUserinfo (c :: password) = [] :=
      String.ofList_eq_empty_iff.mp (Option.some.inj h)
    rw [Percent.encode, List.flatMap_cons, List.append_eq_nil_iff] at hnil
    exact Percent.encodeChar_ne_nil _ _ hnil.1
  · simp

theorem networkAuthority_password {scheme : String} {s : List Char} {a : Authority}
    (h : networkAuthority scheme s = .ok a) : a.password ≠ some "" := by
  unfold networkAuthority at h
  obtain ⟨_, _, h⟩ := bind_eq_ok.mp h
  cases h
  exact userinfo_password _

theorem networkUrl_password {scheme : String} {o : Outline} {s : List Char} {u : Url}
    (h : networkUrl scheme o s = .ok u) : u.password ≠ some "" := by
  obtain ⟨a, ha, h⟩ := bind_eq_ok.mp h
  cases h
  exact networkAuthority_password ha

theorem otherAuthority_ok {o : Outline} {front rest path : List Char} {a : Authority}
    (h : otherAuthority o front rest = .ok (a, path)) :
    ∃ info name, Host.parseOther name = .ok a.host ∧ userinfo info = (a.username, a.password) := by
  unfold otherAuthority at h
  simp only at h
  obtain ⟨_, hhost, h⟩ := bind_eq_ok.mp h
  split at h
  · cases h
  · obtain ⟨_, _, h⟩ := bind_eq_ok.mp h
    cases h
    exact ⟨_, _, hhost, rfl⟩

theorem otherAuthority_password {o : Outline} {front rest path : List Char} {a : Authority}
    (h : otherAuthority o front rest = .ok (a, path)) : a.password ≠ some "" := by
  obtain ⟨info, _, _, hinfo⟩ := otherAuthority_ok h
  have hpassword := userinfo_password info
  rwa [hinfo] at hpassword

theorem otherUrl_password {scheme : String} {o : Outline} {s : List Char} {u : Url}
    (h : otherUrl scheme o s = .ok u) : u.password ≠ some "" := by
  unfold otherUrl at h
  split at h
  · obtain ⟨⟨a, path⟩, ha, h⟩ := bind_eq_ok.mp h
    cases h
    exact otherAuthority_password ha
  · cases h
    simp [Outline.dress]
  · cases h
    simp [Outline.dress]

theorem fileUrl_place {o : Outline} {s : List Char} {u : Url} (h : fileUrl o s = .ok u) :
    ∃ host rest, u = filePlace o host rest ∧
      (host = .name "" ∨ ∃ name, Host.parse name = .ok host) := by
  unfold fileUrl at h
  split at h
  · split at h
    · simp only at h
      split at h
      · cases h
        exact ⟨_, _, rfl, .inl rfl⟩
      · obtain ⟨host, hparse, h⟩ := bind_eq_ok.mp h
        cases h
        refine ⟨_, _, rfl, ?_⟩
        split
        · exact .inl rfl
        · exact .inr ⟨_, hparse⟩
    · cases h
      exact ⟨_, _, rfl, .inl rfl⟩
  · cases h
    exact ⟨_, _, rfl, .inl rfl⟩

theorem absolute_of_parse {text : String} {u : Url} (h : parse text = .ok u) :
    ∃ scheme o s, absolute scheme o s = .ok u := by
  unfold parse parseWith at h
  simp only at h
  split at h
  · next hb => cases hb
  · exact ⟨_, _, _, h⟩
  · next hb => cases hb
  · cases h

theorem parse_password {text : String} {u : Url} (h : parse text = .ok u) :
    u.password ≠ some "" := by
  obtain ⟨scheme, o, s, h⟩ := absolute_of_parse h
  unfold absolute at h
  split at h
  · exact networkUrl_password h
  · obtain ⟨host, rest, rfl, -⟩ := fileUrl_place h
    exact nofun
  · exact otherUrl_password h

end Url

namespace Http

namespace Credentials

theorem decoded?_ne_nil {s : String} (hs : s ≠ "") : decoded? s ≠ some [] := by
  intro h
  have hl : s.toList ≠ [] := by
    rw [Ne, String.toList_eq_nil_iff]
    exact hs
  have hd : [] = Url.Percent.decode s.toList := Text.Utf8.encode_of_decode? h
  exact Url.Percent.decode_ne_nil hl hd.symm

/-- Text user information makes credentials, unless there is none. -/
theorem ofUrl?_isSome {u : Url} (h : u.TextUserinfo) :
    (ofUrl? u).isSome ↔ u.username ≠ "" ∨ u.password ≠ none := by
  obtain ⟨name, hname⟩ := Option.isSome_iff_exists.mp h.username
  cases hp : u.password with
  | none =>
    by_cases hu : u.username = ""
    · have he : ofUrl? u = none := by
        rw [hu] at hname
        have : name = [] := by
          have hs : decoded? "" = some [] := by decide +kernel
          rw [hs] at hname
          cases hname
          rfl
        simp [ofUrl?, hu, hp, hname, this]
      simp [he, hu]
    · have hn : name ≠ [] := by
        rintro rfl
        exact decoded?_ne_nil hu hname
      simp [ofUrl?, hname, hp, hn, hu]
  | some password =>
    obtain ⟨text, htext⟩ := Option.isSome_iff_exists.mp (h.password password hp)
    simp [ofUrl?, hname, hp, htext]

end Credentials

namespace Request
variable {u : Url}

theorem post_target (h : u.TextUserinfo) :
    (if (Credentials.ofUrl? u).isSome then u.withoutUserinfo else u) = u.withoutUserinfo := by
  by_cases hc : (Credentials.ofUrl? u).isSome
  · rw [if_pos hc]
  · rw [if_neg hc]
    rw [Credentials.ofUrl?_isSome h, not_or, Decidable.not_not, Decidable.not_not] at hc
    rw [Url.withoutUserinfo_eq_self hc.1 hc.2]

theorem post_url (h : u.TextUserinfo) (body : String) :
    (post u body).url = u.withoutUserinfo.withoutFragment := by
  rw [← post_target h]
  rfl

end Request

end Http

end SmokeProbe
