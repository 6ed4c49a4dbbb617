import Mathlib.Data.List.Basic
import SmokeProbe.Http.Request

/-!
# The headers of a request

A header depends on one part of the request: those that describe the body on its verb, the
authorization on its credentials. What a request carries can be read off its parts.
-/
namespace SmokeProbe.Http.Request

/-- The values of all headers of a name. -/
def valuesOf (r : Request) (name : String) : List String :=
  (r.headers.filter fun h => h.1 == name).map Prod.snd

/-- A request that carries a JSON text. -/
structure Posts (r : Request) (text : String) : Prop where
  method : r.method = "POST"
  body : r.body = text
  contentType : r.valuesOf "content-type" = ["application/json"]
  contentLength :
    r.valuesOf "content-length" = [String.ofList (Text.decimal (Text.Utf8.bytes text).length)]

/-- A request that carries nothing. -/
structure Gets (r : Request) : Prop where
  method : r.method = "GET"
  body : r.body = ""
  contentType : r.valuesOf "content-type" = []
  contentLength : r.valuesOf "content-length" = []

theorem valuesOf_body (r : Request) {name : String}
    (h : name = "content-type" ∨ name = "content-length") :
    r.valuesOf name = ((bodyHeaders r.verb).filter fun h => h.1 == name).map Prod.snd := by
  unfold valuesOf headers
  rcases h with rfl | rfl
  · simp [List.filter_map, Function.comp_def]
  · simp [List.filter_map, Function.comp_def]

theorem posts_of_verb {r : Request} {text : String} (h : r.verb = .post text) : r.Posts text := by
  refine ⟨?_, ?_, ?_, ?_⟩
  · rw [method, h]
  · rw [body, h]
  · rw [valuesOf_body r (.inl rfl), h]
    rfl
  · rw [valuesOf_body r (.inr rfl), h]
    rfl

theorem gets_of_verb {r : Request} (h : r.verb = .get) : r.Gets := by
  refine ⟨?_, ?_, ?_, ?_⟩
  · rw [method, h]
  · rw [body, h]
  · rw [valuesOf_body r (.inl rfl), h]
    rfl
  · rw [valuesOf_body r (.inr rfl), h]
    rfl

theorem not_posts_of_gets {r : Request} {text : String} (h : r.Gets) : ¬ r.Posts text := by
  intro hp
  have hm := h.method.symm.trans hp.method
  revert hm
  decide

theorem valuesOf_authorization (r : Request) :
    r.valuesOf "authorization" = r.authorization.toList := by
  have hbody : (bodyHeaders r.verb).filter (fun h => h.1 == "authorization") = [] := by
    cases r.verb <;> rfl
  unfold valuesOf headers
  simp [hbody, List.filter_map, Function.comp_def]

def withoutAuthorization (r : Request) : Request := { r with authorization := none }

/-- No other header is missing. -/
theorem headers_withoutAuthorization (r : Request) :
    r.withoutAuthorization.headers = r.headers.filter fun h => h.1 ≠ "authorization" := by
  have hbody : (bodyHeaders r.verb).filter (fun h => h.1 ≠ "authorization") =
      bodyHeaders r.verb := by
    cases r.verb <;> rfl
  unfold headers withoutAuthorization
  rw [List.filter_append, List.filter_append, List.filter_append, List.filter_append, hbody]
  simp [List.filter_map, Function.comp_def]

end SmokeProbe.Http.Request
