import SmokeProbe.Text.Charset

/-!
# Media types

The value of a `Content-Type` header: a type and a subtype with a slash between them, and parameters
behind semicolons, quoted or not. A value that does not have this form has no parameters at all. The
charset parameter names the charset of a body.
-/
namespace SmokeProbe.Http.MediaType

/-- Characters of names and of values without quotes. -/
def isToken (c : Char) : Bool :=
  c.isAlphanum || ['!', '#', '$', '%', '&', '\x27', '*', '+', '-', '.', '^', '_', '\x60', '|',
    '~'].contains c

/-- Characters between quotes. -/
def isQuotable (c : Char) : Bool := 0x20 ≤ c.toNat && c.toNat != 0x7f

/-- A quoted value after its opening quote: at least one character, and what follows the closing
quote. The first character may itself be a quote. -/
def quoted? (s : List Char) : Option (List Char × List Char) :=
  match s with
  | [] => none
  | c :: s =>
    let value := s.takeWhile (· != '\x22')
    match s.dropWhile (· != '\x22') with
    | [] => none
    | _ :: rest => if (c :: value).all isQuotable then some (c :: value, rest) else none

/-- What follows a quoted value: spaces, and then the next parameter or the end. -/
def afterQuoted? (s : List Char) : Option (List Char) :=
  match s.dropWhile (· == ' ') with
  | [] => some []
  | c :: rest => if c = ';' then some rest else none

/-- The value of a parameter, and what follows it. An empty value stands only at the end. -/
def value? (s : List Char) : Option (List Char × List Char) :=
  match s with
  | '\x22' :: s => do
    let (value, rest) ← quoted? s
    let rest ← afterQuoted? rest
    pure (value, rest)
  | s =>
    let value := s.takeWhile isToken
    match s.dropWhile isToken with
    | [] => some (value, [])
    | c :: rest => if c = ';' ∧ value ≠ [] then some (value, rest) else none

/-- The parameters of a media type, after the first semicolon; `fuel` is at least the length of the
text. -/
def parametersFrom : Nat → List Char → Option (List (List Char × List Char))
  | 0, _ => some []
  | fuel + 1, s =>
    let s := s.dropWhile (· == ' ')
    if s.isEmpty then some []
    else
      let name := s.takeWhile isToken
      match s.dropWhile isToken with
      | [] => none
      | c :: rest =>
        if c = '=' ∧ name ≠ [] then do
          let (value, rest) ← value? rest
          let more ← parametersFrom fuel rest
          pure ((name, value) :: more)
        else none

/-- All parameters of a media type; `none` if the text is no media type. -/
def parameters? (s : List Char) : Option (List (List Char × List Char)) :=
  let rest := s.dropWhile isToken
  match s.takeWhile isToken, rest with
  | _ :: _, c :: s =>
    if c = '/' then
      match s.takeWhile isToken, s.dropWhile isToken with
      | _, [] => some []
      | subtype, c :: rest =>
        if c = ';' ∧ subtype ≠ [] then parametersFrom rest.length rest else none
    else none
  | _, _ => none

/-- The value of the first charset parameter. -/
def charsetLabel? (s : List Char) : Option (List Char) :=
  (parameters? s).bind fun ps =>
    (ps.find? fun p => p.1.map Char.toLower == "charset".toList).map Prod.snd

/-- The charset that a header declares: UTF-8 if it names none. -/
def charset (s : List Char) : Text.Charset :=
  ((charsetLabel? s).map Text.Charset.ofLabel).getD .utf8

end SmokeProbe.Http.MediaType
