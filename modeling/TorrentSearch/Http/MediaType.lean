/-!
# Declared types of bodies

The parameters of a type such as `text/html; charset=utf-8`. A type that is not written as it should be
has none.
-/

namespace TorrentSearch.Http.MediaType

def isToken (c : Char) : Bool := c.isAlphanum || "!#$%&'*+-.^_`|~".toList.contains c

def word (s : List Char) : List Char × List Char := s.span isToken

/-- The text up to a closing quote, and the rest. A quote does not close right behind the opening one,
and neither does the character behind a backslash. -/
def quoted? : List Char → Option (List Char × List Char)
  | c :: rest => (go (c = '\\') rest).map fun (s, rest) => (c :: s, rest)
  | [] => none
where
  go (escaped : Bool) : List Char → Option (List Char × List Char)
    | [] => none
    | c :: rest =>
      if !escaped && c = '"' then some ([], rest)
      else (go (!escaped && c = '\\') rest).map fun (s, rest) => (c :: s, rest)

/-- The value of a parameter, and what is behind the semicolon that ends it. -/
def value? (s : List Char) : Option (List Char × List Char) :=
  match s with
  | '"' :: rest => do
    let (value, rest) ← quoted? rest
    match rest.dropWhile (· = ' ') with
    | [] => some (value, [])
    | ';' :: rest => some (value, rest)
    | _ => none
  | _ =>
    match word s with
    | (value, []) => some (value, [])
    | (c :: value, ';' :: rest) => some (c :: value, rest)
    | _ => none

/-- The parameters with their values. The number bounds them. -/
def list? : Nat → List Char → Option (List (List Char × List Char))
  | 0, _ => none
  | fuel + 1, s =>
    match s.dropWhile (· = ' ') with
    | [] => some []
    | s =>
      match word s with
      | (c :: name, '=' :: rest) => do
        let (value, rest) ← value? rest
        return (c :: name, value) :: (← list? fuel rest)
      | _ => none

def parameters? (s : List Char) : Option (List (List Char × List Char)) :=
  if !s.all fun c => 0x20 ≤ c.toNat && c.toNat ≤ 0x7e then none
  else
    match word s with
    | (_ :: _, '/' :: rest) =>
      match word rest with
      | (_ :: _, []) => some []
      | (_ :: _, ';' :: rest) | (_ :: _, ' ' :: rest) => list? (rest.length + 1) rest
      | _ => none
    | _ => none

end TorrentSearch.Http.MediaType
