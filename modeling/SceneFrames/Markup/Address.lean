/-!
Addresses: texts of the grammar of uniform resource identifiers. Namespaces are named by them; a
text that is no address is a fault, and one without a scheme is a remark.
-/

namespace SceneFrames.Markup

/-- How complete an address is. -/
inductive Address
  /-- It names a scheme. -/
  | absolute
  /-- It names no scheme. -/
  | relative
  deriving DecidableEq, Repr

namespace Address

/-- The characters that stand for themselves everywhere. -/
def isPlain (c : Char) : Bool :=
  c.isAlphanum || "-._~!$&'()*+,;=".toList.contains c

/-- A hexadecimal digit. -/
def isHex (c : Char) : Bool :=
  c.isDigit || ('a' ≤ c && c ≤ 'f') || ('A' ≤ c && c ≤ 'F')

/-- What is left after characters of a class and coded bytes. -/
def skip (p : Char → Bool) : List Char → List Char
  | '%' :: a :: b :: cs => if isHex a && isHex b then skip p cs else '%' :: a :: b :: cs
  | c :: cs => if p c then skip p cs else c :: cs
  | [] => []

/-- The characters of a path, its slashes included. -/
def isPathChar (c : Char) : Bool := isPlain c || c == ':' || c == '@' || c == '/'

/-- The rest is a fragment after its sign, or nothing. -/
def endsInFragment : List Char → Bool
  | [] => true
  | '#' :: cs => (skip (fun c => isPathChar c || c == '?' || c == '[' || c == ']') cs).isEmpty
  | _ => false

/-- The rest is a query after its sign, or nothing, and then a fragment, or nothing. -/
def endsInQuery : List Char → Bool
  | '?' :: cs => endsInFragment (skip (fun c => isPathChar c || c == '?') cs)
  | cs => endsInFragment cs

/-- The rest is the remainder of a path, and what may follow it. -/
def endsInPath (cs : List Char) : Bool := endsInQuery (skip isPathChar cs)

/-- The rest is a path that starts with a slash or is empty, and what may follow it. -/
def endsInRootedPath : List Char → Bool
  | '/' :: cs => endsInPath cs
  | cs => endsInQuery cs

/-- The rest is a number after a colon, or nothing, and a path. -/
def endsInNumber : List Char → Bool
  | ':' :: d :: cs => d.isDigit && endsInRootedPath (cs.dropWhile Char.isDigit)
  | cs => endsInRootedPath cs

/-- The rest is a host with what may follow it. -/
def endsInHost : List Char → Bool
  | '[' :: cs =>
    match cs.dropWhile (· != ']') with
    | _ :: after => endsInNumber after
    | [] => false
  | cs => endsInNumber (skip isPlain cs)

/-- The rest is an authority, a user before its host or none, with what may follow it. -/
def endsInAuthority (cs : List Char) : Bool :=
  match skip (fun c => isPlain c || c == ':') cs with
  | '@' :: after => endsInHost after
  | _ => endsInHost cs

/-- The rest is what follows the colon of a scheme. -/
def endsInPlace : List Char → Bool
  | '/' :: '/' :: cs => endsInAuthority cs
  | cs => endsInPath cs

/-- What follows the scheme and its colon. -/
def afterScheme? : List Char → Option (List Char)
  | c :: cs =>
    if c.isAlpha then
      match cs.dropWhile fun d => d.isAlphanum || d == '+' || d == '-' || d == '.' with
      | ':' :: after => some after
      | _ => none
    else none
  | [] => none

/-- The first stretch of a path has no colon. -/
def startsWithoutColon (cs : List Char) : Bool :=
  match skip (fun c => isPlain c || c == '@') cs with
  | ':' :: _ => false
  | _ => true

/-- The address that a text is. -/
def ofText? (cs : List Char) : Option Address :=
  if (afterScheme? cs).any endsInPlace then some .absolute
  else if startsWithoutColon cs && endsInPlace cs then some .relative
  else none

end Address

end SceneFrames.Markup
