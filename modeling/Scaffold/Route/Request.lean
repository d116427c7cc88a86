/-!
# Requests

What of a request decides the answer: its method and the path of its target. A method is a
token of the hypertext protocol. A target is a path with an optional query, an asterisk, an
authority, or an absolute address; nothing in it is decoded.

## Main definitions

* `isToken` - whether a text is a method.
* `targetPath?` - the path of a target, if the target is well formed.
* `Message.request?` - the request that a message is, with query, headers and body left out.
-/

namespace Scaffold.Route

/-- A request, as far as routing and serving look at it. -/
structure Request where
  /-- The method. -/
  method : String
  /-- The path of the target. -/
  path : String
  deriving Repr, DecidableEq

/-- Whether a character may stand in a token. -/
def isTokenChar (c : Char) : Bool :=
  c.isAlphanum || "!#$%&'*+-.^_`|~".toList.contains c

/-- Whether a text is a token. -/
def isToken (s : String) : Bool :=
  !s.isEmpty && s.toList.all isTokenChar

namespace Target

/-- Whether a character may stand in a path. -/
def isPathChar (c : Char) : Bool :=
  let n := c.toNat
  n = 0x21 || n = 0x22 || (0x24 ≤ n && n ≤ 0x3B) || n = 0x3D
    || (0x40 ≤ n && n ≤ 0x7E && n ≠ 0x60) || 0x80 ≤ n

/-- Whether a character may stand in a query. -/
def isQueryChar (c : Char) : Bool :=
  let n := c.toNat
  n = 0x21 || (0x24 ≤ n && n ≤ 0x3B) || n = 0x3D || (0x3F ≤ n && n ≤ 0x7E) || 0x80 ≤ n

/-- The path in a path with an optional query and fragment; a slash if it is empty. -/
def pathPart? (cs : List Char) : Option (List Char) :=
  let path := cs.takeWhile fun c => c ≠ '?' && c ≠ '#'
  let rest := cs.dropWhile fun c => c ≠ '?' && c ≠ '#'
  let query :=
    match rest with
    | '?' :: more => more.takeWhile (· ≠ '#')
    | _ => []
  if path.all isPathChar ∧ query.all isQueryChar then
    some (if path.isEmpty then ['/'] else path)
  else
    none

/-- Whether a character may stand in a scheme. -/
def isSchemeChar (c : Char) : Bool :=
  c.isAlphanum || ['+', '-', '.', '~'].contains c

/-- What follows the scheme of an absolute address and the mark behind it. -/
def afterScheme? (cs : List Char) : Option (List Char) :=
  match cs.dropWhile isSchemeChar with
  | ':' :: '/' :: '/' :: rest => some rest
  | _ => none

/-- The most characters that a scheme may have. -/
def schemeMax : Nat := 64

/-- What is known of an authority while it is read. -/
structure Authority where
  /-- Colons since the last bracket or at sign. -/
  colons : Nat := 0
  /-- Whether a bracket was opened. -/
  opened : Bool := false
  /-- Whether a bracket was closed. -/
  closed : Bool := false
  /-- Whether a percent sign stands behind the last bracket or at sign. -/
  percent : Bool := false
  /-- Whether the last character was an at sign. -/
  endsInAt : Bool := false

/-- The most colons between two marks of an authority. -/
def colonMax : Nat := 8

/-- Reads one character of an authority. -/
def Authority.step (a : Authority) (c : Char) : Option Authority :=
  let a := { a with endsInAt := false }
  match c with
  | ':' => if a.colons < colonMax then some { a with colons := a.colons + 1 } else none
  | '[' => if a.percent || a.opened then none else some { a with opened := true }
  | ']' =>
    if !a.opened || a.closed then none
    else some { a with closed := true, colons := 0, percent := false }
  | '@' => some { a with colons := 0, percent := false, endsInAt := true }
  | '%' => some { a with percent := true }
  | c =>
    if c.isAlphanum || "!$&'()*+,-.;=_~".toList.contains c then some a else none

/-- Whether an authority may end here. -/
def Authority.complete (a : Authority) : Bool :=
  a.opened == a.closed && a.colons ≤ 1 && !a.endsInAt && !a.percent

/-- Where an authority ends: what follows it, if it is well formed. -/
def afterAuthority? (a : Authority) (cs : List Char) : Option (List Char) :=
  match cs with
  | [] => if a.complete then some [] else none
  | c :: rest =>
    if c = '/' ∨ c = '?' ∨ c = '#' then
      if a.complete then some (c :: rest) else none
    else
      (a.step c).bind fun a => afterAuthority? a rest

/-- The path of a target that begins with a scheme or an authority. -/
def addressPath? (cs : List Char) : Option (List Char) :=
  match if 3 < cs.length then afterScheme? cs else none with
  | some rest =>
    if cs.length - rest.length ≤ schemeMax + 3 then
      match afterAuthority? {} rest with
      | some more => if more.length < rest.length then pathPart? more else none
      | none => none
    else
      none
  | none =>
    match afterAuthority? {} cs with
    | some [] => some []
    | _ => none

end Target

/-- The most bytes that a target may have. -/
def targetMax : Nat := 65534

/-- The **path of a target**; `none` if the target is not well formed. -/
def targetPath? (target : String) : Option String :=
  if targetMax < target.utf8ByteSize then
    none
  else
    (match target.toList with
    | [] => none
    | ['*'] => some ['*']
    | '/' :: rest => Target.pathPart? ('/' :: rest)
    | cs => Target.addressPath? cs).map String.ofList

/-- A request as it arrives. -/
structure Message where
  /-- The method. -/
  method : String
  /-- The target, with its query if it has one. -/
  target : String
  /-- Header names and values. -/
  headers : List (String × String)
  /-- The body. -/
  body : List UInt8
  deriving Repr, DecidableEq

/-- The **request that a message is**; `none` if its method is no token or its target is not
well formed. -/
def Message.request? (m : Message) : Option Request :=
  if isToken m.method then (targetPath? m.target).map fun path => ⟨m.method, path⟩ else none

end Scaffold.Route
