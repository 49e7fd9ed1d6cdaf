import MeshNode.Text

/-!
# Request targets

What a request asks for is a path, perhaps with a query, or a whole address with such a path behind
its scheme and authority, or an authority alone, or a star for the whole host. Only the path says
which place is meant: it ends at the query, and an address without one asks for the root.
-/

namespace MeshNode.Status.Target

/-- The largest number of bytes in a target. -/
def maxSize : Nat := 65534

/-- The longest scheme. -/
def maxScheme : Nat := 64

/-! ## Paths -/

/-- Whether a character may stand in a target, where `forbidden` are the visible ASCII characters
that may not. -/
def isTargetChar (forbidden : List Nat) (c : Char) : Bool :=
  0x20 < c.toNat && !forbidden.contains c.toNat

/-- The path in front of a query and a fragment. Nothing is asked of what stands behind a hash
sign. Neither part may hold angle brackets, a path no backtick and a query no double quote. -/
def path? (cs : List Char) : Option (List Char) := do
  let (path, rest) := cs.span fun c => c ≠ '?' && c ≠ '#'
  let query := match rest with
    | '?' :: behind => behind.takeWhile (· ≠ '#')
    | _ => []
  guard (path.all (isTargetChar [0x3C, 0x3E, 0x60]))
  guard (query.all (isTargetChar [0x22, 0x3C, 0x3E]))
  return if path.isEmpty then ['/'] else path

/-! ## Authorities -/

/-- What has been seen of an authority since its user information: colons, brackets, and a percent
sign, which only user information and bracketed addresses may hold. -/
structure Authority where
  colons : Nat := 0
  opened : Bool := false
  closed : Bool := false
  percent : Bool := false
  endsInAt : Bool := false

/-- Whether a character may stand in an authority. -/
def isAuthorityChar (c : Char) : Bool := c.isAlphanum || "!$&'()*+,-.;=_~".toList.contains c

/-- Read one character of an authority. -/
def Authority.read? (state : Authority) (c : Char) : Option Authority :=
  let next := { state with endsInAt := false }
  if c = ':' then if state.colons < 8 then some { next with colons := state.colons + 1 } else none
  else if c = '[' then
    if state.percent || state.opened then none else some { next with opened := true }
  else if c = ']' then
    if state.opened && !state.closed then
      some { next with closed := true, colons := 0, percent := false }
    else none
  else if c = '@' then some { next with colons := 0, percent := false, endsInAt := true }
  else if c = '%' then some { next with percent := true }
  else if isAuthorityChar c then some next
  else none

/-- Whether an authority may end here. -/
def Authority.isComplete (state : Authority) : Bool :=
  state.opened == state.closed && state.colons ≤ 1 && !state.endsInAt && !state.percent

/-- Whether a text is an authority. -/
def isAuthority (cs : List Char) : Bool :=
  !cs.isEmpty && (cs.foldlM Authority.read? {}).any Authority.isComplete

/-! ## Targets -/

/-- Characters of a scheme. -/
def isSchemeChar (c : Char) : Bool := c.isAlphanum || c = '+' || c = '-' || c = '.'

/-- What stands in front of a path and what follows. -/
def splitAuthority (cs : List Char) : List Char × List Char :=
  cs.span fun c => c ≠ '/' && c ≠ '?' && c ≠ '#'

/-- The path of a whole address behind its scheme. -/
def addressPath? (cs : List Char) : Option (List Char) := do
  let (authority, rest) := splitAuthority cs
  guard (isAuthority authority)
  path? rest

/-- The path that a target asks for, which is empty for an authority alone. -/
def read? (target : String) : Option (List Char) :=
  let cs := target.toList
  if maxSize < target.utf8ByteSize then none
  else
    match cs with
    | ['*'] => some cs
    | '/' :: _ => path? cs
    | _ =>
      let (scheme, rest) := cs.span isSchemeChar
      match rest with
      | ':' :: '/' :: '/' :: behind =>
        if scheme.length ≤ maxScheme then addressPath? behind else none
      | _ => if isAuthority cs then some [] else none

end MeshNode.Status.Target
