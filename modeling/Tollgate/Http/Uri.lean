import Tollgate.Octets
import Tollgate.Text.Decimal
import Tollgate.Text.Split

/-!
# Request targets

A request target is a path with an optional query (`/path?query`), an absolute URI, an authority
(`host:port`), or `*`. Fragments are cut off, and percent escapes are kept as they are.
-/

namespace Tollgate.Http

structure Uri where
  scheme : Option String
  authority : Option String
  /-- The path as it was written. -/
  rawPath : String
  query : Option String
  deriving DecidableEq, Repr

namespace Uri

def maxLength : Nat := 65534

def maxSchemeLength : Nat := 64

/-- The path. An absolute URI has at least the path `/`, and so has a target that is only a query.
-/
def path (uri : Uri) : String :=
  if uri.rawPath.isEmpty ∧ (uri.scheme.isSome ∨ uri.query.isSome) then "/" else uri.rawPath

theorem path_of_ne_empty {uri : Uri} (nonempty : uri.rawPath ≠ "") : uri.path = uri.rawPath :=
  if_neg fun empty => nonempty (String.isEmpty_iff.mp empty.1)

/-- The authority without user information and port. -/
def host? (uri : Uri) : Option String :=
  uri.authority.map fun authority =>
    let hostAndPort := Text.afterLast '@' authority.toList
    if hostAndPort.head? = some '[' then
      String.ofList (hostAndPort.takeWhile (· ≠ ']') ++ [']'])
    else String.ofList (Text.before ':' hostAndPort)

/-- The port of an authority: the number behind its last colon. -/
def portOf? (authority : String) : Option Nat :=
  let text := authority.toList
  if ':' ∈ text then Text.bounded? 65535 (Text.afterLast ':' text) else none

def text (uri : Uri) : String :=
  ((uri.scheme.map (· ++ "://")).getD "") ++ uri.authority.getD "" ++ uri.path
    ++ ((uri.query.map ("?" ++ ·)).getD "")

/-! ## Reading -/

private def isSchemeChar (c : Char) : Bool := c.isAlphanum || c = '+' || c = '-' || c = '.'

/-- Characters of authorities, apart from those with a meaning of their own. -/
private def isAuthorityChar (c : Char) : Bool :=
  c.isAlphanum || "!$&'()*+,-.;=_~".toList.contains c

/-- Characters that paths may hold unescaped. Some of them should be escaped but are met in
practice. -/
def isPathChar (c : Char) : Bool :=
  let n := c.toNat
  n = 0x21 || (0x24 ≤ n && n ≤ 0x3B) || n = 0x3D || (0x40 ≤ n && n ≤ 0x5F)
    || (0x61 ≤ n && n ≤ 0x7A) || n = 0x7C || n = 0x7E || c = '"' || c = '\x7b' || c = '\x7d'

/-- Characters that queries may hold unescaped. -/
def isQueryChar (c : Char) : Bool :=
  let n := c.toNat
  n = 0x21 || (0x24 ≤ n && n ≤ 0x3B) || n = 0x3D || (0x3F ≤ n && n ≤ 0x7E)

/-- Splits a scheme and `://` off the front of a text. -/
private def scheme? (text : List Char) : Option (List Char × List Char) :=
  let name := text.takeWhile isSchemeChar
  (Text.dropStart? [':', '/', '/'] (text.drop name.length)).map fun rest => (name, rest)

/-- What is known of an authority while it is read. -/
private structure AuthorityScan where
  colons : Nat
  bracketOpened : Bool
  bracketClosed : Bool
  percent : Bool
  /-- The last character was an at sign. -/
  endsInAt : Bool

private def scanChar (scan : AuthorityScan) (c : Char) : Option AuthorityScan :=
  let scan' := { scan with endsInAt := false }
  match c with
  | ':' => if 8 ≤ scan.colons then none else some { scan' with colons := scan.colons + 1 }
  | '[' =>
    if scan.percent || scan.bracketOpened then none
    else some { scan' with bracketOpened := true }
  | ']' =>
    if !scan.bracketOpened || scan.bracketClosed then none
    else some { scan' with bracketClosed := true, colons := 0, percent := false }
  | '@' => some { scan' with colons := 0, percent := false, endsInAt := true }
  | '%' => some { scan' with percent := true }
  | c => if isAuthorityChar c then some scan' else none

/-- Whether a text is an authority: brackets are paired, at most one colon stands outside user
information and brackets, percent escapes only inside of them, and something follows user
information. -/
def isAuthority (text : List Char) : Bool :=
  match text.foldlM scanChar ⟨0, false, false, false, false⟩ with
  | none => false
  | some scan =>
    scan.bracketOpened = scan.bracketClosed && scan.colons ≤ 1 && !scan.endsInAt && !scan.percent

private def pathAndQuery? (scheme authority : Option String) (text : List Char) : Option Uri :=
  let path := text.takeWhile fun c => c ≠ '?' ∧ c ≠ '#'
  let query := match text.drop path.length with
    | '?' :: rest => some (Text.before '#' rest)
    | _ => none
  if path.all isPathChar && query.all (·.all isQueryChar) then
    some ⟨scheme, authority, String.ofList path, query.map String.ofList⟩
  else none

private def endsAuthority (c : Char) : Bool := c = '/' || c = '?' || c = '#'

def ofText? (text : String) : Option Uri :=
  let chars := text.toList
  if maxLength < text.utf8ByteSize then none
  else
    match chars with
    | [] => none
    | ['*'] => some ⟨none, none, "*", none⟩
    | '/' :: _ => pathAndQuery? none none chars
    | _ =>
      match scheme? chars with
      | some (scheme, rest) =>
        let authority := rest.takeWhile (!endsAuthority ·)
        if maxSchemeLength < scheme.length || authority.isEmpty || !isAuthority authority then none
        else
          let name := String.ofList (scheme.map Char.toLower)
          let scheme := if name = "http" ∨ name = "https" then name else String.ofList scheme
          pathAndQuery? (some scheme) (some (String.ofList authority)) (rest.drop authority.length)
      | none =>
        if chars.any endsAuthority || !isAuthority chars then none
        else some ⟨none, some text, "", none⟩

private theorem ofText?_of_slash {text : String} (starts : text.toList.head? = some '/') :
    ofText? text =
      if maxLength < text.utf8ByteSize then none else pathAndQuery? none none text.toList := by
  rw [ofText?]
  cases chars : text.toList with
  | nil => simp [chars] at starts
  | cons c rest =>
    obtain rfl : c = '/' := by simpa [chars] using starts
    rfl

/-- What is known of a target that starts with a slash: its path is all before a query or a
fragment. -/
theorem of_ofText?_of_slash {text : String} {uri : Uri} (starts : text.toList.head? = some '/')
    (h : ofText? text = some uri) :
    text.utf8ByteSize ≤ maxLength ∧
      uri.rawPath = String.ofList (text.toList.takeWhile fun c => c ≠ '?' ∧ c ≠ '#') ∧
      ∀ c ∈ uri.rawPath.toList, isPathChar c = true := by
  rw [ofText?_of_slash starts] at h
  split at h
  next => cases h
  next fits =>
    rw [pathAndQuery?, Option.ite_none_right_eq_some, Bool.and_eq_true, List.all_eq_true] at h
    obtain ⟨⟨legal, -⟩, uri_eq⟩ := h
    obtain rfl := Option.some.inj uri_eq
    refine ⟨Nat.not_lt.mp fits, rfl, ?_⟩
    rwa [String.toList_ofList]

theorem isPathChar_ne {c : Char} (h : isPathChar c = true) : c ≠ '?' ∧ c ≠ '#' := by
  constructor
  · rintro rfl
    exact absurd h (by decide)
  · rintro rfl
    exact absurd h (by decide)

theorem ofText?_path {path : String} (starts : path.toList.head? = some '/')
    (fits : path.utf8ByteSize ≤ maxLength) (legal : ∀ c ∈ path.toList, isPathChar c = true) :
    ofText? path = some ⟨none, none, path, none⟩ := by
  have whole : path.toList.takeWhile (fun c => c ≠ '?' ∧ c ≠ '#') = path.toList := by
    have ends : (path.toList ++ []).takeWhile (fun c => c ≠ '?' ∧ c ≠ '#') = path.toList ++ [] :=
      List.takeWhile_append_of_pos fun c mem => decide_eq_true (isPathChar_ne (legal c mem))
    rwa [List.append_nil] at ends
  rw [ofText?_of_slash starts, if_neg (Nat.not_lt.mpr fits), pathAndQuery?, whole]
  simp [List.all_eq_true.mpr legal]

end Uri

end Tollgate.Http
