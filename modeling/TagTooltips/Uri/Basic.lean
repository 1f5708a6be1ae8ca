import TagTooltips.Text.WhiteSpace
import TagTooltips.Uri.Authority

/-! Documents are known by absolute URLs. Spellings that mean the same URL are brought to one form:
a lower-case scheme and host, percent-encoded characters, and paths without dot segments. -/

namespace TagTooltips.Uri

def isSchemeChar (c : Char) : Bool := c.isAlphanum || c == '+' || c == '-' || c == '.'

def scheme? (s : List Char) : Option (String × List Char) :=
  match unbroken (s.takeWhile (· != ':')), s.dropWhile (· != ':') with
  | c :: cs, _ :: rest =>
    if c.isAlpha && cs.all isSchemeChar then some (String.ofList ((c :: cs).map Char.toLower), rest) else none
  | _, _ => none

def Kind.ofScheme : String → Kind
  | "file" => .file
  | "http" | "ws" => .web 80
  | "https" | "wss" => .web 443
  | "ftp" => .web 21
  | _ => .other

def tail (k : Kind) (s : List Char) : List Char :=
  let fragment := fun s : List Char => match s with
    | '#' :: s => '#' :: encode fragmentSet s
    | _ => []
  match s with
  | '?' :: s =>
    '?' :: encode (querySet k.isSpecial) (s.takeWhile (· != '#')) ++ fragment (s.dropWhile (· != '#'))
  | s => fragment s

def pathOf (k : Kind) (s : List Char) : Path := .ofText k (s.takeWhile (!endsPath ·))

def afterPath (k : Kind) (s : List Char) : List Char := tail k (unbroken (s.dropWhile (!endsPath ·)))

/-- What follows the two slashes of a `file` URL, where `localhost` is no host. Behind a host the path is
read without its first slash. Without a host the slash makes an empty first segment, so that only a drive
right behind the two slashes is taken for one. -/
def fileWithHost? (s : List Char) : Option (List Char) := do
  let text := unbroken (s.takeWhile (!endsAuthority .file ·))
  let after := s.dropWhile (!endsAuthority .file ·)
  if isDrive text then return (pathOf .file s).render ++ afterPath .file s
  let host ← if text.isEmpty then some [] else domainHost? text
  if host.isEmpty ∨ host = "localhost".toList then
    return (pathOf .file after).render ++ afterPath .file after
  let path := pathOf .file (if after.head?.any (isSlash true) then after.drop 1 else after)
  return (if path.hasDrive then [] else host) ++ path.render ++ afterPath .file after

def afterSlash? (s : List Char) : Option (List Char) :=
  match s.dropWhile isBreak with
  | c :: rest => if isSlash true c then some rest else none
  | [] => none

/-- What follows `file:`, in its one spelling. Its tabs and line ends are still there. -/
def file? (s : List Char) : Option (List Char) :=
  match (afterSlash? s).bind afterSlash? with
  | some rest => fileWithHost? rest
  | none =>
    let s := (afterSlash? s).getD s
    some ((pathOf .file s).render ++ afterPath .file s)

def web? (number : Nat) (s : List Char) : Option (List Char) := do
  let k := Kind.web number
  let (authority, s) ← authority? k (s.dropWhile (isSlash true))
  let path := pathOf k (if s.head?.any (isSlash true) then s.drop 1 else s)
  return authority ++ path.render ++ afterPath k s

/-- What follows any other scheme: an authority and a path, a path, or text that is no path. A path alone
must not look like an authority. -/
def other? (s : List Char) : Option (List Char) :=
  match s with
  | '/' :: '/' :: s => do
    let (authority, s) ← authority? .other s
    let path := match s.takeWhile (!endsPath ·) with
      | [] => []
      | '/' :: text => (Path.ofText .other text).render
      | text => (Path.ofText .other text).render
    return '/' :: '/' :: authority ++ path ++ afterPath .other s
  | '/' :: s =>
    let path := (pathOf .other s).render
    some ((if "//".toList.isPrefixOf path then "/.".toList else []) ++ path ++ afterPath .other s)
  | s => some (encode [] (s.takeWhile (!endsPath ·)) ++ afterPath .other s)

def normalize? (text : String) : Option String := do
  let (scheme, s) ← scheme? (Text.stripBoth (· ≤ ' ') text.toList)
  let rest ← match Kind.ofScheme scheme with
    | .file => (file? s).map ("//".toList ++ ·)
    | .web number => (web? number (unbroken s)).map ("//".toList ++ ·)
    | .other => other? (unbroken s)
  return scheme ++ ":" ++ String.ofList rest

end TagTooltips.Uri
