import TagTooltips.Uri.Percent

/-! Paths are segments between slashes. Segments of dots are steps in the tree of the paths before them,
and resolved. A letter with a colon or a bar, a drive, is no place to step out of. Tabs and line ends mean
nothing, but in a `file` path one of them can set the drive at the start apart from what follows it. -/

namespace TagTooltips.Uri

/-- What a scheme means for the rest: `web` schemes have domain names and imply a number behind them. In
`web` and `file` paths a backslash is a slash, and a `file` path can start with a drive. -/
inductive Kind
  | web (number : Nat)
  | file
  | other
  deriving DecidableEq, Repr

def Kind.isSpecial (k : Kind) : Bool := k != .other

def endsPath (c : Char) : Bool := c == '?' || c == '#'

def isSlash (special : Bool) (c : Char) : Bool := c == '/' || (special && c == '\x5c')

def isSingleDot (s : List Char) : Bool := [".", "%2e"].contains (String.ofList (s.map Char.toLower))

def isDoubleDot (s : List Char) : Bool :=
  ["..", ".%2e", "%2e.", "%2e%2e"].contains (String.ofList (s.map Char.toLower))

def isDrive : List Char → Bool
  | [c, d] => c.isAlpha && (d == ':' || d == '|')
  | _ => false

def startsAsDrive (s : List Char) : Bool :=
  isDrive (s.take 2) && ((s.drop 2).head?.all (· == '\x5c'))

/-- Tabs and line ends, which stand for nothing wherever they are. -/
def isBreak (c : Char) : Bool := c == '\t' || c == '\n' || c == '\x0d'

def unbroken (s : List Char) : List Char := s.filter (!isBreak ·)

/-- A drive with a colon and the text from behind it, if a tab or line end stands between them. -/
def detachedDrive? (s : List Char) : Option (List Char × List Char) :=
  match s.dropWhile isBreak with
  | c :: s =>
    match s.dropWhile isBreak with
    | ':' :: d :: s => if c.isAlpha && isBreak d then some ([c, ':'], unbroken s) else none
    | _ => none
  | [] => none

structure Path where
  segments : List (List Char)
  /-- The path was found to start with a drive, which belongs to no host. -/
  hasDrive : Bool
  deriving DecidableEq, Repr

namespace Path

/-- Step out of the last segment, unless it starts as a drive. The segments are in reverse order. -/
def stepOut : List (List Char) → List (List Char)
  | [] => []
  | last :: before => if startsAsDrive last then last :: before else before

/-- The segments that the first segment of a `file` path becomes, in reverse order. A drive is written with
a colon. What stands detached behind one is a segment, even if it is dots. -/
def firstOfFile (segment : List Char) : List (List Char) :=
  match unbroken segment, detachedDrive? segment with
  | [c, d], _ => if isDrive [c, d] then [[c, ':']] else [encode pathSet [c, d]]
  | _, some (drive, s) => [encode pathSet s, drive]
  | s, none => [encode pathSet s]

def resolve (k : Kind) (before : List (List Char)) (hasDrive : Bool) : List (List Char) → Path
  | [] => ⟨before.reverse, hasDrive⟩
  | segment :: rest =>
    let s := unbroken segment
    if isDoubleDot s then
      resolve k (if rest.isEmpty then [] :: stepOut before else stepOut before) hasDrive rest
    else if isSingleDot s then
      resolve k (if rest.isEmpty then [] :: before else before) hasDrive rest
    else if k = .file ∧ before.isEmpty then
      resolve k (firstOfFile segment) (hasDrive || isDrive s) rest
    else resolve k (encode pathSet s :: before) hasDrive rest

def ofText (k : Kind) (s : List Char) : Path :=
  let path := resolve k [] false (s.splitOnP (isSlash k.isSpecial))
  if k = .file then
    { path with segments := path.segments.dropWhile (·.isEmpty) }
  else path

def render (p : Path) : List Char := '/' :: ['/'].intercalate p.segments

end Path

end TagTooltips.Uri
