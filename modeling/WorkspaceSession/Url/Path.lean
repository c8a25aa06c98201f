import WorkspaceSession.Url.Percent

/-! Paths of URLs: what is unsafe is encoded, and dot segments are resolved as they come. -/
namespace WorkspaceSession.Url

def isUnsafeInPath (c : Char) : Bool := " \"#<>?`\x7b\x7d".toList.contains c

def isDot (segment : List Char) : Bool :=
  [".", "%2e", "%2E"].any (·.toList = segment)

def isDoubleDot (segment : List Char) : Bool :=
  ["..", ".%2e", ".%2E", "%2e.", "%2E.", "%2e%2e", "%2e%2E", "%2E%2e", "%2E%2E"].any
    (·.toList = segment)

def endsInSlash (path : List Char) : Bool := path.getLast? = some '/'

def upToSlash (path : List Char) : List Char := (path.reverse.dropWhile (· ≠ '/')).reverse

def lastSegment (path : List Char) : List Char := (path.reverse.takeWhile (· ≠ '/')).reverse

/-- A letter with a colon or a bar is a drive, also before a backslash. -/
def isDrive : List Char → Bool
  | c :: d :: rest =>
    c.isAlpha && (d = ':' || d = '|') && (rest = [] || rest.head? = some '\\')
  | _ => false

/-- Takes the last segment off a path that ends in a slash. The first slash stays, and so does a
drive. -/
def shorten (path : List Char) : List Char :=
  let before := path.dropLast
  if endsInSlash path && before.contains '/' && !isDrive (lastSegment before)
  then upToSlash before else upToSlash path

def addSegment (path : List Char) (segment : List Char) (slash : Bool) : List Char :=
  if isDoubleDot segment then
    let path := shorten path
    if slash && !endsInSlash path then path ++ ['/'] else path
  else if isDot segment then
    if endsInSlash path then path else path ++ ['/']
  else path ++ segment ++ if slash then ['/'] else []

def addSegments (path : List Char) : List (List Char) → List Char
  | [] => path
  | [segment] => addSegment path segment false
  | segment :: rest => addSegments (addSegment path segment true) rest

end WorkspaceSession.Url
