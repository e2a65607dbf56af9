import CallHierarchy.Uri.Host

/-!
The path that a URI names. A URL with a hierarchical path on the machine itself names the path of
its decoded segments, dot segments resolved; its scheme does not matter, but decides how the host
and drive letters are read. Every other reference names its own text, without the `file` scheme
and its two slashes.
-/

namespace CallHierarchy.Uri

inductive SchemeKind where
  | file
  | network
  | other
  deriving DecidableEq, Repr

def SchemeKind.ofScheme (scheme : Text) : SchemeKind :=
  match scheme.map Char.toLower with
  | ['f', 'i', 'l', 'e'] => .file
  | ['h', 't', 't', 'p'] | ['h', 't', 't', 'p', 's'] | ['w', 's'] | ['w', 's', 's']
  | ['f', 't', 'p'] => .network
  | _ => .other

def isSingleDot (segment : Text) : Bool :=
  match segment.map Char.toLower with
  | ['.'] | ['%', '2', 'e'] => true
  | _ => false

def isDoubleDot (segment : Text) : Bool :=
  match segment.map Char.toLower with
  | ['.', '.'] | ['.', '%', '2', 'e'] | ['%', '2', 'e', '.']
  | ['%', '2', 'e', '%', '2', 'e'] => true
  | _ => false

def isDriveLetter : Text → Bool
  | [letter, mark] => letter.isAlpha && (mark == ':' || mark == '|')
  | _ => false

/-- The segments passed so far, and whether a drive letter opened the path. -/
structure Walk where
  passed : List Text
  drive : Bool
  deriving DecidableEq, Repr

def parent (passed : List Text) : List Text :=
  if passed.getLast?.any isDriveLetter then passed else passed.dropLast

/-- One step of the walk. A drive letter at the start of a file's path is written with a colon. -/
def Walk.step (kind : SchemeKind) (walk : Walk) (segment : Text) : Walk :=
  if isDoubleDot segment then { walk with passed := parent walk.passed }
  else if isSingleDot segment then walk
  else if kind = .file && walk.passed.isEmpty && isDriveLetter segment then
    ⟨[segment.take 1 ++ [':']], true⟩
  else { walk with passed := walk.passed ++ [segment] }

/-- The walk over all segments. A path that ends in a dot segment ends in an empty segment. -/
def walkSegments (kind : SchemeKind) (segments : List Text) : Walk :=
  let walk := segments.foldl (Walk.step kind) ⟨[], false⟩
  if segments.getLast?.any fun last => isDoubleDot last || isSingleDot last then
    { walk with passed := walk.passed ++ [[]] }
  else
    walk

def walkPath (kind : SchemeKind) (path : Text) : Walk :=
  match path with
  | '/' :: rest => walkSegments kind (Text.splitOn '/' rest)
  | _ => walkSegments kind (Text.splitOn '/' path)

/-- The path of a file does not start with empty segments. -/
def fileSegments (passed : List Text) : List Text :=
  match passed.dropWhile List.isEmpty with
  | [] => [[]]
  | segments => segments

/-- The segments of a file's URL, given what follows its scheme. A host other than the machine
itself is allowed only before a drive letter. -/
def fileUrl? : Text → Option (List Text)
  | '/' :: '/' :: rest =>
      let host := rest.takeWhile (· ≠ '/')
      if isDriveLetter host then
        some (fileSegments (walkPath .file rest).passed)
      else
        let walk := walkPath .file (rest.dropWhile (· ≠ '/'))
        if host.isEmpty || isLocalName host || (walk.drive && (hostName? host).isSome) then
          some (fileSegments walk.passed)
        else
          none
  | rest => some (fileSegments (walkPath .file rest).passed)

/-- The text before the last at sign, if there is one, and the text after it. -/
def cutUser (authority : Text) : Option Text × Text :=
  match Text.cut '@' authority.reverse with
  | (_, none) => (none, authority)
  | (host, some user) => (some user.reverse, host.reverse)

/-- The segments of a network URL on the machine itself. Any number of slashes may stand before
the host. -/
def networkUrl? (rest : Text) : Option (List Text) :=
  let address := rest.dropWhile (· = '/')
  let (_, hostPart) := cutUser (address.takeWhile (· ≠ '/'))
  let path := address.dropWhile (· ≠ '/')
  if isLocalName (hostPart.takeWhile (· ≠ ':')) && isSmallPort (hostPart.dropWhile (· ≠ ':')) then
    some (walkPath .network path).passed
  else
    none

/-- The segments of any other URL on the machine itself, whose host is empty or written exactly. -/
def otherUrl? : Text → Option (List Text)
  | '/' :: '/' :: rest =>
      let (user, hostPart) := cutUser (rest.takeWhile (· ≠ '/'))
      let host := hostPart.takeWhile (· ≠ ':')
      let port := hostPart.dropWhile (· ≠ ':')
      let path := rest.dropWhile (· ≠ '/')
      let hostFits :=
        if host.isEmpty then port.isEmpty && (user = none || user = some [':'])
        else host = ['l', 'o', 'c', 'a', 'l', 'h', 'o', 's', 't'] && isSmallPort port
      if hostFits && !path.isEmpty then
        some (walkPath .other path).passed
      else
        none
  | '/' :: rest => some (walkPath .other ('/' :: rest)).passed
  | _ => none

def localSegments? (text : Text) : Option (List Text) :=
  let parts := Parts.ofText text
  match parts.scheme with
  | none => none
  | some scheme =>
      let hierarchy := (Text.cut '?' (Text.cut '#' text).1).1
      let rest := (cutScheme hierarchy).2
      match SchemeKind.ofScheme scheme with
      | .file => fileUrl? rest
      | .network => networkUrl? rest
      | .other => otherUrl? rest

/-- A path that ends in a drive letter is given a slash. -/
def closeDrive (path : Text) : Text :=
  match path.reverse with
  | mark :: letter :: _ :: _ =>
      if letter.isAlpha && (mark == ':' || mark == '|') then path ++ ['/'] else path
  | _ => path

def joinSegments? (segments : List Text) : Option Text :=
  (Text.ofUtf8? (segments.flatMap fun segment => 0x2F :: decodedBytes segment)).map closeDrive

def path (uri : Uri) : Text :=
  match (localSegments? uri.text).bind joinSegments? with
  | some path => path
  | none => (Text.after? ['f', 'i', 'l', 'e', ':', '/', '/'] uri.text).getD uri.text

end CallHierarchy.Uri
