import HookKeeper.Api.Error
import HookKeeper.Text.Digits
import HookKeeper.Text.Utf8

/-!
# Paths of objects and addresses of requests

The path of an object is the path of its collection, a slash, and its name.  A
request goes to a path and may carry named parameters.  Names of objects enter
the address as they are: what follows a question mark is read as parameters, and
everything after a number sign is dropped, the parameters of the request among
it.
-/

/-! ## Paths of objects -/

namespace HookKeeper.Path

/-- The part of a path after its last slash. -/
def lastSegment (path : String) : String :=
  String.ofList (path.toList.reverse.takeWhile (· != '/')).reverse

/-- The part of a path before its last slash. -/
def parent (path : String) : String :=
  String.ofList ((path.toList.reverse.dropWhile (· != '/')).drop 1).reverse

def collections : List String :=
  ["nodes", "csisnapshotcontrollers", "deployments",
    "validatingwebhookconfigurations"]

def isCollection (path : String) : Bool :=
  collections.contains (lastSegment path)

/-- Whether a path belongs to events. -/
def isEvent (path : String) : Bool :=
  "/apis/events.k8s.io/".toList.isPrefixOf path.toList

end HookKeeper.Path

/-! ## Addresses -/

namespace HookKeeper

open HookKeeper.Text

/-- Where a request goes. -/
structure Address where
  path : String
  /-- The parameters, in order, as the server reads them. -/
  query : List (String × String) := []
  deriving DecidableEq, Repr

namespace Address

/-- The longest address, in bytes. -/
def longest : Nat := 65534

/-- Whether the path of an address may contain a character. -/
def isPathChar (character : Char) : Bool :=
  let code := character.toNat
  code == 0x21 || code == 0x22 || (0x24 ≤ code && code ≤ 0x3B) || code == 0x3D
    || (0x40 ≤ code && code ≤ 0x5F) || 0x61 ≤ code

/-- Whether the parameters of an address may contain a character. -/
def isQueryChar (character : Char) : Bool :=
  let code := character.toNat
  code == 0x21 || (0x24 ≤ code && code ≤ 0x3B) || code == 0x3D || 0x3F ≤ code

/-- The bytes that a name or a value of a parameter stands for. -/
def formBytes : List Char → List UInt8
  | [] => []
  | '+' :: rest => 0x20 :: formBytes rest
  | '%' :: high :: low :: rest =>
      match Hex.digitValue? high, Hex.digitValue? low with
      | some upper, some lower =>
          UInt8.ofNat (upper * 16 + lower) :: formBytes rest
      | _, _ => 0x25 :: formBytes (high :: low :: rest)
  | character :: rest =>
      Utf8.encode (String.singleton character) ++ formBytes rest

/-- The text that a name or a value of a parameter stands for. -/
def formText (characters : List Char) : String :=
  Utf8.decodeLossy (formBytes characters)

/--
The parameter of one part: a name, and the value after the first equals sign.
-/
def parameter (part : List Char) : String × String :=
  (formText (part.takeWhile (· != '=')),
    formText ((part.dropWhile (· != '=')).drop 1))

/-- The parameters that a text stands for; empty parts are left out. -/
def parameters (query : List Char) : List (String × String) :=
  ((query.splitOn '&').filter fun part => !part.isEmpty).map parameter

/--
The number of bytes that a text takes as a name or a value of a parameter.
-/
def formLength (text : String) : Nat :=
  ((Utf8.encode text).map fun byte =>
    let character := Char.ofNat byte.toNat
    if character.isAlphanum || "*-._ ".toList.contains character then 1
    else 3).foldl (· + ·) 0

/-- The number of bytes that parameters take, each with its separators. -/
def addedLength (added : List (String × String)) : Nat :=
  (added.map fun entry => formLength entry.1 + formLength entry.2 + 2).foldl
    (· + ·) 0

/--
The address of a target with added parameters.  Where no parameters are added
the target is the whole address; otherwise a question mark parts them from it.
-/
def ofTarget
    (target : String)
    (added : Option (List (String × String))) : Except RequestFault Address :=
  let characters := target.toList
  let shown := characters.takeWhile (· != '#')
  let path := shown.takeWhile (· != '?')
  let tail := shown.dropWhile (· != '?')
  let dropped := shown.length < characters.length
  let length :=
    target.utf8ByteSize +
      ((added.map fun entries => addedLength entries + 1).getD 0)
  if longest < length then .error .tooLong
  else if !path.all isPathChar || !(tail.drop 1).all isQueryChar then
    .error .invalidCharacter
  else
    let mark := if added.isSome && !tail.isEmpty && !dropped then ['?'] else []
    .ok {
      path := String.ofList path
      query :=
        parameters (tail.drop 1 ++ mark) ++
          if dropped then [] else added.getD [] }

end Address

end HookKeeper
