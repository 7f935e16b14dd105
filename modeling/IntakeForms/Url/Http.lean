import IntakeForms.Text.Blank
import IntakeForms.Text.Percent
import IntakeForms.Url.Domain

/-!
Absolute `http` and `https` addresses, by the rules browsers read them with:
controls and blanks at the ends and line breaks anywhere are skipped, a backslash
counts as a slash, any number of slashes may follow the scheme, and the host must
not be empty.  The main definition is `isHttp`.
-/

namespace IntakeForms.Url

def isControlOrBlank (c : Char) : Bool := c.toNat ≤ 0x20

def isSkipped (c : Char) : Bool := c == '\t' || c == '\n' || c == '\r'

def isSlash (c : Char) : Bool := c == '/' || c == '\\'

def cleaned (s : String) : List Char :=
  (Text.trimBy isControlOrBlank s.toList).filter (!isSkipped ·)

def afterScheme? (cs : List Char) : Option (List Char) :=
  let scheme := String.ofList ((cs.takeWhile (· != ':')).map Domain.lowered)
  match cs.dropWhile (· != ':') with
  | ':' :: rest => if scheme = "http" ∨ scheme = "https" then some rest else none
  | _ => none

def endsAuthority (c : Char) : Bool := isSlash c || c == '?' || c == '#'

def authority (cs : List Char) : List Char :=
  (cs.dropWhile isSlash).takeWhile (!endsAuthority ·)

def hostAndPort (authority : List Char) : List Char :=
  (authority.reverse.takeWhile (· != '@')).reverse

def splitPort (bracket : Bool) : List Char → List Char × List Char
  | [] => ([], [])
  | c :: rest =>
    if c = ':' ∧ ¬ bracket then ([], c :: rest)
    else
      let (host, port) :=
        splitPort (if c = '[' then true else if c = ']' then false else bracket) rest
      (c :: host, port)

def isPort : List Char → Bool
  | [] => true
  | ':' :: ds => ds.all Numeral.isDigit && Numeral.natOfDigits ds ≤ 65535
  | _ => false

def decodedHost? (host : List Char) : Option (List Char) :=
  (Percent.decode? (String.ofList host)).map String.toList

def isHost (host : List Char) : Bool :=
  match host with
  | [] => false
  | '[' :: rest =>
    rest.getLast? == some ']' && Ipv6.isAddress rest.dropLast
  | _ => match decodedHost? host with
    | none => false
    | some decoded => Domain.isHost decoded

def isHttp (s : String) : Bool :=
  match afterScheme? (cleaned s) with
  | none => false
  | some rest =>
    let (host, port) := splitPort false (hostAndPort (authority rest))
    isHost host && isPort port

end IntakeForms.Url
