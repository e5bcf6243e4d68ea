import Claudie.Lib.GoMap

/-!
`checkLabels` of `validate_node_pool.go`, with the checks of kubernetes that it calls.
-/

namespace Claudie

namespace Manifest

def isQnameExtChar (c : Char) : Bool := c.isAlphanum || c = '-' || c = '_' || c = '.'

-- `([A-Za-z0-9][-A-Za-z0-9_.]*)?[A-Za-z0-9]`
def matchesQualifiedName (s : List Char) : Bool :=
  s.all isQnameExtChar && s.head?.any (·.isAlphanum) && s.getLast?.any (·.isAlphanum)

def isDNSChar (c : Char) : Bool := c.isLower || c.isDigit

-- `[a-z0-9]([-a-z0-9]*[a-z0-9])?`
def matchesDNS1123Label (s : List Char) : Bool :=
  s.all (fun c => isDNSChar c || c = '-') && s.head?.any isDNSChar && s.getLast?.any isDNSChar

def isDNS1123Subdomain (s : List Char) : Bool :=
  s.length ≤ 253 && (s.splitOn '.').all matchesDNS1123Label

def isQualifiedName (value : String) : Bool :=
  let isName := fun (name : List Char) => name.length ≤ 63 && matchesQualifiedName name
  match value.toList.splitOn '/' with
  | [name] => isName name
  | [dns, name] => isDNS1123Subdomain dns && isName name
  | _ => false

def isValidLabelValue (value : String) : Bool :=
  value.toList.length ≤ 63 && (value.toList.isEmpty || matchesQualifiedName value.toList)

def checkLabels (labels : GoMap String) : Bool :=
  labels.toList.all (fun (k, v) => isQualifiedName k && isValidLabelValue v)

end Manifest

end Claudie
