import CqlClient.Error
import CqlClient.Text.Word

/-!
# Names

Names of database objects: identifiers joined by dots. A `NameValidator` decides which names may
stand in a statement; the standard one admits ASCII identifiers.
-/

namespace CqlClient

def splitDots : List Char → List (List Char)
  | [] => [[]]
  | c :: rest =>
    if c = '.' then [] :: splitDots rest
    else
      match splitDots rest with
      | [] => [[c]]
      | part :: parts => (c :: part) :: parts

namespace Name

def segments (name : String) : List String := (splitDots name.toList).map String.ofList

def member (name : String) : String := (segments name).getLastD name

def isInitial (c : Char) : Bool := c.isAlpha || c = '_'

def isSubsequent (c : Char) : Bool := c.isAlphanum || c = '_'

def isIdentifier : List Char → Bool
  | [] => false
  | c :: rest => isInitial c && rest.all isSubsequent

/-- Identifiers joined by dots, read in one pass; `fresh` tells that an identifier has to begin. -/
def isDotted : (fresh : Bool) → List Char → Bool
  | fresh, [] => !fresh
  | true, c :: rest => isInitial c && isDotted false rest
  | false, c :: rest =>
    if c = '.' then isDotted true rest else isSubsequent c && isDotted false rest

/-- Two or more parts, none of them empty, of word characters only. -/
def isQualified (name : String) : Bool :=
  let parts := splitDots name.toList
  1 < parts.length && parts.all fun part => !part.isEmpty && part.all Text.isWord

def toJson (name : String) : Json := .obj [("$name", .str name)]

mutual

/-- A name is given as a text, or as an object with a name under `$name`. -/
def ofValue : Json → Except CqlError String
  | .str name => .ok name
  | .obj members => ofMember members
  | _ => .error (.configuration .notAName)

def ofMember : List (String × Json) → Except CqlError String
  | [] => .error (.configuration .notAName)
  | (key, value) :: rest => if key = "$name" then ofValue value else ofMember rest

end

end Name

/-- Decides whether a name may stand in a statement; a qualified one may have dots. -/
structure NameValidator where
  accepts : (name : String) → (qualified : Bool) → Bool

/-- Admits identifiers, and identifiers joined by dots where a name may be qualified. -/
def NameValidator.standard : NameValidator where
  accepts name qualified :=
    if qualified then Name.isDotted true name.toList else Name.isIdentifier name.toList

end CqlClient
