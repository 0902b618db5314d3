import RabbitRemote.Failure
import RabbitRemote.Ledger
import RabbitRemote.Text.Cut

namespace RabbitRemote

-- A file path: how many slashes it begins with, none, one or two, and its parts. Empty parts and
-- full stops are left out; `..` stays, for a link may stand before it.
structure Path where
  slashes : Nat
  parts : List String
deriving DecidableEq, Repr

structure Homes where
  own : String
  accounts : Ledger String String

-- One account stands on each line of an account list: seven fields between colons, the name first
-- and the home directory last but one.
def Homes.accountOf? (line : List Char) : Option (String × String) :=
  match (Text.cut ':' line).map String.ofList with
  | [name, _, _, _, _, home, _] => some (name, home)
  | _ => none

def Homes.accountsOf (text : String) : Ledger String String :=
  (Text.cut '\n' text.toList).filterMap Homes.accountOf?

namespace Path

def isPart (piece : List Char) : Bool := !piece.isEmpty && piece ≠ ['.']

def partsOf (text : List Char) : List String :=
  ((Text.cut '/' text).filter isPart).map String.ofList

-- More than two slashes in front count as one.
def ofText (text : String) : Path :=
  let leading := (text.toList.takeWhile (· = '/')).length
  ⟨if leading ≤ 2 then leading else 1, partsOf text.toList⟩

def text (path : Path) : String :=
  let whole := String.ofList (List.replicate path.slashes '/') ++ "/".intercalate path.parts
  if whole.isEmpty then "." else whole

def shown (path : Path) : String := "PosixPath(" ++ Text.quoted path.text ++ ")"

def parent (path : Path) : Path := { path with parts := path.parts.dropLast }

def join (directory : Path) (more : List String) : Path :=
  { directory with parts := directory.parts ++ more }

def homeOf (homes : Homes) (name : String) : Except Failure String :=
  if name.isEmpty then .ok homes.own
  else if name.contains (Char.ofNat 0) then .error .nulInPath
  else match Ledger.get? homes.accounts name with
    | some home => .ok home
    | none => .error .noHome

def expand (homes : Homes) (path : Path) : Except Failure Path :=
  match path.slashes, path.parts with
  | 0, first :: rest =>
    match first.toList with
    | '~' :: name =>
      (homeOf homes (String.ofList name)).map fun home => (ofText home).join rest
    | _ => .ok path
  | _, _ => .ok path

end Path
end RabbitRemote
