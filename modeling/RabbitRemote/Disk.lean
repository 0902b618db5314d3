import RabbitRemote.Path

namespace RabbitRemote

-- Directories and text files by their full names. The working directory, given by the names on the
-- way from the top, is there without being listed, and so is every directory on its way.
structure Disk where
  working : List String
  directories : List String
  files : Ledger String String
deriving DecidableEq, Repr

namespace Disk

def nameLimit : Nat := 255
def pathLimit : Nat := 4095

def isTooLong (name : String) : Bool := nameLimit < name.utf8ByteSize

def isPathTooLong (text : String) : Bool := pathLimit < text.utf8ByteSize

def holdsNul (path : Path) : Bool := path.parts.any fun part => part.contains (Char.ofNat 0)

def fullName (location : List String) : String := "/" ++ "/".intercalate location

def holdsDirectory (disk : Disk) (location : List String) : Bool :=
  location.isPrefixOf disk.working || fullName location ∈ disk.directories

def holdsFile (disk : Disk) (location : List String) : Bool :=
  (Ledger.get? disk.files (fullName location)).isSome

def start (disk : Disk) (path : Path) : List String :=
  if path.slashes = 0 then disk.working else []

-- Goes from a directory into a part of a path; two full stops lead back.
def enter (location : List String) (part : String) : List String :=
  if part = ".." then location.dropLast else location ++ [part]

def locationOf (disk : Disk) (path : Path) : List String := path.parts.foldl enter (disk.start path)

-- What stands behind a part that is no directory is not looked at.
def meetsLongName (disk : Disk) (location : List String) : List String → Bool
  | [] => false
  | part :: rest =>
    isTooLong part ||
      (disk.holdsDirectory (enter location part) && disk.meetsLongName (enter location part) rest)

def canLookUp (disk : Disk) (path : Path) : Bool :=
  holdsNul path ||
    !(isPathTooLong path.text || disk.meetsLongName (disk.start path) path.parts)

-- From the end of a path one climbs to a directory that is there, and this many steps at most.
def climbLimit : Nat := 988

-- What hinders is reported under the whole path, unless directories have been made on the way:
-- then it is met while the next one is made, and reported under the path up to there.
def hindrance (path : Path) (made : Bool) (here : Path) (rest : List String)
    (isFile : Bool) : Failure :=
  let reported := if made then here else path
  if !isFile then .nameTooLong reported.text
  else if made || rest.isEmpty then .fileInTheWay reported.text
  else .notADirectory reported.text

-- Makes the directories on the way that are not there. Those made before a hindrance stay.
def makeOnTheWay (path : Path) (made : Bool) (here : Path) (location : List String) (disk : Disk) :
    List String → Option Failure × Disk
  | [] => (none, disk)
  | part :: rest =>
    let next := here.join [part]
    let there := enter location part
    if isTooLong part then (some (hindrance path made next rest false), disk)
    else if disk.holdsDirectory there then makeOnTheWay path made next there disk rest
    else if disk.holdsFile there then (some (hindrance path made next rest true), disk)
    else if !made && climbLimit ≤ rest.length then (some .tooManyMissing, disk)
    else
      let grown := { disk with directories := fullName there :: disk.directories }
      makeOnTheWay path true next there grown rest

def makeDirectories (disk : Disk) (path : Path) : Option Failure × Disk :=
  if holdsNul path then (some .nulInPath, disk)
  else if isPathTooLong path.text then (some (.nameTooLong path.text), disk)
  else makeOnTheWay path false { path with parts := [] } (disk.start path) disk path.parts

def openedName (disk : Disk) (path : Path) : String :=
  (if path.slashes = 2 then "/" else "") ++ fullName (disk.locationOf path)

def touch (disk : Disk) (path : Path) : Except Failure Disk :=
  let location := disk.locationOf path
  let name := disk.openedName path
  if holdsNul path then .error .nulInPath
  else if isPathTooLong name || (location.getLast?.map isTooLong).getD false then
    .error (.nameTooLong name)
  else if disk.holdsDirectory location then .error (.isADirectory name)
  else if disk.holdsFile location then .ok disk
  else .ok { disk with files := Ledger.put disk.files (fullName location) "" }

def append (disk : Disk) (name : String) (text : String) : Disk :=
  let before := (Ledger.get? disk.files name).getD ""
  { disk with files := Ledger.put disk.files name (before ++ text) }

def listing (disk : Disk) : List (String × String) :=
  let above := (fullName (disk.working ++ [""])).toList
  let inside := disk.files.filterMap fun (name, text) =>
    if above.isPrefixOf name.toList then
      some (String.ofList (name.toList.drop above.length), text)
    else none
  inside.mergeSort fun a b => a.1 ≤ b.1

end Disk
end RabbitRemote
