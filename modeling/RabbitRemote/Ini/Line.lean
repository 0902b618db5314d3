import RabbitRemote.Text.Blank

namespace RabbitRemote.Ini

-- A line by its looks. The indentation of a line that says something counts its blanks in front.
inductive Line where
  | blank
  | comment
  | content (indent : Nat) (text : List Char)
deriving DecidableEq, Repr

def isCommentMark (c : Char) : Bool := c = '\x23' || c = ';'

def Line.of (raw : List Char) : Line :=
  match Text.trim raw with
  | [] => .blank
  | c :: rest =>
    if isCommentMark c then .comment
    else .content (raw.takeWhile Text.isBlank).length (c :: rest)

inductive Entry where
  | header (name : String)
  | option (name : String) (value : List Char)
  | unreadable
deriving DecidableEq, Repr

def bracketed? (text : List Char) : Option (List Char) :=
  match text.reverse.dropWhile (· ≠ ']') with
  | _ :: c :: name => some (c :: name).reverse
  | _ => none

def isDelimiter (c : Char) : Bool := c = '=' || c = ':'

def Entry.of (text : List Char) : Entry :=
  let header? := match text with
    | '[' :: rest => bracketed? rest
    | _ => none
  match header? with
  | some name => .header (String.ofList name)
  | none =>
    match text.dropWhile fun c => !isDelimiter c with
    | [] => .unreadable
    | _ :: value =>
      .option (String.ofList (Text.trimEnd (text.takeWhile fun c => !isDelimiter c)))
        (Text.trim value)

end RabbitRemote.Ini
