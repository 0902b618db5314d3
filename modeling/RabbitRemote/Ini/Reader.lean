import RabbitRemote.Ini.Document
import RabbitRemote.Ini.FileText
import RabbitRemote.Ini.Line
import RabbitRemote.Text.LowerCase

namespace RabbitRemote.Ini

abbrev DraftOptions := Ledger String (List (List Char))

structure Reader where
  shared : DraftOptions
  sections : Ledger String DraftOptions
  current? : Option String
  -- the option that deeper lines continue
  option? : Option String
  indent : Nat
  headers : List String
  assigned : List (String × String)
  unreadable : List (Nat × String)

namespace Reader

def draftOf (options : Options) : DraftOptions :=
  options.map fun (option, value) => (option, [value.toList])

-- Lines of a value are joined by line feeds, and blanks at the very end fall away.
def settle (options : DraftOptions) : Options :=
  options.map fun (option, lines) =>
    (option, String.ofList (Text.trimEnd (['\n'].intercalate lines)))

def start (document : Document) : Reader :=
  ⟨draftOf document.shared, document.sections.map fun (name, options) => (name, draftOf options),
    none, none, 0, [], [], []⟩

def finish (reader : Reader) : Document :=
  ⟨settle reader.shared, reader.sections.map fun (name, options) => (name, settle options)⟩

def optionsOf (reader : Reader) (name : String) : DraftOptions :=
  if name = Document.sharedName then reader.shared
  else (Ledger.get? reader.sections name).getD []

def putOptions (reader : Reader) (name : String) (options : DraftOptions) : Reader :=
  if name = Document.sharedName then { reader with shared := options }
  else { reader with sections := Ledger.put reader.sections name options }

def putLines (reader : Reader) (name option : String) (lines : List (List Char)) : Reader :=
  reader.putOptions name (Ledger.put (reader.optionsOf name) option lines)

def continueWith (reader : Reader) (name option : String) (line : List Char) : Reader :=
  let lines := (Ledger.get? (reader.optionsOf name) option).getD []
  reader.putLines name option (lines ++ [line])

-- A section may come once in a file, even if the document had it before; the shared options may
-- come several times.
def enter (source : String) (number : Nat) (name : String) (reader : Reader) :
    Except Failure Reader :=
  let entered := { reader with current? := some name, option? := none }
  if name = Document.sharedName then .ok entered
  else if name ∈ reader.headers then .error (.repeatedSection source number name)
  else .ok { entered.putOptions name (reader.optionsOf name) with headers := name :: reader.headers }

def noteUnreadable (reader : Reader) (number : Nat) (raw : List Char) : Reader :=
  { reader with unreadable := reader.unreadable ++ [(number, String.ofList raw)] }

-- Option names are compared in small letters. An empty one is unreadable, and nothing continues it.
def assign (source : String) (number : Nat) (raw : List Char) (name option : String)
    (value : List Char) (reader : Reader) : Except Failure Reader :=
  let option := Text.lowered option
  let noted := if option.isEmpty then reader.noteUnreadable number raw else reader
  if (name, option) ∈ reader.assigned then .error (.repeatedOption source number name option)
  else .ok { noted.putLines name option [value] with
    option? := if option.isEmpty then none else some option
    assigned := (name, option) :: reader.assigned }

def readEntry (source : String) (number : Nat) (raw text : List Char) (reader : Reader) :
    Except Failure Reader :=
  match Entry.of text, reader.current? with
  | .header name, _ => reader.enter source number name
  | _, none => .error (.noSectionHeader source number (String.ofList raw))
  | .option option value, some name => reader.assign source number raw name option value
  | .unreadable, some _ => .ok (reader.noteUnreadable number raw)

-- Reads one line. A blank line may belong to a value, a comment never does, and a line that is
-- indented deeper than its option continues it.
def readLine (source : String) (number : Nat) (raw : List Char) (reader : Reader) :
    Except Failure Reader :=
  match Line.of raw, reader.current?, reader.option? with
  | .comment, _, _ => .ok reader
  | .blank, some name, some option => .ok (reader.continueWith name option [])
  | .blank, _, _ => .ok reader
  | .content indent text, some name, some option =>
    if reader.indent < indent then .ok (reader.continueWith name option text)
    else readEntry source number raw text { reader with indent := indent }
  | .content indent text, _, _ => readEntry source number raw text { reader with indent := indent }

def readLines (source : String) (number : Nat) (reader : Reader) :
    List (List Char) → Except Failure Reader
  | [] => .ok reader
  | raw :: rest =>
    match reader.readLine source number raw with
    | .error failure => .error failure
    | .ok after => readLines source (number + 1) after rest

end Reader

-- Reads a file into a document. What makes reading stop is reported first, then octets that are
-- no text, then the unreadable lines, all together.
def Document.read (document : Document) (source : String) (octets : List UInt8) :
    Except Failure Document :=
  let text := FileText.ofOctets octets
  match Reader.readLines source 1 (Reader.start document) text.lines with
  | .error failure => .error failure
  | .ok reader =>
    match text.failure? with
    | some failure => .error failure
    | none =>
      if reader.unreadable.isEmpty then .ok reader.finish
      else .error (.unreadableLines source reader.unreadable)

end RabbitRemote.Ini
