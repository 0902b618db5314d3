import RabbitRemote.Arguments.Complaint
import RabbitRemote.Arguments.Token
import RabbitRemote.Number.IntegerLiteral

namespace RabbitRemote.Arguments

-- What has been asked for one ear. A divider given as a value falls away, so that the ear was named
-- without a place.
inductive Wish where
  | none
  | noPlace
  | place (position : Int)
deriving DecidableEq, Repr

inductive Task where
  | say (text : String)
  | bark
  | ears (left right : Wish)
  | earPositions
  | voices
  | showConfig
deriving DecidableEq, Repr

structure Found where
  config? : Option String
  left : Wish
  right : Wish
  text? : Option String
  extras : List String
deriving DecidableEq, Repr

namespace Found

def nothing : Found := ⟨none, .none, .none, none, []⟩

def leave (found : Found) (arg : String) : Found := { found with extras := found.extras ++ [arg] }

end Found

def tokens (stage : Stage) : List String → Except Ending (List Token)
  | [] => .ok []
  | arg :: rest =>
    if arg = Token.dividerText then .ok (.divider :: rest.map .operand)
    else match Token.of stage arg with
      | .error spellings => .error (.misuse stage (.ambiguous arg spellings))
      | .ok token => (tokens stage rest).map (token :: ·)

def beginsWithOperand : List Token → Bool
  | .operand _ :: _ => true
  | _ => false

-- A switch for help takes no value: letters attached to it are further switches, which are looked at
-- before help is given. A letter that names none is refused with all that follows it.
def helpComplaint? (stage : Stage) (rest : List Token) : List Char → Option Complaint
  | [] => some (.valueIgnored .help "")
  | c :: more =>
    match stage.switch? (String.ofList ['-', c]) with
    | none => some (.valueIgnored .help (String.ofList (c :: more)))
    | some next =>
      if next.takesValue then
        if more.isEmpty && !beginsWithOperand rest then some (.valueMissing next) else none
      else if more.isEmpty then none
      else helpComplaint? stage rest more

def helpEnding (stage : Stage) (spelling : String) (attached? : Option String)
    (rest : List Token) : Ending :=
  match attached? with
  | none => .help stage
  | some attached =>
    if spelling.toList.take 2 = ['-', '-'] then .misuse stage (.valueIgnored .help attached)
    else match helpComplaint? stage rest attached.toList with
      | none => .help stage
      | some complaint => .misuse stage complaint

def wishOf? (value : String) : Option Wish :=
  if value = Token.dividerText then some .noPlace
  else match Number.readInteger value.toList with
    | .ok position => some (.place position)
    | .error _ => none

-- Takes a value; a later one replaces it. Without a settings file the usual one is meant.
def take (stage : Stage) (switch : Switch) (value : String) (found : Found) : Except Ending Found :=
  match switch, wishOf? value with
  | .config, some .noPlace => .ok { found with config? := none }
  | .config, _ => .ok { found with config? := some value }
  | .left, some wish => .ok { found with left := wish }
  | .right, some wish => .ok { found with right := wish }
  | switch, _ => .error (.misuse stage (.notAnInteger switch value))

-- Takes a switch. One that takes a value and has none attached waits for the next operand.
def takeSwitch (stage : Stage) (spelling : String) (switch : Switch) (attached? : Option String)
    (rest : List Token) (found : Found) : Except Ending (Found × Option Switch) :=
  if switch.takesValue then
    match attached? with
    | some attached => (take stage switch attached found).map (·, none)
    | none => .ok (found, some switch)
  else .error (helpEnding stage spelling attached? rest)

-- Only speech has an operand. The divider next to it is used up with it.
def readVerbTokens (verb : Verb) (found : Found) (waiting? : Option Switch) :
    List Token → Except Ending Found
  | [] =>
    match waiting? with
    | none => .ok found
    | some switch => .error (.misuse (.verb verb) (.valueMissing switch))
  | token :: rest =>
    match waiting?, token with
    | some switch, .operand value =>
      match take (.verb verb) switch value found with
      | .error ending => .error ending
      | .ok taken => readVerbTokens verb taken none rest
    | some switch, _ => .error (.misuse (.verb verb) (.valueMissing switch))
    | none, .known _ spelling switch attached? =>
      match takeSwitch (.verb verb) spelling switch attached? rest found with
      | .error ending => .error ending
      | .ok (taken, waiting?) => readVerbTokens verb taken waiting? rest
    | none, .stranger raw => readVerbTokens verb (found.leave raw) none rest
    | none, .operand text =>
      if verb = .say && found.text?.isNone then
        let taken := { found with text? := some text }
        match rest with
        | .divider :: more => readVerbTokens verb taken none more
        | more => readVerbTokens verb taken none more
      else readVerbTokens verb (found.leave text) none rest
    | none, .divider =>
      if verb = .say && found.text?.isNone && beginsWithOperand rest then
        readVerbTokens verb found none rest
      else readVerbTokens verb (found.leave Token.dividerText) none rest

def taskOf (verb : Verb) (found : Found) : Except Ending Task :=
  match verb, found.text? with
  | .say, some text => .ok (.say text)
  | .say, none => .error (.misuse (.verb .say) (.operandMissing "text"))
  | .bark, _ => .ok .bark
  | .ears, _ => .ok (.ears found.left found.right)
  | .earPositions, _ => .ok .earPositions
  | .voices, _ => .ok .voices
  | .showConfig, _ => .ok .showConfig

def readVerb (verb : Verb) (args : List String) : Except Ending (Task × List String) := do
  let tokens ← tokens (.verb verb) args
  let found ← readVerbTokens verb Found.nothing none tokens
  let task ← taskOf verb found
  return (task, found.extras)

-- The settings file, if one is named, and what is to be done.
abbrev Choice := Option String × Task

def endWithVerb (found : Found) (name : String) (args : List String) : Except Ending Choice :=
  match Verb.ofName? name with
  | none => .error (.misuse .main (.unknownVerb name))
  | some verb =>
    match readVerb verb args with
    | .error ending => .error ending
    | .ok (task, extras) =>
      let unused := found.extras ++ extras
      if unused.isEmpty then .ok (found.config?, task)
      else .error (.misuse .main (.unrecognized unused))

-- A divider cannot stand for the verb.
def readMainTokens (found : Found) (waiting? : Option Switch) :
    List Token → Except Ending Choice
  | [] =>
    match waiting? with
    | none => .error (.misuse .main (.operandMissing "command"))
    | some switch => .error (.misuse .main (.valueMissing switch))
  | token :: rest =>
    match waiting?, token with
    | some switch, .operand value =>
      match take .main switch value found with
      | .error ending => .error ending
      | .ok taken => readMainTokens taken none rest
    | some switch, _ => .error (.misuse .main (.valueMissing switch))
    | none, .known _ spelling switch attached? =>
      match takeSwitch .main spelling switch attached? rest found with
      | .error ending => .error ending
      | .ok (taken, waiting?) => readMainTokens taken waiting? rest
    | none, .stranger raw => readMainTokens (found.leave raw) none rest
    | none, .operand name => endWithVerb found name (rest.map Token.raw)
    | none, .divider =>
      if rest.isEmpty then .error (.misuse .main (.operandMissing "command"))
      else .error (.misuse .main (.unknownVerb Token.dividerText))

def read (args : List String) : Except Ending Choice := do
  let tokens ← tokens .main args
  readMainTokens Found.nothing none tokens

end RabbitRemote.Arguments
