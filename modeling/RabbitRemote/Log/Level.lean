import RabbitRemote.Failure
import RabbitRemote.Log.Record

namespace RabbitRemote.Log

def levelWord (level : Int) : String :=
  if level = debug then "DEBUG"
  else if level = info then "INFO"
  else if level = warning then "WARNING"
  else if level = error then "ERROR"
  else if level = critical then "CRITICAL"
  else "Level " ++ Number.decimalText level

-- Capitals as far as words for levels go: besides the small letters of ASCII, the dotless i, the
-- long s and two ligatures have capitals in ASCII that such a word may need.
def capital (c : Char) : List Char :=
  if c.toNat = 0x131 then ['I']
  else if c.toNat = 0x17F then ['S']
  else if c.toNat = 0xFB05 || c.toNat = 0xFB06 then ['S', 'T']
  else [c.toUpper]

def capitals (text : String) : String := String.ofList (text.toList.flatMap capital)

def levels : Ledger String Int :=
  [("DEBUG", debug), ("INFO", info), ("WARN", warning), ("WARNING", warning), ("ERROR", error),
    ("FATAL", critical), ("CRITICAL", critical), ("NOTSET", 0)]

-- Two words stand for layouts of a line. They are known, but no levels.
def defaultLayout : String := "%(levelname)s:%(name)s:%(message)s"

def layouts : String :=
  "\x7b\x27%\x27: (<class \x27logging.PercentStyle\x27>, " ++
  "\x27%(levelname)s:%(name)s:%(message)s\x27), " ++
  "\x27\x7b\x27: (<class \x27logging.StrFormatStyle\x27>, " ++
  "\x27\x7blevelname\x7d:\x7bname\x7d:\x7bmessage\x7d\x27), " ++
  "\x27$\x27: (<class \x27logging.StringTemplateStyle\x27>, " ++
  "\x27$\x7blevelname\x7d:$\x7bname\x7d:$\x7bmessage\x7d\x27)\x7d"

-- The level that a word in letters of either case stands for. An unknown word means `INFO`.
def levelOf (word : String) : Except Failure Int :=
  let word := capitals word
  if word = "BASIC_FORMAT" then .error (.unknownLevel defaultLayout)
  else if word = "_STYLES" then .error (.notALevel layouts)
  else .ok ((Ledger.get? levels word).getD info)

end RabbitRemote.Log
