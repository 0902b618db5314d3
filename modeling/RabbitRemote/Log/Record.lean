namespace RabbitRemote.Log

-- Levels are whole numbers: the greater, the graver. Any number may be logged with.
def debug : Int := 10
def info : Int := 20
def warning : Int := 30
def error : Int := 40
def critical : Int := 50

structure Record where
  logger : String
  level : Int
  message : String
deriving DecidableEq, Repr

end RabbitRemote.Log
