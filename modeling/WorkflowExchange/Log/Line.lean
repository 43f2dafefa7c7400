import WorkflowExchange.Value.Basic

/-!
# Log lines and their setup

A log line names its level, which may be shown in colour.  A level is a number;
six of them have names of their own.  `Setup.of` decides how lines are written,
from the name of the least level and from whether they go to a terminal.
-/

namespace WorkflowExchange.Log

def namedLevels : List (Int × String) :=
  [(0, "NOTSET"), (10, "DEBUG"), (20, "INFO"), (30, "WARNING"), (40, "ERROR"),
    (50, "CRITICAL")]

def levelName (level : Int) : String :=
  (namedLevels.lookup level).getD ("Level " ++ toString level)

/-- What ends a colour. -/
def plainColour : String := "\x1b[0m"

def colourOf (levelName : String) : String :=
  match levelName with
  | "DEBUG" => "\x1b[36m"
  | "INFO" => "\x1b[32m"
  | "WARNING" => "\x1b[33m"
  | "ERROR" => "\x1b[31m"
  | "CRITICAL" => "\x1b[35m"
  | _ => plainColour

def shownLevel (coloured : Bool) (level : Int) : String :=
  let name := levelName level
  if coloured then colourOf name ++ name ++ plainColour else name

/-- A line with the level, the name of the logger and the message. -/
def lineOf (coloured : Bool) (level : Int) (logger message : String) : String :=
  shownLevel coloured level ++ " in " ++ logger ++ ": " ++ message

def lineFormat : String :=
  "[%(asctime)s] %(levelname)s in %(name)s: %(message)s"

/-- The names under which levels can be chosen, with the levels. -/
def choosableLevels : List (String × Int) :=
  [("NOTSET", 0), ("DEBUG", 10), ("INFO", 20), ("WARN", 30), ("WARNING", 30),
    ("ERROR", 40), ("FATAL", 50), ("CRITICAL", 50)]

/-- The capital letters for a character, where they are letters of ASCII. -/
def capitals (character : Char) : List Char :=
  match character with
  | 'ı' => ['I']
  | 'ſ' => ['S']
  | 'ﬅ' => ['S', 'T']
  | 'ﬆ' => ['S', 'T']
  | _ => [character.toUpper]

/-- How the lines of the exchange are written. -/
structure Setup where
  level : Int
  coloured : Bool
  format : String
  /-- The least level of libraries that log too much. -/
  quietLevel : Int

/-- The setup for the name of a level.  A name that is not known stands for the
usual level; the name of a format is a fault. -/
def Setup.of (level : String) (terminal : Bool) : Except Fault Setup :=
  let name := String.ofList (level.toList.flatMap capitals)
  if name = "BASIC_FORMAT" then .error .badValue
  else if name = "_STYLES" then .error .wrongType
  else
    .ok
      { level := (choosableLevels.lookup name).getD 20
        coloured := terminal
        format := lineFormat
        quietLevel := 30 }

end WorkflowExchange.Log
