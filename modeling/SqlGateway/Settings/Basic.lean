import SqlGateway.Number.Binary64

/-!
The settings that a session takes its defaults from, and the values they have when none are given.
-/

namespace SqlGateway

inductive Field
  | host
  | user
  | password
  | database
  deriving DecidableEq, Repr

def Field.name : Field → String
  | .host => "host"
  | .user => "user"
  | .password => "password"
  | .database => "database"

structure Settings where
  host : Option String := none
  user : Option String := none
  password : Option String := none
  database : Option String := none
  port : Int := 3306
  driver : String := "mysql+pymysql"
  charset : String := "utf8mb4"
  /-- Seconds; five if not given. -/
  connectTimeout : Binary64 := .finite false (5 * Nat.pow 2 50) (-50)
  deriving DecidableEq, Repr

def Settings.field (settings : Settings) : Field → Option String
  | .host => settings.host
  | .user => settings.user
  | .password => settings.password
  | .database => settings.database

structure Config where
  connection : Settings := {}
  echoSql : Bool := false
  deriving DecidableEq, Repr

end SqlGateway
