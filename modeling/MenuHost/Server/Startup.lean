import MenuHost.Log
import MenuHost.Server.Config

/-!
# What is logged at the start

A server that starts logs its settings and where it listens, with a warning if
nobody can log in. Only errors are shown in production, so none of this is.

In the log the settings take several lines: every part stands on lines of its
own, indented under the name of what it is a part of and closed by a comma.
-/

namespace MenuHost.Server

open MenuHost.Sessions

/-! ## Settings over several lines -/

/-- The lines of a part, indented and with a comma behind the last. -/
def partLines (lines : List String) : List String :=
  (lines.dropLast ++ [lines.getLastD "" ++ ","]).map ("    " ++ ·)

/-- Parts between an opening and a closing line. -/
def groupLines (opening : String) (parts : List (List String)) (closing : String) : List String :=
  opening :: parts.flatMap partLines ++ [closing]

/-- A part with a name, which stands before its first line. -/
def fieldLines (name : String) : List String → List String
  | [] => []
  | first :: rest => (name ++ ": " ++ first) :: rest

/-- The lines of a user, without the record of the password. -/
def userLines (u : User) : List String :=
  groupLines "MemoryUser \x7b"
    [fieldLines "identity" [Text.quoted u.identity],
      fieldLines "password_hash" ["SecretBox<str>([REDACTED])"]]
    "\x7d"

/-- The lines of the development user, if there is one. -/
def devUserLines : Option User → List String
  | some user => groupLines "Some(" [userLines user] ")"
  | none => ["None"]

/-- The lines of the settings, without the record of the password. -/
def Config.lines (c : Config) : List String :=
  groupLines "ServerConfig \x7b"
    [fieldLines "site_addr" [c.address.text],
      fieldLines "site_root" [Text.quoted c.siteRoot],
      fieldLines "env" [c.env.text],
      fieldLines "dev_user" (devUserLines c.devUser)]
    "\x7d"

/-! ## The log -/

/-- Whether a line is shown: in production errors are, and nothing else. -/
def Env.shows : Env → LogLine → Bool
  | .dev, _ => true
  | .prod, line => line.level = .error

/-- What is said of the settings before the server listens. -/
def Config.startLines (c : Config) : List LogLine :=
  (if c.devUser.isNone then
      [LogLine.warn "DEV_IDENTITY/DEV_PASSWORD not set, nobody will be able to log in"]
    else []) ++
    [LogLine.debug ("Server " ++ "\n".intercalate c.lines),
      LogLine.info ("listening on http://" ++ c.address.text)]

def Config.startLog (c : Config) : List LogLine :=
  c.startLines.filter (c.env.shows ·)

end MenuHost.Server
