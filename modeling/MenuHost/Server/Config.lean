import MenuHost.Server.Address
import MenuHost.Sessions.Store
import MenuHost.Text.Quoted
import MenuHost.Text.Utf8

/-!
# The server's settings

Settings are read from the environment. A variable that is no text counts as
unset. The text of settings that goes to the log shows everything but the record
of the development user's password.
-/

namespace MenuHost.Server

open MenuHost.Sessions

/-- Environment variables with their bytes. -/
abbrev Environment := String → Option (List UInt8)

/-- The text of a variable, if it is set to one. -/
def Environment.text? (env : Environment) (name : String) : Option String :=
  (env name).bind Text.Utf8.decode?

/-- What the server is run for. -/
inductive Env where
  | dev
  | prod
deriving Repr, DecidableEq

inductive ConfigError where
  | invalidAddr (text : String)
  | invalidEnv (text : String)
  | passwordHash (error : Password.HashError)
deriving Repr, DecidableEq

def ConfigError.message : ConfigError → String
  | .invalidAddr text => text ++ " is not a valid socket address"
  | .invalidEnv text => "APP_ENV must be DEV or PROD, got " ++ text
  | .passwordHash e => "DEV_PASSWORD could not be hashed: " ++ e.message

structure Config where
  address : SocketAddress
  siteRoot : String
  env : Env
  devUser : Option User
deriving Repr, DecidableEq

def defaultAddress : String := "127.0.0.1:3000"

def defaultSiteRoot : String := "target/site"

/-- What the server is run for; development unless told otherwise. -/
def Env.ofText? : Option String → Except ConfigError Env
  | none => .ok .dev
  | some "DEV" => .ok .dev
  | some "PROD" => .ok .prod
  | some other => .error (.invalidEnv other)

/-- The development user: there is one if both identity and password are set. -/
def developer? (identity password : Option String) (salt : Password.Salt) :
    Except ConfigError (Option User) :=
  match identity, password with
  | some identity, some password =>
    match User.create identity password salt with
    | .ok user => .ok (some user)
    | .error e => .error (.passwordHash e)
  | _, _ => .ok none

namespace Config

/-- Reads the settings; the address is looked at first, then the kind of run,
then the user. -/
def ofEnvironment (env : Environment) (salt : Password.Salt) :
    Except ConfigError Config := do
  let addressText := (env.text? "SITE_ADDR").getD defaultAddress
  let address ← match SocketAddress.parse? addressText with
    | some address => .ok address
    | none => .error (.invalidAddr addressText)
  let kind ← Env.ofText? (env.text? "APP_ENV")
  let devUser ← developer? (env.text? "DEV_IDENTITY") (env.text? "DEV_PASSWORD") salt
  let siteRoot := (env.text? "SITE_ROOT").getD defaultSiteRoot
  .ok { address, siteRoot, env := kind, devUser }

end Config

/-! ## The text for the log -/

def Env.text : Env → String
  | .dev => "Dev"
  | .prod => "Prod"

/-- An opening brace with its blanks. -/
def openBrace : String := " \x7b "

/-- A closing brace with its blank. -/
def closeBrace : String := " \x7d"

/-- A user without the record of the password. -/
def userText (u : User) : String :=
  "MemoryUser" ++ openBrace ++ "identity: " ++ Text.quoted u.identity ++
    ", password_hash: SecretBox<str>([REDACTED])" ++ closeBrace

/-- The settings without the record of the password. -/
def Config.text (c : Config) : String :=
  "ServerConfig" ++ openBrace ++ "site_addr: " ++ c.address.text ++
    ", site_root: " ++ Text.quoted c.siteRoot ++
    ", env: " ++ c.env.text ++
    ", dev_user: " ++
    (match c.devUser with
      | some user => "Some(" ++ userText user ++ ")"
      | none => "None") ++
    closeBrace

end MenuHost.Server
