import ContentPlatform.Text.Percent

/-!
# Database settings

`Settings._database_url` of `app/config.py`.
-/

set_option autoImplicit false

namespace ContentPlatform

open Text

/-- The settings that the URL is built from, with their defaults. -/
structure Settings where
  mysqlHost : String := "localhost"
  mysqlPort : ℤ := 3306
  mysqlDb : String := "content_platform"
  mysqlUser : String := "app"
  mysqlPassword : String := ""

namespace Settings

variable (settings : Settings)

def auth : String :=
  if settings.mysqlPassword ≠ "" then
    quotePlus settings.mysqlUser ++ ":" ++ quotePlus settings.mysqlPassword
  else quotePlus settings.mysqlUser

def target : String :=
  settings.mysqlHost ++ ":" ++ toString settings.mysqlPort ++ "/" ++ settings.mysqlDb

def databaseUrl (driver : String) : String :=
  "mysql+" ++ driver ++ "://" ++ settings.auth ++ "@" ++ settings.target

def asyncDatabaseUrl : String := settings.databaseUrl "aiomysql"

def syncDatabaseUrl : String := settings.databaseUrl "pymysql"

end Settings

end ContentPlatform
