import Switchboard.Notice
import Switchboard.Settings.Config

/-!
The pool of connections to the database, and what is logged before it is opened; a password in the
address of the database is not shown.
-/

namespace Switchboard

open Time

structure PoolConfig where
  url : String
  maxConnections : Nat
  minConnections : Nat
  connectTimeout : Span
  idleTimeout : Span
  maxLifetime : Span
  deriving DecidableEq, Inhabited

namespace PoolConfig

def ofDatabase (c : DatabaseConfig) : PoolConfig :=
  ⟨c.url, c.maxConnections, c.minConnections, .ofSeconds c.connectTimeoutSecs, .ofSeconds 600,
    .ofSeconds 1800⟩

/-- An address with stars for what stands between the last colon before the first at sign and that
sign. -/
def masked (url : String) : String :=
  let cs := url.toList
  let before := cs.takeWhile (· != '@')
  match cs.dropWhile (· != '@'), before.reverse.dropWhile (· != ':') with
  | [], _ | _, [] => url
  | rest, start => String.ofList start.reverse ++ "****" ++ String.ofList rest

def announcements (c : PoolConfig) : List Notice :=
  [⟨.info, "Creating database connection pool"⟩, ⟨.info, "Database URL: " ++ masked c.url⟩,
    ⟨.info, "Max connections: " ++ toString c.maxConnections⟩]

end PoolConfig

end Switchboard
