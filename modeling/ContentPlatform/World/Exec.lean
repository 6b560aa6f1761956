import ContentPlatform.Api.Requests
import ContentPlatform.World.Database
import ContentPlatform.World.Redis

/-!
# What an interaction does

`Choice` is what the environment decides: faults, timestamps, ids, and the
answers of clocks and breakers.
-/

set_option autoImplicit false

namespace ContentPlatform

open Program Text

/-- What a request keeps besides its session. -/
structure RequestState where
  queue : List Invalidation
  degraded : Bool
  /-- Observation: the generation counter that names its pages, with the value it read. -/
  generation : Option (String × ℤ)
  /-- Observation: the callbacks it took off its queue last. -/
  drained : List Invalidation

def RequestState.new : RequestState := ⟨[], false, none, []⟩

structure World where
  db : Database
  store : Redis
  requests : Pid → RequestState
  dummyHash : Option String

namespace World

variable (w : World) (i : Pid)

def setRequest (request : RequestState) : World :=
  { w with requests := Function.update w.requests i request }

def provenance : Provenance :=
  ⟨(w.db.sessions i).loadedFrom, (w.requests i).generation, (w.db.sessions i).committed⟩

/-- A request that reads counters builds its page keys from the last of them. -/
def observeGeneration : RedisCommand → World
  | .mget keys =>
      match keys.getLast? with
      | some key =>
          w.setRequest i { w.requests i with generation := some (key, w.store.reading key) }
      | none => w
  | _ => w

def redisStep (command : RedisCommand) : Except Exc command.Reply × World :=
  let answer := w.store.step (w.provenance i) command
  (answer.1, { w.observeGeneration i command with store := answer.2 })

def waited (c : Choice) : Except Exc Unit :=
  match c.fault with
  | some error => .error error
  | none => .ok ()

def exec (c : Choice) : (op : Op) → Option (op.Reply × World)
  | .redis command =>
      match c.fault with
      | some error => some (.error error, if c.applied then (w.redisStep i command).2 else w)
      | none => some (w.redisStep i command)
  | .mysql statement =>
      match c.fault with
      | some error => some (.error error, { w with db := w.db.begin_ i })
      | none => (w.db.statementStep i c statement).map fun (reply, db) => (reply, { w with db })
  | .commit => some ((w.db.commitReply i c).1, { w with db := (w.db.commitReply i c).2 })
  | .rollback => some (waited c, { w with db := w.db.rollbackStep i })
  | .expireAll => some ((), { w with db := w.db.expireInstances i })
  | .articleAttributes id => some ((w.db.sessions i).article.read ArticleRow.id id, w)
  | .userAttributes id => some ((w.db.sessions i).user.read UserRow.id id, w)
  | .afterCommit callback =>
      some ((), w.setRequest i { w.requests i with queue := (w.requests i).queue ++ [callback] })
  | .popAfterCommit =>
      some ((w.requests i).queue,
        w.setRequest i { w.requests i with queue := [], drained := (w.requests i).queue })
  | .cacheDegraded => some ((w.requests i).degraded, w)
  | .degradeCache => some ((), w.setRequest i { w.requests i with degraded := true })
  | .breakerAllow _ => some (c.flag, w)
  | .breakerSuccess _ => some ((), w)
  | .breakerFailure _ => some ((), w)
  | .secondsUntilProbe _ => some (c.number, w)
  | .observe _ => some ((), w)
  | .loopTime => some (c.number, w)
  | .sleep _ => some (waited c, w)
  | .backoff _ => some (waited c, w)
  | .uniform _ _ => some (c.number, w)
  | .utcnow => some (c.time, w)
  | .hashPassword _ =>
      match c.fault with
      | some error => some (.error error, w)
      | none => some (.ok c.text, w)
  | .verifyPassword _ _ =>
      match c.fault with
      | some error => some (.error error, w)
      | none => some (.ok c.flag, w)
  | .dummyHash => some (w.dummyHash, w)
  | .setDummyHash hash => some ((), { w with dummyHash := some hash })
  | .encodeToken _ _ _ => some (c.text, w)
  | .outOfFuel => none

end World

/-- What the environment may decide when a request sends an interaction in a state. -/
abbrev Allowance := World → Pid → Op → Choice → Prop

def Exec (allow : Allowance) (i : Pid) (op : Op) (w : World) (reply : op.Reply) (w' : World) :
    Prop :=
  ∃ c, allow w i op c ∧ w.exec i c op = some (reply, w')

/-- Redis may drop an entry that has an expiry at any time. -/
def Expires (w w' : World) : Prop :=
  ∃ key entry, w.store.entries key = some entry ∧ entry.expires = true ∧
    w' = { w with store := w.store.setEntry key none }

end ContentPlatform
