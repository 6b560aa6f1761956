import Mathlib.Data.List.DropRight
import ContentPlatform.Config

/-!
# Credentials in the database URL

The credentials are written as in a form and read as in a path.  The separators of a URL survive
that, and a space does not.
-/

set_option autoImplicit false

namespace ContentPlatform

open Text

/-! ## Reading a URL -/

/-- The front of a database URL, and what it leaves for the host, the port and the database. -/
structure UrlFront where
  username : Option (List Char)
  password : Option (List Char)
  rest : List Char

def inUsername (c : Char) : Bool := c != ':' && c != '/'

/-- A user name without a password, which ends at the last `@` before a colon or a slash. -/
def splitUsername (run rest : List Char) : UrlFront :=
  if '@' ∈ run then
    ⟨some (run.rdropWhile (· ≠ '@')).dropLast, none, run.rtakeWhile (· ≠ '@') ++ rest⟩
  else ⟨none, none, run ++ rest⟩

/-- The pattern `(?:(?P<username>[^:/]*)(?::(?P<password>[^@]*))?@)?`, which takes as much as it can
at each step. -/
def splitCredentials (cs : List Char) : UrlFront :=
  let run := cs.takeWhile inUsername
  match cs.dropWhile inUsername with
  | ':' :: after =>
      if '@' ∈ after then
        ⟨some run, some (after.takeWhile (· ≠ '@')), (after.dropWhile (· ≠ '@')).drop 1⟩
      else splitUsername run (':' :: after)
  | rest => splitUsername run rest

/-- The characters of `(?P<name>[\w\+]+)` within ASCII. -/
def inName (c : Char) : Bool := c.isAlphanum || c == '_' || c == '+'

def splitUrl (url : List Char) : Option UrlFront :=
  match url.takeWhile inName, url.dropWhile inName with
  | _ :: _, ':' :: '/' :: '/' :: cs => some (splitCredentials cs)
  | _, _ => none

def UrlFront.unquoted (replace : List UInt8 → List Char) (front : UrlFront) : UrlFront :=
  ⟨front.username.map (unquote replace), front.password.map (unquote replace), front.rest⟩

/-- `make_url`, up to the reading of the rest. -/
def makeUrl (replace : List UInt8 → List Char) (url : String) : Option UrlFront :=
  (splitUrl url.toList).map (UrlFront.unquoted replace)

theorem splitUrl_name {name : List Char} (word : name.all inName = true) (nonempty : name ≠ [])
    (cs : List Char) : splitUrl (name ++ ':' :: '/' :: '/' :: cs) = some (splitCredentials cs) := by
  rw [List.all_eq_true] at word
  have stop : inName ':' = false := by decide
  have front : (name ++ ':' :: '/' :: '/' :: cs).takeWhile inName = name := by
    rw [List.takeWhile_append_of_pos word, List.takeWhile_cons_of_neg (by rw [stop]; decide),
      List.append_nil]
  have back : (name ++ ':' :: '/' :: '/' :: cs).dropWhile inName = ':' :: '/' :: '/' :: cs := by
    rw [List.dropWhile_append_of_pos word, List.dropWhile_cons_of_neg (by rw [stop]; decide)]
  rw [splitUrl, front, back]
  cases name with
  | nil => exact absurd rfl nonempty
  | cons c rest => rfl

/-! ## The credentials of a URL -/

/-- A piece of a URL that none of the separators breaks. -/
def Unbroken (cs : List Char) : Prop := ∀ c ∈ cs, c ≠ ':' ∧ c ≠ '/' ∧ c ≠ '@'

theorem unbroken_quotePlus (text : String) : Unbroken (quotePlus text).toList := by
  intro c member
  have free := (quotePlus_chars member).no_separator
  exact ⟨free.1, free.2.1, free.2.2.1⟩

theorem Unbroken.inUsername {cs : List Char} (unbroken : Unbroken cs) :
    ∀ c ∈ cs, inUsername c = true := by
  intro c member
  have free := unbroken c member
  simp [ContentPlatform.inUsername, free.1, free.2.1]

theorem Unbroken.no_at {cs : List Char} (unbroken : Unbroken cs) :
    ∀ c ∈ cs, decide (c ≠ '@') = true :=
  fun c member => decide_eq_true (unbroken c member).2.2

theorem splitCredentials_password {user password : List Char} (unbroken : Unbroken user)
    (unbroken' : Unbroken password) (rest : List Char) :
    splitCredentials (user ++ ':' :: (password ++ '@' :: rest)) =
      ⟨some user, some password, rest⟩ := by
  have run : (user ++ ':' :: (password ++ '@' :: rest)).takeWhile inUsername = user := by
    rw [List.takeWhile_append_of_pos unbroken.inUsername, List.takeWhile_cons_of_neg (by decide),
      List.append_nil]
  have after : (user ++ ':' :: (password ++ '@' :: rest)).dropWhile inUsername =
      ':' :: (password ++ '@' :: rest) := by
    rw [List.dropWhile_append_of_pos unbroken.inUsername, List.dropWhile_cons_of_neg (by decide)]
  have ends : '@' ∈ password ++ '@' :: rest := by simp
  rw [splitCredentials, run, after]
  simp only [if_pos ends]
  rw [List.takeWhile_append_of_pos unbroken'.no_at,
    List.takeWhile_cons_of_neg (by decide), List.append_nil,
    List.dropWhile_append_of_pos unbroken'.no_at, List.dropWhile_cons_of_neg (by decide)]
  rfl

/-- Without a password, a later `@` is taken for the end of the credentials. -/
def Misread (target : List Char) : Prop :=
  '@' ∈ target.takeWhile inUsername ∨
    ∃ after, target.dropWhile inUsername = ':' :: after ∧ '@' ∈ after

theorem takeWhile_at_lt {cs : List Char} (member : '@' ∈ cs) (rest : List Char) :
    ((cs ++ rest).takeWhile (· ≠ '@')).length < cs.length := by
  induction cs with
  | nil => cases member
  | cons c cs ih =>
      by_cases here : c = '@'
      · simp [here]
      · have later := ih ((List.mem_cons.mp member).resolve_left (Ne.symm here))
        simp only [List.cons_append, List.takeWhile_cons, ne_eq, here, not_false_eq_true,
          decide_true, if_true, List.length_cons]
        simp only [ne_eq] at later
        omega

theorem drop_at_lt {cs : List Char} (member : '@' ∈ cs) :
    ((cs.dropWhile (· ≠ '@')).drop 1).length < cs.length := by
  have positive := List.length_pos_of_mem member
  have shorter := (List.dropWhile_sublist (l := cs) (· ≠ '@')).length_le
  rw [List.length_drop]
  omega

/-- The user name ends at the `@` after it when the run has no later one. -/
theorem splitUsername_exact (user : List Char) {run : List Char} (clean : '@' ∉ run)
    (rest : List Char) :
    splitUsername (user ++ '@' :: run) rest = ⟨some user, none, run ++ rest⟩ := by
  have plain : ∀ c ∈ run.reverse, decide (c ≠ '@') = true := by
    intro c member
    rw [decide_eq_true_eq]
    rintro rfl
    exact clean (List.mem_reverse.mp member)
  have turned : (user ++ '@' :: run).reverse = run.reverse ++ '@' :: user.reverse := by simp
  have back : (user ++ '@' :: run).rtakeWhile (· ≠ '@') = run := by
    rw [List.rtakeWhile, turned, List.takeWhile_append_of_pos plain,
      List.takeWhile_cons_of_neg (by decide), List.append_nil, List.reverse_reverse]
  have front : (user ++ '@' :: run).rdropWhile (· ≠ '@') = user ++ ['@'] := by
    rw [List.rdropWhile, turned, List.dropWhile_append_of_pos plain,
      List.dropWhile_cons_of_neg (by decide), List.reverse_cons, List.reverse_reverse]
  rw [splitUsername, if_pos (by simp), back, front, List.dropLast_concat]

/-- It ends later when the run has one. -/
theorem splitUsername_short (user : List Char) {run : List Char} (member : '@' ∈ run)
    (rest : List Char) :
    (splitUsername (user ++ '@' :: run) rest).rest.length < run.length + rest.length := by
  have turned : (user ++ '@' :: run).reverse = run.reverse ++ '@' :: user.reverse := by simp
  have shorter := takeWhile_at_lt (List.mem_reverse.mpr member) ('@' :: user.reverse)
  rw [splitUsername, if_pos (by simp), List.rtakeWhile, turned, List.length_append,
    List.length_reverse]
  rw [List.length_reverse] at shorter
  omega

theorem run_of_user {user : List Char} (unbroken : Unbroken user) (target : List Char) :
    (user ++ '@' :: target).takeWhile inUsername =
        user ++ '@' :: target.takeWhile inUsername ∧
      (user ++ '@' :: target).dropWhile inUsername = target.dropWhile inUsername := by
  constructor
  · rw [List.takeWhile_append_of_pos unbroken.inUsername, List.takeWhile_cons_of_pos (by decide)]
  · rw [List.dropWhile_append_of_pos unbroken.inUsername, List.dropWhile_cons_of_pos (by decide)]

theorem splitCredentials_user {user target : List Char} (unbroken : Unbroken user)
    (clear : ¬Misread target) :
    splitCredentials (user ++ '@' :: target) = ⟨some user, none, target⟩ := by
  obtain ⟨run, after⟩ := run_of_user unbroken target
  have clean : '@' ∉ target.takeWhile inUsername := fun member => clear (Or.inl member)
  have whole := List.takeWhile_append_dropWhile (p := inUsername) (l := target)
  rw [splitCredentials, run, after]
  split
  · rename_i rest shape
    have none : '@' ∉ rest := fun member => clear (Or.inr ⟨rest, shape, member⟩)
    rw [if_neg none, splitUsername_exact user clean, ← shape, whole]
  · rw [splitUsername_exact user clean, whole]

theorem splitCredentials_misread {user target : List Char} (unbroken : Unbroken user)
    (misread : Misread target) : (splitCredentials (user ++ '@' :: target)).rest ≠ target := by
  obtain ⟨run, after⟩ := run_of_user unbroken target
  have whole := congrArg List.length (List.takeWhile_append_dropWhile (p := inUsername) (l := target))
  rw [List.length_append] at whole
  intro same
  have length := congrArg List.length same
  rw [splitCredentials, run, after] at length
  split at length
  · rename_i rest shape
    rw [shape, List.length_cons] at whole
    by_cases later : '@' ∈ rest
    · rw [if_pos later] at length
      have shorter := drop_at_lt later
      simp only at length
      omega
    · rw [if_neg later] at length
      have inRun : '@' ∈ target.takeWhile inUsername := by
        rcases misread with inRun | ⟨rest', shape', member⟩
        · exact inRun
        · rw [shape] at shape'
          obtain rfl := (List.cons.inj shape').2
          exact absurd member later
      have shorter := splitUsername_short user inRun (':' :: rest)
      rw [List.length_cons] at shorter
      omega
  · rename_i other
    have inRun : '@' ∈ target.takeWhile inUsername := by
      rcases misread with inRun | ⟨rest', shape', -⟩
      · exact inRun
      · exact absurd shape' (other rest')
    have shorter := splitUsername_short user inRun (target.dropWhile inUsername)
    omega

/-! ## What comes back -/

theorem takes_mysql {driver : String} (word : driver.toList.all inName = true) :
    ("mysql+" ++ driver).toList.all inName = true ∧ ("mysql+" ++ driver).toList ≠ [] := by
  have front : "mysql+".toList.all inName = true := by decide
  have nonempty : "mysql+".toList ≠ [] := by decide
  rw [String.toList_append, List.all_append, front, word]
  exact ⟨rfl, List.append_ne_nil_of_left_ne_nil nonempty _⟩

/-- The URL is read up to its credentials. -/
theorem makeUrl_databaseUrl (replace : List UInt8 → List Char) (settings : Settings)
    {driver : String} (word : driver.toList.all inName = true) :
    makeUrl replace (settings.databaseUrl driver) =
      some ((splitCredentials (settings.auth.toList ++ '@' :: settings.target.toList)).unquoted
        replace) := by
  have slashes : "://".toList = [':', '/', '/'] := by decide
  have atSign : "@".toList = ['@'] := by decide
  have chars : (settings.databaseUrl driver).toList = ("mysql+" ++ driver).toList ++
      ':' :: '/' :: '/' :: (settings.auth.toList ++ '@' :: settings.target.toList) := by
    rw [Settings.databaseUrl, String.toList_append, String.toList_append, String.toList_append,
      String.toList_append, slashes, atSign]
    simp
  obtain ⟨name, nonempty⟩ := takes_mysql word
  rw [makeUrl, chars, splitUrl_name name nonempty]
  rfl

/-- The front is that of the settings: their credentials, and before the host, the port and the
database nothing that they do not put there. -/
structure FrontOf (settings : Settings) (front : UrlFront) : Prop where
  user : front.username = some settings.mysqlUser.toList
  /-- An empty password is none. -/
  password : front.password.getD [] = settings.mysqlPassword.toList
  rest : front.rest = settings.target.toList

/-- What the URLs are for: `make_url` gives the settings back. -/
def CredentialsSurvive (replace : List UInt8 → List Char) (settings : Settings) : Prop :=
  ∀ url ∈ [settings.asyncDatabaseUrl, settings.syncDatabaseUrl],
    ∃ front, makeUrl replace url = some front ∧ FrontOf settings front

/-- Neither name nor password holds a space, and without a password no later `@` ends the name. -/
structure Readable (settings : Settings) : Prop where
  user : ' ' ∉ settings.mysqlUser.toList
  password : ' ' ∉ settings.mysqlPassword.toList
  target : settings.mysqlPassword = "" → ¬Misread settings.target.toList

theorem frontOf_iff (replace : List UInt8 → List Char) (settings : Settings) :
    FrontOf settings
      ((splitCredentials (settings.auth.toList ++ '@' :: settings.target.toList)).unquoted
        replace) ↔ Readable settings := by
  have user := unbroken_quotePlus settings.mysqlUser
  have userBack := unquote_quotePlus replace settings.mysqlUser
  by_cases empty : settings.mysqlPassword = ""
  · have auth : settings.auth = quotePlus settings.mysqlUser := by
      rw [Settings.auth, if_neg (not_not_intro empty)]
    have noSpace : ' ' ∉ settings.mysqlPassword.toList := by
      rw [empty]
      decide
    rw [auth]
    by_cases misread : Misread settings.target.toList
    · constructor
      · intro survives
        exact absurd survives.rest (splitCredentials_misread user misread)
      · intro readable
        exact absurd misread (readable.target empty)
    · rw [splitCredentials_user user misread, UrlFront.unquoted, Option.map_some, userBack]
      constructor
      · intro survives
        exact ⟨map_plusForSpace_iff.mp (Option.some.inj survives.user), noSpace, fun _ => misread⟩
      · intro readable
        exact ⟨congrArg some (map_plusForSpace_iff.mpr readable.user), by rw [empty]; rfl, rfl⟩
  · have auth : settings.auth.toList = (quotePlus settings.mysqlUser).toList ++
        ':' :: (quotePlus settings.mysqlPassword).toList := by
      have colon : ":".toList = [':'] := by decide
      rw [Settings.auth, if_pos empty, String.toList_append, String.toList_append, colon,
        List.append_assoc, List.singleton_append]
    rw [auth, List.append_assoc, List.cons_append,
      splitCredentials_password user (unbroken_quotePlus settings.mysqlPassword),
      UrlFront.unquoted, Option.map_some, Option.map_some, userBack,
      unquote_quotePlus replace settings.mysqlPassword]
    constructor
    · intro survives
      exact ⟨map_plusForSpace_iff.mp (Option.some.inj survives.user),
        map_plusForSpace_iff.mp survives.password, fun none => absurd none empty⟩
    · intro readable
      exact ⟨congrArg some (map_plusForSpace_iff.mpr readable.user),
        map_plusForSpace_iff.mpr readable.password, rfl⟩

/-- The credentials survive the URL exactly when they hold no space. -/
theorem credentials_survive_iff (replace : List UInt8 → List Char) (settings : Settings) :
    CredentialsSurvive replace settings ↔ Readable settings := by
  rw [← frontOf_iff replace settings]
  have async := makeUrl_databaseUrl replace settings
    (show "aiomysql".toList.all inName = true by decide)
  have sync := makeUrl_databaseUrl replace settings
    (show "pymysql".toList.all inName = true by decide)
  constructor
  · intro survive
    obtain ⟨front, read, rest⟩ := survive settings.asyncDatabaseUrl (List.mem_cons_self ..)
    obtain rfl := Option.some.inj (async.symm.trans read)
    exact rest
  · intro rest url member
    simp only [List.mem_cons, List.not_mem_nil, or_false] at member
    rcases member with rfl | rfl
    · exact ⟨_, async, rest⟩
    · exact ⟨_, sync, rest⟩

/-- The password `my secret` comes back as `my+secret`. -/
theorem space_in_password_lost :
    (makeUrl (fun _ => [])
      ({ mysqlPassword := "my secret" } : Settings).asyncDatabaseUrl).bind UrlFront.password =
        some "my+secret".toList ∧
      ¬CredentialsSurvive (fun _ => []) { mysqlPassword := "my secret" } := by
  have plus : (makeUrl (fun _ => [])
      ({ mysqlPassword := "my secret" } : Settings).asyncDatabaseUrl).bind UrlFront.password =
        some "my+secret".toList := by decide +kernel
  refine ⟨plus, fun survive => ?_⟩
  obtain ⟨front, read, back⟩ := survive _ (List.mem_cons_self ..)
  rw [read, Option.bind_some] at plus
  have same := back.password
  rw [plus] at same
  exact absurd same (by decide)

end ContentPlatform
