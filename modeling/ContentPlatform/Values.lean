import Mathlib.Order.Basic
import Mathlib.Order.Lattice
import Mathlib.Algebra.Order.Ring.Int

/-!
# Rows and the shapes that leave the service
-/

set_option autoImplicit false

namespace ContentPlatform

/-- 0001-01-01T00:00:00 and 9999-12-31T23:59:59.999999 as microseconds from 1970. -/
def minMicros : ℤ := -62135596800000000
def maxMicros : ℤ := 253402300799999999

/-- A naive `datetime`, as the exact number of microseconds from 1970-01-01. -/
abbrev DateTime := { micros : ℤ // minMicros ≤ micros ∧ micros ≤ maxMicros }

def epoch : DateTime := ⟨0, by decide⟩

/-- `_EPOCH + timedelta(microseconds=n)`, unless the result leaves the range of `datetime`. -/
def DateTime.ofMicros? (micros : ℤ) : Option DateTime :=
  if range : minMicros ≤ micros ∧ micros ≤ maxMicros then some ⟨micros, range⟩ else none

@[simp] theorem DateTime.ofMicros?_val (t : DateTime) : DateTime.ofMicros? t.val = some t := by
  simp [DateTime.ofMicros?, t.property.1, t.property.2]

/-! The fields of the `timedelta` from 1970, normalised as `timedelta` does. -/

def DateTime.days (t : DateTime) : ℤ := t.val / 86400000000
def DateTime.seconds (t : DateTime) : ℤ := t.val % 86400000000 / 1000000
def DateTime.microseconds (t : DateTime) : ℤ := t.val % 1000000

/-- Exact, by integer arithmetic on the fields. -/
def DateTime.epochMicros (t : DateTime) : ℤ :=
  (t.days * 86400 + t.seconds) * 1000000 + t.microseconds

@[simp] theorem DateTime.epochMicros_eq (t : DateTime) : t.epochMicros = t.val := by
  simp only [DateTime.epochMicros, DateTime.days, DateTime.seconds, DateTime.microseconds]
  omega

/-- A row of `articles`. -/
structure ArticleRow where
  id : ℤ
  authorId : ℤ
  title : String
  body : String
  createdAt : DateTime
  updatedAt : DateTime
  deletedAt : Option DateTime
  deriving DecidableEq

def ArticleRow.live (row : ArticleRow) : Bool := row.deletedAt.isNone

/-- A row of `users` with the name of its joined role. -/
structure UserRow where
  id : ℤ
  email : String
  passwordHash : String
  roleName : String
  deriving DecidableEq

/-- `User.is_admin`. -/
def UserRow.isAdmin (user : UserRow) : Bool := user.roleName == "admin"

structure ArticleSummaryOut where
  id : ℤ
  authorId : ℤ
  title : String
  createdAt : DateTime
  updatedAt : DateTime
  deriving DecidableEq

structure ArticleOut extends ArticleSummaryOut where
  body : String
  deriving DecidableEq

/-- The columns `SUMMARY_COLUMNS` of a row, which are also the fields of the list shape. -/
def ArticleRow.summary (row : ArticleRow) : ArticleSummaryOut :=
  ⟨row.id, row.authorId, row.title, row.createdAt, row.updatedAt⟩

/-- `ArticleOut.model_validate(article)`, which reads the attributes of the instance. -/
def ArticleRow.out (row : ArticleRow) : ArticleOut :=
  { row.summary with body := row.body }

structure UserOut where
  id : ℤ
  email : String
  role : String
  deriving DecidableEq

/-- A keyset position: `(created_at, id)` of the last row of a page. -/
abbrev Position := DateTime × ℤ

abbrev Page := List ArticleSummaryOut × Option Position

/-- Everything that defines a page: its size, where it starts, and its author filter. -/
structure Window where
  limit : ℤ
  after : Option Position
  author : Option ℤ
  deriving DecidableEq

end ContentPlatform
