import ContentPlatform.Program.Interrupted
import ContentPlatform.Scripts.SeedPlan

/-!
# The seeder

`seed` of `scripts/seed_load_dataset.py`, over the tables that it works on.  A session sees its own
writes; what is not committed when the run is interrupted is lost.
-/

set_option autoImplicit false

namespace ContentPlatform

open Program Prog

/-! ## The tables -/

structure NewAuthor where
  email : String
  passwordHash : String
  roleId : ℤ
  deriving DecidableEq

structure NewArticle where
  authorId : ℤ
  title : String
  body : String
  deriving DecidableEq

structure Tables where
  roles : List (ℤ × String)
  users : List (ℤ × NewAuthor)
  articles : List (ℤ × NewArticle)
  deriving DecidableEq

structure SeedStore where
  committed : Tables
  current : Tables
  deriving DecidableEq

def Tables.opened (tables : Tables) : SeedStore := ⟨tables, tables⟩

inductive SeedOp where
  | selectUsers (emails : List String)
  | selectRoleIds (name : String)
  | insertUsers (rows : List NewAuthor)
  | countArticles (authorIds : List ℤ)
  | insertArticles (rows : List NewArticle)
  | articleBounds (authorIds : List ℤ)
  | commit

@[reducible] def SeedOp.Reply : SeedOp → Type
  | .selectUsers _ => List (ℤ × String)
  | .selectRoleIds _ => List ℤ
  | .insertUsers _ => Unit
  | .countArticles _ => ℕ
  | .insertArticles _ => Unit
  | .articleBounds _ => Option ℤ × Option ℤ
  | .commit => Unit

namespace Tables

variable (tables : Tables)

def matching (emails : List String) : List (ℤ × String) :=
  (tables.users.filter fun user => emails.contains user.2.email).map fun user =>
    (user.1, user.2.email)

def roleIds (name : String) : List ℤ :=
  (tables.roles.filter fun role => role.2 = name).map Prod.fst

def articlesOf (authorIds : List ℤ) : List (ℤ × NewArticle) :=
  tables.articles.filter fun article => authorIds.contains article.2.authorId

def bounds (authorIds : List ℤ) : Option ℤ × Option ℤ :=
  let ids := (tables.articlesOf authorIds).map Prod.fst
  (ids.min?, ids.max?)

def insertUsers (ids : List ℤ) (rows : List NewAuthor) : Tables :=
  { tables with users := tables.users ++ ids.zip rows }

def insertArticles (ids : List ℤ) (rows : List NewArticle) : Tables :=
  { tables with articles := tables.articles ++ ids.zip rows }

end Tables

def FreshIds {Row : Type} (stored : List (ℤ × Row)) (ids : List ℤ) : Prop :=
  ids.Nodup ∧ ∀ id ∈ ids, id ∉ stored.map Prod.fst

def UniqueEmails (stored : List (ℤ × NewAuthor)) (rows : List NewAuthor) : Prop :=
  (rows.map NewAuthor.email).Nodup ∧
    ∀ row ∈ rows, row.email ∉ stored.map fun user => user.2.email

instance {Row : Type} (stored : List (ℤ × Row)) (ids : List ℤ) : Decidable (FreshIds stored ids) :=
  inferInstanceAs (Decidable (_ ∧ _))

instance (stored : List (ℤ × NewAuthor)) (rows : List NewAuthor) :
    Decidable (UniqueEmails stored rows) := inferInstanceAs (Decidable (_ ∧ _))

/-- What a statement answers and does.  Rows come in any order, and ids are what MySQL makes them. -/
def SeedOp.exec : (op : SeedOp) → SeedStore → op.Reply → SeedStore → Prop
  | .selectUsers emails, s, rows, s' => rows.Perm (s.current.matching emails) ∧ s' = s
  | .selectRoleIds name, s, ids, s' => ids.Perm (s.current.roleIds name) ∧ s' = s
  | .insertUsers rows, s, _, s' => ∃ ids, ids.length = rows.length ∧ FreshIds s.current.users ids ∧
      UniqueEmails s.current.users rows ∧ s' = { s with current := s.current.insertUsers ids rows }
  | .countArticles authorIds, s, count, s' =>
      count = (s.current.articlesOf authorIds).length ∧ s' = s
  | .insertArticles rows, s, _, s' => ∃ ids, ids.length = rows.length ∧
      FreshIds s.current.articles ids ∧ s' = { s with current := s.current.insertArticles ids rows }
  | .articleBounds authorIds, s, bounds, s' => bounds = s.current.bounds authorIds ∧ s' = s
  | .commit, s, _, s' => s' = s.current.opened

/-! ## The program -/

abbrev SeedProg (α : Type) := Prog SeedOp SeedOp.Reply SeedError α

structure SeedResult where
  authorsCreated : ℕ
  articlesBefore : ℕ
  articlesCreated : ℕ
  idMin : Option ℤ
  idMax : Option ℤ
  deriving DecidableEq

/-- `scalar_one`. -/
def scalarOne : List ℤ → Except SeedError ℤ
  | [] => .error .noResultFound
  | [value] => .ok value
  | _ => .error .multipleResultsFound

/-- `by_email[email]`; of equal keys the last one counts. -/
def byEmail (rows : List (ℤ × String)) (email : String) : Except SeedError ℤ :=
  match rows.reverse.find? fun row => row.2 == email with
  | some row => .ok row.1
  | none => .error .keyError

/-- `items[index]`. -/
def item {α : Type} (items : List α) (index : ℕ) : Except SeedError α :=
  match items[index]? with
  | some value => .ok value
  | none => .error .indexError

section
variable (plan : SeedPlan) (rng : PseudoRandom)

/-- What is done `if missing:`. -/
def createAuthors (missing : List String) : SeedProg (List (ℤ × String)) := do
  let roles ← .call (.selectRoleIds "user") .ret
  let roleId ← .ofExcept (scalarOne roles)
  .call (.insertUsers (missing.map fun email => ⟨email, unusablePasswordHash, roleId⟩)) .ret
  .call .commit .ret
  .call (.selectUsers plan.emails) .ret

def createMissing (rows : List (ℤ × String)) (missing : List String) :
    SeedProg (List (ℤ × String)) :=
  if missing.isEmpty then .ret rows else createAuthors plan missing

def ensureAuthors : SeedProg (List ℤ × ℕ) := do
  let rows ← .call (.selectUsers plan.emails) .ret
  let missing := plan.emails.filter fun email => !(rows.map Prod.snd).contains email
  let rows ← createMissing plan rows missing
  let authorIds ← .ofExcept (plan.emails.mapM (byEmail rows))
  return (authorIds, missing.length)

def articleRow (authorIds : List ℤ) (slots : List ℕ) (existing place : ℕ) : Draw rng NewArticle := do
  let slot ← item slots place
  let authorId ← item authorIds slot
  let body ← buildBody rng plan.minBodyBytes plan.maxBodyBytes
  return ⟨authorId, "Load test article " ++ toString (existing + place + 1), body⟩

def insertBatches (authorIds : List ℤ) (slots : List ℕ) (existing : ℕ) :
    (batches : List ℕ) → (created : ℕ) → rng.State → SeedProg ℕ
  | [], created, _ => return created
  | size :: rest, created, state => do
      let (rows, state) ← .ofExcept ((List.range' created size).mapM
        (articleRow plan rng authorIds slots existing) state)
      .call (.insertArticles rows) .ret
      .call .commit .ret
      insertBatches authorIds slots existing rest (created + size) state

def seed : SeedProg SeedResult := do
  let (authorIds, authorsCreated) ← ensureAuthors plan
  let existing ← .call (.countArticles authorIds) .ret
  let batches ← .ofExcept (planBatches (max ((plan.articles : ℤ) - existing) 0) plan.batchSize)
  let slots ← .ofExcept (plan.authorSlots rng)
  let created ← insertBatches plan rng authorIds (slots.drop existing) existing batches 0
    (rng.seeded plan.seed)
  let bounds ← .call (.articleBounds authorIds) .ret
  return ⟨authorsCreated, existing, created, bounds.1, bounds.2⟩

end

/-! ## What is stored -/

/-- Ids and addresses are unique, and articles have authors. -/
structure Tables.Sound (tables : Tables) : Prop where
  ids : (tables.users.map Prod.fst).Nodup
  emails : (tables.users.map fun user => user.2.email).Nodup
  authors : ∀ article ∈ tables.articles, article.2.authorId ∈ tables.users.map Prod.fst

def Tables.idOf (tables : Tables) (email : String) : Option ℤ :=
  (tables.users.find? fun user => user.2.email == email).map Prod.fst

def slotOf (plan : SeedPlan) (tables : Tables) (authorId : ℤ) : Option ℕ :=
  plan.emails.findIdx? fun email => tables.idOf email == some authorId

/-- The articles of the plan's authors, with author slot, title and body, in the order in which
they were inserted. -/
def dataset (plan : SeedPlan) (tables : Tables) : List (ℕ × String × String) :=
  (tables.articles.map Prod.snd).filterMap fun article =>
    (slotOf plan tables article.authorId).map fun slot => (slot, article.title, article.body)

def AuthorIds (plan : SeedPlan) (tables : Tables) (authorIds : List ℤ) : Prop :=
  plan.emails.map tables.idOf = authorIds.map some

section
variable {plan : SeedPlan} {tables : Tables} {authorIds : List ℤ}

theorem emails_nodup (plan : SeedPlan) : plan.emails.Nodup :=
  List.nodup_range.map authorEmail_injective

theorem emails_length (plan : SeedPlan) : plan.emails.length = plan.authors := by
  rw [SeedPlan.emails, List.length_map, List.length_range]

theorem Tables.Sound.idOf_eq_some (sound : tables.Sound) {email : String} {id : ℤ} :
    tables.idOf email = some id ↔ ∃ user ∈ tables.users, user.1 = id ∧ user.2.email = email := by
  constructor
  · intro found
    obtain ⟨user, first, rfl⟩ := Option.map_eq_some_iff.mp found
    have same := List.find?_some first
    exact ⟨user, List.mem_of_find?_eq_some first, rfl, eq_of_beq same⟩
  · rintro ⟨user, member, rfl, rfl⟩
    cases found : tables.users.find? fun other => other.2.email == user.2.email with
    | none => exact absurd (beq_self_eq_true _) (List.find?_eq_none.mp found user member)
    | some other =>
        have same := List.find?_some found
        have equal := List.inj_on_of_nodup_map sound.emails (List.mem_of_find?_eq_some found) member
          (eq_of_beq same)
        rw [Tables.idOf, found, equal]
        rfl

/-- Two addresses do not share an id. -/
theorem Tables.Sound.idOf_inj (sound : tables.Sound) {email email' : String} {id : ℤ}
    (first : tables.idOf email = some id) (second : tables.idOf email' = some id) :
    email = email' := by
  obtain ⟨user, member, rfl, rfl⟩ := sound.idOf_eq_some.mp first
  obtain ⟨user', member', same, rfl⟩ := sound.idOf_eq_some.mp second
  rw [List.inj_on_of_nodup_map sound.ids member' member same]

theorem AuthorIds.length (stored : AuthorIds plan tables authorIds) :
    authorIds.length = plan.authors := by
  have lengths := congrArg List.length stored
  rw [List.length_map, List.length_map, emails_length] at lengths
  exact lengths.symm

theorem AuthorIds.slotOf (sound : tables.Sound) (stored : AuthorIds plan tables authorIds)
    {authorId : ℤ} {slot : ℕ} :
    slotOf plan tables authorId = some slot ↔ authorIds[slot]? = some authorId := by
  have entry : ∀ index : ℕ, plan.emails[index]?.map tables.idOf = authorIds[index]?.map some := by
    intro index
    rw [← List.getElem?_map, stored, List.getElem?_map]
  unfold ContentPlatform.slotOf
  rw [List.findIdx?_eq_some_iff_getElem]
  constructor
  · rintro ⟨inside, found, -⟩
    have here := entry slot
    rw [List.getElem?_eq_getElem inside, Option.map_some, eq_of_beq found] at here
    cases at_ : authorIds[slot]? with
    | none =>
        rw [at_] at here
        cases here
    | some id =>
        rw [at_] at here
        exact (Option.some.inj here).symm
  · intro at_
    have here := entry slot
    rw [at_, Option.map_some] at here
    obtain ⟨email, listed, found⟩ := Option.map_eq_some_iff.mp here
    obtain ⟨inside, rfl⟩ := List.getElem?_eq_some_iff.mp listed
    refine ⟨inside, by rw [found]; exact beq_self_eq_true _, fun earlier less other => ?_⟩
    have same := sound.idOf_inj (eq_of_beq other) found
    have places := (emails_nodup plan).getElem_inj_iff.mp same
    omega

/-- The query for the articles of the authors counts the dataset. -/
theorem AuthorIds.count (sound : tables.Sound) (stored : AuthorIds plan tables authorIds) :
    (tables.articlesOf authorIds).length = (dataset plan tables).length := by
  have among : ∀ id, authorIds.contains id = (ContentPlatform.slotOf plan tables id).isSome := by
    intro id
    rw [Bool.eq_iff_iff, List.contains_iff_mem, Option.isSome_iff_exists, List.mem_iff_getElem?]
    exact exists_congr fun slot => (stored.slotOf sound).symm
  rw [Tables.articlesOf, dataset, List.length_filterMap_eq_countP, List.countP_map,
    List.countP_eq_length_filter]
  congr 2
  funext article
  rw [Function.comp, Option.isSome_map]
  exact among _

end

end ContentPlatform
