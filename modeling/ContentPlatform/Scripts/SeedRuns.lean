import ContentPlatform.Scripts.SeedDataset
import Mathlib.Data.List.GetD

/-!
# One run of the seeder

What a run stores that completes, and what it has stored when it is interrupted.
-/

set_option autoImplicit false

namespace ContentPlatform

open Program Prog

/-! ## Accounts -/

structure Prepared (plan : SeedPlan) (tables tables' : Tables) : Prop where
  sound : tables'.Sound
  articles : tables'.articles = tables.articles
  dataset : dataset plan tables' = dataset plan tables

section
variable {plan : SeedPlan} {rng : PseudoRandom} {tables : Tables} {s : SeedStore}

theorem Prepared.refl (sound : tables.Sound) : Prepared plan tables tables := ⟨sound, rfl, rfl⟩

theorem zip_fst {Row : Type} {ids : List ℤ} {rows : List Row} (each : ids.length = rows.length) :
    (ids.zip rows).map Prod.fst = ids := List.map_fst_zip each.le

theorem Tables.Sound.insertUsers (sound : tables.Sound) {ids : List ℤ} {rows : List NewAuthor}
    (each : ids.length = rows.length) (fresh : FreshIds tables.users ids)
    (unique : UniqueEmails tables.users rows) : (tables.insertUsers ids rows).Sound := by
  constructor
  · rw [Tables.insertUsers, List.map_append, zip_fst each]
    exact sound.ids.append fresh.1 fun id old new => fresh.2 id new old
  · have emails : (ids.zip rows).map (fun user => user.2.email) = rows.map NewAuthor.email := by
      show (ids.zip rows).map (NewAuthor.email ∘ Prod.snd) = _
      rw [← List.map_map, List.map_snd_zip each.ge]
    rw [Tables.insertUsers, List.map_append, emails]
    refine sound.emails.append unique.1 fun email old new => ?_
    obtain ⟨row, member, rfl⟩ := List.mem_map.mp new
    exact unique.2 row member old
  · intro article member
    rw [Tables.insertUsers, List.map_append]
    exact List.mem_append_left _ (sound.authors article member)

theorem Prepared.insertUsers (sound : tables.Sound) {ids : List ℤ} {rows : List NewAuthor}
    (each : ids.length = rows.length) (fresh : FreshIds tables.users ids)
    (unique : UniqueEmails tables.users rows) :
    Prepared plan tables (tables.insertUsers ids rows) := by
  have sound' := sound.insertUsers each fresh unique
  have kept : ∀ email id, id ∈ tables.users.map Prod.fst →
      ((tables.insertUsers ids rows).idOf email = some id ↔ tables.idOf email = some id) := by
    intro email id old
    rw [sound'.idOf_eq_some, sound.idOf_eq_some]
    constructor
    · rintro ⟨user, member, rfl, rfl⟩
      rcases List.mem_append.mp member with before | new
      · exact ⟨user, before, rfl, rfl⟩
      · exact absurd old (fresh.2 user.1 (List.of_mem_zip new).1)
    · rintro ⟨user, member, same⟩
      exact ⟨user, List.mem_append_left _ member, same⟩
  refine ⟨sound', rfl, ?_⟩
  apply List.filterMap_congr
  intro article member
  obtain ⟨stored, listed, rfl⟩ := List.mem_map.mp member
  have old := sound.authors stored listed
  have slots : slotOf plan (tables.insertUsers ids rows) stored.2.authorId =
      slotOf plan tables stored.2.authorId := by
    unfold slotOf
    congr 1
    funext email
    rw [Bool.eq_iff_iff, beq_iff_eq, beq_iff_eq]
    exact kept email _ old
  rw [slots]

theorem createAuthors_runs (sound : tables.Sound) {missing : List String}
    {rows : List (ℤ × String)}
    (run : Runs SeedOp.exec (createAuthors plan missing) tables.opened (.ok rows) s) :
    ∃ tables', s = tables'.opened ∧ Prepared plan tables tables' ∧
      rows.Perm (tables'.matching plan.emails) := by
  obtain ⟨roles, s₁, asked, run⟩ := run.of_bind
  obtain ⟨-, rfl⟩ := asked.of_reply
  obtain ⟨roleId, s₂, one, run⟩ := run.of_bind
  obtain ⟨-, rfl⟩ := one.of_ofExcept
  obtain ⟨_, s₃, inserted, run⟩ := run.of_bind
  obtain ⟨ids, each, fresh, unique, rfl⟩ := inserted.of_reply
  obtain ⟨_, s₄, committed, run⟩ := run.of_bind
  obtain rfl := committed.of_reply
  obtain ⟨found, rfl⟩ := run.of_reply
  exact ⟨_, rfl, .insertUsers sound each fresh unique, found⟩

theorem createAuthors_cut (sound : tables.Sound) {missing : List String}
    (cut : CutOff SeedOp.exec (createAuthors plan missing) tables.opened s) :
    Prepared plan tables s.committed := by
  rcases cut.of_bind with asked | ⟨roles, s₁, asked, cut⟩
  · rcases asked.of_reply with rfl | ⟨_, -, rfl⟩ <;> exact .refl sound
  obtain ⟨-, rfl⟩ := asked.of_reply
  rcases cut.of_bind with one | ⟨roleId, s₂, one, cut⟩
  · obtain rfl := one.of_ofExcept
    exact .refl sound
  obtain ⟨-, rfl⟩ := one.of_ofExcept
  rcases cut.of_bind with inserted | ⟨_, s₃, inserted, cut⟩
  · rcases inserted.of_reply with rfl | ⟨_, ids, -, -, -, rfl⟩ <;> exact .refl sound
  obtain ⟨ids, each, fresh, unique, rfl⟩ := inserted.of_reply
  rcases cut.of_bind with committed | ⟨_, s₄, committed, cut⟩
  · rcases committed.of_reply with rfl | ⟨_, rfl⟩
    · exact .refl sound
    · exact .insertUsers sound each fresh unique
  obtain rfl := committed.of_reply
  rcases cut.of_reply with rfl | ⟨_, -, rfl⟩ <;> exact .insertUsers sound each fresh unique

theorem createMissing_runs (sound : tables.Sound) {missing : List String}
    {rows rows' : List (ℤ × String)} (found : rows.Perm (tables.matching plan.emails))
    (run : Runs SeedOp.exec (createMissing plan rows missing) tables.opened (.ok rows') s) :
    ∃ tables', s = tables'.opened ∧ Prepared plan tables tables' ∧
      rows'.Perm (tables'.matching plan.emails) := by
  unfold createMissing at run
  split at run
  · cases run
    exact ⟨tables, rfl, .refl sound, found⟩
  · exact createAuthors_runs sound run

theorem createMissing_cut (sound : tables.Sound) {missing : List String}
    {rows : List (ℤ × String)}
    (cut : CutOff SeedOp.exec (createMissing plan rows missing) tables.opened s) :
    Prepared plan tables s.committed := by
  unfold createMissing at cut
  split at cut
  · obtain rfl := cut.of_ret
    exact .refl sound
  · exact createAuthors_cut sound cut

/-- What `by_email` finds among the accounts that the query answers with. -/
theorem byEmail_ok (sound : tables.Sound) {rows : List (ℤ × String)}
    (found : rows.Perm (tables.matching plan.emails)) {email : String} {id : ℤ}
    (known : byEmail rows email = .ok id) : tables.idOf email = some id := by
  unfold byEmail at known
  cases first : rows.reverse.find? fun row => row.2 == email with
  | none =>
      rw [first] at known
      cases known
  | some row =>
      rw [first] at known
      obtain rfl := Except.ok.inj known
      have listed := found.mem_iff.mp (List.mem_reverse.mp (List.mem_of_find?_eq_some first))
      obtain ⟨user, member, rfl⟩ := List.mem_map.mp listed
      have same := List.find?_some first
      exact sound.idOf_eq_some.mpr ⟨user, (List.mem_filter.mp member).1, rfl, eq_of_beq same⟩

theorem mapM_byEmail (sound : tables.Sound) {rows : List (ℤ × String)}
    (found : rows.Perm (tables.matching plan.emails)) {emails : List String} {ids : List ℤ}
    (all : emails.mapM (byEmail rows) = .ok ids) : emails.map tables.idOf = ids.map some := by
  induction emails generalizing ids with
  | nil =>
      obtain rfl := Except.ok.inj all
      rfl
  | cons email rest ih =>
      rw [List.mapM_cons] at all
      cases first : byEmail rows email with
      | error error =>
          rw [first] at all
          cases all
      | ok id =>
          cases others : rest.mapM (byEmail rows) with
          | error error =>
              rw [first, others] at all
              cases all
          | ok ids' =>
              rw [first, others] at all
              obtain rfl := Except.ok.inj all
              rw [List.map_cons, List.map_cons, byEmail_ok sound found first, ih others]

theorem ensureAuthors_runs (sound : tables.Sound) {authorIds : List ℤ} {created : ℕ}
    (run : Runs SeedOp.exec (ensureAuthors plan) tables.opened (.ok (authorIds, created)) s) :
    ∃ tables', s = tables'.opened ∧ Prepared plan tables tables' ∧
      AuthorIds plan tables' authorIds := by
  obtain ⟨rows, s₁, asked, run⟩ := run.of_bind
  obtain ⟨found, rfl⟩ := asked.of_reply
  obtain ⟨rows', s₂, completed, run⟩ := run.of_bind
  obtain ⟨tables', rfl, prepared, found'⟩ := createMissing_runs sound found completed
  obtain ⟨ids, s₃, listed, run⟩ := run.of_bind
  obtain ⟨all, rfl⟩ := listed.of_ofExcept
  cases run
  exact ⟨tables', rfl, prepared, mapM_byEmail prepared.sound found' all⟩

theorem ensureAuthors_cut (sound : tables.Sound)
    (cut : CutOff SeedOp.exec (ensureAuthors plan) tables.opened s) :
    Prepared plan tables s.committed := by
  rcases cut.of_bind with asked | ⟨rows, s₁, asked, cut⟩
  · rcases asked.of_reply with rfl | ⟨_, -, rfl⟩ <;> exact .refl sound
  obtain ⟨found, rfl⟩ := asked.of_reply
  rcases cut.of_bind with completed | ⟨rows', s₂, completed, cut⟩
  · exact createMissing_cut sound completed
  obtain ⟨tables', rfl, prepared, -⟩ := createMissing_runs sound found completed
  rcases cut.of_bind with listed | ⟨ids, s₃, listed, cut⟩
  · obtain rfl := listed.of_ofExcept
    exact prepared
  obtain ⟨-, rfl⟩ := listed.of_ofExcept
  obtain rfl := cut.of_ret
  exact prepared

end

/-! ## Articles -/

/-- What a run that finds `existing` articles inserts at a place: slot, title and body. -/
def placed (plan : SeedPlan) (rng : PseudoRandom) (slots : List ℕ) (existing place : ℕ) :
    ℕ × String × String :=
  (slots.getD (existing + place) 0, "Load test article " ++ toString (existing + place + 1),
    fillerBody (plan.bodySize rng place))

def articleBy (authorIds : List ℤ) (entry : ℕ × String × String) : NewArticle :=
  ⟨authorIds.getD entry.1 0, entry.2.1, entry.2.2⟩

def inserted (plan : SeedPlan) (rng : PseudoRandom) (authorIds : List ℤ) (slots : List ℕ)
    (existing place count : ℕ) : List NewArticle :=
  (List.range' place count).map fun place => articleBy authorIds (placed plan rng slots existing place)

structure Grown (tables tables' : Tables) (rows : List NewArticle) : Prop where
  users : tables'.users = tables.users
  articles : ∃ added, tables'.articles = tables.articles ++ added ∧ added.map Prod.snd = rows

structure Seeding (plan : SeedPlan) (rng : PseudoRandom) (tables : Tables) (authorIds : List ℤ)
    (slots : List ℕ) : Prop where
  sound : tables.Sound
  stored : AuthorIds plan tables authorIds
  planned : plan.authorSlots rng = .ok slots

section
variable {plan : SeedPlan} {rng : PseudoRandom} {tables tables' : Tables} {authorIds : List ℤ}
  {slots : List ℕ} {existing : ℕ} {s : SeedStore}

theorem item_getD {α : Type} {items : List α} {index : ℕ} (inside : index < items.length)
    (default : α) : item items index = .ok (items.getD index default) := by
  rw [item, List.getElem?_eq_getElem inside, List.getD_eq_getElem _ _ inside]

theorem Seeding.slot_lt (seeding : Seeding plan rng tables authorIds slots) (place : ℕ) :
    slots.getD place 0 < plan.authors := by
  obtain ⟨-, range⟩ := authorSlots_spec seeding.planned
  by_cases inside : place < slots.length
  · rw [List.getD_eq_getElem _ _ inside]
    exact range _ (List.getElem_mem inside)
  · rw [List.getD_eq_default _ _ (not_lt.mp inside)]
    exact plan.authors_pos

theorem Seeding.articleRow (seeding : Seeding plan rng tables authorIds slots) {place : ℕ}
    (inside : existing + place < plan.articles) :
    articleRow plan rng authorIds (slots.drop existing) existing place (plan.bodyState rng place) =
      .ok (articleBy authorIds (placed plan rng slots existing place),
        plan.bodyState rng (place + 1)) := by
  have length := (authorSlots_spec seeding.planned).1
  have slot : item (slots.drop existing) place = .ok (slots.getD (existing + place) 0) := by
    rw [item_getD (by rw [List.length_drop]; omega) 0, List.getD_eq_getElem?_getD,
      List.getElem?_drop, ← List.getD_eq_getElem?_getD]
  have authorId : item authorIds (slots.getD (existing + place) 0) =
      .ok (authorIds.getD (slots.getD (existing + place) 0) 0) :=
    item_getD ((seeding.slot_lt _).trans_eq seeding.stored.length.symm) 0
  unfold ContentPlatform.articleRow
  rw [slot]
  show (do
    let authorId ← item authorIds (slots.getD (existing + place) 0)
    let body ← buildBody rng plan.minBodyBytes plan.maxBodyBytes
    return ⟨authorId, "Load test article " ++ toString (existing + place + 1), body⟩ :
      Draw rng NewArticle) (plan.bodyState rng place) = _
  rw [authorId]
  show (buildBody rng plan.minBodyBytes plan.maxBodyBytes (plan.bodyState rng place)).bind _ = _
  rw [plan.buildBody_eq]
  rfl

theorem Grown.refl (tables : Tables) : Grown tables tables [] :=
  ⟨rfl, [], (List.append_nil _).symm, rfl⟩

theorem Grown.trans {tables'' : Tables} {rows rows' : List NewArticle}
    (first : Grown tables tables' rows) (second : Grown tables' tables'' rows') :
    Grown tables tables'' (rows ++ rows') := by
  obtain ⟨added, same, rfl⟩ := first.articles
  obtain ⟨added', same', rfl⟩ := second.articles
  refine ⟨second.users.trans first.users, added ++ added', ?_, List.map_append⟩
  rw [same', same, List.append_assoc]

theorem Grown.insertArticles {ids : List ℤ} {rows : List NewArticle}
    (each : ids.length = rows.length) : Grown tables (tables.insertArticles ids rows) rows :=
  ⟨rfl, ids.zip rows, rfl, List.map_snd_zip each.ge⟩

theorem inserted_append (place count count' : ℕ) :
    inserted plan rng authorIds slots existing place (count + count') =
      inserted plan rng authorIds slots existing place count ++
        inserted plan rng authorIds slots existing (place + count) count' := by
  rw [inserted, inserted, inserted, ← List.map_append, List.range'_append_1]

/-- A batch continues the stream of the run, and the slots and titles of the dataset. -/
theorem Seeding.batch (seeding : Seeding plan rng tables authorIds slots) {place size : ℕ}
    (inside : existing + place + size ≤ plan.articles) :
    (List.range' place size).mapM (ContentPlatform.articleRow plan rng authorIds
        (slots.drop existing) existing) (plan.bodyState rng place) =
      .ok (inserted plan rng authorIds slots existing place size,
        plan.bodyState rng (place + size)) := by
  induction size generalizing place with
  | zero => rfl
  | succ size ih =>
      rw [List.range'_succ, List.mapM_cons]
      show (ContentPlatform.articleRow plan rng authorIds (slots.drop existing) existing place
        (plan.bodyState rng place)).bind _ = _
      rw [seeding.articleRow (by omega)]
      show ((List.range' (place + 1) size).mapM (ContentPlatform.articleRow plan rng authorIds
        (slots.drop existing) existing) (plan.bodyState rng (place + 1))).bind _ = _
      rw [ih (by omega), inserted, inserted, List.range'_succ, List.map_cons,
        show place + (size + 1) = place + 1 + size by omega]
      rfl

theorem Seeding.insertBatches_runs (seeding : Seeding plan rng tables authorIds slots)
    {batches : List ℕ} {created total : ℕ} {now : Tables}
    (inside : existing + created + batches.sum ≤ plan.articles)
    (run : Runs SeedOp.exec (insertBatches plan rng authorIds (slots.drop existing) existing batches
      created (plan.bodyState rng created)) now.opened (.ok total) s) :
    total = created + batches.sum ∧ ∃ tables', s = tables'.opened ∧
      Grown now tables' (inserted plan rng authorIds slots existing created batches.sum) := by
  induction batches generalizing created now with
  | nil =>
      cases run
      exact ⟨rfl, now, rfl, .refl now⟩
  | cons size rest ih =>
      rw [List.sum_cons] at inside ⊢
      rw [insertBatches, seeding.batch (by omega)] at run
      obtain ⟨batch, s₁, drawn, run⟩ := run.of_bind
      obtain ⟨same, rfl⟩ := drawn.of_ofExcept
      obtain rfl := Except.ok.inj same
      obtain ⟨_, s₂, stored, run⟩ := run.of_bind
      obtain ⟨ids, each, -, rfl⟩ := stored.of_reply
      obtain ⟨_, s₃, committed, run⟩ := run.of_bind
      obtain rfl := committed.of_reply
      obtain ⟨rfl, tables', rfl, grown⟩ := ih (by omega) run
      refine ⟨by omega, tables', rfl, ?_⟩
      rw [inserted_append]
      exact (Grown.insertArticles each).trans grown

theorem Seeding.insertBatches_cut (seeding : Seeding plan rng tables authorIds slots)
    {batches : List ℕ} {created : ℕ} {now : Tables}
    (inside : existing + created + batches.sum ≤ plan.articles)
    (cut : CutOff SeedOp.exec (insertBatches plan rng authorIds (slots.drop existing) existing batches
      created (plan.bodyState rng created)) now.opened s) :
    ∃ count ≤ batches.sum, Grown now s.committed
      (inserted plan rng authorIds slots existing created count) := by
  induction batches generalizing created now with
  | nil =>
      obtain rfl := cut.of_ret
      exact ⟨0, le_rfl, .refl now⟩
  | cons size rest ih =>
      rw [List.sum_cons] at inside ⊢
      have none : ∃ count ≤ size + rest.sum, Grown now now
          (inserted plan rng authorIds slots existing created count) :=
        ⟨0, Nat.zero_le _, .refl now⟩
      rw [insertBatches, seeding.batch (by omega)] at cut
      rcases cut.of_bind with drawn | ⟨batch, s₁, drawn, cut⟩
      · obtain rfl := drawn.of_ofExcept
        exact none
      obtain ⟨same, rfl⟩ := drawn.of_ofExcept
      obtain rfl := Except.ok.inj same
      rcases cut.of_bind with stored | ⟨_, s₂, stored, cut⟩
      · rcases stored.of_reply with rfl | ⟨_, _, _, _, rfl⟩ <;> exact none
      obtain ⟨ids, each, -, rfl⟩ := stored.of_reply
      have grown : Grown now (now.insertArticles ids _) _ := Grown.insertArticles each
      rcases cut.of_bind with committed | ⟨_, s₃, committed, cut⟩
      · rcases committed.of_reply with rfl | ⟨_, rfl⟩
        · exact none
        · exact ⟨size, Nat.le_add_right _ _, grown⟩
      obtain rfl := committed.of_reply
      obtain ⟨count, fewer, later⟩ := ih (by omega) cut
      refine ⟨size + count, by omega, ?_⟩
      rw [inserted_append]
      exact grown.trans later

end

/-! ## Runs -/

def SeedPlan.plannedSlots (plan : SeedPlan) (rng : PseudoRandom) : List ℕ :=
  match plan.authorSlots rng with
  | .ok slots => slots
  | .error _ => []

def segment (plan : SeedPlan) (rng : PseudoRandom) (existing count : ℕ) :
    List (ℕ × String × String) :=
  (List.range count).map (placed plan rng (plan.plannedSlots rng) existing)

section
variable {plan : SeedPlan} {rng : PseudoRandom} {tables tables' : Tables} {authorIds : List ℤ}
  {slots : List ℕ} {existing count : ℕ} {s : SeedStore}

theorem idOf_congr (same : tables'.users = tables.users) : tables'.idOf = tables.idOf := by
  funext email
  rw [Tables.idOf, Tables.idOf, same]

theorem AuthorIds.mem_users (sound : tables.Sound) (stored : AuthorIds plan tables authorIds)
    {authorId : ℤ} (member : authorId ∈ authorIds) : authorId ∈ tables.users.map Prod.fst := by
  have listed : some authorId ∈ plan.emails.map tables.idOf := by
    rw [stored]
    exact List.mem_map_of_mem member
  obtain ⟨email, -, found⟩ := List.mem_map.mp listed
  obtain ⟨user, there, rfl, -⟩ := sound.idOf_eq_some.mp found
  exact List.mem_map_of_mem there

theorem Seeding.author_mem (seeding : Seeding plan rng tables authorIds slots) (place : ℕ) :
    authorIds[slots.getD place 0]? = some (authorIds.getD (slots.getD place 0) 0) := by
  have inside : slots.getD place 0 < authorIds.length :=
    (seeding.slot_lt place).trans_eq seeding.stored.length.symm
  rw [List.getD_eq_getElem _ _ inside, List.getElem?_eq_getElem inside]

theorem Seeding.sound_grown (seeding : Seeding plan rng tables authorIds slots)
    (grown : Grown tables tables' (inserted plan rng authorIds slots existing 0 count)) :
    tables'.Sound := by
  obtain ⟨added, same, rows⟩ := grown.articles
  constructor
  · rw [grown.users]
    exact seeding.sound.ids
  · rw [grown.users]
    exact seeding.sound.emails
  · intro article member
    rw [grown.users]
    rw [same] at member
    rcases List.mem_append.mp member with old | new
    · exact seeding.sound.authors article old
    · have listed : article.2 ∈ inserted plan rng authorIds slots existing 0 count := by
        rw [← rows]
        exact List.mem_map_of_mem new
      obtain ⟨place, -, shape⟩ := List.mem_map.mp listed
      rw [← shape]
      apply seeding.stored.mem_users seeding.sound
      exact List.mem_of_getElem? (seeding.author_mem (existing + place))

theorem Seeding.dataset_grown (seeding : Seeding plan rng tables authorIds slots)
    (grown : Grown tables tables' (inserted plan rng authorIds slots existing 0 count)) :
    dataset plan tables' = dataset plan tables ++ segment plan rng existing count := by
  obtain ⟨added, same, rows⟩ := grown.articles
  have slotOf_same : slotOf plan tables' = slotOf plan tables := by
    funext id
    rw [slotOf, slotOf, idOf_congr grown.users]
  have planned : plan.plannedSlots rng = slots := by
    rw [SeedPlan.plannedSlots, seeding.planned]
  have parts : (inserted plan rng authorIds slots existing 0 count).filterMap
      (fun article => (slotOf plan tables article.authorId).map fun slot =>
        (slot, article.title, article.body)) = segment plan rng existing count := by
    rw [inserted, segment, planned, List.range_eq_range', List.filterMap_map,
      ← congrFun List.filterMap_eq_map]
    apply List.filterMap_congr
    intro place _
    have slot := (seeding.stored.slotOf seeding.sound).mpr (seeding.author_mem (existing + place))
    show (slotOf plan tables (articleBy authorIds (placed plan rng slots existing place)).authorId).map
      _ = _
    rw [articleBy, placed, slot]
    rfl
  rw [dataset, dataset, slotOf_same, same, List.map_append, List.filterMap_append, rows, parts]

/-- The query for the articles of the authors counts the dataset that the run found. -/
theorem Prepared.found (prepared : Prepared plan tables tables')
    (stored : AuthorIds plan tables' authorIds) :
    (tables'.articlesOf authorIds).length = (ContentPlatform.dataset plan tables).length := by
  rw [stored.count prepared.sound, prepared.dataset]

theorem segment_length (existing count : ℕ) : (segment plan rng existing count).length = count := by
  rw [segment, List.length_map, List.length_range]

/-- A run that completes brings the dataset to the planned length. -/
theorem seed_runs (sound : tables.Sound) {result : SeedResult}
    (few : (dataset plan tables).length ≤ plan.articles)
    (run : Runs SeedOp.exec (seed plan rng) tables.opened (.ok result) s) :
    s.committed.Sound ∧ plan.authorSlots rng = .ok (plan.plannedSlots rng) ∧
      dataset plan s.committed = dataset plan tables ++ segment plan rng
        (dataset plan tables).length (plan.articles - (dataset plan tables).length) ∧
      result.articlesCreated = plan.articles - (dataset plan tables).length ∧
      ∃ added, s.committed.articles = tables.articles ++ added ∧
        added.length = result.articlesCreated := by
  obtain ⟨⟨authorIds, created⟩, s₁, ensured, run⟩ := run.of_bind
  obtain ⟨tables₁, rfl, prepared, stored⟩ := ensureAuthors_runs sound ensured
  obtain ⟨existing, s₂, counted, run⟩ := run.of_bind
  obtain ⟨found, rfl⟩ := counted.of_reply
  have found : (dataset plan tables).length = existing := (prepared.found stored).symm.trans found.symm
  obtain ⟨batches, s₃, split, run⟩ := run.of_bind
  obtain ⟨batched, rfl⟩ := split.of_ofExcept
  obtain ⟨slots, s₄, drawn, run⟩ := run.of_bind
  obtain ⟨planned, rfl⟩ := drawn.of_ofExcept
  obtain ⟨total, s₅, looped, run⟩ := run.of_bind
  obtain ⟨bounds, s₆, asked, last⟩ := run.of_bind
  obtain ⟨-, rfl⟩ := asked.of_reply
  cases last
  have sum : batches.sum = plan.articles - existing :=
    planBatches_sum plan.batchSize_pos (found.symm.trans_le few) batched
  have seeding : Seeding plan rng tables₁ authorIds slots := ⟨prepared.sound, stored, planned⟩
  obtain ⟨rfl, tables', rfl, grown⟩ := seeding.insertBatches_runs (by omega) looped
  rw [sum] at grown ⊢
  have length : (inserted plan rng authorIds slots existing 0 (plan.articles - existing)).length =
      plan.articles - existing := by
    rw [inserted, List.length_map, List.length_range']
  obtain ⟨added, same, rows⟩ := grown.articles
  refine ⟨seeding.sound_grown grown, ?_, ?_, ?_, added, ?_, ?_⟩
  · rw [SeedPlan.plannedSlots, planned]
  · rw [found, ← prepared.dataset]
    exact seeding.dataset_grown grown
  · show 0 + (plan.articles - existing) = _
    rw [found, Nat.zero_add]
  · rw [← prepared.articles]
    exact same
  · rw [← List.length_map (f := Prod.snd), rows, length]
    exact (Nat.zero_add _).symm

/-- A run that is interrupted has added a part of what it would have. -/
theorem seed_cut (sound : tables.Sound) (few : (dataset plan tables).length ≤ plan.articles)
    (cut : CutOff SeedOp.exec (seed plan rng) tables.opened s) :
    s.committed.Sound ∧ ∃ count, (dataset plan tables).length + count ≤ plan.articles ∧
      dataset plan s.committed =
        dataset plan tables ++ segment plan rng (dataset plan tables).length count := by
  have none : ∀ {s : SeedStore}, Prepared plan tables s.committed →
      s.committed.Sound ∧ ∃ count, (dataset plan tables).length + count ≤ plan.articles ∧
        dataset plan s.committed =
          dataset plan tables ++ segment plan rng (dataset plan tables).length count := by
    intro s prepared
    refine ⟨prepared.sound, 0, few, ?_⟩
    rw [prepared.dataset]
    exact (List.append_nil _).symm
  rcases cut.of_bind with ensured | ⟨⟨authorIds, created⟩, s₁, ensured, cut⟩
  · exact none (ensureAuthors_cut sound ensured)
  obtain ⟨tables₁, rfl, prepared, stored⟩ := ensureAuthors_runs sound ensured
  rcases cut.of_bind with counted | ⟨existing, s₂, counted, cut⟩
  · rcases counted.of_reply with rfl | ⟨_, -, rfl⟩ <;> exact none prepared
  obtain ⟨found, rfl⟩ := counted.of_reply
  have found : (dataset plan tables).length = existing := (prepared.found stored).symm.trans found.symm
  rcases cut.of_bind with split | ⟨batches, s₃, split, cut⟩
  · obtain rfl := split.of_ofExcept
    exact none prepared
  obtain ⟨batched, rfl⟩ := split.of_ofExcept
  rcases cut.of_bind with drawn | ⟨slots, s₄, drawn, cut⟩
  · obtain rfl := drawn.of_ofExcept
    exact none prepared
  obtain ⟨planned, rfl⟩ := drawn.of_ofExcept
  have sum : batches.sum = plan.articles - existing :=
    planBatches_sum plan.batchSize_pos (found.symm.trans_le few) batched
  have seeding : Seeding plan rng tables₁ authorIds slots := ⟨prepared.sound, stored, planned⟩
  have grown : ∃ count ≤ batches.sum, Grown tables₁ s.committed
      (inserted plan rng authorIds slots existing 0 count) := by
    rcases cut.of_bind with looped | ⟨total, s₅, looped, cut⟩
    · exact seeding.insertBatches_cut (by omega) looped
    obtain ⟨-, tables', rfl, grown⟩ := seeding.insertBatches_runs (by omega) looped
    rcases cut.of_bind with asked | ⟨bounds, s₆, asked, cut⟩
    · rcases asked.of_reply with rfl | ⟨_, -, rfl⟩ <;> exact ⟨_, le_rfl, grown⟩
    obtain ⟨-, rfl⟩ := asked.of_reply
    obtain rfl := cut.of_ret
    exact ⟨_, le_rfl, grown⟩
  obtain ⟨count, fewer, grown⟩ := grown
  refine ⟨seeding.sound_grown grown, count, by omega, ?_⟩
  rw [found, ← prepared.dataset]
  exact seeding.dataset_grown grown

end

end ContentPlatform
