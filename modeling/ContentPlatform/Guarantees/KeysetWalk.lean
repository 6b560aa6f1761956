import ContentPlatform.Api.Pagination
import ContentPlatform.Guarantees.ListFreshness
import ContentPlatform.Schemas
import ContentPlatform.World.Paged
import ContentPlatform.World.Pages

/-!
# A walk along the cursors

Pages of a list, each asked for with the cursor of the page before, while articles are written and
whatever fails.
-/

set_option autoImplicit false

namespace ContentPlatform

open Program Protocol Text Keyset

/-! ## Pages of a run -/

section
variable {σ : Setting} {rt : Runtime} {w : World}

theorem Initial.answered_pages (distinct : σ.Distinct rt)
    (shrinks : ∀ w w', σ.env w w' → Shrinks w w')
    (app : App) (same : app.rt = rt) (serializes : rt.Serializes) (start : Initial w)
    (empty : Unstored w) {c : System} (run : σ.Reaches (app.start σ.requests w) c) {i : Pid}
    {limit : ℤ} {after : Option Position} {author : Option ℤ}
    (request : σ.requests i = .list limit after author) {page : Page}
    (answered : c.outcome i = some (.ok (.page page))) :
    PageOf limit after author page c.state := by
  have all : (σ.pages rt distinct shrinks).AllSafe (fun _ _ _ => True) (app.start σ.requests w) :=
    start.allPages empty app same
  have both : (σ.pages rt distinct shrinks).AllSafe (fun i outcome w => True ∧
      ∀ limit after author page, σ.requests i = .list limit after author →
        outcome = .ok (.page page) → PageOf limit after author page w)
      (app.start σ.requests w) := by
    refine all.of_wp (fun j => ?_) fun j outcome w w' holds moved => ?_
    · by_cases lists : ∃ limit after author, σ.requests j = .list limit after author
      · obtain ⟨limit', after', author', request'⟩ := lists
        have responds : Responds σ rt distinct shrinks j (app.serve (σ.requests j))
            (fun response w' => ∀ page, response = .page page → PageOf limit' after' author' page w')
            w := by
          rw [request']
          exact responds_serve request' app same serializes
        apply wp_mono responds
        rintro outcome w' ⟨-, holds⟩ limit after author page request rfl
        cases request'.symm.trans request
        exact holds _ rfl page rfl
      · apply wp_complete
        intro outcome w' _ limit after author page request _
        exact absurd ⟨limit, after, author, request⟩ lists
    · intro limit after author page request ended
      exact (holds limit after author page request ended).extends_ moved.1.db
  exact ((both.steps run).ended i _ answered).2 limit after author page request rfl

/-! ## Following a cursor -/

/-- The client is given the text of this position, and gives it back. -/
def Follows (next : Option Position) (after : Position) : Prop :=
  ∃ createdAt articleId cursor, next = some (createdAt, articleId) ∧
    encodeCursor createdAt articleId = .ok cursor ∧ decodeCursor cursor = .ok after

/-- A text that begins with a sign is no cursor. -/
theorem parseCursor_negative {rest : List Char} (ascii : ∀ c ∈ rest, c.toNat < 128) :
    parseCursor (cursorOf ('-' :: rest)) = none := by
  have each : ∀ c ∈ '-' :: rest, c.toNat < 128 := by
    intro c member
    rcases List.mem_cons.mp member with rfl | inside
    · decide
    · exact ascii c inside
  have octets : ∀ b ∈ ('-' :: rest).map Char.toNat, b < 256 := by
    intro b member
    obtain ⟨c, inside, rfl⟩ := List.mem_map.mp member
    have := each c inside
    omega
  have text : ((base64Encode (('-' :: rest).map Char.toNat)).rdropWhile (· = '=')).all
      (fun c => decide (c.toNat < 128)) = true := by
    rw [List.all_eq_true]
    intro c member
    rw [decide_eq_true_eq]
    exact base64Encode_ascii _ octets c
      ((List.rdropWhile_prefix (fun c => decide (c = '=')) _).subset member)
  have small : (('-' :: rest).map Char.toNat).all (fun b => decide (b < 128)) = true := by
    rw [List.all_eq_true]
    intro b member
    obtain ⟨c, inside, rfl⟩ := List.mem_map.mp member
    exact decide_eq_true (each c inside)
  have chars : (('-' :: rest).map Char.toNat).map Char.ofNat = '-' :: rest := by
    rw [List.map_map]
    exact List.map_id'' (fun c => Char.ofNat_toNat c) _
  have sign : allDigits (('-' :: rest).takeWhile (· ≠ ':')) = false := by
    rw [List.takeWhile_cons_of_pos (by decide)]
    rfl
  simp only [parseCursor, cursorOf, String.toList_ofList, text, padding_rdropWhile _ octets,
    base64Decode_encode _ octets, guard, if_true, Option.bind_eq_bind, Option.bind_some, small,
    chars]
  rw [if_neg]
  · rfl
  · rintro ⟨-, digits, -⟩
    rw [sign] at digits
    cases digits

/-- The position that is read back is the one that was written. -/
theorem Follows.same {next : Option Position} {after : Position} (follows : Follows next after)
    (positive : ∀ position, next = some position → 0 < position.2) : next = some after := by
  obtain ⟨createdAt, articleId, cursor, rfl, encoded, decoded⟩ := follows
  have short : articleId.natAbs < 10 ^ maxStrDigits := by
    by_contra long
    rw [encodeCursor_long createdAt (not_lt.mp long)] at encoded
    cases encoded
  rw [encodeCursor_short createdAt short] at encoded
  obtain rfl := Except.ok.inj encoded
  have natural := positive _ rfl
  by_cases afterEpoch : 0 ≤ createdAt.val
  · have magnitude : (articleId.natAbs : ℤ) = articleId := Int.natAbs_of_nonneg natural.le
    have readable : articleId < 10 ^ maxStrDigits := by
      rw [← magnitude]
      exact_mod_cast short
    rw [decodeCursor_cursorOf createdAt articleId afterEpoch natural readable] at decoded
    exact congrArg some (Except.ok.inj decoded)
  · obtain ⟨micros, before⟩ := Int.eq_negSucc_of_lt_zero (not_le.mp afterEpoch)
    have text : cursorText createdAt articleId =
        '-' :: (Nat.toDigits 10 (micros + 1) ++ ':' :: intChars articleId) := by
      rw [cursorText, DateTime.epochMicros_eq, before, intChars_of_neg]
      rfl
    have ascii := cursorText_ascii createdAt articleId
    rw [text] at ascii decoded
    rw [decodeCursor, parseCursor_negative fun c member =>
      ascii c (List.mem_cons_of_mem _ member)] at decoded
    cases decoded

/-! ## The walk -/

/-- Requests of a run that were answered with pages, each asked for with the cursor of the page
before. -/
def Followed (σ : Setting) (c : System) (limit : ℤ) (author : Option ℤ) :
    Option Position → List (Pid × Page) → Prop
  | _, [] => True
  | after, (i, page) :: rest => σ.requests i = .list limit after author ∧
      c.outcome i = some (.ok (.page page)) ∧
      (rest = [] ∨ ∃ position, Follows page.2 position ∧
        Followed σ c limit author (some position) rest)

def VisitOf (σ : Setting) (db : Database) (limit : ℤ) (author : Option ℤ) (visit : Pid × Page)
    (n : ℕ) : Prop :=
  n ≤ db.version ∧ ∃ after, σ.requests visit.1 = .list limit after author ∧
    (db.history n).Shows limit after author visit.2

def visitStep (db : Database) (author : Option ℤ) (visit : Pid × Page) (n : ℕ) : Fetched PageKey :=
  ⟨(db.history n).pageKeys author, visit.2.1.map ArticleSummaryOut.key, nextKey visit.2.2⟩

def visited (walk : List (Pid × Page)) : List ArticleSummaryOut := walk.flatMap fun visit => visit.2.1

/-- The last key of a page is that of an article. -/
theorem Table.Shows.next_positive {table : Table} {limit : ℤ} {after : Option Position}
    {author : Option ℤ} {page : Page} (shows_ : table.Shows limit after author page)
    (positive : 1 ≤ limit) {position : Position} (same : page.2 = some position) :
    0 < position.2 := by
  have is_page := shows_.is_page positive
  obtain ⟨⟨row, member, -, key⟩, -⟩ :=
    is_page.sound _ (is_page.last position.key (by rw [nextKey, same]; rfl))
  have id : row.id = position.2 := congrArg (fun k : PageKey => (ofLex k).2) key
  rw [← id]
  exact table.positive row member

theorem Followed.walk {c : System} {limit : ℤ} {author : Option ℤ} (positive : 1 ≤ limit)
    (pages : ∀ i after page, σ.requests i = .list limit after author →
      c.outcome i = some (.ok (.page page)) → PageOf limit after author page c.state)
    {after : Option Position} {walk : List (Pid × Page)}
    (followed : Followed σ c limit author after walk) :
    ∃ versions, List.Forall₂ (VisitOf σ c.state.db limit author) walk versions ∧
      Walk (nextKey after) (List.zipWith (visitStep c.state.db author) walk versions) := by
  induction walk generalizing after with
  | nil => exact ⟨[], .nil, trivial⟩
  | cons visit rest ih =>
      obtain ⟨i, page⟩ := visit
      obtain ⟨request, answered, onward⟩ := followed
      obtain ⟨n, past, shown⟩ := pages i after page request answered
      rcases onward with rfl | ⟨position, follows, followed⟩
      · exact ⟨[n], .cons ⟨past, after, request, shown⟩ .nil, shown.is_page positive, Or.inl rfl⟩
      · obtain ⟨versions, loaded, walk⟩ := ih followed
        have next := follows.same fun _ same => shown.next_positive positive same
        refine ⟨n :: versions, .cons ⟨past, after, request, shown⟩ loaded, shown.is_page positive,
          Or.inr ⟨position.key, ?_, walk⟩⟩
        rw [show (visitStep c.state.db author (i, page) n).next = nextKey page.2 from rfl, next]
        rfl

theorem read_visits {db : Database} {limit : ℤ} {author : Option ℤ} {walk : List (Pid × Page)}
    {versions : List ℕ} (loaded : List.Forall₂ (VisitOf σ db limit author) walk versions) :
    keysRead (List.zipWith (visitStep db author) walk versions) =
      (visited walk).map ArticleSummaryOut.key := by
  induction loaded with
  | nil => rfl
  | cons _ _ ih =>
      rw [List.zipWith_cons_cons, keysRead, List.flatMap_cons, visited, List.flatMap_cons, List.map_append]
      exact congrArg _ ih

def Finished (walk : List (Pid × Page)) : Prop :=
  ∃ last, walk.getLast? = some last ∧ last.2.2 = none

/-- What the pages of a walk are together, that were loaded from these committed states. -/
structure Walked (db : Database) (author : Option ℤ) (walk : List (Pid × Page))
    (versions : List ℕ) : Prop where
  /-- The articles descend in `(created_at, id)`, from page to page too. -/
  descends : (visited walk).Pairwise fun item later => later.key < item.key
  distinct : ((visited walk).map ArticleSummaryOut.id).Nodup
  /-- An article that is on the list in all the states is there once by the end. -/
  complete : Finished walk → ∀ id, (∀ n ∈ versions, ∃ row, (db.history n).find id = some row ∧
    row.Listed author) → ((visited walk).map ArticleSummaryOut.id).count id = 1
  /-- In the state of the last page nothing on the list is below what was read. -/
  bottom : Finished walk → ∀ n, versions.getLast? = some n → ∀ row ∈ (db.history n).rows,
    row.Listed author → ∃ item ∈ visited walk, item.key ≤ row.key

theorem summary_id {item : ArticleSummaryOut} {row : ArticleRow} (same : row.key = item.key) :
    row.id = item.id := congrArg (fun k : PageKey => (ofLex k).2) same

/-- An article has one key, in all committed states. -/
theorem key_lasts {requests : Pid → Request} {db : Database} (kept : Coherent requests db) {m n : ℕ}
    (pastM : m ≤ db.version) (pastN : n ≤ db.version) {id : ℤ} {old new : ArticleRow}
    (foundM : (db.history m).find id = some old) (foundN : (db.history n).find id = some new) :
    old.key = new.key := by
  have forward : ∀ {m n : ℕ} {old new : ArticleRow}, m ≤ n → n ≤ db.version →
      (db.history m).find id = some old → (db.history n).find id = some new → old.key = new.key := by
    intro m n old new order past foundM foundN
    obtain ⟨later, found, descends⟩ := kept.descends order past foundM
    obtain rfl := Option.some.inj (found.symm.trans foundN)
    rw [ArticleRow.key, ArticleRow.key, descends.id, descends.createdAt]
  rcases le_total m n with order | order
  · exact forward order pastN foundM foundN
  · exact (forward order pastM foundN foundM).symm

theorem VisitOf.keys {c : System} {limit : ℤ} {author : Option ℤ} {walk : List (Pid × Page)}
    {versions : List ℕ}
    (loaded : List.Forall₂ (VisitOf σ c.state.db limit author) walk versions)
    (positive : 1 ≤ limit) :
    ∀ item ∈ visited walk, ∃ n ≤ c.state.db.version, ∃ row ∈ (c.state.db.history n).rows,
      row.key = item.key := by
  intro item member
  obtain ⟨visit, inside, listed⟩ := List.mem_flatMap.mp member
  clear member
  induction loaded with
  | nil => cases inside
  | @cons first n rest versions here _ ih =>
      rcases List.mem_cons.mp inside with rfl | later
      · obtain ⟨past, after, -, shown⟩ := here
        obtain ⟨⟨row, among, -, key⟩, -⟩ :=
          (shown.is_page positive).sound item.key (List.mem_map_of_mem listed)
        exact ⟨n, past, row, among, key⟩
      · exact ih later

theorem mem_visitSteps {db : Database} {limit : ℤ} {author : Option ℤ} {walk : List (Pid × Page)}
    {versions : List ℕ} (loaded : List.Forall₂ (VisitOf σ db limit author) walk versions)
    {step : Fetched PageKey} (member : step ∈ List.zipWith (visitStep db author) walk versions) :
    ∃ n ∈ versions, n ≤ db.version ∧ step.keys = (db.history n).pageKeys author := by
  induction loaded with
  | nil => cases member
  | @cons visit n rest versions here _ ih =>
      rw [List.zipWith_cons_cons] at member
      rcases List.mem_cons.mp member with rfl | later
      · exact ⟨n, List.mem_cons_self .., here.1, rfl⟩
      · obtain ⟨m, inside, rest⟩ := ih later
        exact ⟨m, List.mem_cons_of_mem n inside, rest⟩

theorem getLast_visitSteps {db : Database} {limit : ℤ} {author : Option ℤ}
    {walk : List (Pid × Page)}
    {versions : List ℕ} (loaded : List.Forall₂ (VisitOf σ db limit author) walk versions)
    {last : Pid × Page} (ends : walk.getLast? = some last) :
    ∃ n, versions.getLast? = some n ∧ n ≤ db.version ∧
      (List.zipWith (visitStep db author) walk versions).getLast? = some (visitStep db author last n) := by
  induction loaded with
  | nil => cases ends
  | @cons visit n rest versions here tail ih =>
      cases tail with
      | nil =>
          obtain rfl : visit = last := Option.some.inj ends
          exact ⟨n, rfl, here.1, rfl⟩
      | cons _ _ =>
          rw [List.getLast?_cons_cons] at ends
          obtain ⟨m, ends', past, steps⟩ := ih ends
          exact ⟨m, by rw [List.getLast?_cons_cons, ends'], past, by
            rw [List.zipWith_cons_cons, List.zipWith_cons_cons, List.getLast?_cons_cons]
            exact steps⟩

theorem Walked.of_walk {c : System} {limit : ℤ} {author : Option ℤ} (positive : 1 ≤ limit)
    (kept : Coherent σ.requests c.state.db) {walk : List (Pid × Page)} {versions : List ℕ}
    (loaded : List.Forall₂ (VisitOf σ c.state.db limit author) walk versions)
    (goes : Walk none (List.zipWith (visitStep c.state.db author) walk versions)) :
    Walked c.state.db author walk versions := by
  have keys := read_visits loaded
  have descends := goes.descends
  rw [keys, List.pairwise_map] at descends
  have distinct : ((visited walk).map ArticleSummaryOut.id).Nodup := by
    rw [List.Nodup, List.pairwise_map]
    refine descends.imp_of_mem fun {item other} here there under same => ?_
    obtain ⟨m, pastM, row, inside, key⟩ := VisitOf.keys loaded positive item here
    obtain ⟨n, pastN, row', inside', key'⟩ := VisitOf.keys loaded positive other there
    have one := key_lasts kept pastM pastN (Table.find_some.mpr ⟨inside, summary_id key⟩)
      (Table.find_some.mpr ⟨inside', (summary_id key').trans same.symm⟩)
    rw [key, key'] at one
    exact under.ne' one
  refine ⟨descends, distinct, fun finished id stays => ?_, fun finished n ends row inside listed => ?_⟩
  · obtain ⟨last, ends, done⟩ := finished
    obtain ⟨n, ended, pastN, steps⟩ := getLast_visitSteps loaded ends
    obtain ⟨row, found, listed⟩ := stays n (List.mem_of_getLast? ended)
    have member : row.key ∈ keysRead (List.zipWith (visitStep c.state.db author) walk versions) := by
      apply goes.complete
      · intro step among
        obtain ⟨m, inside, past, same⟩ := mem_visitSteps loaded among
        obtain ⟨other, found', listed'⟩ := stays m inside
        rw [same]
        exact ⟨other, (Table.find_some.mp found').1, listed',
          key_lasts kept past pastN found' found⟩
      · exact below_none _
      · rw [ending, steps]
        show DownTo (nextKey last.2.2) row.key
        rw [done]
        exact downTo_none _
      · intro none_
        rw [none_] at steps
        cases steps
    rw [keys, List.mem_map] at member
    obtain ⟨item, among, key⟩ := member
    apply List.count_eq_one_of_mem distinct
    rw [List.mem_map]
    exact ⟨item, among, (summary_id key.symm).symm.trans (Table.find_id found)⟩
  · obtain ⟨last, ends', done⟩ := finished
    obtain ⟨m, ended, -, steps⟩ := getLast_visitSteps loaded ends'
    obtain rfl := Option.some.inj (ended.symm.trans ends)
    obtain ⟨k, member, least⟩ := goes.bottom (below_none row.key) steps
      (by show nextKey last.2.2 = none; rw [done]; rfl) ⟨row, inside, listed, rfl⟩
    rw [keys, List.mem_map] at member
    obtain ⟨item, among, rfl⟩ := member
    exact ⟨item, among, least⟩

def Endless (σ : Setting) (app : App) (w : World) (limit : ℤ) (author : Option ℤ)
    (visit : ℕ → Pid) (after : ℕ → Option Position) : Prop :=
  ∀ k, σ.requests (visit k) = .list limit (after k) author ∧ ∃ c page position,
    σ.Reaches (app.start σ.requests w) c ∧ c.outcome (visit k) = some (.ok (.page page)) ∧
    Follows page.2 position ∧ after (k + 1) = some position

def keyRank (k : PageKey) : ℕ ×ₗ ℕ :=
  toLex (((ofLex k).1 - minMicros).toNat, (ofLex k).2.toNat)

theorem keyRank_lt {position other : Position} (positive : 0 < other.2)
    (less : position.key < other.key) : keyRank position.key < keyRank other.key := by
  rw [Position.key, Position.key, Prod.Lex.toLex_lt_toLex] at less
  rw [keyRank, keyRank, Prod.Lex.toLex_lt_toLex]
  have low := position.1.property.1
  have low' := other.1.property.1
  show (position.1.val - minMicros).toNat < (other.1.val - minMicros).toNat ∨
    (position.1.val - minMicros).toNat = (other.1.val - minMicros).toNat ∧
      position.2.toNat < other.2.toNat
  rcases less with earlier | ⟨same, smaller⟩
  · left
    have earlier : position.1.val < other.1.val := earlier
    omega
  · right
    have same : position.1.val = other.1.val := same
    have smaller : position.2 < other.2 := smaller
    rw [same]
    exact ⟨rfl, by omega⟩

/-- However requests interleave, whatever fails and whatever expires: the pages of a walk along the
cursors are pages of committed states, together they descend without a repetition, a finished walk
has everything that stayed on the list, and no walk goes on for ever. -/
theorem keyset_walk (σ : Setting) (shrinks : ∀ w w', σ.env w w' → Shrinks w w') (app : App)
    (distinct : σ.Distinct app.rt) (serializes : app.rt.Serializes) (start : Initial w)
    (empty : Unstored w) {limit : ℤ} (positive : 1 ≤ limit) (author : Option ℤ) :
    (∀ c, σ.Reaches (app.start σ.requests w) c → ∀ walk, Followed σ c limit author none walk →
      ∃ versions, List.Forall₂ (VisitOf σ c.state.db limit author) walk versions ∧
        Walked c.state.db author walk versions) ∧
    ∀ visit after, ¬Endless σ app w limit author visit after := by
  have pages : ∀ c, σ.Reaches (app.start σ.requests w) c → ∀ i after page,
      σ.requests i = .list limit after author → c.outcome i = some (.ok (.page page)) →
      PageOf limit after author page c.state := fun c run i after page request answered =>
    start.answered_pages distinct shrinks app rfl serializes empty run request answered
  refine ⟨fun c run walk followed => ?_, fun visit after endless => ?_⟩
  · obtain ⟨versions, loaded, goes⟩ := followed.walk positive (pages c run)
    have kept := ((start.allSafe (σ := σ) app).steps run).inv
    exact ⟨versions, loaded, Walked.of_walk positive kept loaded goes⟩
  · have each : ∀ k, ∃ (keys : Set PageKey) (page : List PageKey) (position : Position),
        IsPage keys (nextKey (after k)) page (some position.key) ∧ 0 < position.2 ∧
          after (k + 1) = some position := by
      intro k
      obtain ⟨request, c, page, position, run, answered, follows, next⟩ := endless k
      obtain ⟨n, -, shown⟩ := pages c run (visit k) (after k) page request answered
      have natural := fun (position : Position) (same : page.2 = some position) =>
        shown.next_positive positive same
      have same := follows.same natural
      have is_page := shown.is_page positive
      rw [same] at is_page
      exact ⟨_, _, position, is_page, natural position same, next⟩
    choose keys page position each using each
    refine no_endless_walk (K := PageKey) keyRank (fun k => (each k).1) (fun k => ?_)
      fun m n less => keyRank_lt (each n).2.1 less
    rw [(each k).2.2]
    rfl

end

/-- SHA-256 of the filters of two pages of one article each. -/
def pageHashes (text : String) : String :=
  if text = "l1:none" then "6249669c411fe398dcf7a7d62a4e473c2452bdb28cd19b543e1bb46239c01db1"
  else "16ed4a21c62f93cd628c824c635b01af572dc9c94e22fe3b7df988ade44a86d7"

def twoListed : Table :=
  editedArticle.put ⟨2, 1, "second", "text", instant 1, instant 1, none⟩

def twoPages : List Request := [.list 1 none none, .list 1 (some (instant 1, 2)) none]

theorem twoPages_window {i : Pid} {limit : ℤ} {after : Option Position} {author : Option ℤ}
    (request : requestsOf twoPages i = .list limit after author) :
    limit = 1 ∧ (after = none ∨ after = some (instant 1, 2)) := by
  rcases i with _ | _ | i <;> cases request
  · exact ⟨rfl, Or.inl rfl⟩
  · exact ⟨rfl, Or.inr rfl⟩

theorem twoPages_distinct :
    (Setting.free (requestsOf twoPages)).Distinct (defaultRuntime pageHashes) := by
  have apart : filterHash (defaultRuntime pageHashes) 1 (cursorParts none) ≠
      filterHash (defaultRuntime pageHashes) 1 (cursorParts (some (instant 1, 2))) := by
    decide
  intro i j limit limit' after after' author first second same
  obtain ⟨rfl, rfl | rfl⟩ := twoPages_window first
  · obtain ⟨rfl, rfl | rfl⟩ := twoPages_window second
    · exact ⟨rfl, rfl⟩
    · exact absurd same apart
  · obtain ⟨rfl, rfl | rfl⟩ := twoPages_window second
    · exact absurd same.symm apart
    · exact ⟨rfl, rfl⟩

theorem any_answeredPage {c : System} {i : Pid} {check : Page → Bool}
    (facts : (answeredPage c i).any check = true) :
    ∃ page, c.outcome i = some (.ok (.page page)) ∧ check page = true := by
  cases ended : answeredPage c i with
  | none => rw [ended] at facts; cases facts
  | some page =>
      rw [ended] at facts
      exact ⟨page, outcome_of_answeredPage ended, facts⟩

/-- Two pages of a run that are a whole walk. -/
theorem keyset_walk_of_two_pages : ∃ c walk versions,
    (Setting.free (requestsOf twoPages)).Reaches
      (App.start ⟨defaultRuntime pageHashes, true⟩ (requestsOf twoPages)
        (World.fresh twoListed 3 [ann])) c ∧
      Followed (Setting.free (requestsOf twoPages)) c 1 none none walk ∧ Finished walk ∧
      (visited walk).map ArticleSummaryOut.id = [2, 1] ∧
      Walked c.state.db none walk versions := by
  obtain ⟨c, run, facts⟩ := (Setting.free (requestsOf twoPages)).exists_replay
    (fun _ _ _ _ => true) (fun _ _ _ _ _ => trivial)
    (App.start ⟨defaultRuntime pageHashes, true⟩ (requestsOf twoPages)
      (World.fresh twoListed 3 [ann]))
    (turns 0 26 {} ++ turns 1 26 {})
    (fun c => (answeredPage c 0).any (fun page => page.1.map ArticleSummaryOut.id = [2] &&
        page.2 = some (instant 1, 2)) &&
      (answeredPage c 1).any (fun page => page.1.map ArticleSummaryOut.id = [1] && page.2 = none))
    (by decide +kernel)
  rw [Bool.and_eq_true] at facts
  obtain ⟨first, ended, holds⟩ := any_answeredPage facts.1
  obtain ⟨second, ended', holds'⟩ := any_answeredPage facts.2
  simp only [Bool.and_eq_true, decide_eq_true_eq] at holds holds'
  have followed : Followed (Setting.free (requestsOf twoPages)) c 1 none none
      [(0, first), (1, second)] := by
    have follows : Follows first.2 (instant 1, 2) :=
      ⟨instant 1, 2, cursorOf (cursorText (instant 1) 2), holds.2,
        encodeCursor_short (instant 1) (by decide +kernel),
        decodeCursor_cursorOf (instant 1) 2 (by decide) (by decide) (by decide +kernel)⟩
    exact ⟨rfl, ended, Or.inr ⟨(instant 1, 2), follows, rfl, ended', Or.inl rfl⟩⟩
  have start : Initial (World.fresh twoListed 3 [ann]) := World.fresh_initial _ (by decide)
  have walks := (keyset_walk (Setting.free (requestsOf twoPages)) (fun _ _ => Expires.shrinks)
    ⟨defaultRuntime pageHashes, true⟩ twoPages_distinct (defaultRuntime_serializes pageHashes)
    start ⟨fun _ => rfl⟩ (le_refl 1) none).1
  obtain ⟨versions, -, walked⟩ := walks c run _ followed
  refine ⟨c, _, versions, run, followed, ⟨(1, second), rfl, holds'.2⟩, ?_, walked⟩
  rw [visited, List.flatMap_cons, List.flatMap_singleton, List.map_append, holds.1, holds'.1]
  rfl

end ContentPlatform
