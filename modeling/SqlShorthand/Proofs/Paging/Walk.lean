import SqlShorthand.Paging
import SqlShorthand.Proofs.Text

/-!
# Proofs/Paging/Walk — paging visits every row exactly once

The pages of a query are its rows cut into blocks, and the page after a block is named exactly when
rows remain beyond it.  Two statements:

* `visit_eq` — one page, wherever it lies: its rows, and the numbers of its neighbours;
* `exists_walk` — a walk that follows these numbers takes up the rows where it stands and ends when
  none are left.

The engine is that the offset may saturate without harm: no query has that many rows
(`drop_offset`).
-/

namespace SqlShorthand.Paging

variable {α : Type} {p q : Paging} {fetch : String → List α} {sql : String} {rows : List α}

/-! ## One page -/

/-- The numbers that the setters let through. -/
structure Valid (p : Paging) : Prop where
  rpp_pos : 1 ≤ p.rpp
  rpp_lt : p.rpp < 2 ^ 63
  page_pos : 1 ≤ p.page
  page_lt : p.page < 2 ^ 63

/-- The backend has these rows for a query, and gives the `n` after the first `o` of them when the
query ends in `LIMIT o, n`. -/
def Limits (fetch : String → List α) (sql : String) (rows : List α) : Prop :=
  ∀ o n, o ≤ maxRow → n ≤ maxRow →
    fetch (Statement.appendLimit sql (toString o ++ ", " ++ toString n)) = (rows.drop o).take n

/-- Fetches the current page. -/
def visit (p : Paging) (fetch : String → List α) (sql : String) : Except Error (List α × Page) :=
  match p.prepare sql with
  | .ok (text, window) => .ok (window.finalize (fetch text))
  | .error e => .error e

/-- How many rows the pages before the current one show. -/
def before (p : Paging) : Nat := (p.page - 1) * p.rpp

/-- The rows of the current page: as many as a page shows, after those of the pages before. -/
def block (p : Paging) (rows : List α) : List α := (rows.drop p.before).take p.rpp

/-- Rows remain beyond the current page. -/
def hasMore (p : Paging) (rows : List α) : Prop := p.page * p.rpp < rows.length

instance (p : Paging) (rows : List α) : Decidable (p.hasMore rows) :=
  inferInstanceAs (Decidable (_ < _))

theorem before_add_rpp (hp : p.Valid) : p.before + p.rpp = p.page * p.rpp := by
  rw [before, ← Nat.succ_mul, Nat.succ_eq_add_one, Nat.sub_add_cancel hp.page_pos]

/-- An offset that saturates is beyond the end all the same. -/
theorem drop_offset (p : Paging) (hrows : rows.length < 2 ^ 63) :
    rows.drop p.window.offset = rows.drop p.before := by
  have hoffset : p.window.offset = min p.before maxRow := rfl
  rcases Nat.le_total p.before maxRow with hle | hge
  · rw [hoffset, Nat.min_eq_left hle]
  · have hmax : rows.length ≤ maxRow := by
      rw [maxRow]
      omega
    rw [hoffset, Nat.min_eq_right hge, List.drop_eq_nil_of_le hmax,
      List.drop_eq_nil_of_le (hmax.trans hge)]

/-- The rows that are fetched for a page: its block, and one row more if there is one. -/
theorem fetch_limit (hp : p.Valid) (hfetch : Limits fetch sql rows)
    (hrows : rows.length < 2 ^ 63) :
    fetch (Statement.appendLimit sql p.window.limit) = (rows.drop p.before).take (p.rpp + 1) := by
  have hcount : min (p.rpp + 1) maxRow = p.rpp + 1 := by
    have := hp.rpp_lt
    rw [maxRow]
    omega
  have hlimit : p.window.limit = toString p.window.offset ++ ", " ++ toString (p.rpp + 1) := by
    rw [← hcount]
    rfl
  have hoffset : p.window.offset ≤ maxRow := Nat.min_le_right _ _
  rw [hlimit, hfetch _ _ hoffset (hcount ▸ Nat.min_le_right _ _), drop_offset p hrows]

/-- **A page is its block**, and names its neighbours. -/
theorem visit_eq (hp : p.Valid) (hsql : Statement.hasLimit sql = false)
    (hfetch : Limits fetch sql rows) (hrows : rows.length < 2 ^ 63) :
    ∃ page : Page, p.visit fetch sql = .ok (p.block rows, page) ∧
      page.next = (if p.hasMore rows then p.page + 1 else 0) ∧ page.prev = p.page - 1 := by
  have hvisit : p.visit fetch sql
      = .ok (p.window.finalize ((rows.drop p.before).take (p.rpp + 1))) := by
    rw [visit, prepare, hsql, ← fetch_limit hp hfetch hrows]
    rfl
  refine ⟨_, hvisit.trans (congrArg Except.ok (Prod.ext ?_ rfl)), ?_, ?_⟩
  · exact (List.take_take ..).trans (congrArg (List.take · _) (by simp [window]))
  · have hmore : p.rpp < ((rows.drop p.before).take (p.rpp + 1)).length ↔ p.hasMore rows := by
      rw [List.length_take, List.length_drop, hasMore, ← before_add_rpp hp]
      omega
    exact if_congr hmore rfl rfl
  · have := hp.page_pos
    change (if p.page > 1 then p.page - 1 else 0) = p.page - 1
    split_ifs <;> omega

/-! ## From page to page -/

/-- **A walk**: the pages from the current one on, each found by setting the page to the number that
the one before it names as the next, until none is named. -/
inductive Walk (fetch : String → List α) (sql : String) : Paging → List (List α) → Prop where
  | last {p : Paging} {block : List α} {page : Page}
      (hvisit : p.visit fetch sql = .ok (block, page)) (hnext : page.next = 0) :
      Walk fetch sql p [block]
  | next {p q : Paging} {block : List α} {page : Page} {blocks : List (List α)}
      (hvisit : p.visit fetch sql = .ok (block, page)) (hnext : page.next ≠ 0)
      (hset : p.setPage (.ofNat page.next) = (true, q)) (hrest : Walk fetch sql q blocks) :
      Walk fetch sql p (block :: blocks)

/-- There is one way to walk. -/
theorem Walk.unique {blocks blocks' : List (List α)} (h : Walk fetch sql p blocks)
    (h' : Walk fetch sql p blocks') : blocks' = blocks := by
  induction h generalizing blocks' with
  | last hvisit hnext =>
    rcases h' with ⟨hvisit', -⟩ | ⟨hvisit', hnext', -, -⟩
    · cases hvisit.symm.trans hvisit'
      rfl
    · cases hvisit.symm.trans hvisit'
      exact absurd hnext hnext'
  | next hvisit hnext hset _ ih =>
    rcases h' with ⟨hvisit', hnext'⟩ | ⟨hvisit', -, hset', hrest'⟩
    · cases hvisit.symm.trans hvisit'
      exact absurd hnext' hnext
    · cases hvisit.symm.trans hvisit'
      cases hset.symm.trans hset'
      rw [ih hrest']

/-- The setter takes every page number in range. -/
theorem setPage_ofNat (p : Paging) {n : Nat} (hpos : 1 ≤ n) (hlt : n < 2 ^ 63) :
    p.setPage (.ofNat n) = (true, { p with page := n }) := by
  have hint : (Int64.ofNat n).toInt = n := Int64.toInt_ofNat_of_lt hlt
  have hone : ¬Int64.ofNat n < 1 := by
    rw [Int64.lt_iff_toInt_lt, hint, Int64.toInt_one]
    omega
  rw [setPage, if_neg hone, hint, Int.toNat_natCast]

/-- Beyond a page that rows remain after, the next page is in range, and starts after its block. -/
theorem Valid.next (hp : p.Valid) (hmore : p.hasMore rows) (hrows : rows.length < 2 ^ 63) :
    { p with page := p.page + 1 }.Valid := by
  refine ⟨hp.rpp_pos, hp.rpp_lt, Nat.le_add_left _ _, ?_⟩
  have hpages : p.page * 1 ≤ p.page * p.rpp := Nat.mul_le_mul_left _ hp.rpp_pos
  rw [hasMore] at hmore
  change p.page + 1 < _
  omega

theorem add_ceilDiv_self (n : Nat) {size : Nat} (hsize : 1 ≤ size) :
    (n + size) ⌈/⌉ size = n ⌈/⌉ size + 1 := by
  rw [Nat.ceilDiv_eq_add_pred_div, Nat.ceilDiv_eq_add_pred_div, ← Nat.add_div_right _ hsize]
  congr 1
  omega

/-- One block more is left before a page than after it. -/
theorem max_ceilDiv_of_hasMore (hp : p.Valid) (hmore : p.hasMore rows) :
    max 1 ((rows.drop p.before).length ⌈/⌉ p.rpp) =
      max 1 ((rows.drop (p.before + p.rpp)).length ⌈/⌉ p.rpp) + 1 := by
  rw [hasMore, ← before_add_rpp hp] at hmore
  have hleft : (rows.drop p.before).length = (rows.drop (p.before + p.rpp)).length + p.rpp := by
    rw [List.length_drop, List.length_drop]
    omega
  have hsome : 0 < (rows.drop (p.before + p.rpp)).length ⌈/⌉ p.rpp := by
    rw [← not_le, ceilDiv_le_iff_le_mul hp.rpp_pos, List.length_drop]
    omega
  rw [hleft, add_ceilDiv_self _ hp.rpp_pos]
  omega

/-- On the last page, one block is left. -/
theorem max_ceilDiv_of_not_hasMore (hp : p.Valid) (hmore : ¬p.hasMore rows) :
    max 1 ((rows.drop p.before).length ⌈/⌉ p.rpp) = 1 := by
  rw [hasMore, ← before_add_rpp hp] at hmore
  have hone : (rows.drop p.before).length ⌈/⌉ p.rpp ≤ 1 := by
    rw [ceilDiv_le_iff_le_mul hp.rpp_pos, List.length_drop]
    omega
  exact Nat.max_eq_left hone

/-- **A walk takes up the rows where it stands**, and ends when none are left. -/
theorem exists_walk (hsql : Statement.hasLimit sql = false) (hfetch : Limits fetch sql rows)
    (hrows : rows.length < 2 ^ 63) (p : Paging) (hp : p.Valid) :
    ∃ blocks, Walk fetch sql p blocks ∧
      blocks.length = max 1 ((rows.drop p.before).length ⌈/⌉ p.rpp) ∧
      blocks.flatten = rows.drop p.before := by
  -- Every further page leaves fewer rows beyond it.
  induction hleft : rows.length - p.page * p.rpp using Nat.strong_induction_on generalizing p with
  | _ left ih =>
    obtain ⟨page, hvisit, hnext, -⟩ := visit_eq hp hsql hfetch hrows
    by_cases hmore : p.hasMore rows
    · let q : Paging := { p with page := p.page + 1 }
      have hq : q.Valid := hp.next hmore hrows
      have hbefore : q.before = p.before + p.rpp := by
        rw [before_add_rpp hp]
        rfl
      have hfewer : rows.length - q.page * q.rpp < left := by
        have hmul : q.page * q.rpp = p.page * p.rpp + p.rpp := Nat.succ_mul _ _
        have := hp.rpp_pos
        rw [hasMore] at hmore
        omega
      obtain ⟨blocks, hwalk, hlength, hflatten⟩ := ih _ hfewer q hq rfl
      rw [if_pos hmore] at hnext
      refine ⟨p.block rows :: blocks, .next hvisit (by omega) ?_ hwalk, ?_, ?_⟩
      · rw [hnext]
        exact setPage_ofNat p hq.page_pos hq.page_lt
      · rw [List.length_cons, hlength, hbefore, max_ceilDiv_of_hasMore hp hmore]
      · rw [List.flatten_cons, hflatten, hbefore, block, ← List.drop_drop, List.take_append_drop]
    · rw [if_neg hmore] at hnext
      refine ⟨[p.block rows], .last hvisit hnext, ?_, ?_⟩
      · rw [max_ceilDiv_of_not_hasMore hp hmore, List.length_singleton]
      · rw [hasMore, ← before_add_rpp hp] at hmore
        rw [List.flatten_singleton, block, List.take_of_length_le]
        rw [List.length_drop]
        omega

/-- **Paging visits every row exactly once.**  Of a query without a LIMIT, over a backend that
honours one, every page is its block of the rows — empty beyond their end — and names the next page
exactly if rows remain beyond it, and the one before; and the walk from the first page ends after
the blocks that the rows make, one at least, which together are the rows. -/
theorem walk_visits_every_row_once (fetch : String → List α) (sql : String) (rows : List α)
    (hsql : Statement.hasLimit sql = false) (hfetch : Limits fetch sql rows)
    (hrows : rows.length < 2 ^ 63) (p : Paging) (hp : p.Valid) :
    (∃ page : Page, p.visit fetch sql = .ok (p.block rows, page) ∧
      page.next = (if p.hasMore rows then p.page + 1 else 0) ∧ page.prev = p.page - 1) ∧
    (p.page = 1 → ∃ blocks, (∀ walked, Walk fetch sql p walked ↔ walked = blocks) ∧
      blocks.length = max 1 (rows.length ⌈/⌉ p.rpp) ∧ blocks.flatten = rows) := by
  refine ⟨visit_eq hp hsql hfetch hrows, fun hfirst => ?_⟩
  obtain ⟨blocks, hwalk, hlength, hflatten⟩ := exists_walk hsql hfetch hrows p hp
  have hbefore : p.before = 0 := by rw [before, hfirst, Nat.sub_self, Nat.zero_mul]
  rw [hbefore, List.drop_zero] at hlength hflatten
  exact ⟨blocks, fun walked => ⟨hwalk.unique, fun h => h ▸ hwalk⟩, hlength, hflatten⟩

/-! ## A backend that honours LIMIT -/

/-- The two numbers after the LIMIT that was put at the end of a query. -/
def limitOf (sql text : String) : Nat × Nat :=
  let numbers := text.toList.drop (Statement.appendLimit sql "").toList.length
  (Decimal.valueFrom 0 (numbers.takeWhile Char.isDigit),
    Decimal.valueFrom 0 (((numbers.dropWhile Char.isDigit).drop 2).takeWhile Char.isDigit))

theorem limitOf_appendLimit (sql : String) (o n : Nat) :
    limitOf sql (Statement.appendLimit sql (toString o ++ ", " ++ toString n)) = (o, n) := by
  have hdigits (k : Nat) : ∀ c ∈ Nat.toDigits 10 k, c.isDigit = true := fun c hc =>
    Nat.isDigit_of_mem_toDigits (by decide) (by decide) hc
  have htext : (Statement.appendLimit sql (toString o ++ ", " ++ toString n)).toList =
      (Statement.appendLimit sql "").toList ++
        (Nat.toDigits 10 o ++ ',' :: ' ' :: Nat.toDigits 10 n) := by
    simp [Statement.appendLimit, Nat.toString_eq_repr, Nat.toList_repr]
  have hcomma : ∀ c ∈ (',' :: ' ' :: Nat.toDigits 10 n).head?, c.isDigit = false := by simp
  have hend : (Nat.toDigits 10 n).takeWhile Char.isDigit = Nat.toDigits 10 n :=
    List.takeWhile_eq_self_iff.mpr (hdigits n)
  simp only [limitOf, htext, List.drop_left, Text.takeWhile_run (hdigits o) hcomma,
    Text.dropWhile_run (hdigits o) hcomma, List.drop_succ_cons, List.drop_zero, hend,
    Decimal.valueFrom_toDigits]

/-- The rows of a query as its LIMIT asks for them. -/
def limited (sql : String) (rows : List α) (text : String) : List α :=
  (rows.drop (limitOf sql text).1).take (limitOf sql text).2

theorem limits_limited (sql : String) (rows : List α) : Limits (limited sql rows) sql rows := by
  intro o n _ _
  rw [limited, limitOf_appendLimit]

/-- Five rows, two to a page: three pages, of which the last is not full. -/
theorem walk_visits_every_row_once_five :
    let sql := "SELECT n FROM t;"
    let p : Paging := { rpp := 2 }
    ∃ blocks, Walk (limited sql [1, 2, 3, 4, 5]) sql p blocks ∧ blocks.length = 3 ∧
      blocks.flatten = [1, 2, 3, 4, 5] := by
  intro sql p
  have hsql : Statement.hasLimit sql = false := by cbv
  have hp : p.Valid := ⟨by decide, by decide, by decide, by decide⟩
  obtain ⟨blocks, hwalk, hlength, hflatten⟩ := (walk_visits_every_row_once _ sql [1, 2, 3, 4, 5]
    hsql (limits_limited sql _) (by decide) p hp).2 rfl
  have hthree : max 1 ([1, 2, 3, 4, 5].length ⌈/⌉ p.rpp) = 3 := by decide
  exact ⟨blocks, (hwalk blocks).mpr rfl, hlength.trans hthree, hflatten⟩

end SqlShorthand.Paging
