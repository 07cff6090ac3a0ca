import Mathlib.Data.List.Infix
import SqlShorthand.Files.Tree

/-!
# Proofs/Files/Tree — where a path leads, and what an operation leaves alone

A walk goes from folder to folder, so it sees nothing of a tree but its folders: a tree that keeps
the folders of another leads wherever that one led (`KeepsFolders.walk`).  Writing a file and
clearing a folder of its files both keep the folders.

A folder that can be made is reached afterwards (`exists_walk_of_makeFoldersFrom`), and making it
again changes nothing (`makeFoldersFrom_of_walk`).  Below a folder, an ordinary name leads to the
entry of that name and nowhere else (`walk_name_eq_ok_iff`, `writeText_append_eq_ok_iff`).
-/

namespace SqlShorthand.Files

/-- **An ordinary name**: one that leads down, to the entry of that name. -/
structure IsName (name : String) : Prop where
  moves : staysPut name = false
  not_up : name ≠ ".."

namespace Tree

variable {t made : Tree} {here p q : Path} {n : Node} {name : String} {names : List String}
  {stamp : Int} {text : String}

/-! ## Entries -/

theorem lookup_replace (entries : List (Path × Node)) (p q : Path) (n : Node) :
    (entries.map fun (r, m) => if r == p then (r, n) else (r, m)).lookup q
      = if q = p then (entries.lookup q).map fun _ => n else entries.lookup q := by
  induction entries with
  | nil => split <;> rfl
  | cons e entries ih =>
    obtain ⟨r, m⟩ := e
    rw [List.map_cons, List.lookup_cons]
    by_cases hqr : q = r
    · subst hqr
      by_cases hqp : q = p <;> simp [hqp]
    · have hne : (q == r) = false := beq_eq_false_iff_ne.mpr hqr
      have hhead : (q == (if r == p then (r, n) else (r, m)).1) = false := by split <;> exact hne
      rw [List.lookup_cons, hne]
      simp only [hhead]
      exact ih

/-- **The entry at a path after one was put.** -/
theorem node?_put (t : Tree) (p q : Path) (n : Node) :
    (t.put p n).node? q = if q = p then some n else t.node? q := by
  by_cases hany : t.entries.any (·.1 == p) = true
  · rw [put, if_pos hany, node?, lookup_replace]
    by_cases hq : q = p
    · subst hq
      obtain ⟨e, he, hpath⟩ := List.any_eq_true.mp hany
      obtain ⟨m, hm⟩ : ∃ m, t.entries.lookup q = some m := by
        by_contra hnone
        have habsent := List.lookup_eq_none_iff.mp (Option.eq_none_iff_forall_ne_some.mpr
          fun m hm => hnone ⟨m, hm⟩) e he
        exact bne_iff_ne.mp habsent (eq_of_beq hpath).symm
      simp [hm]
    · simp [hq, node?]
  · have hnone : t.entries.lookup p = none := by
      refine List.lookup_eq_none_iff.mpr fun e he => ?_
      rw [bne_iff_ne]
      rintro rfl
      exact hany (List.any_eq_true.mpr ⟨e, he, beq_self_eq_true _⟩)
    rw [put, if_neg hany, node?, List.lookup_append]
    by_cases hq : q = p
    · subst hq
      simp [hnone]
    · have hne : (q == p) = false := beq_eq_false_iff_ne.mpr hq
      simp [List.lookup_cons, hne, hq, node?]

/-- What is put is what was there, but for one path. -/
theorem mem_entries_put {e : Path × Node} (h : e ∈ (t.put p n).entries) :
    e = (p, n) ∨ e ∈ t.entries := by
  rw [put] at h
  split at h
  · obtain ⟨⟨r, m⟩, hr, rfl⟩ := List.mem_map.mp h
    dsimp only
    split
    · rename_i hr'
      exact .inl (by rw [eq_of_beq hr'])
    · exact .inr hr
  · rcases List.mem_append.mp h with h | h
    · exact .inr h
    · exact .inl (List.mem_singleton.mp h)

theorem node?_eq_none_iff : t.node? (p ++ [name]) = none ↔ ∀ e ∈ t.entries, e.1 ≠ p ++ [name] := by
  have hne : (p ++ [name]).isEmpty = false := by simp
  rw [node?, hne]
  cases hlookup : t.entries.lookup (p ++ [name]) with
  | none =>
    refine iff_of_true rfl fun e he => ?_
    exact (bne_iff_ne.mp (List.lookup_eq_none_iff.mp hlookup e he)).symm
  | some m =>
    refine iff_of_false nofun fun h => ?_
    obtain ⟨before, after, hentries, -⟩ := List.lookup_eq_some_iff.mp hlookup
    exact h (p ++ [name], m) (hentries ▸ List.mem_append_right before List.mem_cons_self) rfl

theorem lookup_filter {f : Path × Node → Bool} {entries : List (Path × Node)}
    (h : ∀ m, f (q, m) = true) : (entries.filter f).lookup q = entries.lookup q := by
  induction entries with
  | nil => rfl
  | cons e entries ih =>
    obtain ⟨r, m⟩ := e
    by_cases hqr : q = r
    · subst hqr
      rw [List.filter_cons_of_pos (h m), List.lookup_cons_self, List.lookup_cons_self]
    · have hne : (q == r) = false := beq_eq_false_iff_ne.mpr hqr
      rw [List.filter_cons]
      split <;> simp only [List.lookup_cons, hne, ih]

theorem mem_entries_of_node? (h : t.node? p = some n) (hp : p ≠ []) : (p, n) ∈ t.entries := by
  rw [node?] at h
  split at h
  · rename_i m hlookup
    obtain rfl := Option.some.inj h
    obtain ⟨before, after, hentries, -⟩ := List.lookup_eq_some_iff.mp hlookup
    exact hentries ▸ List.mem_append_right before List.mem_cons_self
  · simp [hp] at h

/-- **Nothing but files stands directly in a folder.** -/
def OnlyFiles (t : Tree) (p : Path) : Prop :=
  ∀ e ∈ t.entries, e.1 ≠ [] → e.1.dropLast = p → e.2.isFile = true

theorem onlyFiles_of_node? (h : ∀ name, t.node? (p ++ [name]) = none) : t.OnlyFiles p := by
  rintro e he hne rfl
  refine absurd ?_ (node?_eq_none_iff.mp (h (e.1.getLast hne)) e he)
  exact (List.dropLast_append_getLast hne).symm

/-- Clearing a folder leaves what does not stand directly in it… -/
theorem node?_clearFiles (t : Tree) (h : q = [] ∨ q.dropLast ≠ p) :
    (t.clearFiles p).node? q = t.node? q := by
  rw [node?, node?, clearFiles, lookup_filter]
  intro m
  rcases h with rfl | h <;> simp_all

/-- …and nothing of what does, if that is files only. -/
theorem OnlyFiles.node?_clearFiles (h : t.OnlyFiles p) (name : String) :
    (t.clearFiles p).node? (p ++ [name]) = none := by
  rw [node?_eq_none_iff]
  rintro ⟨r, m⟩ hmem rfl
  obtain ⟨hmem, hkept⟩ := List.mem_filter.mp hmem
  have hfile : m.isFile = true := h _ hmem (by simp) (by simp)
  simp [hfile] at hkept

/-! ## Folders -/

/-- There is a folder at the path. -/
def IsFolder (t : Tree) (p : Path) : Prop := ∃ time, t.node? p = some (.folder time)

/-- Every folder of a tree is one of another tree. -/
def KeepsFolders (t t' : Tree) : Prop := ∀ p, t.IsFolder p → t'.IsFolder p

/-- What is put where no folder is leaves the folders. -/
theorem keepsFolders_put (n : Node) (h : ¬t.IsFolder p) : KeepsFolders t (t.put p n) := by
  rintro q ⟨time, hq⟩
  refine ⟨time, ?_⟩
  rw [node?_put, if_neg, hq]
  rintro rfl
  exact h ⟨time, hq⟩

theorem OnlyFiles.keepsFolders_clearFiles (h : t.OnlyFiles p) :
    KeepsFolders t (t.clearFiles p) := by
  rintro q ⟨time, hq⟩
  refine ⟨time, ?_⟩
  rw [Tree.node?_clearFiles, hq]
  by_contra hchild
  rw [not_or, not_not] at hchild
  cases h _ (mem_entries_of_node? hq hchild.1) hchild.1 hchild.2

/-! ## Walks -/

/-- **One step of a walk**: it starts from a folder and stays there, goes up, or goes down to an
entry that is there. -/
inductive Step (t : Tree) (here : Path) (name : String) : Path → Prop where
  | stay (hfolder : t.IsFolder here) (hname : staysPut name = true) : Step t here name here
  | up (hfolder : t.IsFolder here) (hname : name = "..") : Step t here name here.dropLast
  | down (hfolder : t.IsFolder here) (hname : IsName name) (hfault : nameFault? name = none)
      (hthere : (t.node? (here ++ [name])).isSome = true) : Step t here name (here ++ [name])

/-- **A walk goes step by step.** -/
theorem walk_cons_eq_ok_iff {rest : List String} :
    t.walk here (name :: rest) = .ok p ↔ ∃ next, Step t here name next ∧ t.walk next rest = .ok p := by
  have hup : staysPut ".." = false := by decide
  constructor
  · intro h
    rw [walk] at h
    split at h
    · cases h
    · cases h
    · rename_i time hfolder
      have hfolder : t.IsFolder here := ⟨time, hfolder⟩
      split at h
      · exact ⟨here, .stay hfolder ‹_›, h⟩
      · rename_i hmoves
        split at h
        · exact ⟨here.dropLast, .up hfolder (eq_of_beq ‹_›), h⟩
        · rename_i hnot
          split at h
          · cases h
          · rename_i hfault
            split at h
            · refine ⟨here ++ [name], .down hfolder ⟨?_, ?_⟩ hfault ‹_›, h⟩
              · exact Bool.eq_false_iff.mpr hmoves
              · simpa using hnot
            · cases h
  · rintro ⟨next, hstep, h⟩
    cases hstep with
    | stay hfolder hname =>
      obtain ⟨time, hfolder⟩ := hfolder
      rw [walk, hfolder]
      simpa [hname] using h
    | up hfolder hname =>
      obtain ⟨time, hfolder⟩ := hfolder
      subst hname
      rw [walk, hfolder]
      simpa [hup] using h
    | down hfolder hname hfault hthere =>
      obtain ⟨time, hfolder⟩ := hfolder
      rw [walk, hfolder]
      simpa [hname.moves, hname.not_up, hfault, hthere] using h

theorem walk_append_eq_ok_iff {names rest : List String} :
    t.walk here (names ++ rest) = .ok p ↔
      ∃ q, t.walk here names = .ok q ∧ t.walk q rest = .ok p := by
  induction names generalizing here with
  | nil => simp [walk]
  | cons name names ih =>
    simp only [List.cons_append, walk_cons_eq_ok_iff, ih]
    constructor
    · rintro ⟨next, hstep, q, hq, hp⟩
      exact ⟨q, ⟨next, hstep, hq⟩, hp⟩
    · rintro ⟨q, ⟨next, hstep, hq⟩, hp⟩
      exact ⟨next, hstep, q, hq, hp⟩

/-- A walk to a folder starts from one. -/
theorem isFolder_of_walk (h : t.walk here names = .ok p) (hp : t.IsFolder p) : t.IsFolder here := by
  cases names with
  | nil =>
    cases h
    exact hp
  | cons name names =>
    obtain ⟨next, hstep, -⟩ := walk_cons_eq_ok_iff.mp h
    cases hstep <;> assumption

/-- **A tree with the same folders leads to the same folder.** -/
theorem KeepsFolders.walk {t' : Tree} (hkeeps : KeepsFolders t t')
    (h : t.walk here names = .ok p) (hp : t.IsFolder p) : t'.walk here names = .ok p := by
  induction names generalizing here with
  | nil => exact h
  | cons name names ih =>
    obtain ⟨next, hstep, hrest⟩ := walk_cons_eq_ok_iff.mp h
    refine walk_cons_eq_ok_iff.mpr ⟨next, ?_, ih hrest⟩
    cases hstep with
    | stay hfolder hname => exact .stay (hkeeps _ hfolder) hname
    | up hfolder hname => exact .up (hkeeps _ hfolder) hname
    | down hfolder hname hfault =>
      obtain ⟨time, hthere⟩ := hkeeps _ (isFolder_of_walk hrest hp)
      exact .down (hkeeps _ hfolder) hname hfault (by rw [hthere]; rfl)

/-- **Making a folder that is reached changes nothing.** -/
theorem makeFoldersFrom_of_walk (h : t.walk here names = .ok p) (hp : t.IsFolder p) :
    t.makeFoldersFrom stamp here names = .ok t := by
  induction names generalizing here with
  | nil => rfl
  | cons name names ih =>
    obtain ⟨next, hstep, hrest⟩ := walk_cons_eq_ok_iff.mp h
    rw [makeFoldersFrom]
    cases hstep with
    | stay hfolder hname => rw [if_pos hname, ih hrest]
    | up hfolder hname =>
      subst hname
      rw [if_neg (by decide), if_pos (by decide), ih hrest]
    | down hfolder hname hfault =>
      obtain ⟨time, hthere⟩ := isFolder_of_walk hrest hp
      simp [hname.moves, hname.not_up, hfault, hthere, ih hrest]

/-- Every place on the way to a path is a folder. -/
def IsOpen (t : Tree) (p : Path) : Prop := ∀ q, q <+: p → t.IsFolder q

theorem IsOpen.isFolder (h : t.IsOpen p) : t.IsFolder p := h p List.prefix_rfl

theorem IsOpen.dropLast (h : t.IsOpen p) : t.IsOpen p.dropLast := fun q hq =>
  h q (hq.trans (List.dropLast_prefix p))

theorem IsOpen.append (h : t.IsOpen p) (hname : t.IsFolder (p ++ [name])) :
    t.IsOpen (p ++ [name]) := by
  intro q hq
  rcases List.prefix_concat_iff.mp hq with rfl | hq
  · exact hname
  · exact h q hq

/-- **A folder that was made is reached**, and the folders that were there are kept. -/
theorem exists_walk_of_makeFoldersFrom (h : t.makeFoldersFrom stamp here names = .ok made)
    (hhere : t.IsOpen here) :
    KeepsFolders t made ∧ ∃ p, made.walk here names = .ok p ∧ made.IsFolder p := by
  induction names generalizing t here with
  | nil =>
    cases h
    exact ⟨fun _ h => h, here, rfl, hhere.isFolder⟩
  | cons name names ih =>
    rw [makeFoldersFrom] at h
    split at h
    · obtain ⟨hkeeps, p, hwalk, hp⟩ := ih h hhere
      exact ⟨hkeeps, p,
        walk_cons_eq_ok_iff.mpr ⟨here, .stay (hkeeps _ hhere.isFolder) ‹_›, hwalk⟩, hp⟩
    · rename_i hmoves
      split at h
      · obtain ⟨hkeeps, p, hwalk, hp⟩ := ih h hhere.dropLast
        exact ⟨hkeeps, p,
          walk_cons_eq_ok_iff.mpr ⟨_, .up (hkeeps _ hhere.isFolder) (eq_of_beq ‹_›), hwalk⟩, hp⟩
      · rename_i hnot
        have hname : IsName name := ⟨Bool.eq_false_iff.mpr hmoves, by simpa using hnot⟩
        split at h
        · cases h
        · rename_i hfault
          -- whether the folder was there or is made now, the rest starts from it
          have hdown {t' : Tree} (hkeeps' : KeepsFolders t t') (hfolder : t'.IsFolder (here ++ [name]))
              (h : t'.makeFoldersFrom stamp (here ++ [name]) names = .ok made) :
              KeepsFolders t made ∧
                ∃ p, made.walk here (name :: names) = .ok p ∧ made.IsFolder p := by
            have hopen : t'.IsOpen here := fun q hq => hkeeps' q (hhere q hq)
            obtain ⟨hkeeps, p, hwalk, hp⟩ := ih h (hopen.append hfolder)
            obtain ⟨time, hthere⟩ := hkeeps _ hfolder
            exact ⟨fun q hq => hkeeps q (hkeeps' q hq), p, walk_cons_eq_ok_iff.mpr ⟨_,
              .down (hkeeps _ hopen.isFolder) hname hfault (by rw [hthere]; rfl), hwalk⟩, hp⟩
          split at h
          · exact hdown (fun _ h => h) ⟨_, ‹_›⟩ h
          · cases h
          · rename_i hnone
            refine hdown (keepsFolders_put _ ?_) ⟨stamp, ?_⟩ h
            · rintro ⟨time, hsome⟩
              cases hnone.symm.trans hsome
            · rw [node?_put, if_pos rfl]

/-! ## What a path leads to -/

/-- What a walk reaches is there, behind folders. -/
structure Reached (t : Tree) (p : Path) : Prop where
  there : (t.node? p).isSome = true
  behind : ∀ q, q <+: p → q ≠ p → t.IsFolder q

theorem reached_nil (t : Tree) : t.Reached [] := by
  refine ⟨?_, fun q hq hne => absurd (List.prefix_nil.mp hq) hne⟩
  rw [node?]
  split <;> rfl

theorem IsOpen.reached (h : t.IsOpen p) : t.Reached p := by
  refine ⟨?_, fun q hq _ => h q hq⟩
  obtain ⟨time, hp⟩ := h.isFolder
  rw [hp]
  rfl

theorem Reached.isOpen (h : t.Reached p) (hp : t.IsFolder p) : t.IsOpen p := by
  intro q hq
  by_cases hqp : q = p
  · exact hqp ▸ hp
  · exact h.behind q hq hqp

/-- **What a walk reaches is there.** -/
theorem Reached.walk (h : t.Reached here) (hwalk : t.walk here names = .ok p) : t.Reached p := by
  induction names generalizing here with
  | nil =>
    cases hwalk
    exact h
  | cons name names ih =>
    obtain ⟨next, hstep, hrest⟩ := walk_cons_eq_ok_iff.mp hwalk
    refine ih ?_ hrest
    cases hstep with
    | stay => exact h
    | up hfolder => exact (h.isOpen hfolder).dropLast.reached
    | down hfolder _ _ hthere =>
      refine ⟨hthere, fun q hq hne => ?_⟩
      exact h.isOpen hfolder q ((List.prefix_concat_iff.mp hq).resolve_left hne)

theorem checked_eq_ok_iff :
    checked names = .ok () ↔ ∀ name ∈ names, ∀ c ∈ name.toList, c.toNat ≠ 0 := by
  rw [checked]
  simp

theorem find_eq_ok_iff :
    t.find names = .ok n ↔
      checked names = .ok () ∧ ∃ p, t.walk [] names = .ok p ∧ t.node? p = some n := by
  rw [find]
  cases hchecked : checked names with
  | error fault => simp
  | ok =>
    cases hwalk : t.walk [] names with
    | error fault => simp
    | ok p => cases hnode : t.node? p <;> simp [hnode]

theorem makeFolders_eq_ok_iff :
    t.makeFolders stamp names = .ok made ↔
      checked names = .ok () ∧ t.makeFoldersFrom stamp [] names = .ok made := by
  rw [makeFolders]
  cases checked names <;> simp

/-- **Nothing is below what is not there.** -/
theorem find_append_ne_ok (h : ∀ n, t.find names ≠ .ok n) (rest : List String) (n : Node) :
    t.find (names ++ rest) ≠ .ok n := by
  intro hrest
  obtain ⟨hchecked, p, hwalk, -⟩ := find_eq_ok_iff.mp hrest
  obtain ⟨q, hq, -⟩ := walk_append_eq_ok_iff.mp hwalk
  obtain ⟨m, hm⟩ := Option.isSome_iff_exists.mp ((reached_nil t).walk hq).there
  refine h m (find_eq_ok_iff.mpr ⟨checked_eq_ok_iff.mpr fun name hname => ?_, q, hq, hm⟩)
  exact checked_eq_ok_iff.mp hchecked name (List.mem_append_left rest hname)

/-- What is not found is looked for in the working folder. -/
theorem isFolder_nil_of_find (h : t.find names = .error .notFound) : t.IsFolder [] := by
  obtain ⟨n, hn⟩ := Option.isSome_iff_exists.mp (reached_nil t).there
  cases n with
  | folder time => exact ⟨time, hn⟩
  | file text time =>
    rw [find, checked] at h
    cases names with
    | nil => simp [walk, hn] at h
    | cons name names =>
      rw [walk, hn] at h
      split at h
      · rename_i hchecked
        split at hchecked <;> simp_all
      · cases h

/-- **An ordinary name leads down** to the entry of that name. -/
theorem walk_name_eq_ok_iff (hname : IsName name) :
    t.walk p [name] = .ok q ↔ t.IsFolder p ∧ nameFault? name = none ∧
      (t.node? (p ++ [name])).isSome = true ∧ q = p ++ [name] := by
  rw [walk_cons_eq_ok_iff]
  constructor
  · rintro ⟨next, hstep, hnext⟩
    cases hnext
    cases hstep with
    | stay _ hstays => cases hname.moves.symm.trans hstays
    | up _ hup => exact absurd hup hname.not_up
    | down hfolder _ hfault hthere => exact ⟨hfolder, hfault, hthere, rfl⟩
  · rintro ⟨hfolder, hfault, hthere, rfl⟩
    exact ⟨_, .down hfolder hname hfault hthere, rfl⟩

/-- **An ordinary name below a folder** is found if the entry of that name is there. -/
theorem find_append_name (hchecked : checked (names ++ [name]) = .ok ()) (hname : IsName name)
    (hwalk : t.walk [] names = .ok p) (hp : t.IsFolder p) :
    t.find (names ++ [name]) = .ok n ↔
      nameFault? name = none ∧ t.node? (p ++ [name]) = some n := by
  rw [find_eq_ok_iff]
  constructor
  · rintro ⟨-, q, hq, hn⟩
    obtain ⟨p', hp', hstep⟩ := walk_append_eq_ok_iff.mp hq
    cases hwalk.symm.trans hp'
    obtain ⟨-, hfault, -, rfl⟩ := (walk_name_eq_ok_iff hname).mp hstep
    exact ⟨hfault, hn⟩
  · rintro ⟨hfault, hn⟩
    refine ⟨hchecked, p ++ [name], walk_append_eq_ok_iff.mpr ⟨p, hwalk, ?_⟩, hn⟩
    exact (walk_name_eq_ok_iff hname).mpr ⟨hp, hfault, by rw [hn]; rfl, rfl⟩

theorem writeIn_eq_ok_iff {t' : Tree} (hname : IsName name) :
    t.writeIn p name false n = .ok t' ↔ t.IsFolder p ∧ nameFault? name = none ∧
      ¬t.IsFolder (p ++ [name]) ∧ t.put (p ++ [name]) n = t' := by
  rw [writeIn]
  cases hp : t.node? p with
  | none => simp [IsFolder, hp]
  | some parent =>
    cases parent with
    | file text time => simp [IsFolder, hp]
    | folder time =>
      cases hfault : nameFault? name with
      | some fault => simp [hname.moves, hname.not_up]
      | none =>
        cases hchild : t.node? (p ++ [name]) with
        | none => simp [hname.moves, hname.not_up, IsFolder, hp, hchild]
        | some child =>
          cases child <;> simp [hname.moves, hname.not_up, IsFolder, hp, hchild]

/-- **Writing below a folder** puts the entry of that name, and nothing else. -/
theorem writeText_append_eq_ok_iff {t' : Tree} (hname : IsName name) :
    t.writeText (names ++ [name]) text stamp = .ok t' ↔
      checked (names ++ [name]) = .ok () ∧
        ∃ p, t.walk [] names = .ok p ∧ t.IsFolder p ∧ nameFault? name = none ∧
          ¬t.IsFolder (p ++ [name]) ∧ t.put (p ++ [name]) (.file text stamp) = t' := by
  have hvisible : (name == "") = false := by
    refine beq_eq_false_iff_ne.mpr ?_
    rintro rfl
    cases hname.moves
  rw [writeText]
  cases hchecked : checked (names ++ [name]) with
  | error fault => simp
  | ok =>
    cases hwalk : t.walk [] names with
    | error fault => simp [hvisible, hwalk]
    | ok p => simp [hvisible, hwalk, writeIn_eq_ok_iff hname]

/-! ## Paths that never go up -/

/-- The names of a path that lead somewhere. -/
def moves (names : List String) : Path := names.filter fun name => !staysPut name

theorem eq_append_moves_of_walk (hdown : ".." ∉ names) (h : t.walk here names = .ok p) :
    p = here ++ moves names := by
  induction names generalizing here with
  | nil =>
    cases h
    exact (List.append_nil p).symm
  | cons name names ih =>
    obtain ⟨next, hstep, hrest⟩ := walk_cons_eq_ok_iff.mp h
    rw [ih (fun hmem => hdown (List.mem_cons_of_mem name hmem)) hrest]
    cases hstep with
    | stay _ hname => simp [moves, hname]
    | up _ hname => exact absurd (hname ▸ List.mem_cons_self) hdown
    | down _ hname => simp [moves, hname.moves]

/-- **Making folders changes nothing off their path.** -/
theorem node?_makeFoldersFrom (hdown : ".." ∉ names)
    (h : t.makeFoldersFrom stamp here names = .ok made) (hq : ¬q <+: here ++ moves names) :
    made.node? q = t.node? q := by
  induction names generalizing t here with
  | nil =>
    cases h
    rfl
  | cons name names ih =>
    have hdown' : ".." ∉ names := fun hmem => hdown (List.mem_cons_of_mem name hmem)
    rw [makeFoldersFrom] at h
    split at h
    · rename_i hstays
      exact ih hdown' h (by simpa [moves, hstays] using hq)
    · rename_i hmoves
      have hq' : ¬q <+: (here ++ [name]) ++ moves names := by simpa [moves, hmoves] using hq
      split at h
      · rename_i hup
        exact absurd (eq_of_beq hup ▸ List.mem_cons_self) hdown
      · split at h
        · cases h
        · split at h
          · exact ih hdown' h hq'
          · cases h
          · rw [ih hdown' h hq', node?_put, if_neg]
            rintro rfl
            exact hq' (List.prefix_append _ _)

/-- **A tree in which whatever is there can be reached.** -/
def IsClosed (t : Tree) : Prop := ∀ p, (t.node? p).isSome = true → t.Reached p

theorem isClosed_empty : IsClosed {} := by
  intro p hp
  cases p with
  | nil => exact reached_nil _
  | cons name p => cases hp

/-- **What is made in place of nothing is empty**, if the path to it never goes up: else the folder
might be made inside itself, as by `c/d/..`. -/
theorem node?_eq_none_of_makeFolders (hclosed : t.IsClosed) (hdown : ".." ∉ names)
    (habsent : ∀ n, t.find names ≠ .ok n) (h : t.makeFolders stamp names = .ok made)
    (hwalk : made.walk [] names = .ok p) (name : String) : made.node? (p ++ [name]) = none := by
  obtain ⟨hchecked, h⟩ := makeFolders_eq_ok_iff.mp h
  have hp : p = [] ++ moves names := eq_append_moves_of_walk hdown hwalk
  have hbelow : ¬p ++ [name] <+: p := fun hprefix => absurd hprefix.length_le (by simp)
  by_contra hthere
  -- something below it would have been there before, and with it all the folders on the way
  have hbefore : (t.node? (p ++ [name])).isSome = true := by
    rw [← node?_makeFoldersFrom hdown h (hp ▸ hbelow), Option.isSome_iff_ne_none]
    exact hthere
  have hopen : t.IsOpen p := fun q hq => by
    refine (hclosed _ hbefore).behind q (hq.trans (List.prefix_append p [name])) ?_
    rintro rfl
    exact hbelow hq
  have hstart : t.IsOpen [] := fun q hq => hopen q (hq.trans List.nil_prefix)
  have hmade := (exists_walk_of_makeFoldersFrom h hstart).1
  have hkeeps : KeepsFolders made t := by
    rintro q ⟨time, hq⟩
    by_cases hqp : q <+: p
    · exact hopen q hqp
    · exact ⟨time, by rw [← node?_makeFoldersFrom hdown h (hp ▸ hqp), hq]⟩
  obtain ⟨time, hfolder⟩ := hopen.isFolder
  exact habsent _ (find_eq_ok_iff.mpr
    ⟨hchecked, p, hkeeps.walk hwalk (hmade p hopen.isFolder), hfolder⟩)

end Tree

end SqlShorthand.Files
