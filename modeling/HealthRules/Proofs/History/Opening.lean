import HealthRules.Proofs.Provider.Answers
import HealthRules.Storage

/-!
# Opening — files that are written at their end

A file is opened before anything is written at its end, and it is there afterwards even if nothing is written.
Making folders takes nothing away: there are more folders then, and every file is as it was. What has been
opened once opens again, at the same place.

* `Storage.content?`, what is in a file, and `Storage.opening` with `Storage.append_eq`: appending is opening
  and writing;
* `Storage.Furnishes`, a storage with more folders, and `Storage.createParents_furnishes`;
* `Storage.Covers`, a storage with more in it, which may be in files that are there already;
* `Storage.createParents_again` and `Storage.opening_put`: the second time finds everything in place.
-/

namespace HealthRules.Storage

variable {s s' : Storage} {here p q : Place} {path : Path}

/-! ## Places -/

theorem find?_put (hp : p ≠ []) (x : Stored) (q : Place) :
    (s.put p x).find? q = if q = p then some x else s.find? q := by
  by_cases hq : q = p
  · subst hq
    simp [find?, put, hp]
  · have hbeq : (q == p) = false := by simpa using hq
    have hothers : (s.entries.filter (·.1 ≠ p)).lookup q = s.entries.lookup q :=
      Surroundings.lookup_filter_ne hq s.entries
    rw [if_neg hq, find?, find?, put, List.lookup_cons, hbeq, hothers]

theorem find?_put_self (hp : p ≠ []) (x : Stored) : (s.put p x).find? p = some x := by
  rw [find?_put hp, if_pos rfl]

/-- The root is always there. -/
theorem ne_root_of_find?_eq_none (hp : s.find? p = none) : p ≠ [] := by
  rintro rfl
  cases hp

theorem put_put (x y : Stored) : (s.put p x).put p y = s.put p y := by
  simp [put]

/-! ## Files -/

/-- The content of the file at a place. -/
def content? (s : Storage) (p : Place) : Option (List UInt8) :=
  match s.find? p with
  | some (.file bytes) => some bytes
  | _ => none

theorem content?_put (hp : p ≠ []) (bytes : List UInt8) (q : Place) :
    (s.put p (.file bytes)).content? q = if q = p then some bytes else s.content? q := by
  by_cases hq : q = p
  · rw [content?, find?_put hp, if_pos hq, if_pos hq]
  · rw [content?, find?_put hp, if_neg hq, if_neg hq, content?]

/-- The place of the file that a path leads to, if the file can be opened, or made, for writing at its end. -/
def opening (s : Storage) (here : Place) (path : Path) : Except StorageError Place := do
  let p ← s.place here path
  match s.find? p with
  | some .folder => throw .isFolder
  | some (.file _) => if wantsFolder path then throw .notFolder else return p
  | none =>
      if wantsFolder path then throw .isFolder
      else match s.find? p.dropLast with
        | some .folder => return p
        | _ => throw .missing

theorem append_eq (bytes : List UInt8) :
    s.append here path bytes =
      (s.opening here path).map fun p => s.put p (.file ((s.content? p).getD [] ++ bytes)) := by
  rw [append, opening]
  cases s.place here path with
  | error e => rfl
  | ok p =>
      simp only [bind, Except.bind]
      cases hfound : s.find? p with
      | none =>
          have hcontent : s.content? p = none := by rw [content?, hfound]
          cases wantsFolder path with
          | true => rfl
          | false =>
              cases s.find? p.dropLast with
              | none => rfl
              | some x =>
                  cases x with
                  | folder => simp [hcontent, pure, Except.pure, Except.map]
                  | file bytes' => rfl
      | some x =>
          cases x with
          | folder => rfl
          | file old =>
              have hcontent : s.content? p = some old := by rw [content?, hfound]
              cases wantsFolder path with
              | true => rfl
              | false => simp [hcontent, pure, Except.pure, Except.map]

/-- There is a file at the place, or nothing in a folder. -/
def Holds (s : Storage) (p : Place) : Prop :=
  s.find? p ≠ some .folder ∧ (s.find? p = none → s.find? p.dropLast = some .folder)

theorem Holds.ne_root (h : s.Holds p) : p ≠ [] := by
  rintro rfl
  exact h.1 rfl

theorem opening_eq_ok_iff :
    s.opening here path = .ok p ↔
      s.place here path = .ok p ∧ wantsFolder path = false ∧ s.Holds p := by
  rw [opening]
  cases s.place here path with
  | error e => simp [bind, Except.bind]
  | ok p' =>
      simp only [bind, Except.bind, Holds, Except.ok.injEq]
      constructor
      · intro h
        split at h
        · cases h
        · next old hfound =>
            -- A file is there already, and only a path for a folder does not open it.
            split at h
            · cases h
            · next hwants =>
                cases h
                simp [hfound, hwants]
        · next hfound =>
            -- Nothing is there, so that there has to be a folder to put a file in.
            split at h
            · cases h
            · next hwants =>
                split at h
                · next hparent =>
                    cases h
                    simp [hfound, hwants, hparent]
                · cases h
      · rintro ⟨rfl, hwants, hfolder, hparent⟩
        cases hfound : s.find? p' with
        | none =>
            simp only [hwants, hparent hfound]
            rfl
        | some x =>
            cases x with
            | folder => exact absurd hfound hfolder
            | file old =>
                simp only [hwants]
                rfl

/-! ## Folders -/

/-- The storage `s'` is `s` with more folders, where nothing was before. -/
def Furnishes (s s' : Storage) : Prop :=
  ∀ q, s'.find? q = s.find? q ∨ s.find? q = none ∧ s'.find? q = some .folder

theorem Furnishes.refl (s : Storage) : s.Furnishes s := fun _ => .inl rfl

theorem Furnishes.trans {s'' : Storage} (h : s.Furnishes s') (h' : s'.Furnishes s'') :
    s.Furnishes s'' := by
  intro q
  rcases h' q with hsame' | ⟨hnone', hfolder'⟩
  · rw [hsame']
    exact h q
  · rcases h q with hsame | ⟨-, hfolder⟩
    · rw [hsame] at hnone'
      exact .inr ⟨hnone', hfolder'⟩
    · rw [hfolder] at hnone'
      cases hnone'

/-- Where something was, it is still. -/
theorem Furnishes.find?_eq_some (h : s.Furnishes s') {x : Stored} (hx : s.find? q = some x) :
    s'.find? q = some x := by
  rcases h q with hsame | ⟨hnone, -⟩
  · rw [hsame, hx]
  · rw [hx] at hnone
    cases hnone

/-- Files are those that were there, with what was in them. -/
theorem Furnishes.content?_eq (h : s.Furnishes s') (q : Place) : s'.content? q = s.content? q := by
  rcases h q with hsame | ⟨hnone, hfolder⟩
  · rw [content?, content?, hsame]
  · rw [content?, content?, hnone, hfolder]

theorem furnishes_put (hp : s.find? p = none) : s.Furnishes (s.put p .folder) := by
  intro q
  rw [find?_put (ne_root_of_find?_eq_none hp)]
  split
  · next hq =>
      rw [hq]
      exact .inr ⟨hp, rfl⟩
  · exact .inl rfl

theorem makeFolders_furnishes (s : Storage) (p : Place) (names : List (List UInt8)) :
    s.Furnishes (s.makeFolders p names) := by
  induction names generalizing s p with
  | nil => exact .refl s
  | cons name names ih =>
      rw [makeFolders]
      split
      · exact .refl s
      · split
        · exact ih s _
        · exact .refl s
        · next hnone => exact (furnishes_put hnone).trans (ih _ _)

theorem createParents_furnishes (s : Storage) (here : Place) (path : Path) :
    s.Furnishes (s.createParents here path) := by
  rw [createParents, createFolders]
  split
  · exact .refl s
  · exact makeFolders_furnishes s _ _

/-! ## The second time -/

/-- What is in `s` is in `s'` as well, folders as folders and files as files. -/
def Covers (s s' : Storage) : Prop :=
  ∀ q x, s.find? q = some x → ∃ x', s'.find? q = some x' ∧ (x' = .folder ↔ x = .folder)

theorem Covers.folder (h : s.Covers s') (hq : s.find? q = some .folder) : s'.find? q = some .folder := by
  rcases h q _ hq with ⟨x', hx', hfolder⟩
  rw [hx', hfolder.2 rfl]

theorem Covers.refl (s : Storage) : s.Covers s := fun _ x hx => ⟨x, hx, Iff.rfl⟩

/-- The folders are there, so that making them again changes nothing. -/
theorem makeFolders_again {p : Place} {names : List (List UInt8)} (h : (s.makeFolders p names).Covers s') :
    s'.makeFolders p names = s' := by
  induction names generalizing s p with
  | nil => rfl
  | cons name names ih =>
      rw [makeFolders] at h ⊢
      split at h
      · next hlong => rw [if_pos hlong]
      · next hshort =>
          rw [if_neg hshort]
          split at h
          · next hfolder =>
              have hthere := h.folder ((makeFolders_furnishes s _ names).find?_eq_some hfolder)
              rw [hthere]
              exact ih h
          · next bytes hfile =>
              rcases h _ _ hfile with ⟨x', hx', hkind⟩
              rw [hx']
              cases x' with
              | folder => cases hkind.1 rfl
              | file bytes' => rfl
          · next hnone =>
              -- The folder that was missing is there now, and making the others takes none away.
              have hmade : (s.put _ .folder).find? _ = some .folder :=
                find?_put_self (ne_root_of_find?_eq_none hnone) .folder
              have hthere := h.folder ((makeFolders_furnishes _ _ names).find?_eq_some hmade)
              rw [hthere]
              exact ih h

theorem createParents_again (h : (s.createParents here path).Covers s') :
    s'.createParents here path = s' := by
  rw [createParents, createFolders] at h ⊢
  split
  · rfl
  · next hfault =>
      rw [if_neg hfault] at h
      exact makeFolders_again h

theorem goOn_of_covers (h : s.Covers s') {name : List UInt8} (hp : s.goOn p name = .ok q) :
    s'.goOn p name = .ok q := by
  unfold goOn at hp
  split at hp
  · next hfolder =>
      rw [goOn, h.folder hfolder]
      exact hp
  · cases hp
  · cases hp

theorem foldlM_goOn_of_covers (h : s.Covers s') {names : List (List UInt8)}
    (hp : names.foldlM s.goOn p = .ok q) : names.foldlM s'.goOn p = .ok q := by
  induction names generalizing p with
  | nil => exact hp
  | cons name names ih =>
      rw [List.foldlM_cons] at hp ⊢
      cases hstep : s.goOn p name with
      | error e =>
          rw [hstep] at hp
          cases hp
      | ok next =>
          rw [hstep] at hp
          rw [goOn_of_covers h hstep]
          exact ih hp

/-- A path leads to the same place if all folders on its way are there. -/
theorem place_of_covers (h : s.Covers s') (hp : s.place here path = .ok p) :
    s'.place here path = .ok p := by
  unfold place at hp ⊢
  split at hp
  · cases hp
  · exact foldlM_goOn_of_covers h hp

/-- Writing to a file that has been opened leaves folders and files where they are. -/
theorem covers_put (hp : s.Holds p) (bytes : List UInt8) : s.Covers (s.put p (.file bytes)) := by
  intro q x hx
  rw [find?_put hp.ne_root]
  split
  · next hq =>
      subst hq
      refine ⟨_, rfl, nofun, ?_⟩
      rintro rfl
      exact absurd hx hp.1
  · exact ⟨x, hx, Iff.rfl⟩

/-- What has been opened and written opens again. -/
theorem opening_put (h : s.opening here path = .ok p) (bytes : List UInt8) :
    (s.put p (.file bytes)).opening here path = .ok p := by
  rcases opening_eq_ok_iff.1 h with ⟨hplace, hwants, hholds⟩
  have hfile : (s.put p (.file bytes)).find? p = some (.file bytes) := find?_put_self hholds.ne_root _
  refine opening_eq_ok_iff.2 ⟨place_of_covers (covers_put hholds bytes) hplace, hwants, ?_, ?_⟩
  · rw [hfile]
    nofun
  · rw [hfile]
    nofun

/-- What has been written is found under the path. -/
theorem read_put (h : s.opening here path = .ok p) (bytes : List UInt8) :
    (s.put p (.file bytes)).read here path = .ok bytes := by
  rcases opening_eq_ok_iff.1 h with ⟨hplace, hwants, hholds⟩
  have hfile : (s.put p (.file bytes)).find? p = some (.file bytes) := find?_put_self hholds.ne_root _
  rw [read, place_of_covers (covers_put hholds bytes) hplace]
  simp only [bind, Except.bind, hfile, hwants]
  rfl

end HealthRules.Storage
