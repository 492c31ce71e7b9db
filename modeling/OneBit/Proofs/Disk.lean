import OneBit.Disk
import OneBit.Proofs.Outcome

/-!
# Writing and reading files

Writing a file changes one location, where there is no directory. So every walk that found its way
before still does, and what could be written to still can be.

* `Disk.Target` : the location that writing to a path changes;
* `Disk.open?_create` : a file that was written opens;
* `Disk.Writable.create` : writing one file takes no other path away.
-/

namespace OneBit.Disk

variable {disk disk' : Disk} {path other : String} {bytes : Bytes} {location start place : Location}
  {names : List String}

/-! ## Walks -/

theorem expectDirectory_eq_ok_iff :
    disk.expectDirectory location = .ok () ↔ disk.lookup? location = some .directory := by
  unfold expectDirectory
  split <;> simp_all

theorem walk_append (disk : Disk) (start : Location) (names more : List String) :
    disk.walk start (names ++ more) =
      disk.walk start names >>= fun place => disk.walk place more := by
  induction names generalizing start with
  | nil => rfl
  | cons name names ih =>
    rw [List.cons_append, walk, walk]
    cases disk.expectDirectory start with
    | error e => rfl
    | ok _ =>
      cases move start name with
      | error e => rfl
      | ok place => exact ih place

/-- The directories of a disk are those it had, once a file is put where there is none. -/
theorem expectDirectory_put (h : disk.lookup? location ≠ some .directory)
    (hplace : disk.expectDirectory place = .ok ()) :
    (disk.put location (.file bytes)).expectDirectory place = .ok () := by
  rw [expectDirectory_eq_ok_iff] at hplace ⊢
  have hne : place ≠ location := by
    rintro rfl
    exact h hplace
  rw [lookup?_put_of_ne disk _ hne, hplace]

theorem walk_put (h : disk.lookup? location ≠ some .directory)
    (hwalk : disk.walk start names = .ok place) :
    (disk.put location (.file bytes)).walk start names = .ok place := by
  induction names generalizing start with
  | nil => exact hwalk
  | cons name names ih =>
    rw [walk] at hwalk ⊢
    obtain ⟨_, hstart, hwalk⟩ := bind_eq_ok_iff.1 hwalk
    obtain ⟨next, hmove, hwalk⟩ := bind_eq_ok_iff.1 hwalk
    rw [expectDirectory_put h hstart, ok_bind, hmove, ok_bind]
    exact ih hwalk

/-! ## Names of a path -/

theorem getLast?_splitOn_ne {α : Type} [BEq α] [LawfulBEq α] {a : α} {xs : List α} (hxs : xs ≠ [])
    (h : xs.getLast? ≠ some a) : (xs.splitOn a).getLast? ≠ some [] := by
  induction xs with
  | nil => exact absurd rfl hxs
  | cons x xs ih =>
    rw [List.splitOn_cons_eq_if_modifyHead]
    cases xs with
    | nil =>
      have hx : (x == a) = false := by simpa using h
      simp [hx]
    | cons y ys =>
      have ih := ih (List.cons_ne_nil y ys) (by simpa [List.getLast?_cons_cons] using h)
      cases hsplit : (y :: ys).splitOn a with
      | nil => exact absurd hsplit (List.splitOn_ne_nil a _)
      | cons piece pieces =>
        rw [hsplit] at ih
        cases pieces with
        | nil => split <;> simp_all
        | cons piece' pieces => split <;> simpa [List.getLast?_cons_cons] using ih

/-- Only a path that ends in a slash has an empty last piece. -/
theorem getLast?_pieces_ne (hpath : path ≠ "") (hslash : path.endsWith '/' = false) :
    (pieces path).getLast? ≠ some "" := by
  have hlist : path.toList ≠ [] := by simpa using hpath
  have hlast : path.toList.getLast? ≠ some '/' := by
    rw [String.endsWith_char_eq_getLast?] at hslash
    simpa using hslash
  have h := getLast?_splitOn_ne hlist hlast
  rw [pieces, List.getLast?_map]
  cases hsplit : (path.toList.splitOn '/').getLast? with
  | none => simp
  | some piece =>
    have hpiece : piece ≠ [] := by
      rintro rfl
      exact h hsplit
    simpa using hpiece

theorem pathNames_eq_ok (h : pathNames path = .ok names) : path ≠ "" ∧ names = pieces path := by
  unfold pathNames at h
  split at h
  · simp at h
  · split at h
    · simp at h
    · rename_i hpath
      split at h
      · simp at h
      · exact ⟨hpath, (Except.ok.inj h).symm⟩

/-! ## Writing -/

theorem locateLast_eq_ok {last : String} (h : disk.locateLast path = .ok (place, last))
    (hlast : last ≠ ".") (hslash : path.endsWith '/' = false) :
    ∃ outer, pathNames path = .ok (outer ++ [last]) ∧ last ≠ "" ∧
      disk.walk [] outer = .ok place ∧ disk.expectDirectory place = .ok () := by
  obtain ⟨names, hnames, h⟩ := bind_eq_ok_iff.1 h
  obtain ⟨hpath, rfl⟩ := pathNames_eq_ok hnames
  have hne := getLast?_pieces_ne hpath hslash
  rw [← List.head?_reverse] at hne
  cases hreverse : (pieces path).reverse with
  | nil => simp_all
  | cons piece outer =>
    rw [hreverse] at h hne
    have hpiece : piece ≠ "" := by simpa using hne
    rw [List.dropWhile_cons_of_neg (by simpa using hpiece)] at h
    obtain ⟨directory, hwalk, h⟩ := bind_eq_ok_iff.1 h
    obtain ⟨_, hdirectory, h⟩ := bind_eq_ok_iff.1 h
    cases h
    refine ⟨outer.reverse, ?_, hpiece, hwalk, hdirectory⟩
    rw [hnames, ← List.reverse_reverse (pieces path), hreverse, List.reverse_cons]

theorem locateLast_put {last : String} (h : disk.lookup? location ≠ some .directory)
    (hlocate : disk.locateLast path = .ok (place, last)) :
    (disk.put location (.file bytes)).locateLast path = .ok (place, last) := by
  unfold locateLast at hlocate ⊢
  obtain ⟨names, hnames, hlocate⟩ := bind_eq_ok_iff.1 hlocate
  rw [hnames, ok_bind]
  cases hdrop : names.reverse.dropWhile (· = "") with
  | nil => simpa only [hdrop] using hlocate
  | cons piece outer =>
    simp only [hdrop] at hlocate ⊢
    obtain ⟨directory, hwalk, hlocate⟩ := bind_eq_ok_iff.1 hlocate
    obtain ⟨_, hdirectory, hlocate⟩ := bind_eq_ok_iff.1 hlocate
    rw [walk_put h hwalk, ok_bind, expectDirectory_put h hdirectory, ok_bind]
    exact hlocate

/-- Writing to `path` changes `location`, where there may be a file but no directory. -/
structure Target (disk : Disk) (path : String) (location : Location) : Prop where
  locates : ∃ place last, disk.locateLast path = .ok (place, last) ∧ last ≠ "." ∧ last ≠ ".." ∧
    move place last = .ok location
  no_slash : path.endsWith '/' = false
  no_directory : disk.lookup? location ≠ some .directory

theorem create_eq_ok_iff : disk.create path bytes = .ok disk' ↔
    ∃ location, disk.Target path location ∧ disk' = disk.put location (.file bytes) := by
  constructor
  · intro h
    obtain ⟨⟨place, last⟩, hlocate, h⟩ := bind_eq_ok_iff.1 h
    obtain ⟨hlast, h⟩ := guard_eq_ok_iff.1 h
    obtain ⟨location, hmove, h⟩ := bind_eq_ok_iff.1 h
    simp only [not_or, Bool.not_eq_true] at hlast
    obtain ⟨hdot, hdots, hslash⟩ := hlast
    cases hlookup : disk.lookup? location with
    | none =>
      rw [hlookup] at h
      exact ⟨location, ⟨⟨place, last, hlocate, hdot, hdots, hmove⟩, hslash, by simp [hlookup]⟩,
        (Except.ok.inj h).symm⟩
    | some entry =>
      cases entry with
      | directory => simp [hlookup] at h
      | file old =>
        rw [hlookup] at h
        exact ⟨location, ⟨⟨place, last, hlocate, hdot, hdots, hmove⟩, hslash, by simp [hlookup]⟩,
          (Except.ok.inj h).symm⟩
  · rintro ⟨location, ⟨⟨place, last, hlocate, hdot, hdots, hmove⟩, hslash, hlookup⟩, rfl⟩
    refine bind_eq_ok_iff.2 ⟨_, hlocate, guard_eq_ok_iff.2 ⟨by simp [hdot, hdots, hslash],
      bind_eq_ok_iff.2 ⟨location, hmove, ?_⟩⟩⟩
    split
    · contradiction
    · rfl

/-- The location that is written is the one that the path names then. -/
theorem Target.open?_put (h : disk.Target path location) :
    (disk.put location (.file bytes)).open? path = .ok (.file bytes) := by
  obtain ⟨⟨place, last, hlocate, hdot, hdots, hmove⟩, hslash, hlookup⟩ := h
  obtain ⟨outer, hnames, -, hwalk, hdirectory⟩ := locateLast_eq_ok hlocate hdot hslash
  have hlocation : location ≠ [] := by
    rintro rfl
    exact hlookup rfl
  have hlocate : (disk.put location (.file bytes)).locate path = .ok location := by
    rw [locate, hnames, ok_bind, walk_append, walk_put hlookup hwalk, ok_bind, walk,
      expectDirectory_put hlookup hdirectory, ok_bind, hmove]
    rfl
  rw [open?, hlocate, ok_bind, lookup?_put_self disk _ hlocation]
  rfl

/-- Writing elsewhere, or to the same location, leaves a target a target. -/
theorem Target.put {changed : Location} (h : disk.Target path location)
    (hchanged : disk.lookup? changed ≠ some .directory) :
    (disk.put changed (.file bytes)).Target path location := by
  obtain ⟨⟨place, last, hlocate, hdot, hdots, hmove⟩, hslash, hlookup⟩ := h
  refine ⟨⟨place, last, locateLast_put hchanged hlocate, hdot, hdots, hmove⟩, hslash, ?_⟩
  by_cases hne : location = changed
  · subst hne
    by_cases hempty : location = []
    · subst hempty
      exact absurd rfl hlookup
    · rw [lookup?_put_self disk _ hempty]
      simp
  · rw [lookup?_put_of_ne disk _ hne]
    exact hlookup

/-! ## Writable paths -/

/-- Any bytes can be written to the path. -/
def Writable (disk : Disk) (path : String) : Prop :=
  ∀ bytes, ∃ disk', disk.create path bytes = .ok disk'

theorem writable_iff : disk.Writable path ↔ ∃ location, disk.Target path location := by
  constructor
  · intro h
    obtain ⟨_, h⟩ := h []
    obtain ⟨location, h, -⟩ := create_eq_ok_iff.1 h
    exact ⟨location, h⟩
  · rintro ⟨location, h⟩ bytes
    exact ⟨_, create_eq_ok_iff.2 ⟨location, h, rfl⟩⟩

/-- Whether a path can be written to does not depend on the bytes. -/
theorem writable_iff_create (bytes : Bytes) :
    disk.Writable path ↔ ∃ disk', disk.create path bytes = .ok disk' := by
  constructor
  · exact fun h => h bytes
  · rintro ⟨disk', h⟩
    obtain ⟨location, htarget, -⟩ := create_eq_ok_iff.1 h
    exact writable_iff.2 ⟨location, htarget⟩

theorem open?_create (h : disk.create path bytes = .ok disk') :
    disk'.open? path = .ok (.file bytes) := by
  obtain ⟨location, htarget, rfl⟩ := create_eq_ok_iff.1 h
  exact htarget.open?_put

/-- A path that could be written to still can be after another file was written. -/
theorem Writable.create (h : disk.Writable other) (hcreate : disk.create path bytes = .ok disk') :
    disk'.Writable other := by
  obtain ⟨changed, hchanged, rfl⟩ := create_eq_ok_iff.1 hcreate
  obtain ⟨location, h⟩ := writable_iff.1 h
  exact writable_iff.2 ⟨location, h.put hchanged.no_directory⟩

end OneBit.Disk
