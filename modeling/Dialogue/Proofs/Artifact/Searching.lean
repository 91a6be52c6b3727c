import Dialogue.Artifact.Search

/-!
The order of a search. A search comes to what the first directory comes to by itself that decides
it: places are lists of names, and of two places the one comes first that does so name by name, each
name octet by octet, and a place comes before every place inside it.
-/

namespace Dialogue

-----------------------------------------------------------------------------------------
-- Places in a directory
-----------------------------------------------------------------------------------------

namespace Entries

/-- The directory of a name. -/
def folder? (name : Octets) : Entries → Option Directory
  | .none => Option.none
  | .leaf _ rest => rest.folder? name
  | .folder first directory rest => if first = name then some directory else rest.folder? name

/-- The names of directories. -/
def folderNames : Entries → List Octets
  | .none => []
  | .leaf _ rest => rest.folderNames
  | .folder name _ rest => name :: rest.folderNames

end Entries

namespace Directory

/-- The directory at a place. -/
def at? : Directory → List Octets → Option Directory
  | directory, [] => some directory
  | .refused _, _ :: _ => none
  | .listed entries, name :: rest => (entries.folder? name).bind (·.at? rest)

/-- No two directories in one have the same name. -/
def Distinct (directory : Directory) : Prop :=
  ∀ place entries, directory.at? place = some (.listed entries) → entries.folderNames.Nodup

/-- A directory that can be listed and has no such file does not decide a search. -/
def Quiet (file : Octets) (directory : Directory) : Prop :=
  ∃ entries, directory = .listed entries ∧ entries.hasLeaf file = false

/-- What a search comes to at a directory by itself. -/
def own (file : Octets) (path : Path) : Directory → Artifact.Outcome
  | .refused fault => .refused path fault
  | .listed entries =>
    if entries.hasLeaf file then .found (Path.join path file) else .absent

/-- The place without names is that of the directory itself. -/
@[simp]
theorem at?_nil (directory : Directory)
    : directory.at? [] = some directory := by
  cases directory <;> rfl

/-- The directory at a place inside a listed one. -/
theorem at?_cons {entries : Entries} {name : Octets} {rest : List Octets} {found : Directory}
    : (Directory.listed entries).at? (name :: rest) = some found
      ↔ ∃ inner, entries.folder? name = some inner ∧ inner.at? rest = some found :=
  Option.bind_eq_some_iff

/-- What is inside a directory with distinct names has distinct names. -/
theorem Distinct.inside {entries : Entries} {name : Octets} {inner : Directory}
    (distinct : (listed entries).Distinct)
    (folder : entries.folder? name = some inner)
    : inner.Distinct :=
  fun _ _ there => distinct _ _ (at?_cons.mpr ⟨inner, folder, there⟩)

end Directory

namespace Artifact

/-- What a search of a directory comes to: what the first directory that decides it comes to by
itself, and nothing if none does.
-/
inductive Searched (file : Octets) (path : Path) (directory : Directory) : Outcome → Prop
  | decided {place : List Octets} {found : Directory}
    (there : directory.at? place = some found)
    (decides : (found.own file (place.foldl Path.join path)).decides = true)
    (first
      : ∀ {other : List Octets} {earlier : Directory},
          other < place → directory.at? other = some earlier → earlier.Quiet file)
    : Searched file path directory (found.own file (place.foldl Path.join path))
  | absent
    (quiet
      : ∀ {place : List Octets} {found : Directory},
          directory.at? place = some found → found.Quiet file)
    : Searched file path directory .absent

-----------------------------------------------------------------------------------------
-- The first of the outcomes
-----------------------------------------------------------------------------------------

/-- Names are put in the order of their octets, by induction on one of them. -/
theorem before_iff_lt (first second : Octets)
    : Path.before first second = true ↔ first < second := by
  induction first generalizing second with
  | nil =>
      cases second with
      | nil => simp [Path.before]
      | cons b second => simp [Path.before]
  | cons a first ih =>
      cases second with
      | nil => simp [Path.before]
      | cons b second =>
          rw [List.cons_lt_cons_iff, Path.before]
          split
          · next same => simp [same, ih]
          · next differs => simp [differs]

/-- Sorted outcomes are in the order of their names. -/
theorem pairwise_sorted (outcomes : List (Octets × Outcome))
    : (outcomes.mergeSort fun first second => !Path.before second.1 first.1).Pairwise
        fun first second => first.1 ≤ second.1 := by
  have order (first second : Octets × Outcome)
      : (!Path.before second.1 first.1) = true ↔ first.1 ≤ second.1 := by
    rw [← List.not_lt, ← before_iff_lt, Bool.not_eq_true', Bool.not_eq_true]
  refine List.Pairwise.imp (order _ _).mp (List.pairwise_mergeSort ?_ ?_ outcomes)
  · intro first second third
    simp only [order]
    exact List.le_trans
  · intro first second
    simp only [Bool.or_eq_true, order]
    exact List.le_total _ _

/-- The outcome of directories is that of the first by name that decides, and there is none if no
outcome does. Witness: sorted by name, what stands behind the first decisive one has no name before
it.
-/
theorem firstOutcome_eq (outcomes : List (Octets × Outcome))
    : (firstOutcome outcomes = .absent ∧ ∀ entry ∈ outcomes, entry.2.decides = false)
        ∨ ∃ name outcome,
            (name, outcome) ∈ outcomes
              ∧ outcome.decides = true
              ∧ firstOutcome outcomes = outcome
              ∧ ∀ entry ∈ outcomes, entry.1 < name → entry.2.decides = false := by
  have sorted := pairwise_sorted outcomes
  -- Of the sort only these two facts are used.
  have same := List.mergeSort_perm outcomes fun first second => !Path.before second.1 first.1
  unfold firstOutcome
  generalize outcomes.mergeSort _ = inOrder at sorted same ⊢
  cases found : inOrder.find? (·.2.decides) with
  | none =>
      refine .inl ⟨by simp only [found], ?_⟩
      intro entry member
      simpa using List.find?_eq_none.mp found entry (same.mem_iff.mpr member)
  | some decisive =>
      obtain ⟨name, outcome⟩ := decisive
      obtain ⟨decides, earlier, later, rfl, quiet⟩ := List.find?_eq_some_iff_append.mp found
      obtain ⟨-, behind, -⟩ := List.pairwise_append.mp sorted
      refine .inr ⟨name, outcome, ?_, decides, by simp only [found], ?_⟩
      · exact same.mem_iff.mp (List.mem_append_right _ List.mem_cons_self)
      · intro entry member before
        rcases List.mem_append.mp (same.mem_iff.mpr member) with front | rest
        · simpa using quiet entry front
        · rcases List.mem_cons.mp rest with rfl | later
          · exact absurd before (List.lt_irrefl _)
          · exact absurd before (List.not_lt.mpr (List.rel_of_pairwise_cons behind later))

-----------------------------------------------------------------------------------------
-- The search of a directory
-----------------------------------------------------------------------------------------

/-- A directory that is searched has its outcome under its name. -/
theorem mem_searchFolders (file : Octets) (path : Path) (entries : Entries) {name : Octets}
    {inner : Directory} (folder : entries.folder? name = some inner)
    : (name, search file (Path.join path name) inner) ∈ searchFolders file path entries := by
  match entries with
  | .none => cases folder
  | .leaf _ rest => exact mem_searchFolders file path rest folder
  | .folder first directory rest =>
      rw [searchFolders]
      by_cases same : first = name
      · subst same
        simp only [Entries.folder?, if_true, Option.some.injEq] at folder
        rw [folder]
        exact List.mem_cons_self
      · simp only [Entries.folder?, same, if_false] at folder
        exact List.mem_cons_of_mem _ (mem_searchFolders file path rest folder)

/-- Every name that has an outcome is one of a directory. -/
theorem mem_folderNames {file : Octets} {path : Path} {name : Octets} {outcome : Outcome}
    (entries : Entries) (member : (name, outcome) ∈ searchFolders file path entries)
    : name ∈ entries.folderNames := by
  match entries with
  | .none => cases member
  | .leaf _ rest => exact mem_folderNames rest member
  | .folder first directory rest =>
      rcases List.mem_cons.mp member with same | later
      · cases same
        exact List.mem_cons_self
      · exact List.mem_cons_of_mem _ (mem_folderNames rest later)

/-- Every outcome is that of the directory of its name, since no other has this name. -/
theorem folder?_of_mem_searchFolders {file : Octets} {path : Path} {name : Octets}
    {outcome : Outcome} (entries : Entries) (distinct : entries.folderNames.Nodup)
    (member : (name, outcome) ∈ searchFolders file path entries)
    : ∃ inner,
        entries.folder? name = some inner
          ∧ outcome = search file (Path.join path name) inner := by
  match entries with
  | .none => cases member
  | .leaf _ rest => exact folder?_of_mem_searchFolders rest distinct member
  | .folder first directory rest =>
      obtain ⟨fresh, distinct⟩ := List.nodup_cons.mp distinct
      rw [Entries.folder?]
      rcases List.mem_cons.mp member with same | later
      · cases same
        exact ⟨directory, if_pos rfl, rfl⟩
      · have other : first ≠ name := by
          rintro rfl
          exact fresh (mem_folderNames rest later)
        rw [if_neg other]
        exact folder?_of_mem_searchFolders rest distinct later

/-- A search that comes to nothing found nothing that decides it. -/
theorem Searched.quiet {file : Octets} {path : Path} {directory : Directory} {outcome : Outcome}
    (searched : Searched file path directory outcome) (undecided : outcome.decides = false)
    {place : List Octets} {found : Directory} (there : directory.at? place = some found)
    : found.Quiet file := by
  cases searched with
  | decided _ decides _ => exact absurd decides (by simp [undecided])
  | absent quiet => exact quiet there

/-- A directory without the file comes to what the directories in it do. Witness: the place that
decides is inside the first of them that is decided, and all that comes before it is the directory
itself, what is inside an earlier one, and what is inside the same one and comes before there.
-/
theorem searched_folders {file : Octets} {path : Path} {entries : Entries}
    (distinct : entries.folderNames.Nodup) (missing : entries.hasLeaf file = false)
    (inside
      : ∀ {name : Octets} {inner : Directory},
          entries.folder? name = some inner
          → Searched file (Path.join path name) inner (search file (Path.join path name) inner))
    : Searched file path (.listed entries) (firstOutcome (searchFolders file path entries)) := by
  have itself : (Directory.listed entries).Quiet file := ⟨entries, rfl, missing⟩
  rcases firstOutcome_eq (searchFolders file path entries) with
    ⟨none, undecided⟩ | ⟨name, outcome, member, decides, same, first⟩
  · rw [none]
    refine .absent ?_
    intro place found there
    cases place with
    | nil =>
        cases there
        exact itself
    | cons name rest =>
        obtain ⟨inner, folder, there⟩ := Directory.at?_cons.mp there
        exact (inside folder).quiet (undecided _ (mem_searchFolders file path entries folder)) there
  · rw [same]
    obtain ⟨inner, folder, rfl⟩ := folder?_of_mem_searchFolders entries distinct member
    have searched := inside folder
    generalize search file (Path.join path name) inner = outcome at searched decides
    cases searched with
    | absent _ => cases decides
    | @decided place found there decides before =>
        have whole : (Directory.listed entries).at? (name :: place) = some found :=
          Directory.at?_cons.mpr ⟨inner, folder, there⟩
        refine Searched.decided whole decides ?_
        intro other earlier less there
        cases other with
        | nil =>
            cases there
            exact itself
        | cons another rest =>
            obtain ⟨outer, folderToo, there⟩ := Directory.at?_cons.mp there
            rcases List.cons_lt_cons_iff.mp less with sooner | ⟨rfl, sooner⟩
            -- A directory with an earlier name comes to nothing, or it would decide.
            · have member := mem_searchFolders file path entries folderToo
              exact (inside folderToo).quiet (first _ member sooner) there
            · cases folderToo.symm.trans folder
              exact before sooner there

mutual

/-- A directory with distinct names is searched in order, by induction on directories. -/
theorem searched (file : Octets) (path : Path) {directory : Directory}
    (distinct : directory.Distinct)
    : Searched file path directory (search file path directory) := by
  match directory with
  | .refused fault =>
      exact Searched.decided (Directory.at?_nil _) rfl fun less => absurd less (List.not_lt_nil _)
  | .listed entries =>
      rw [search]
      split
      · next holds =>
          have own : (Directory.listed entries).own file path = .found (Path.join path file) :=
            if_pos holds
          rw [← own]
          refine Searched.decided (Directory.at?_nil _) ?_ fun less =>
            absurd less (List.not_lt_nil _)
          rw [List.foldl_nil, own]
          rfl
      · next missing =>
          refine searched_folders (distinct _ _ (Directory.at?_nil _))
            (Bool.eq_false_iff.mpr missing) ?_
          intro name inner folder
          exact searched_inside file (Path.join path name) entries folder
            (distinct.inside folder)

/-- Each directory among entries is searched in order, by induction on the entries. -/
theorem searched_inside (file : Octets) (path : Path) (entries : Entries) {name : Octets}
    {inner : Directory} (folder : entries.folder? name = some inner)
    (distinct : inner.Distinct)
    : Searched file path inner (search file path inner) := by
  match entries with
  | .none => cases folder
  | .leaf _ rest => exact searched_inside file path rest folder distinct
  | .folder first directory rest =>
      rw [Entries.folder?] at folder
      split at folder
      · cases folder
        exact searched file path distinct
      · exact searched_inside file path rest folder distinct

end

end Artifact

end Dialogue
