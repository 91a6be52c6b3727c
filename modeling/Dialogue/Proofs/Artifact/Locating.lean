import Dialogue.FileTree.Basic
import Dialogue.Proofs.Artifact.Searching

/-!
Where an artifact is located in a tree of files. A folder counts at its place among the folders, and
so no link is ever followed; a link counts as the file of its name, wherever it leads. Of the
folders that hold the file and those that refuse to be listed, the first one decides.
-/

namespace Dialogue

-----------------------------------------------------------------------------------------
-- Trees and what is seen of them
-----------------------------------------------------------------------------------------

mutual

/-- In no folder of a tree do two entries have the same name. -/
def Node.Distinct : Node → Prop
  | .folder entries => entries.names.Nodup ∧ entries.Distinct
  | _ => True

/-- In no folder below these entries do two entries have the same name. -/
def Folder.Distinct : Folder → Prop
  | .none => True
  | .entry _ node rest => node.Distinct ∧ rest.Distinct

end

mutual

/-- What a search sees of a node when the folders at some places refuse to be listed; nothing if it
is no folder.
-/
def Node.view (refusal : Node.Place → Option Fault) : Node → Option Directory
  | .folder entries =>
    some (match refusal [] with
      | some fault => .refused fault
      | none => .listed (entries.view refusal))
  | _ => none

/-- What a search sees of entries when the folders at some places refuse to be listed. -/
def Folder.view (refusal : Node.Place → Option Fault) : Folder → Entries
  | .none => .none
  | .entry name node rest =>
    match node.view fun place => refusal (name :: place) with
    | some directory => .folder name directory (rest.view refusal)
    | none => .leaf name (rest.view refusal)

end

namespace Node

/-- The folder at a place refuses to be listed. -/
def Refuses (tree : Node) (refusal : Place → Option Fault) (place : Place) (fault : Fault)
    : Prop :=
  (∃ entries, tree.at? place = some (.folder entries)) ∧ refusal place = some fault

/-- The folder at a place can be listed and has an entry of this name that is no folder. -/
def Holds (tree : Node) (refusal : Place → Option Fault) (file : Octets) (place : Place)
    : Prop :=
  ∃ entries node,
    tree.at? place = some (.folder entries)
      ∧ refusal place = none
      ∧ entries.get? file = some node
      ∧ ∀ inner, node ≠ .folder inner

end Node

/-- What locating a file in a tree comes to when the folders at some places refuse to be listed.
Places come in the order of their names, and each before what is inside it.
-/
inductive Located (root : Path) (tree : Node) (refusal : Node.Place → Option Fault)
    (file : String) : Except Artifact.LocateError Path → Prop
  | found {place : Node.Place} (holds : tree.Holds refusal (Text.octets file) place)
    (least : ∀ other, tree.Holds refusal (Text.octets file) other → ¬ other < place)
    (listable : ∀ other fault, tree.Refuses refusal other fault → ¬ other < place)
    : Located root tree refusal file
        (.ok (Path.join (place.foldl Path.join root) (Text.octets file)))
  | refused {place : Node.Place} {fault : Fault} (refuses : tree.Refuses refusal place fault)
    (least : ∀ other fault, tree.Refuses refusal other fault → ¬ other < place)
    (precedes : ∀ other, tree.Holds refusal (Text.octets file) other → place < other)
    : Located root tree refusal file (.error (.refused (place.foldl Path.join root) fault))
  | absent (none : ∀ place, ¬ tree.Holds refusal (Text.octets file) place)
    (listable : ∀ place fault, ¬ tree.Refuses refusal place fault)
    : Located root tree refusal file (.error (.notFound root file))

-----------------------------------------------------------------------------------------
-- What is seen of a machine's tree
-----------------------------------------------------------------------------------------

/-- The folders whose paths are too long refuse to be listed, when the path of the tree has the
given length; each name on the way stands behind a slash.
-/
def Node.refusalOf (length : Nat) (place : Node.Place) : Option Fault :=
  if longestPath ≤ length + (place.flatMap (Path.slash :: ·)).length then some .nameTooLong
  else none

/-- Behind a name a path is longer by the name and a slash. -/
theorem Node.refusalOf_behind (length : Nat) (name : Octets)
    : refusalOf (length + 1 + name.length) = fun place => refusalOf length (name :: place) := by
  funext place
  have longer
      : length + 1 + name.length + (place.flatMap (Path.slash :: ·)).length
        = length + ((name :: place).flatMap (Path.slash :: ·)).length := by
    rw [List.flatMap_cons, List.length_append, List.length_cons]
    omega
  rw [refusalOf, refusalOf, longer]

mutual

/-- What is surveyed of a node is what is seen of it when long paths refuse, by induction on nodes.
-/
theorem Node.survey_eq_view (length : Nat) (node : Node)
    : node.survey length = node.view (Node.refusalOf length) := by
  match node with
  | .folder entries =>
      have itself
          : Node.refusalOf length []
            = if Node.longestPath ≤ length then some .nameTooLong else none :=
        rfl
      rw [Node.survey, Node.view, Folder.survey_eq_view, itself]
      split <;> rfl
  | .file .. | .link _ | .builtin _ | .device _ => rfl

/-- What is surveyed of entries is what is seen of them when long paths refuse, by induction on the
entries.
-/
theorem Folder.survey_eq_view (length : Nat) (entries : Folder)
    : Node.surveyEntries (length + 1) entries = entries.view (Node.refusalOf length) := by
  match entries with
  | .none => rfl
  | .entry name node rest =>
      have inRest := Folder.survey_eq_view length rest
      have behind := Node.survey_eq_view (length + 1 + name.length) node
      rw [Node.refusalOf_behind] at behind
      cases seen : node.view fun place => Node.refusalOf length (name :: place) with
      | none => simp only [Node.surveyEntries, Folder.view, behind, seen, inRest]
      | some directory => simp only [Node.surveyEntries, Folder.view, behind, seen, inRest]

end

-----------------------------------------------------------------------------------------
-- What is seen of entries
-----------------------------------------------------------------------------------------

namespace Folder

/-- A name that an entry has is among the names. -/
theorem mem_names_of_get? {name : Octets} {node : Node} {entries : Folder}
    (there : entries.get? name = some node)
    : name ∈ entries.names := by
  match entries with
  | .none => cases there
  | .entry first other rest =>
      rw [get?] at there
      split at there
      · next same =>
          rw [same]
          exact List.mem_cons_self
      · exact List.mem_cons_of_mem _ (mem_names_of_get? there)

/-- The names of the folders that are seen are among the names. -/
theorem folderNames_view (refusal : Node.Place → Option Fault) (entries : Folder)
    : (entries.view refusal).folderNames.Sublist entries.names := by
  match entries with
  | .none => exact .slnil
  | .entry name node rest =>
      rw [view]
      split
      · exact (folderNames_view refusal rest).cons_cons name
      · exact (folderNames_view refusal rest).cons name

/-- A name that is not among the names is that of no entry. -/
theorem get?_eq_none {name : Octets} {entries : Folder} (missing : name ∉ entries.names)
    : entries.get? name = Option.none := by
  rw [Option.eq_none_iff_forall_ne_some]
  exact fun node there => missing (mem_names_of_get? there)

/-- The folder that is seen under a name is what is seen of the entry of this name; by induction on
the entries.
-/
theorem folder?_view (refusal : Node.Place → Option Fault) (name : Octets) {entries : Folder}
    (distinct : entries.names.Nodup)
    : (entries.view refusal).folder? name
      = (entries.get? name).bind (Node.view fun place => refusal (name :: place)) := by
  match entries with
  | .none => rfl
  | .entry first node rest =>
      obtain ⟨fresh, distinct⟩ := List.nodup_cons.mp distinct
      have ih := folder?_view refusal name distinct
      rw [view, get?]
      by_cases same : first = name
      · subst same
        rw [get?_eq_none fresh] at ih
        cases seen : node.view fun place => refusal (first :: place) with
        | none => simpa [Entries.folder?, seen] using ih
        | some directory => simp [Entries.folder?, seen]
      · cases seen : node.view fun place => refusal (first :: place) with
        | none => simpa [Entries.folder?, same] using ih
        | some directory => simpa [Entries.folder?, same] using ih

/-- A file is seen under a name if the entry of this name is no folder; by induction on the entries.
-/
theorem hasLeaf_view (refusal : Node.Place → Option Fault) (file : Octets) {entries : Folder}
    (distinct : entries.names.Nodup)
    : (entries.view refusal).hasLeaf file = true
      ↔ ∃ node, entries.get? file = some node ∧ ∀ inner, node ≠ .folder inner := by
  match entries with
  | .none => simp [view, Entries.hasLeaf, get?]
  | .entry first node rest =>
      obtain ⟨fresh, distinct⟩ := List.nodup_cons.mp distinct
      have ih := hasLeaf_view refusal file distinct
      rw [view, get?]
      by_cases same : first = file
      · subst same
        rw [get?_eq_none fresh] at ih
        cases node <;> simp_all [Node.view, Entries.hasLeaf]
      · cases node <;> simp [Node.view, Entries.hasLeaf, same, ih]

/-- In a folder below distinct entries the names are distinct too. -/
theorem Distinct.get? {name : Octets} {node : Node} {entries : Folder}
    (distinct : entries.Distinct) (there : entries.get? name = some node)
    : node.Distinct := by
  match entries with
  | .none => cases there
  | .entry first other rest =>
      rw [Folder.get?] at there
      split at there
      · cases there
        exact distinct.1
      · exact Distinct.get? distinct.2 there

end Folder

-----------------------------------------------------------------------------------------
-- What is seen at places
-----------------------------------------------------------------------------------------

namespace Node

/-- A name leads from a folder to what is behind the entry of this name. -/
theorem at?_cons {entries : Folder} {name : Octets} {rest : Place} {node : Node}
    : (Node.folder entries).at? (name :: rest) = some node
      ↔ ∃ inner, entries.get? name = some inner ∧ inner.at? rest = some node := by
  rw [at?]
  cases entries.get? name <;> simp

/-- The place without names is that of the node itself. -/
@[simp]
theorem at?_nil (node : Node)
    : node.at? [] = some node := by
  cases node <;> rfl

/-- What is seen of a node is its refusal or its entries, if it is a folder. -/
theorem view_cases {node : Node} {refusal : Place → Option Fault} {directory : Directory}
    (seen : node.view refusal = some directory)
    : ∃ entries,
        node = .folder entries
          ∧ ((∃ fault, refusal [] = some fault ∧ directory = .refused fault)
              ∨ refusal [] = none ∧ directory = .listed (entries.view refusal)) := by
  cases node with
  | folder entries =>
      refine ⟨entries, rfl, ?_⟩
      rw [view] at seen
      cases refuses : refusal [] with
      | some fault => simpa [refuses, eq_comm] using seen
      | none => simpa [refuses, eq_comm] using seen
  | _ => cases seen

/-- What is seen of the entry of a name is seen under this name. -/
theorem folder?_of_view {entries : Folder} {refusal : Place → Option Fault} {name : Octets}
    {node : Node} {inner : Directory} (distinct : (Node.folder entries).Distinct)
    (entry : entries.get? name = some node)
    (seen : node.view (fun place => refusal (name :: place)) = some inner)
    : (entries.view refusal).folder? name = some inner := by
  rw [Folder.folder?_view refusal name distinct.1, entry]
  exact seen

/-- What is seen at a place is what is seen of the folder there, by induction on the place. -/
theorem at?_view {tree : Node} {refusal : Place → Option Fault} {directory found : Directory}
    {place : Place} (distinct : tree.Distinct) (seen : tree.view refusal = some directory)
    (there : directory.at? place = some found)
    : ∃ entries,
        tree.at? place = some (.folder entries)
          ∧ entries.names.Nodup
          ∧ (Node.folder entries).view (fun inner => refusal (place ++ inner)) = some found := by
  induction place generalizing tree refusal directory with
  | nil =>
      obtain ⟨entries, rfl, -⟩ := view_cases seen
      rw [Directory.at?_nil] at there
      cases there
      exact ⟨entries, at?_nil _, distinct.1, seen⟩
  | cons name rest ih =>
      obtain ⟨outer, rfl, ⟨fault, -, rfl⟩ | ⟨-, rfl⟩⟩ := view_cases seen
      · cases there
      · obtain ⟨inner, folder, there⟩ := Directory.at?_cons.mp there
        rw [Folder.folder?_view refusal name distinct.1] at folder
        obtain ⟨node, entry, seen⟩ := Option.bind_eq_some_iff.mp folder
        obtain ⟨entries, found, names, view⟩ := ih (distinct.2.get? entry) seen there
        exact ⟨entries, at?_cons.mpr ⟨node, entry, found⟩, names, view⟩

/-- A directory that is seen refuses to be listed where the folder does, and otherwise has the file
where the folder holds it.
-/
theorem seen_cases {tree : Node} {refusal : Place → Option Fault} {directory found : Directory}
    {place : Place} (distinct : tree.Distinct) (seen : tree.view refusal = some directory)
    (there : directory.at? place = some found) (file : Octets)
    : (∃ fault, found = .refused fault ∧ tree.Refuses refusal place fault)
        ∨ ∃ listed,
            found = .listed listed
              ∧ refusal place = none
              ∧ (listed.hasLeaf file = true ↔ tree.Holds refusal file place) := by
  obtain ⟨entries, folder, names, view⟩ := at?_view distinct seen there
  obtain ⟨_, same, cases⟩ := view_cases view
  cases same
  rw [List.append_nil] at cases
  rcases cases with ⟨fault, refuses, rfl⟩ | ⟨listable, rfl⟩
  · exact .inl ⟨fault, rfl, ⟨entries, folder⟩, refuses⟩
  · refine .inr ⟨_, rfl, listable, ?_⟩
    rw [Folder.hasLeaf_view _ file names]
    constructor
    · rintro ⟨node, entry, leaf⟩
      exact ⟨entries, node, folder, listable, entry, leaf⟩
    · rintro ⟨others, node, again, -, entry, leaf⟩
      cases folder.symm.trans again
      exact ⟨node, entry, leaf⟩

/-- What is seen of a tree with distinct names has distinct names. -/
theorem distinct_view {tree : Node} {refusal : Place → Option Fault} {directory : Directory}
    (distinct : tree.Distinct) (seen : tree.view refusal = some directory)
    : directory.Distinct := by
  intro place listed there
  obtain ⟨entries, -, names, view⟩ := at?_view distinct seen there
  obtain ⟨_, same, ⟨_, -, other⟩ | ⟨-, whole⟩⟩ := view_cases view
  · cases other
  · cases same
    cases whole
    exact (Folder.folderNames_view _ entries).nodup names

/-- A folder is seen at its place, unless one that it is inside of refuses to be listed; by
induction on the place.
-/
theorem seen_or_refused {tree : Node} {refusal : Place → Option Fault} {directory : Directory}
    {place : Place} {entries : Folder} (distinct : tree.Distinct)
    (seen : tree.view refusal = some directory)
    (there : tree.at? place = some (.folder entries))
    : (∃ found, directory.at? place = some found)
        ∨ ∃ before fault, before < place ∧ directory.at? before = some (.refused fault) := by
  induction place generalizing tree refusal directory with
  | nil => exact .inl ⟨directory, directory.at?_nil⟩
  | cons name rest ih =>
      -- A folder that refuses comes before every place inside it, also before those it hides.
      obtain ⟨outer, rfl, ⟨fault, -, rfl⟩ | ⟨-, rfl⟩⟩ := view_cases seen
      · exact .inr ⟨[], fault, List.nil_lt_cons _ _, Directory.at?_nil _⟩
      · obtain ⟨node, entry, there⟩ := at?_cons.mp there
        cases node with
        | folder inner =>
            obtain ⟨directory, seen⟩ : ∃ directory,
                (Node.folder inner).view (fun place => refusal (name :: place)) = some directory :=
              ⟨_, rfl⟩
            have folder := folder?_of_view distinct entry seen
            rcases ih (distinct.2.get? entry) seen there with
              ⟨found, there⟩ | ⟨before, fault, less, there⟩
            · exact .inl ⟨found, Directory.at?_cons.mpr ⟨_, folder, there⟩⟩
            · refine .inr ⟨name :: before, fault, ?_, Directory.at?_cons.mpr ⟨_, folder, there⟩⟩
              exact List.cons_lt_cons_iff.mpr (.inr ⟨rfl, less⟩)
        | _ => cases rest <;> cases there

/-- What is seen at a place where a folder holds the file or refuses to be listed is not quiet,
unless the search stopped before it came there.
-/
theorem exists_not_quiet {tree : Node} {refusal : Place → Option Fault} {file : Octets}
    {directory : Directory} {place : Place} (distinct : tree.Distinct)
    (seen : tree.view refusal = some directory)
    (decides : tree.Holds refusal file place ∨ ∃ fault, tree.Refuses refusal place fault)
    : ∃ other found,
        ¬ place < other ∧ directory.at? other = some found ∧ ¬ found.Quiet file := by
  have folder : ∃ entries, tree.at? place = some (.folder entries) := by
    rcases decides with ⟨entries, -, there, -⟩ | ⟨-, there, -⟩
    · exact ⟨entries, there⟩
    · exact there
  obtain ⟨entries, there⟩ := folder
  rcases seen_or_refused distinct seen there with ⟨found, reached⟩ | ⟨before, fault, less, reached⟩
  · refine ⟨place, found, List.lt_irrefl _, reached, ?_⟩
    rintro ⟨listed, rfl, missing⟩
    rcases seen_cases distinct seen reached file with
      ⟨fault, refused, -⟩ | ⟨_, same, listable, holds⟩
    · cases refused
    · cases same
      rcases decides with there | ⟨fault, -, refuses⟩
      · exact absurd (holds.mpr there) (by simp [missing])
      · cases refuses.symm.trans listable
  · refine ⟨before, _, List.lt_asymm less, reached, ?_⟩
    rintro ⟨_, other, -⟩
    cases other

end Node

-----------------------------------------------------------------------------------------
-- Locating
-----------------------------------------------------------------------------------------

/-- A folder that refuses to be listed holds nothing. -/
theorem Node.Refuses.not_holds {tree : Node} {refusal : Place → Option Fault} {place : Place}
    {fault : Fault} (refuses : tree.Refuses refusal place fault) (file : Octets)
    : ¬ tree.Holds refusal file place := by
  rintro ⟨_, _, -, listable, -⟩
  cases refuses.2.symm.trans listable

/-- What a file is located to is determined, by cases on both: of two places one comes first, unless
they are the same.
-/
theorem Located.eq {root : Path} {tree : Node} {refusal : Node.Place → Option Fault}
    {file : String} {result other : Except Artifact.LocateError Path}
    (first : Located root tree refusal file result)
    (second : Located root tree refusal file other)
    : result = other := by
  cases first with
  | @found place holds least listable =>
      cases second with
      | @found another holdsToo leastToo listableToo =>
          rcases Std.lt_trichotomy place another with less | rfl | less
          · exact absurd less (leastToo _ holds)
          · rfl
          · exact absurd less (least _ holdsToo)
      | refused refuses _ precedes => exact absurd (precedes _ holds) (listable _ _ refuses)
      | absent none _ => exact absurd holds (none _)
  | @refused place fault refuses least precedes =>
      cases second with
      | found holds _ listable => exact absurd (precedes _ holds) (listable _ _ refuses)
      | @refused another faultToo refusesToo leastToo _ =>
          rcases Std.lt_trichotomy place another with less | rfl | less
          · exact absurd less (leastToo _ _ refuses)
          · cases refuses.2.symm.trans refusesToo.2
            rfl
          · exact absurd less (least _ _ refusesToo)
      | absent _ listable => exact absurd refuses (listable _ _)
  | absent none listable =>
      cases second with
      | found holds _ _ => exact absurd holds (none _)
      | refused refuses _ _ => exact absurd refuses (listable _ _)
      | absent _ _ => rfl

namespace Artifact

/-- Locating a file in a tree comes to what it should. Witness: the search stops at the first place
that it does not find quiet, and every place where a folder holds the file or refuses to be listed
is such a place or comes after one.
-/
theorem locate_located {entries : Folder} (distinct : (Node.folder entries).Distinct)
    (refusal : Node.Place → Option Fault) (root : Path) (name extension : String)
    : Located root (.folder entries) refusal (fileName name extension)
        (locate root ((Node.folder entries).view refusal) name extension) := by
  obtain ⟨directory, seen⟩
      : ∃ directory, (Node.folder entries).view refusal = some directory :=
    ⟨_, rfl⟩
  rw [seen, locate]
  generalize fileName name extension = file
  have done := searched (Text.octets file) root (Node.distinct_view distinct seen)
  generalize search (Text.octets file) root directory = outcome at done ⊢
  cases done with
  | absent quiet =>
      refine .absent ?_ ?_
      · intro place holds
        obtain ⟨_, _, -, reached, loud⟩ := Node.exists_not_quiet distinct seen (.inl holds)
        exact loud (quiet reached)
      · intro place fault refuses
        obtain ⟨_, _, -, reached, loud⟩ :=
          Node.exists_not_quiet distinct seen (.inr ⟨fault, refuses⟩)
        exact loud (quiet reached)
  | @decided place found there decides first =>
      -- What would stop the search before it stopped would not have been quiet.
      have least {other : Node.Place}
          (stops
            : Node.Holds (.folder entries) refusal (Text.octets file) other
              ∨ ∃ fault, Node.Refuses (.folder entries) refusal other fault)
          : ¬ other < place := by
        intro less
        obtain ⟨stop, _, notAfter, reached, loud⟩ := Node.exists_not_quiet distinct seen stops
        exact loud (first (List.lt_of_le_of_lt (List.not_lt.mp notAfter) less) reached)
      rcases Node.seen_cases distinct seen there (Text.octets file) with
        ⟨fault, rfl, refuses⟩ | ⟨listed, rfl, listable, holds⟩
      · refine .refused refuses (fun _ _ stops => least (.inr ⟨_, stops⟩)) ?_
        intro other stops
        rcases Std.lt_trichotomy place other with less | rfl | less
        · exact less
        · exact absurd stops (refuses.not_holds _)
        · exact absurd less (least (.inl stops))
      · cases has : listed.hasLeaf (Text.octets file) with
        | false => simp [Directory.own, has, Outcome.decides] at decides
        | true =>
            simp only [Directory.own, has, if_true]
            exact .found (holds.mp has) (fun _ stops => least (.inl stops))
              (fun _ _ stops => least (.inr ⟨_, stops⟩))

/-- An artifact is located at the first place that holds its file, if every folder that comes before
can be listed; otherwise the first folder that cannot is reported, and if there is neither, that
there is no such file. Links are never followed.
-/
theorem locate_iff_located {entries : Folder} (distinct : (Node.folder entries).Distinct)
    (refusal : Node.Place → Option Fault) (root : Path) (name extension : String)
    (result : Except LocateError Path)
    : locate root ((Node.folder entries).view refusal) name extension = result
      ↔ Located root (.folder entries) refusal (fileName name extension) result := by
  have located := locate_located distinct refusal root name extension
  constructor
  · rintro rfl
    exact located
  · exact located.eq

/-- A folder of the file's name is passed by, and a link of its name that leads back to where it
stands is found, before a folder that refuses to be listed.
-/
theorem locate_iff_located_past_folder
    : let file := Text.octets "m.c"
      let entries : Folder :=
        .entry [0x63] (.folder .none) <|
          .entry [0x62] (.folder (.entry file (.link [Path.dot]) .none)) <|
          .entry [0x61] (.folder (.entry file (.folder .none) .none)) .none
      let refusal : Node.Place → Option Fault := fun place =>
        if place = [[0x63]] then some (.system 13) else none
      let root := Text.octets "out"
      (Node.folder entries).Distinct
        ∧ Located root (.folder entries) refusal "m.c" (.ok (Text.octets "out/b/m.c")) := by
  intro file entries refusal root
  have distinct : (Node.folder entries).Distinct := by
    simp [entries, Node.Distinct, Folder.Distinct, Folder.names]
  refine ⟨distinct, (locate_iff_located distinct refusal root "m" "c" _).mp ?_⟩
  have named : fileName "m" "c" = "m.c" := by decide
  have bytes : Text.octets "m.c" = [0x6d, 0x2e, 0x63] := by decide
  have start : root = [0x6f, 0x75, 0x74] := by decide
  have path
      : Text.octets "out/b/m.c" = [0x6f, 0x75, 0x74, 0x2f, 0x62, 0x2f, 0x6d, 0x2e, 0x63] := by
    decide
  simp [locate, named, bytes, start, path, file, entries, refusal, Node.view, Folder.view, search,
    searchFolders, firstOutcome, List.mergeSort, List.MergeSort.Internal.splitInTwo, Path.before,
    Outcome.decides, Entries.hasLeaf, Path.join, Path.isAbsolute, Path.slash]

end Artifact

end Dialogue
