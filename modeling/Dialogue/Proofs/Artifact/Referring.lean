import Dialogue.Artifact.Search
import Dialogue.Proofs.Path.Components

/-!
From an entry to its reference. However an entry is asked for, the same file is looked for; and
wherever below a root that file stands, its reference is made of the folders that lead to it and of
the name of the entry, joined by dots. Among names without dots the reference says where the
artifact is.
-/

namespace Dialogue

/-- A text that is one component of a path, and the name of an entry. -/
structure OrdinaryName (name : String) : Prop where
  filled : name ≠ ""
  notHere : name ≠ "."
  notUp : name ≠ ".."
  single : '/' ∉ name.toList

/-- An extension as it stands in a file name: something is there, it has no dots, and it does not
reach into another component.
-/
structure PlainExtension (extension : String) : Prop where
  filled : extension ≠ ""
  undotted : '.' ∉ extension.toList
  single : '/' ∉ extension.toList

/-- There is a first character of a plain extension. -/
theorem PlainExtension.toList_ne_nil {extension : String} (plain : PlainExtension extension)
    : extension.toList ≠ [] :=
  fun none => plain.filled (String.toList_injective none)

/-- Texts with the same octets are the same, since the octets can be read again. -/
theorem Text.octets_injective {text other : String} (same : octets text = octets other)
    : text = other := by
  rw [← shown_octets text, same, shown_octets]

instance (name : String) : Decidable (OrdinaryName name) :=
  decidable_of_iff (name ≠ "" ∧ name ≠ "." ∧ name ≠ ".." ∧ '/' ∉ name.toList)
    ⟨fun ⟨filled, notHere, notUp, single⟩ => ⟨filled, notHere, notUp, single⟩,
      fun ⟨filled, notHere, notUp, single⟩ => ⟨filled, notHere, notUp, single⟩⟩

instance (extension : String) : Decidable (PlainExtension extension) :=
  decidable_of_iff (extension ≠ "" ∧ '.' ∉ extension.toList ∧ '/' ∉ extension.toList)
    ⟨fun ⟨filled, undotted, single⟩ => ⟨filled, undotted, single⟩,
      fun ⟨filled, undotted, single⟩ => ⟨filled, undotted, single⟩⟩

/-- The octets of an ordinary name are one component of a path. -/
theorem OrdinaryName.octets {name : String} (ordinary : OrdinaryName name)
    : Path.Ordinary (Text.octets name) where
  filled same := ordinary.filled (Text.octets_injective same)
  notHere same := ordinary.notHere (Text.octets_injective same)
  notUp same := ordinary.notUp (Text.octets_injective same)
  single := Text.not_mem_octets (by decide) ordinary.single

namespace Artifact

-----------------------------------------------------------------------------------------
-- Artifacts below a root
-----------------------------------------------------------------------------------------

/-- Where an artifact with an extension stands below a root: the folders that lead to it, and its
name in front of the extension, which does not end in the extension once more.
-/
structure Site (extension : String) where
  folders : List String
  base : String
  ordinaryFolders : ∀ folder ∈ folders, OrdinaryName folder
  ordinaryBase : OrdinaryName base
  bare : ¬ ('.' :: extension.toList) <:+ base.toList

namespace Site

variable {extension : String}

/-- The name of the artifact's file. -/
def file (site : Site extension) : String :=
  site.base ++ "." ++ extension

/-- The path of the artifact below a root, to which one name after the other is joined. -/
def path (site : Site extension) (root : Path) : Path :=
  ((site.folders ++ [site.file]).map Path.ofText).foldl Path.join root

/-- The names by which the artifact is known: its folders and its name without the extension. -/
def names (site : Site extension) : List String :=
  site.folders ++ [site.base]

/-- The ways to ask for the artifact, by a name and an extension: by its name, with as many dots as
one likes in front of the extension, or by the name of its file.
-/
inductive Asked (site : Site extension) : String → String → Prop
  | base (dots : Nat) :
      Asked site site.base (String.ofList (List.replicate dots '.') ++ extension)
  | file : Asked site site.file extension

/-- No name has a dot. -/
def Undotted (site : Site extension) : Prop :=
  ∀ name ∈ site.names, '.' ∉ name.toList

instance (site : Site extension) : Decidable site.Undotted :=
  inferInstanceAs (Decidable (∀ name ∈ site.names, '.' ∉ name.toList))

/-- The characters of the name of a file, piece by piece. -/
theorem toList_file (site : Site extension)
    : site.file.toList = site.base.toList ++ '.' :: extension.toList := by
  simp [file]

/-- The octets of the name of a file, piece by piece. -/
theorem octets_file (site : Site extension)
    : Text.octets site.file = Text.octets site.base ++ Path.dot :: Text.octets extension := by
  rw [Text.octets, toList_file, Text.encode_append, Text.encode_cons]
  rfl

/-- The file of a site is a component of a path like its folders: it is longer than a dot or two,
since something stands in front of the dot and behind it.
-/
theorem ordinaryFile (site : Site extension) (plain : PlainExtension extension)
    : OrdinaryName site.file := by
  have before : 0 < site.base.toList.length := by
    rw [List.length_pos_iff]
    exact fun none => site.ordinaryBase.filled (String.toList_injective none)
  have behind : 0 < extension.toList.length := List.length_pos_iff.mpr plain.toList_ne_nil
  have long : 3 ≤ site.file.toList.length := by
    rw [toList_file, List.length_append, List.length_cons]
    omega
  have other {text : String} (short : text.toList.length < 3) : site.file ≠ text := by
    intro same
    rw [same] at long
    omega
  refine ⟨other (by decide), other (by decide), other (by decide), ?_⟩
  simp only [toList_file, List.mem_append, List.mem_cons, not_or]
  exact ⟨site.ordinaryBase.single, by decide, plain.single⟩

end Site

variable {extension : String}

-----------------------------------------------------------------------------------------
-- The file that is looked for
-----------------------------------------------------------------------------------------

/-- Dots in front of a plain extension are dropped, and nothing else. -/
theorem dropWhile_dots (plain : PlainExtension extension) (dots : Nat)
    : (List.replicate dots '.' ++ extension.toList).dropWhile (· = '.') = extension.toList := by
  rw [List.dropWhile_append_of_pos]
  · cases text : extension.toList with
    | nil => rfl
    | cons c rest =>
        have other : c ≠ '.' := fun same =>
          plain.undotted (text ▸ same ▸ List.mem_cons_self)
        rw [List.dropWhile_cons_of_neg (by simpa using other)]
  · intro c member
    simpa using List.eq_of_mem_replicate member

/-- The file that is looked for has the extension once, however many dots are written in front of
it.
-/
theorem fileName_dots (plain : PlainExtension extension) (name : String) (dots : Nat)
    : fileName name (String.ofList (List.replicate dots '.') ++ extension)
      = if ('.' :: extension.toList) <:+ name.toList then name
        else name ++ "." ++ extension := by
  have dropped
      : (String.ofList (List.replicate dots '.') ++ extension).toList.dropWhile (· = '.')
        = extension.toList := by
    rw [String.toList_append, String.toList_ofList, dropWhile_dots plain]
  rw [fileName, dropped]
  simp only [plain.toList_ne_nil, false_or, List.isSuffixOf_iff_suffix]
  congr 1
  apply String.toList_injective
  simp

-----------------------------------------------------------------------------------------
-- The reference of the file
-----------------------------------------------------------------------------------------

/-- The stem of a file is what stands in front of its last dot. -/
theorem stem_append {name extension : Octets} (filled : name ≠ [])
    (undotted : Path.dot ∉ extension)
    : stem (name ++ Path.dot :: extension) = name := by
  have dropped
      : (name ++ Path.dot :: extension).reverse.dropWhile (· ≠ Path.dot)
        = Path.dot :: name.reverse := by
    rw [List.reverse_append, List.reverse_cons, List.append_assoc, List.dropWhile_append_of_pos]
    · rfl
    · intro b member
      have other : b ≠ Path.dot := fun same =>
        undotted (same ▸ List.mem_reverse.mp member)
      simpa using other
  rw [stem, dropped]
  simp [filled]

/-- By induction on the folders, each of which is followed by something. -/
theorem referenceNames_append {file base : Octets} (stemmed : stem file = base)
    (ordinary : Path.Ordinary base) (folders : List Octets)
    : referenceNames ((folders ++ [file]).map .name) = folders ++ [base] := by
  induction folders with
  | nil => simp [referenceNames, stemmed, ordinary.componentOfPiece?]
  | cons folder folders ih =>
      obtain ⟨next, rest, eq⟩ := List.exists_cons_of_ne_nil
        (List.append_ne_nil_of_right_ne_nil folders (List.cons_ne_nil file []))
      rw [List.cons_append, List.map_cons, List.cons_append, ← ih, eq]
      rfl

/-- Seen from a root, names that were joined to it are themselves. -/
theorem relative_foldl_join {names : List Octets} (ordinary : ∀ name ∈ names, Path.Ordinary name)
    (root : Path)
    : relative root (names.foldl Path.join root) = names.map .name := by
  rw [relative, Path.components_foldl_join ordinary]
  simp

/-- The reference of an artifact is its names, joined by dots, wherever the root is. -/
theorem reference_site (plain : PlainExtension extension) (site : Site extension) (root : Path)
    : reference root (site.path root) = ".".intercalate site.names := by
  have ordinary
      : ∀ name ∈ (site.folders ++ [site.file]).map Path.ofText, Path.Ordinary name := by
    simp only [List.forall_mem_map, List.forall_mem_append, List.forall_mem_singleton]
    exact ⟨fun folder member => (site.ordinaryFolders folder member).octets,
      (site.ordinaryFile plain).octets⟩
  have stemmed : stem (Path.ofText site.file) = Text.octets site.base := by
    rw [Path.ofText, site.octets_file]
    exact stem_append site.ordinaryBase.octets.filled
      (Text.not_mem_octets (by decide) plain.undotted)
  rw [reference, Site.path, relative_foldl_join ordinary, List.map_append, List.map_singleton,
    referenceNames_append stemmed site.ordinaryBase.octets, Site.names]
  simp [Path.ofText, Text.shown_octets, Function.comp_def]

/-- Texts without dots can be told from one another after they are joined by dots. -/
theorem names_eq_of_intercalate {site other : Site extension} (first : site.Undotted)
    (second : other.Undotted)
    (same : ".".intercalate site.names = ".".intercalate other.names)
    : site.names = other.names := by
  have split {site : Site extension} (undotted : site.Undotted)
      : (".".intercalate site.names).toList.splitOn '.' = site.names.map String.toList := by
    rw [String.toList_intercalate]
    refine List.splitOn_intercalate _ ?_ ?_
    · simpa [Site.Undotted] using undotted
    · simp [Site.names]
  have texts : site.names.map String.toList = other.names.map String.toList := by
    rw [← split first, same, split second]
  exact List.map_injective_iff.mpr (fun _ _ => String.toList_injective) texts

/-- An artifact is looked for under the name of its file, however it is asked for. Wherever it is
found below a root, and however the root is written, its reference is made of its folders and its
name. Where no name has a dot, artifacts with the same reference stand in the same folders and have
the same name.
-/
theorem reference_tells_entry (plain : PlainExtension extension)
    : (∀ (site : Site extension) (root : Path),
        (∀ name written, site.Asked name written → fileName name written = site.file)
          ∧ reference root (site.path root) = ".".intercalate site.names)
      ∧ ∀ (root : Path) (site other : Site extension),
          site.Undotted
            → other.Undotted
            → reference root (site.path root) = reference root (other.path root)
            → site.folders = other.folders ∧ site.base = other.base := by
  refine ⟨fun site root => ⟨fun name written asked => ?_, reference_site plain site root⟩, ?_⟩
  · cases asked with
    | base dots => rw [fileName_dots plain, if_neg site.bare, Site.file]
    | file =>
        have ends : ('.' :: extension.toList) <:+ site.file.toList :=
          ⟨site.base.toList, site.toList_file.symm⟩
        have once := fileName_dots plain site.file 0
        rwa [if_pos ends, List.replicate_zero, String.ofList_nil, String.empty_append] at once
  · intro root site other first second same
    rw [reference_site plain, reference_site plain] at same
    exact List.append_singleton_inj.mp (names_eq_of_intercalate first second same)

/-- A root that is written with a dot, two slashes in a row and one at its end leaves no trace; nor
do dots in a folder and in a name. Two names in one folder have two references.
-/
theorem reference_tells_entry_below_untidy_root
    : let root := Path.ofText "./a//b/"
      fileName "..M.x" "...class" = "..M.x.class"
        ∧ reference root (Path.ofText "./a//b/com/.acme/..M.x.class") = "com..acme...M.x"
        ∧ reference root (Path.ofText "./a//b/com/Main.class")
          ≠ reference root (Path.ofText "./a//b/com/Other.class") := by
  intro root
  have plain : PlainExtension "class" := by decide
  let dotted : Site "class" :=
    ⟨["com", ".acme"], "..M.x", by decide, by decide, by decide⟩
  let main : Site "class" := ⟨["com"], "Main", by decide, by decide, by decide⟩
  let other : Site "class" := ⟨["com"], "Other", by decide, by decide, by decide⟩
  obtain ⟨named, told⟩ := reference_tells_entry plain
  obtain ⟨asked, referred⟩ := named dotted root
  have written : "...class" = String.ofList (List.replicate 3 '.') ++ "class" := by decide
  have filed : dotted.file = "..M.x.class" := by decide
  have stands : dotted.path root = Path.ofText "./a//b/com/.acme/..M.x.class" := by decide +kernel
  have joined : ".".intercalate dotted.names = "com..acme...M.x" := by decide +kernel
  have mains : main.path root = Path.ofText "./a//b/com/Main.class" := by decide +kernel
  have others : other.path root = Path.ofText "./a//b/com/Other.class" := by decide +kernel
  rw [written, ← filed, ← stands, ← joined, ← mains, ← others]
  refine ⟨asked _ _ (.base 3), referred, fun same => ?_⟩
  have apart : main.base ≠ other.base := by decide
  exact apart (told root main other (by decide) (by decide) same).2

end Artifact

end Dialogue
