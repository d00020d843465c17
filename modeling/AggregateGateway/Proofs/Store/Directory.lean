import AggregateGateway.Proofs.Files.Location
import AggregateGateway.Proofs.Json.Grammar
import AggregateGateway.Proofs.Json.RoundTrip
import AggregateGateway.Proofs.List.First
import AggregateGateway.Store.Directory

/-!
What a store in a directory looks at. A read asks for no path other than that of the document's own files, which lie two
ordinary names below the root of the store; reads under different keys have no file in common. The answer is that of the
first file that is there, whatever is wrong with it: that it cannot be read, or that it holds no document.
-/

namespace AggregateGateway

open Json

/-! ### A search through files -/

/-- The same access, which keeps the paths that are looked at, in their order. -/
def FileAccess.watched (access : FileAccess Id) : FileAccess (StateM (List String)) where
  read path := do
    modify (· ++ [path])
    return access.read path
  isPresent path := do
    modify (· ++ [path])
    return access.isPresent path

/-- `Search access files answer asked`: the search through the files gives the answer, after a look at the paths of
`asked`. -/
inductive Search (access : FileAccess Id) : List (String × DocumentFormat) → ReadResult → List String → Prop
  | nowhere : Search access [] (.ok none) []
  | absent {path : String} {format : DocumentFormat} {rest : List (String × DocumentFormat)} {answer : ReadResult}
      {asked : List String} : access.read path = .error .notFound → Search access rest answer asked →
      Search access ((path, format) :: rest) answer (path :: asked)
  | found {path text : String} {format : DocumentFormat} {rest : List (String × DocumentFormat)} :
      access.read path = .ok text → Search access ((path, format) :: rest) ((format.parse text).map some) [path]
  | failed {path : String} {format : DocumentFormat} {rest : List (String × DocumentFormat)} {error : FileError} :
      access.read path = .error error → error ≠ .notFound →
      Search access ((path, format) :: rest) (.error (.io error.message)) [path]

namespace DirectoryStore

section
variable {access : FileAccess Id} {path : String} (format : DocumentFormat) (rest : List (String × DocumentFormat))

/-- A file that is read ends the search. -/
theorem readFirst_of_ok {text : String} (h : access.read path = .ok text) :
    readFirst access ((path, format) :: rest) = (format.parse text).map some ∧
      ∀ before, (readFirst access.watched ((path, format) :: rest)).run before =
        ((format.parse text).map some, before ++ [path]) := by
  constructor
  · simp only [readFirst, h]
    rfl
  · intro before
    simp only [readFirst, FileAccess.watched, h]
    rfl

theorem readFirst_of_notFound (h : access.read path = .error .notFound) :
    readFirst access ((path, format) :: rest) = readFirst access rest ∧
      ∀ before, (readFirst access.watched ((path, format) :: rest)).run before =
        (readFirst access.watched rest).run (before ++ [path]) := by
  constructor
  · simp only [readFirst, h]
    rfl
  · intro before
    simp only [readFirst, FileAccess.watched, h]
    rfl

/-- A file that is there and cannot be read ends the search as well. -/
theorem readFirst_of_error {error : FileError} (h : access.read path = .error error) (hthere : error ≠ .notFound) :
    readFirst access ((path, format) :: rest) = .error (.io error.message) ∧
      ∀ before, (readFirst access.watched ((path, format) :: rest)).run before =
        (.error (.io error.message), before ++ [path]) := by
  constructor
  · simp only [readFirst, h]
    cases error with
    | notFound => exact absurd rfl hthere
    | _ => rfl
  · intro before
    simp only [readFirst, FileAccess.watched, h]
    cases error with
    | notFound => exact absurd rfl hthere
    | _ => rfl

end

end DirectoryStore

namespace Search

variable {access : FileAccess Id} {files : List (String × DocumentFormat)} {answer : ReadResult} {asked : List String}

open DirectoryStore in
/-- Reading the first of some files is such a search, whether it is watched or not. -/
theorem of_readFirst (access : FileAccess Id) (files : List (String × DocumentFormat)) :
    ∃ answer asked, Search access files answer asked ∧ readFirst access files = answer ∧
      ∀ before, (readFirst access.watched files).run before = (answer, before ++ asked) := by
  induction files with
  | nil => exact ⟨_, _, .nowhere, rfl, fun before => by rw [List.append_nil]; rfl⟩
  | cons file rest ih =>
    obtain ⟨path, format⟩ := file
    cases hread : access.read path with
    | ok text => exact ⟨_, _, .found hread, readFirst_of_ok format rest hread⟩
    | error error =>
      by_cases hmissing : error = .notFound
      · subst hmissing
        obtain ⟨answer, asked, hsearch, hplain, hwatched⟩ := ih
        obtain ⟨hplain', hwatched'⟩ := readFirst_of_notFound format rest hread
        refine ⟨_, _, .absent hread hsearch, hplain'.trans hplain, fun before => ?_⟩
        rw [hwatched', hwatched, List.append_assoc]
        rfl
      · exact ⟨_, _, .failed hread hmissing, readFirst_of_error format rest hread hmissing⟩

theorem mem_files (h : Search access files answer asked) {path : String} (hpath : path ∈ asked) :
    ∃ format, (path, format) ∈ files := by
  induction h with
  | nowhere => simp at hpath
  | @absent first format rest answer asked _ _ ih =>
    rcases List.mem_cons.mp hpath with rfl | hlater
    · exact ⟨format, List.mem_cons_self⟩
    · obtain ⟨format, hformat⟩ := ih hlater
      exact ⟨format, List.mem_cons_of_mem _ hformat⟩
  | @found first text format rest _ =>
    rw [List.mem_singleton.mp hpath]
    exact ⟨format, List.mem_cons_self⟩
  | @failed first format rest error _ _ =>
    rw [List.mem_singleton.mp hpath]
    exact ⟨format, List.mem_cons_self⟩

theorem answer_of_absent (h : Search access files answer asked)
    (habsent : ∀ file ∈ files, access.read file.1 = .error .notFound) : answer = .ok none := by
  induction h with
  | nowhere => rfl
  | absent _ _ ih => exact ih (List.forall_mem_cons.mp habsent).2
  | found hread =>
    rw [(List.forall_mem_cons.mp habsent).1] at hread
    cases hread
  | failed hread hmissing =>
    rw [(List.forall_mem_cons.mp habsent).1] at hread
    exact absurd (Except.error.inj hread).symm hmissing

/-- What is read at the first file that is there decides the answer. -/
theorem answer_of_first (h : Search access files answer asked) {path : String} {format : DocumentFormat}
    (hfirst : IsFirst (fun file => access.read file.1 ≠ .error .notFound) files (path, format)) :
    (∀ text, access.read path = .ok text → answer = (format.parse text).map some) ∧
      ∀ error, access.read path = .error error → answer = .error (.io error.message) := by
  induction h with
  | nowhere => cases hfirst.mem
  | absent hread _ ih =>
    rcases IsFirst.cons_iff.mp hfirst with ⟨hthere, -⟩ | ⟨-, hrest⟩
    · exact absurd hread hthere
    · exact ih hrest
  | @found first text format rest hread =>
    rcases IsFirst.cons_iff.mp hfirst with ⟨-, hsame⟩ | ⟨hmissing, -⟩
    · cases hsame
      refine ⟨fun other hother => ?_, fun error herror => ?_⟩
      · rw [hread] at hother
        rw [Except.ok.inj hother]
      · rw [hread] at herror
        cases herror
    · exact absurd (by rw [hread]; exact nofun) hmissing
  | @failed first format rest error hread hthere =>
    rcases IsFirst.cons_iff.mp hfirst with ⟨-, hsame⟩ | ⟨hmissing, -⟩
    · cases hsame
      refine ⟨fun text htext => ?_, fun other hother => ?_⟩
      · rw [hread] at htext
        cases htext
      · rw [hread] at hother
        rw [Except.error.inj hother]
    · exact absurd (by rw [hread]; exact fun h => hthere (Except.error.inj h)) hmissing

end Search

/-! ### The files of a document -/

/-- A part of a key that is a name on its own: no place in a directory, and nothing that divides names. -/
structure IsPlainPart (part : String) : Prop where
  ne_empty : part ≠ ""
  ne_dot : part ≠ "."
  ne_up : part ≠ ".."
  noSlash : '/' ∉ part.toList
  noBackslash : '\\' ∉ part.toList
  noNul : '\x00' ∉ part.toList

theorem isPlainName_iff {part : String} : isPlainName part = true ↔ IsPlainPart part := by
  have hchars : (!part.toList.any fun c => c = '/' || c = '\\' || c = '\x00') = true ↔
      '/' ∉ part.toList ∧ '\\' ∉ part.toList ∧ '\x00' ∉ part.toList := by
    simp only [Bool.not_eq_true', List.any_eq_false, Bool.or_eq_true, decide_eq_true_eq, not_or]
    constructor
    · exact fun h => ⟨fun hc => (h _ hc).1.1 rfl, fun hc => (h _ hc).1.2 rfl, fun hc => (h _ hc).2 rfl⟩
    · rintro ⟨hslash, hback, hnul⟩ c hc
      exact ⟨⟨fun h => hslash (h ▸ hc), fun h => hback (h ▸ hc)⟩, fun h => hnul (h ▸ hc)⟩
  rw [isPlainName, Bool.and_eq_true, hchars]
  simp only [Bool.and_eq_true, decide_eq_true_eq, ne_eq]
  constructor
  · rintro ⟨⟨⟨hempty, hdot⟩, hup⟩, hslash, hback, hnul⟩
    exact ⟨hempty, hdot, hup, hslash, hback, hnul⟩
  · rintro ⟨hempty, hdot, hup, hslash, hback, hnul⟩
    exact ⟨⟨⟨hempty, hdot⟩, hup⟩, hslash, hback, hnul⟩

theorem IsPlainPart.isOrdinary {part : String} (h : IsPlainPart part) : IsOrdinary part :=
  ⟨h.ne_empty, h.ne_dot, h.ne_up, h.noSlash⟩

/-- A name with an ending leads one step down, whatever the name and the ending look like. -/
theorem IsPlainPart.isOrdinary_file {part ending : String} (h : IsPlainPart part) (hsome : ending ≠ "")
    (hslash : '/' ∉ ending.toList) : IsOrdinary (part ++ "." ++ ending) := by
  have hpart : part.toList ≠ [] := by simpa using h.ne_empty
  have hending : ending.toList ≠ [] := by simpa using hsome
  have hlong : 2 < (part ++ "." ++ ending).toList.length := by
    have hpos := List.length_pos_iff.mpr hpart
    have hpos' := List.length_pos_iff.mpr hending
    simp
    omega
  refine ⟨?_, ?_, ?_, ?_⟩
  · intro h
    rw [h] at hlong
    simp at hlong
  · intro h
    rw [h] at hlong
    simp at hlong
  · intro h
    rw [h] at hlong
    simp at hlong
  · simp [h.noSlash, hslash]

/-- An ending without a dot can be told from the name before it, even if that has an ending of its own. -/
theorem append_dot_inj {name other ending ending' : String} (hending : '.' ∉ ending.toList)
    (hending' : '.' ∉ ending'.toList) (h : name ++ "." ++ ending = other ++ "." ++ ending') : name = other := by
  have hchars : name.toList ++ '.' :: ending.toList = other.toList ++ '.' :: ending'.toList := by
    simpa using congrArg String.toList h
  rcases List.append_eq_append_iff.mp hchars with ⟨more, hother, hmore⟩ | ⟨more, hname, hmore⟩
  · cases more with
    | nil => exact String.toList_injective (by rw [hother, List.append_nil])
    | cons c more =>
      obtain ⟨-, hrest⟩ := List.cons.inj hmore
      exact absurd (by rw [hrest]; simp) hending
  · cases more with
    | nil => exact String.toList_injective (by rw [hname, List.append_nil])
    | cons c more =>
      obtain ⟨-, hrest⟩ := List.cons.inj hmore
      exact absurd (by rw [hrest]; simp) hending'

/-- Both parts of a key are names on their own. -/
structure DocumentKey.IsPlainKey (key : DocumentKey) : Prop where
  type : IsPlainPart key.type
  id : IsPlainPart key.id

theorem DocumentKey.isPlain_iff {key : DocumentKey} : key.isPlain = true ↔ key.IsPlainKey := by
  rw [isPlain, Bool.and_eq_true, isPlainName_iff, isPlainName_iff]
  exact ⟨fun h => ⟨h.1, h.2⟩, fun h => ⟨h.type, h.id⟩⟩

namespace DirectoryStore

variable {store : DirectoryStore} {key : DocumentKey}

/-- The file of a document with an ending. -/
def fileOf (store : DirectoryStore) (key : DocumentKey) (ending : String) : String :=
  asDirectory store.root ++ key.type ++ "/" ++ (key.id ++ "." ++ ending)

/-- The files that may hold a document, with their languages, in the order in which they are looked for. -/
def files (store : DirectoryStore) (key : DocumentKey) : List (String × DocumentFormat) :=
  [(store.fileOf key "yaml", .yaml), (store.fileOf key "yml", .yaml), (store.fileOf key "json", .json)]

/-- What is answered under a key, and the paths that are looked at for it, in their order. -/
def watchedRead (store : DirectoryStore) (access : FileAccess Id) (key : DocumentKey) : ReadResult × List String :=
  ((store.read access.watched key).run []).run

/-- Endings hold neither dots nor slashes. -/
theorem ending_plain {ending : String} (h : ending ∈ ["yaml", "yml", "json"]) :
    ending ≠ "" ∧ '/' ∉ ending.toList ∧ '.' ∉ ending.toList := by
  simp only [List.mem_cons, List.not_mem_nil, or_false] at h
  rcases h with rfl | rfl | rfl <;> decide

theorem joinPath_eq_fileOf {ending : String} (h : key.IsPlainKey) (hending : ending ∈ ["yaml", "yml", "json"]) :
    joinPath (joinPath store.root key.type) (key.id ++ "." ++ ending) = store.fileOf key ending := by
  obtain ⟨hsome, hslash, -⟩ := ending_plain hending
  have hfile := h.id.isOrdinary_file hsome hslash
  rw [joinPath_of_ordinary hfile, joinPath_of_ordinary h.type.isOrdinary, asDirectory_append h.type.ne_empty,
    asDirectory_of_ordinary h.type.isOrdinary, fileOf]
  simp only [String.append_assoc]

theorem location_fileOf {ending : String} (h : key.IsPlainKey) (hending : ending ∈ ["yaml", "yml", "json"])
    (tree : FileTree) :
    tree.location (store.fileOf key ending) =
      tree.location store.root ++ [key.type, key.id ++ "." ++ ending] := by
  obtain ⟨hsome, hslash, -⟩ := ending_plain hending
  rw [← joinPath_eq_fileOf h hending, FileTree.location_joinPath (h.id.isOrdinary_file hsome hslash),
    FileTree.location_joinPath h.type.isOrdinary, List.append_assoc]
  rfl

theorem candidates_eq_files (h : key.IsPlainKey) : store.candidates key = store.files key := by
  rw [candidates, files, ← joinPath_eq_fileOf h (by simp), ← joinPath_eq_fileOf h (by simp),
    ← joinPath_eq_fileOf h (by simp)]
  rfl

theorem read_of_not_plain (h : ¬key.IsPlainKey) (access : FileAccess Id) :
    store.watchedRead access key = (.ok none, []) ∧ store.read access key = .ok none := by
  have hplain : ¬key.isPlain = true := by rwa [DocumentKey.isPlain_iff]
  constructor
  · rw [watchedRead, read, if_neg hplain]
    rfl
  · rw [read, if_neg hplain]
    rfl

/-- A read under a key whose parts are names is a search through the files of the document. -/
theorem search_of_plain (h : key.IsPlainKey) (store : DirectoryStore) (access : FileAccess Id) :
    Search access (store.files key) (store.read access key) (store.watchedRead access key).2 ∧
      store.read access key = (store.watchedRead access key).1 := by
  obtain ⟨answer, asked, hsearch, hplain, hwatched⟩ := Search.of_readFirst access (store.files key)
  have hwatchedRead : store.watchedRead access key = (answer, asked) := by
    rw [watchedRead, read, if_pos (DocumentKey.isPlain_iff.mpr h), candidates_eq_files h, hwatched]
    rfl
  have hread : store.read access key = answer := by
    rw [read, if_pos (DocumentKey.isPlain_iff.mpr h), candidates_eq_files h, hplain]
  rw [hwatchedRead, hread]
  exact ⟨hsearch, rfl⟩

/-- The paths that are looked at under a key are files of the document. -/
theorem eq_fileOf_of_asked {access : FileAccess Id} {path : String}
    (hpath : path ∈ (store.watchedRead access key).2) :
    key.IsPlainKey ∧ ∃ ending ∈ ["yaml", "yml", "json"], path = store.fileOf key ending := by
  by_cases hkey : key.IsPlainKey
  · obtain ⟨format, hfile⟩ := (search_of_plain hkey store access).1.mem_files hpath
    refine ⟨hkey, ?_⟩
    simp only [files, List.mem_cons, Prod.mk.injEq, List.not_mem_nil, or_false] at hfile
    rcases hfile with ⟨rfl, -⟩ | ⟨rfl, -⟩ | ⟨rfl, -⟩
    · exact ⟨"yaml", by simp, rfl⟩
    · exact ⟨"yml", by simp, rfl⟩
    · exact ⟨"json", by simp, rfl⟩
  · rw [(read_of_not_plain hkey access).1] at hpath
    cases hpath

theorem location_ne_of_asked {access access' : FileAccess Id} {other : DocumentKey} (hne : key ≠ other)
    {path path' : String} (hpath : path ∈ (store.watchedRead access key).2)
    (hpath' : path' ∈ (store.watchedRead access' other).2) (tree : FileTree) :
    tree.location path ≠ tree.location path' := by
  obtain ⟨hkey, ending, hending, rfl⟩ := eq_fileOf_of_asked hpath
  obtain ⟨hother, ending', hending', rfl⟩ := eq_fileOf_of_asked hpath'
  rw [location_fileOf hkey hending, location_fileOf hother hending']
  intro hsame
  obtain ⟨htype, hfile, -⟩ : key.type = other.type ∧ key.id ++ "." ++ ending = other.id ++ "." ++ ending' ∧ True := by
    simpa using List.append_cancel_left hsame
  have hid := append_dot_inj (ending_plain hending).2.2 (ending_plain hending').2.2 hfile
  obtain ⟨type, id⟩ := key
  obtain ⟨type', id'⟩ := other
  exact hne (by rw [DocumentKey.mk.injEq]; exact ⟨htype, hid⟩)

section
variable {access : FileAccess Id}

/-! Which file is the first depends on how many of those before it are missing. -/

theorem isFirst_yaml (h : access.read (store.fileOf key "yaml") ≠ .error .notFound) :
    IsFirst (fun file => access.read file.1 ≠ .error .notFound) (store.files key) (store.fileOf key "yaml", .yaml) :=
  IsFirst.cons_iff.mpr (.inl ⟨h, rfl⟩)

theorem isFirst_yml (hyaml : access.read (store.fileOf key "yaml") = .error .notFound)
    (h : access.read (store.fileOf key "yml") ≠ .error .notFound) :
    IsFirst (fun file => access.read file.1 ≠ .error .notFound) (store.files key) (store.fileOf key "yml", .yaml) :=
  .cons (absurd hyaml) (IsFirst.cons_iff.mpr (.inl ⟨h, rfl⟩))

theorem isFirst_json (hyaml : access.read (store.fileOf key "yaml") = .error .notFound)
    (hyml : access.read (store.fileOf key "yml") = .error .notFound)
    (h : access.read (store.fileOf key "json") ≠ .error .notFound) :
    IsFirst (fun file => access.read file.1 ≠ .error .notFound) (store.files key) (store.fileOf key "json", .json) :=
  .cons (absurd hyaml) (.cons (absurd hyml) (IsFirst.cons_iff.mpr (.inl ⟨h, rfl⟩)))

end

end DirectoryStore

/-! ### Main statement -/

/-- What a store in a directory looks at and answers, whatever is in its files and whichever of them cannot be read. -/
structure DirectoryStore.Confined (store : DirectoryStore) : Prop where
  /-- Nothing is looked at for a key with a part that is no name on its own. -/
  refused : ∀ (access : FileAccess Id) (key : DocumentKey), ¬key.IsPlainKey →
    store.watchedRead access key = (.ok none, [])
  /-- To keep the paths makes no difference to the answer. -/
  watched : ∀ (access : FileAccess Id) (key : DocumentKey), store.read access key = (store.watchedRead access key).1
  /-- Every path that is looked at lies two ordinary names below the root, wherever that lies in the tree. -/
  below : ∀ (access : FileAccess Id) (key : DocumentKey), ∀ path ∈ (store.watchedRead access key).2,
    ∃ ending ∈ ["yaml", "yml", "json"],
      path = asDirectory store.root ++ key.type ++ "/" ++ (key.id ++ "." ++ ending) ∧
      IsOrdinary key.type ∧ IsOrdinary (key.id ++ "." ++ ending) ∧
      ∀ tree : FileTree, tree.location path = tree.location store.root ++ [key.type, key.id ++ "." ++ ending]
  /-- What is read in a tree stands at the location of its path. -/
  stands : ∀ (tree : FileTree) (path text : String), tree.access.read path = .ok text →
    ∃ content, tree.root.at? (tree.location path) = some (.file content) ∧ String.fromUTF8? content = some text
  /-- Two keys have no file in common, even if they are read at different times. -/
  apart : ∀ (access access' : FileAccess Id) (key other : DocumentKey), key ≠ other →
    ∀ path ∈ (store.watchedRead access key).2, ∀ path' ∈ (store.watchedRead access' other).2,
      ∀ tree : FileTree, tree.location path ≠ tree.location path'
  absent : ∀ (access : FileAccess Id) (key : DocumentKey), key.IsPlainKey →
    (∀ file ∈ store.files key, access.read file.1 = .error .notFound) → store.read access key = .ok none
  /-- The text of the first file that is there is the document, or it is malformed. -/
  found : ∀ (access : FileAccess Id) (key : DocumentKey) (path : String) (format : DocumentFormat) (text : String),
    key.IsPlainKey → IsFirst (fun file => access.read file.1 ≠ .error .notFound) (store.files key) (path, format) →
    access.read path = .ok text →
      store.read access key = match format.parse? text with
        | some document => .ok (some document)
        | none => .error (.serialization "malformed document")
  /-- Any problem with the first file that is there, but that it is not found, is the answer. -/
  failed : ∀ (access : FileAccess Id) (key : DocumentKey) (path : String) (format : DocumentFormat) (error : FileError),
    key.IsPlainKey → IsFirst (fun file => access.read file.1 ≠ .error .notFound) (store.files key) (path, format) →
    access.read path = .error error → store.read access key = .error (.io error.message)
  /-- A JSON file holds the value whose text it is, and none if it is no JSON text. -/
  json : ∀ (access : FileAccess Id) (key : DocumentKey) (path text : String),
    key.IsPlainKey → IsFirst (fun file => access.read file.1 ≠ .error .notFound) (store.files key) (path, .json) →
    access.read path = .ok text →
      (∀ value : Value, value.Readable 127 → text = value.compact → store.read access key = .ok (some value)) ∧
      (¬IsText text → store.read access key = .error (.serialization "malformed document"))

/-- A store looks at nothing for a key with a part that is no name on its own. For every other key it looks at the files
of the document alone, which lie two ordinary names below its root; two keys have no file in common. The first file that
is there decides the answer, and nothing that is wrong with it is passed over. -/
theorem store_stays_below_root (store : DirectoryStore) : store.Confined where
  refused := fun access key hkey => (DirectoryStore.read_of_not_plain hkey access).1
  watched := by
    intro access key
    by_cases hkey : key.IsPlainKey
    · exact (DirectoryStore.search_of_plain hkey store access).2
    · rw [(DirectoryStore.read_of_not_plain hkey access).1, (DirectoryStore.read_of_not_plain hkey access).2]
  below := by
    intro access key path hpath
    obtain ⟨hkey, ending, hending, rfl⟩ := DirectoryStore.eq_fileOf_of_asked hpath
    obtain ⟨hsome, hslash, -⟩ := DirectoryStore.ending_plain hending
    exact ⟨ending, hending, rfl, hkey.type.isOrdinary, hkey.id.isOrdinary_file hsome hslash,
      DirectoryStore.location_fileOf hkey hending⟩
  stands := fun tree path text => FileTree.at?_location_of_read
  apart := fun access access' key other hne path hpath path' hpath' =>
    DirectoryStore.location_ne_of_asked hne hpath hpath'
  absent := fun access key hkey => (DirectoryStore.search_of_plain hkey store access).1.answer_of_absent
  found := by
    intro access key path format text hkey hfirst htext
    obtain ⟨hfound, -⟩ := (DirectoryStore.search_of_plain hkey store access).1.answer_of_first hfirst
    rw [hfound text htext, DocumentFormat.parse]
    cases format.parse? text <;> rfl
  failed := fun access key path format error hkey hfirst =>
    ((DirectoryStore.search_of_plain hkey store access).1.answer_of_first hfirst).2 error
  json := by
    intro access key path text hkey hfirst htext
    obtain ⟨hfound, -⟩ := (DirectoryStore.search_of_plain hkey store access).1.answer_of_first hfirst
    rw [hfound text htext, DocumentFormat.parse, DocumentFormat.parse?]
    constructor
    · rintro value hvalue rfl
      rw [Value.parse?_compact hvalue]
      rfl
    · intro hform
      rw [Value.parse?_of_not_isText hform]
      rfl

/-- What the first file says is the document, in the language of its ending. A file that is malformed or shut is an
error although the last one could be read, and an id that ends like the name of a file does not lead to that file. -/
theorem first_file_decides :
    let document : Value := .object [("owner", .string "ann")]
    let last : String × FileNode := ("acme.json", .file document.compact.toUTF8)
    let access (documents : FileNode) : FileAccess Id :=
      (⟨.directory [("store", .directory [("domain", documents)])], "/"⟩ : FileTree).access
    let store : DirectoryStore := ⟨"store"⟩
    let key : DocumentKey := ⟨"domain", "acme"⟩
    store.read (access (.directory [last])) key = .ok (some document) ∧
      (∃ found, store.read (access (.directory [("acme.yaml", .file "owner: ann".toUTF8), ("acme.json", .empty)])) key =
        .ok (some found) ∧ found.same document) ∧
      store.read (access (.directory [("acme.yaml", .file "owner: [ann".toUTF8), last])) key =
        .error (.serialization "malformed document") ∧
      store.read (access (.directory [("acme.json", .file "".toUTF8)])) key =
        .error (.serialization "malformed document") ∧
      store.read (access (.directory [("acme.yml", .unreadable 13 "Permission denied"), last])) key =
        .error (.io "Permission denied (os error 13)") ∧
      store.read (access (.closed 13 "Permission denied")) key = .error (.io "Permission denied (os error 13)") ∧
      store.read (access .empty) key = .ok none ∧
      ∀ path ∈ (store.watchedRead (access (.directory [last])) key).2,
        ∀ path' ∈ (store.watchedRead (access (.directory [last])) ⟨"domain", "acme.yaml"⟩).2,
          ∀ tree : FileTree, tree.location path ≠ tree.location path' := by
  intro document last access store key
  have hstore := store_stays_below_root store
  have hkey : key.IsPlainKey := DocumentKey.isPlain_iff.mp (by decide +kernel)
  have hread : ∀ documents, ∀ ending ∈ ["yaml", "yml", "json"], (access documents).read (store.fileOf key ending) =
      (FileNode.follow (.directory [("store", .directory [("domain", documents)])]) []
        ["", "store", "domain", "acme." ++ ending]).bind FileNode.text := by
    intro documents ending hending
    have hpath : '\x00' ∉ (store.fileOf key ending).toList ∧ store.fileOf key ending ≠ "" ∧
        (store.fileOf key ending).utf8ByteSize ≤ FileTree.maxPath ∧
        ((joinPath "/" (store.fileOf key ending)).toList.splitOn '/').map String.ofList =
          ["", "store", "domain", "acme." ++ ending] := by
      simp only [List.mem_cons, List.not_mem_nil, or_false] at hending
      rcases hending with rfl | rfl | rfl <;> decide +kernel
    obtain ⟨hnul, hsome, hshort, hnames⟩ := hpath
    show FileTree.read _ _ = _
    rw [FileTree.read, FileTree.find_eq_follow hnul hsome hshort, hnames]
  refine ⟨?_, ?_, ?_, ?_, ?_, ?_, ?_, ?_⟩
  · have htext := (hread (.directory [last]) "json" (by simp)).trans (FileNode.text_toUTF8 document.compact)
    have hfirst := DirectoryStore.isFirst_json (hread (.directory [last]) "yaml" (by simp))
      (hread _ "yml" (by simp)) (fun h => by cases htext.symm.trans h)
    have hreadable : document.Readable 127 := .object (by decide) (by simpa using .string "ann")
    exact (hstore.json _ key _ _ hkey hfirst htext).1 document hreadable rfl
  · let documents : FileNode := .directory [("acme.yaml", .file "owner: ann".toUTF8), ("acme.json", .empty)]
    have htext : (access documents).read (store.fileOf key "yaml") = .ok "owner: ann" :=
      (hread documents "yaml" (by simp)).trans (FileNode.text_toUTF8 "owner: ann")
    have hfirst := DirectoryStore.isFirst_yaml (fun h => by cases htext.symm.trans h)
    obtain ⟨found, hparse, hsame⟩ : ∃ found, Yaml.toJson? "owner: ann" = some found ∧ found.same document :=
      (Option.any_eq_true _ _).mp (by decide +kernel)
    refine ⟨found, ?_, hsame⟩
    rw [hstore.found _ key _ _ _ hkey hfirst htext, DocumentFormat.parse?, hparse]
  · let documents : FileNode := .directory [("acme.yaml", .file "owner: [ann".toUTF8), last]
    have htext : (access documents).read (store.fileOf key "yaml") = .ok "owner: [ann" :=
      (hread documents "yaml" (by simp)).trans (FileNode.text_toUTF8 "owner: [ann")
    have hfirst := DirectoryStore.isFirst_yaml (fun h => by cases htext.symm.trans h)
    have hparse : Yaml.toJson? "owner: [ann" = none := Option.isNone_iff_eq_none.mp (by decide +kernel)
    rw [hstore.found _ key _ _ _ hkey hfirst htext, DocumentFormat.parse?, hparse]
  · let documents : FileNode := .directory [("acme.json", .file "".toUTF8)]
    have htext : (access documents).read (store.fileOf key "json") = .ok "" :=
      (hread documents "json" (by simp)).trans (FileNode.text_toUTF8 "")
    have hfirst := DirectoryStore.isFirst_json (hread documents "yaml" (by simp)) (hread _ "yml" (by simp))
      (fun h => by cases htext.symm.trans h)
    exact (hstore.json _ key _ _ hkey hfirst htext).2 fun hform => hform.ne_empty rfl
  · let documents : FileNode := .directory [("acme.yml", .unreadable 13 "Permission denied"), last]
    have hshut : (access documents).read (store.fileOf key "yml") = .error (.system "Permission denied" 13) :=
      hread documents "yml" (by simp)
    have hfirst := DirectoryStore.isFirst_yml (hread documents "yaml" (by simp))
      (fun h => by cases hshut.symm.trans h)
    exact hstore.failed _ key _ _ _ hkey hfirst hshut
  · have hshut : (access (.closed 13 "Permission denied")).read (store.fileOf key "yaml") =
        .error (.system "Permission denied" 13) := hread _ "yaml" (by simp)
    have hfirst := DirectoryStore.isFirst_yaml (fun h => by cases hshut.symm.trans h)
    exact hstore.failed _ key _ _ _ hkey hfirst hshut
  · refine hstore.absent _ key hkey fun file hfile => ?_
    simp only [DirectoryStore.files, List.mem_cons, List.not_mem_nil, or_false] at hfile
    rcases hfile with rfl | rfl | rfl
    · exact hread .empty "yaml" (by simp)
    · exact hread .empty "yml" (by simp)
    · exact hread .empty "json" (by simp)
  · exact hstore.apart _ _ key _ (by decide)

end AggregateGateway
