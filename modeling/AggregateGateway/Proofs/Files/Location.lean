import AggregateGateway.Files.Tree
import AggregateGateway.Proofs.Text.SplitOn
import AggregateGateway.Text.Utf8

/-!
Where paths lead in a tree without links, of which some parts may be shut. The location of a path are the names on the
way to it from the root, in which each `..` has taken back the name before it; whatever is found at a path stands at its
location. An ordinary name below a directory adds itself to the location, so names below the same directory stay apart.
-/

namespace AggregateGateway

/-! ### Names in a path -/

/-- The names between the slashes of a path; one of them is empty where nothing stands between. -/
def namesOf (path : String) : List String := path.splitOn "/"

theorem namesOf_eq (path : String) : namesOf path = (path.toList.splitOn '/').map String.ofList := by
  rw [← Text.pieces_eq_splitOn, ← Text.splitOn_singleton]
  rfl

theorem namesOf_append_slash (directory names : String) :
    namesOf (directory ++ "/" ++ names) = namesOf directory ++ namesOf names := by
  have hchars : (directory ++ "/" ++ names).toList = directory.toList ++ '/' :: names.toList := by simp
  rw [namesOf_eq, namesOf_eq, namesOf_eq, hchars, List.splitOn_append_cons_self, List.map_append]

theorem namesOf_of_noSlash {name : String} (h : '/' ∉ name.toList) : namesOf name = [name] := by
  rw [namesOf_eq, List.splitOn_eq_singleton h, List.map_singleton, String.ofList_toList]

theorem namesOf_empty : namesOf "" = [""] := namesOf_of_noSlash (by simp)

/-- A directory as it stands before the names below it. -/
def asDirectory (directory : String) : String :=
  if directory.isEmpty || directory.endsWith '/' then directory else directory ++ "/"

theorem joinPath_eq (directory name : String) :
    joinPath directory name = if name.startsWith '/' then name else asDirectory directory ++ name := by
  rw [joinPath, asDirectory]
  split
  · rfl
  · split <;> rfl

theorem startsWith_slash_append {a b : String} (h : a ≠ "") : (a ++ b).startsWith '/' = a.startsWith '/' := by
  have hne : a.toList ≠ [] := by simpa using h
  rw [String.startsWith_char_eq_head?, String.startsWith_char_eq_head?, String.toList_append,
    List.head?_append_of_ne_nil _ hne]

theorem endsWith_slash_append {a b : String} (h : b ≠ "") : (a ++ b).endsWith '/' = b.endsWith '/' := by
  have hne : b.toList ≠ [] := by simpa using h
  rw [String.endsWith_char_eq_getLast?, String.endsWith_char_eq_getLast?, String.toList_append,
    List.getLast?_append_of_ne_nil _ hne]

theorem asDirectory_cases (directory : String) :
    (directory = "" ∧ asDirectory directory = "") ∨
      ∃ above, asDirectory directory = above ++ "/" ∧ (directory = above ∨ directory = above ++ "/") := by
  rw [asDirectory]
  split
  · next h =>
    rw [Bool.or_eq_true] at h
    rcases h with hempty | hends
    · exact .inl ⟨String.isEmpty_iff.mp hempty, String.isEmpty_iff.mp hempty⟩
    · obtain ⟨above, habove⟩ := String.endsWith_char_iff_exists_append.mp hends
      exact .inr ⟨above, habove, .inr habove⟩
  · exact .inr ⟨directory, rfl, .inl rfl⟩

theorem asDirectory_append {above directory : String} (h : directory ≠ "") :
    asDirectory (above ++ directory) = above ++ asDirectory directory := by
  have hempty : (above ++ directory).isEmpty = directory.isEmpty := by
    rw [Bool.eq_iff_iff, String.isEmpty_iff, String.isEmpty_iff, String.append_eq_empty_iff]
    exact ⟨fun h => h.2, fun h' => absurd h' h⟩
  rw [asDirectory, asDirectory, hempty, endsWith_slash_append h]
  split
  · rfl
  · exact String.append_assoc ..

theorem asDirectory_idem (directory : String) : asDirectory (asDirectory directory) = asDirectory directory := by
  obtain ⟨-, h⟩ | ⟨above, h, -⟩ := asDirectory_cases directory
  · rw [h]; rfl
  · have hslash : asDirectory "/" = "/" := if_pos (by simp [String.endsWith_char_eq_getLast?])
    rw [h, asDirectory_append (by simp), hslash]

/-- A name below a directory below a directory. -/
theorem joinPath_assoc {name : String} (h : name.startsWith '/' = false) (above directory : String) :
    joinPath above (joinPath directory name) = joinPath (joinPath above directory) name := by
  simp only [joinPath_eq, h, Bool.false_eq_true, if_false]
  by_cases hempty : directory = ""
  · subst hempty
    have hbelow : asDirectory "" ++ name = name := String.empty_append
    have hstart : "".startsWith '/' = false := by rw [String.startsWith_char_eq_head?]; rfl
    rw [hbelow, h, hstart, if_neg Bool.false_ne_true, if_neg Bool.false_ne_true, String.append_empty, asDirectory_idem]
  · have hstart : (asDirectory directory ++ name).startsWith '/' = directory.startsWith '/' := by
      obtain ⟨h, -⟩ | ⟨above, h, rfl | rfl⟩ := asDirectory_cases directory
      · exact absurd h hempty
      · rw [h, String.append_assoc, startsWith_slash_append hempty]
      · rw [h, startsWith_slash_append hempty]
    rw [hstart]
    split
    · rfl
    · rw [asDirectory_append hempty, String.append_assoc]

/-! ### Locations -/

/-- A name that leads one step down, from whatever directory. -/
structure IsOrdinary (name : String) : Prop where
  ne_empty : name ≠ ""
  ne_dot : name ≠ "."
  ne_up : name ≠ ".."
  noSlash : '/' ∉ name.toList

theorem IsOrdinary.startsWith_slash {name : String} (h : IsOrdinary name) : name.startsWith '/' = false := by
  rw [String.startsWith_char_eq_head?, beq_eq_false_iff_ne]
  exact fun hhead => h.noSlash (List.mem_of_head? hhead)

theorem joinPath_of_ordinary {name : String} (h : IsOrdinary name) (directory : String) :
    joinPath directory name = asDirectory directory ++ name := by
  rw [joinPath_eq, h.startsWith_slash, if_neg Bool.false_ne_true]

theorem asDirectory_of_ordinary {name : String} (h : IsOrdinary name) : asDirectory name = name ++ "/" := by
  obtain ⟨hempty, -⟩ | ⟨above, hdir, rfl | hends⟩ := asDirectory_cases name
  · exact absurd hempty h.ne_empty
  · exact hdir
  · exact absurd (by rw [hends]; simp) h.noSlash

/-- Where one name leads; a place is given by the names on the way to it, the last one first. -/
def nextPlace (place : List String) (name : String) : List String :=
  if name = "" ∨ name = "." then place else if name = ".." then place.tail else name :: place

theorem nextPlace_of_ordinary {name : String} (h : IsOrdinary name) (place : List String) :
    nextPlace place name = name :: place := by
  rw [nextPlace, if_neg (not_or.mpr ⟨h.ne_empty, h.ne_dot⟩), if_neg h.ne_up]

theorem foldl_nextPlace_asDirectory {name : String} (h : '/' ∉ name.toList) (directory : String) (place : List String) :
    (namesOf (asDirectory directory ++ name)).foldl nextPlace place =
      nextPlace ((namesOf directory).foldl nextPlace place) name := by
  have hblank : ∀ place, nextPlace place "" = place := fun place => if_pos (.inl rfl)
  obtain ⟨rfl, hdir⟩ | ⟨above, hdir, rfl | rfl⟩ := asDirectory_cases directory
  · rw [hdir, String.empty_append, namesOf_of_noSlash h, namesOf_empty, List.foldl_cons, List.foldl_cons, hblank]
    rfl
  · rw [hdir, namesOf_append_slash, namesOf_of_noSlash h, List.foldl_append]
    rfl
  · have hends : namesOf (above ++ "/") = namesOf above ++ [""] := by
      rw [← namesOf_empty, ← namesOf_append_slash, String.append_empty]
    rw [hdir, namesOf_append_slash, namesOf_of_noSlash h, hends, List.foldl_append, List.foldl_append]
    exact congrArg (nextPlace · name) (hblank _).symm

namespace FileTree

/-- The names on the way from the root of the tree to where a path leads. -/
def location (tree : FileTree) (path : String) : List String :=
  ((namesOf (joinPath tree.workingDirectory path)).foldl nextPlace []).reverse

/-- An ordinary name below a directory leads one step further. -/
theorem location_joinPath {name : String} (h : IsOrdinary name) (tree : FileTree) (directory : String) :
    tree.location (joinPath directory name) = tree.location directory ++ [name] := by
  rw [location, location, joinPath_assoc h.startsWith_slash, joinPath_of_ordinary h,
    foldl_nextPlace_asDirectory h.noSlash, nextPlace_of_ordinary h, List.reverse_cons]

end FileTree

/-! ### What stands at a location -/

namespace FileNode

theorem text_toUTF8 (text : String) : (file text.toUTF8).text = .ok text := by
  rw [FileNode.text, Text.fromUTF8?_toUTF8]

/-- The node at the end of a way down. -/
def at? (place : FileNode) : List String → Option FileNode
  | [] => some place
  | name :: names => (place.entries?.bind fun entries => entries.lookup name).bind fun next => next.at? names

theorem at?_append (place : FileNode) (names more : List String) :
    place.at? (names ++ more) = (place.at? names).bind fun next => next.at? more := by
  induction names generalizing place with
  | nil => rfl
  | cons name names ih =>
    simp only [List.cons_append, at?, ih, Option.bind_assoc]

/-- `Stands root names place above`: the names, the last one first, lead from the root to the place through the
directories above it, the nearest first. -/
inductive Stands (root : FileNode) : List String → FileNode → List FileNode → Prop
  | root : Stands root [] root []
  | inside {names : List String} {entries : List (String × FileNode)} {above : List FileNode} {name : String}
      {next : FileNode} : Stands root names (.directory entries) above → entries.lookup name = some next →
      Stands root (name :: names) next (.directory entries :: above)

variable {root place node : FileNode} {names way : List String} {above : List FileNode}

theorem Stands.at?_eq (h : Stands root names place above) : root.at? names.reverse = some place := by
  induction h with
  | root => rfl
  | inside _ hnext ih =>
    rw [List.reverse_cons, at?_append, ih]
    simp [at?, entries?, hnext]

/-- The place above is the root or the nearest directory above. -/
theorem Stands.up (h : Stands root names place above) :
    (above = [] ∧ names = [] ∧ place = root) ∨
      ∃ up rest, above = up :: rest ∧ Stands root names.tail up rest := by
  cases h with
  | root => exact .inl ⟨rfl, rfl, rfl⟩
  | inside hup hnext => exact .inr ⟨_, _, rfl, hup⟩

theorem Stands.follow (h : Stands root names place above) (hfound : place.follow above way = .ok node) :
    ∃ rest, Stands root (way.foldl nextPlace names) node rest := by
  -- The directories above are those of the way so far, so `..` takes back the last name of both.
  induction way generalizing names place above with
  | nil =>
    obtain rfl : place = node := Except.ok.inj hfound
    exact ⟨above, h⟩
  | cons name way ih =>
    rw [List.foldl_cons]
    cases place with
    | file | unreadable => cases hfound
    | closed code reason =>
      rw [FileNode.follow.eq_def] at hfound
      dsimp only at hfound
      split at hfound
      · next hblank =>
        rw [nextPlace, if_pos (.inl hblank)]
        exact ih h hfound
      · cases hfound
    | directory entries =>
      rw [FileNode.follow.eq_def] at hfound
      dsimp only at hfound
      split at hfound
      · next hstays =>
        have hstays' : name = "" ∨ name = "." := by simpa using hstays
        rw [nextPlace, if_pos hstays']
        exact ih h hfound
      · next hmoves =>
        have hmoves' : ¬(name = "" ∨ name = ".") := by simpa using hmoves
        rw [nextPlace, if_neg hmoves']
        split at hfound
        · next hup =>
          rw [if_pos hup]
          obtain ⟨rfl, rfl, rfl⟩ | ⟨up, rest, rfl, hstands⟩ := h.up
          · exact ih .root hfound
          · exact ih hstands hfound
        · next hdown =>
          rw [if_neg hdown]
          split at hfound
          · cases hfound
          · split at hfound
            · cases hfound
            · next next hnext => exact ih (h.inside hnext) hfound

end FileNode

namespace FileTree

variable {tree : FileTree} {path : String}

theorem find_eq_follow (hnul : '\x00' ∉ path.toList) (hsome : path ≠ "") (hshort : path.utf8ByteSize ≤ maxPath) :
    tree.find path = tree.root.follow []
      (((joinPath tree.workingDirectory path).toList.splitOn '/').map String.ofList) := by
  rw [find, String.contains_char_eq, if_neg (by simpa using hnul), if_neg (by simpa using hsome),
    if_neg (Nat.not_lt.mpr hshort), ← namesOf_eq, namesOf]

/-- What is found at a path stands at its location. -/
theorem at?_location_of_find {node : FileNode} (h : tree.find path = .ok node) :
    tree.root.at? (tree.location path) = some node := by
  rw [find] at h
  split at h
  · cases h
  · split at h
    · cases h
    · split at h
      · cases h
      · obtain ⟨above, hstands⟩ := FileNode.Stands.root.follow h
        exact hstands.at?_eq

theorem at?_location_of_read {text : String} (h : tree.read path = .ok text) :
    ∃ content, tree.root.at? (tree.location path) = some (.file content) ∧ String.fromUTF8? content = some text := by
  rw [read] at h
  cases hfind : tree.find path with
  | error error => rw [hfind] at h; cases h
  | ok node =>
    rw [hfind] at h
    cases node with
    | directory | unreadable | closed => cases h
    | file content =>
      refine ⟨content, at?_location_of_find hfind, ?_⟩
      simp only [Except.bind, FileNode.text] at h
      split at h
      · next htext => rw [htext, Except.ok.inj h]
      · cases h

end FileTree

end AggregateGateway
