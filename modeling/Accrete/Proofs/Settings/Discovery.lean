import Mathlib
import Accrete.Proofs.FileTree
import Accrete.Settings

/-!
# Settings above a directory

Settings are looked for in a directory and then in those above it.  The search goes by the parts of
the path that it starts from: it ends before the root, which has no parts, and a part that leads up
makes it look into the directory that is left again.

* `FileTree.contains_child`       -- whether a directory holds a name
* `Settings.nearest?_eq`          -- where the search comes to its end
* `Settings.FindsNearest`         -- the settings of the nearest directory that holds some are found
* `Settings.findsNearest_iff`     -- when they are
-/

namespace Accrete

/-! ## Paths and the paths above them -/

namespace Path

variable {p : Path} {parts rest : List String}

theorem exists_text_append (root : Root) (h : parts ≠ []) (rest : List String) :
    ∃ s, (⟨root, parts ++ rest⟩ : Path).text = (⟨root, parts⟩ : Path).text ++ s := by
  have htext : (⟨root, parts⟩ : Path).text = root.text ++ "/".intercalate parts := by
    simp [text, h]
  have happend : (⟨root, parts ++ rest⟩ : Path).text =
      root.text ++ "/".intercalate (parts ++ rest) := by
    simp [text, h]
  cases hrest : rest with
  | nil => exact ⟨"", by rw [List.append_nil, String.append_empty]⟩
  | cons part others =>
    rw [hrest] at happend
    refine ⟨"/" ++ "/".intercalate (part :: others), ?_⟩
    rw [happend, htext, String.intercalate_append_of_ne_nil h (by simp)]
    simp only [String.append_assoc]

/-- A path above another one has the first of its parts, but not none of them. -/
theorem mem_withParents {q : Path} : q ∈ p.withParents ↔
    ∃ parts rest, parts ≠ [] ∧ p.parts = parts ++ rest ∧ q = ⟨p.root, parts⟩ := by
  simp only [withParents, List.mem_map, List.mem_reverse, List.mem_range]
  constructor
  · rintro ⟨n, hn, rfl⟩
    refine ⟨p.parts.take (n + 1), p.parts.drop (n + 1), ?_, (List.take_append_drop _ _).symm, rfl⟩
    intro hnone
    have hlength := congrArg List.length hnone
    rw [List.length_take, List.length_nil] at hlength
    omega
  · rintro ⟨parts, rest, hne, hparts, rfl⟩
    have hpos := List.length_pos_of_ne_nil hne
    refine ⟨parts.length - 1, ?_, ?_⟩
    · rw [hparts, List.length_append]
      omega
    · rw [Nat.sub_add_cancel hpos, hparts, List.take_left]

theorem exists_withParents_eq_cons (h : p.parts ≠ []) : ∃ above, p.withParents = p :: above := by
  obtain ⟨n, hn⟩ : ∃ n, p.parts.length = n + 1 :=
    Nat.exists_eq_succ_of_ne_zero (by simpa using h)
  refine ⟨(List.range n).reverse.map fun k => { p with parts := p.parts.take (k + 1) }, ?_⟩
  have hall : p.parts.take (n + 1) = p.parts := List.take_of_length_le (by omega)
  rw [withParents, hn, List.range_succ, List.reverse_append, List.map_append]
  simp [hall]

theorem simplify_append_of_notMem (h : up ∉ parts) (before : List String) :
    parts.foldl (fun before part => if part == up then before.dropLast else before ++ [part])
      before = before ++ parts := by
  induction parts generalizing before with
  | nil => simp
  | cons part parts ih =>
    obtain ⟨hpart, hparts⟩ := not_or.1 (mt List.mem_cons.2 h)
    have hne : (part == up) = false := beq_eq_false_iff_ne.2 (Ne.symm hpart)
    simp only [List.foldl_cons, hne]
    rw [if_neg (by simp), ih hparts]
    simp

/-- Parts of which none leads up stay as they are. -/
theorem simplify_of_notMem (h : up ∉ parts) : simplify parts = parts := by
  simpa [simplify] using simplify_append_of_notMem h []

end Path

/-! ## Directories on a path -/

namespace FileTree

variable {t : FileTree} {p q : Path} {place d r parts more : List String} {name : String}

theorem textFault?_eq_none :
    textFault? p = none ↔ '\x00' ∉ p.text.toList ∧ p.text.utf8ByteSize < pathLimit := by
  rw [textFault?]
  by_cases hnull : '\x00' ∈ p.text.toList
  · simp [hnull]
  · by_cases hsize : p.text.utf8ByteSize < pathLimit
    · simp [hnull, hsize]
    · simp [hnull, hsize, Nat.not_lt.1 hsize]

/-- Parts lead on from where the parts before them lead. -/
theorem follow_append_eq_ok : t.follow place (parts ++ more) = .ok r ↔
    ∃ d, t.follow place parts = .ok d ∧ t.follow d more = .ok r := by
  induction parts generalizing place with
  | nil =>
    constructor
    · exact fun h => ⟨place, rfl, h⟩
    · rintro ⟨d, hd, h⟩
      obtain rfl := Except.ok.inj hd
      exact h
  | cons part parts ih =>
    rw [List.cons_append, follow_cons_eq_ok, ih]
    constructor
    · rintro ⟨hplace, hpart, d, hd, h⟩
      exact ⟨d, follow_cons_eq_ok.2 ⟨hplace, hpart, hd⟩, h⟩
    · rintro ⟨d, hd, h⟩
      obtain ⟨hplace, hpart, hd⟩ := follow_cons_eq_ok.1 hd
      exact ⟨hplace, hpart, d, hd, h⟩

/-- Parts that lead to a directory lead there from one. -/
theorem isDirectory_of_follow (hr : t.isDirectory r = true) (h : t.follow place parts = .ok r) :
    t.isDirectory place = true := by
  cases parts with
  | nil =>
    obtain rfl := Except.ok.inj h
    exact hr
  | cons part parts => exact (follow_cons_eq_ok.1 h).1

theorem eq_foldl_of_follow (h : t.follow place parts = .ok r) : r = parts.foldl step place := by
  induction parts generalizing place with
  | nil => exact (Except.ok.inj h).symm
  | cons part parts ih => exact ih (follow_cons_eq_ok.1 h).2.2

/-- An absolute path leads to the place that is left of its parts. -/
theorem eq_simplify_of_place (habs : p.isAbsolute = true) (h : t.place p = .ok r) :
    r = Path.simplify p.parts := by
  have hfollow := (place_eq_ok.1 h).2
  rw [start, if_pos habs] at hfollow
  exact eq_foldl_of_follow hfollow

/-- The paths above one that leads to a directory lead to directories too. -/
theorem exists_place_of_mem_withParents (hp : t.find? p = .ok (some .directory))
    (hq : q ∈ p.withParents) : ∃ d, t.place q = .ok d ∧ t.isDirectory d = true := by
  obtain ⟨r, hplace, hr⟩ := find?_eq_directory.1 hp
  obtain ⟨htext, hfollow⟩ := place_eq_ok.1 hplace
  obtain ⟨parts, rest, hne, hparts, rfl⟩ := Path.mem_withParents.1 hq
  obtain ⟨hnull, hsize⟩ := textFault?_eq_none.1 htext
  obtain ⟨s, hs⟩ := Path.exists_text_append p.root hne rest
  rw [← hparts] at hs
  rw [hparts, follow_append_eq_ok] at hfollow
  obtain ⟨d, hd, hmore⟩ := hfollow
  refine ⟨d, place_eq_ok.2 ⟨textFault?_eq_none.2 ⟨?_, ?_⟩, hd⟩, isDirectory_of_follow hr hmore⟩
  · intro hmem
    exact hnull (by simp [hs, hmem])
  · rw [hs, String.utf8ByteSize_append] at hsize
    omega

theorem size_child_le_of_mem_withParents (hq : q ∈ p.withParents) :
    (q.child name).text.utf8ByteSize ≤ (p.child name).text.utf8ByteSize := by
  obtain ⟨parts, rest, hne, hparts, rfl⟩ := Path.mem_withParents.1 hq
  obtain ⟨s, hs⟩ := Path.exists_text_append p.root hne rest
  have hp : p.parts ≠ [] := by simp [hparts, hne]
  rw [← hparts] at hs
  rw [text_child, text_child, if_neg hne, if_neg hp, hs]
  simp only [String.utf8ByteSize_append]
  omega

/-- What a name stands for in a directory, where the path of the name is not too long. -/
theorem place_child (hq : t.place q = .ok d) (hd : t.isDirectory d = true)
    (hname : name.utf8ByteSize ≤ nameLimit) (hnull : '\x00' ∉ name.toList) (hup : name ≠ Path.up)
    (hfits : (q.child name).text.utf8ByteSize < pathLimit) :
    t.place (q.child name) = .ok (d ++ [name]) := by
  obtain ⟨htext, hfollow⟩ := place_eq_ok.1 hq
  have hstep : step d name = d ++ [name] := if_neg (by simpa using hup)
  refine place_eq_ok.2 ⟨textFault?_eq_none.2 ⟨null_not_mem_child hnull htext, hfits⟩, ?_⟩
  rw [← hstep]
  exact follow_append hd hname hfollow

theorem find?_of_place (h : t.place q = .ok d) : t.find? q = .ok (t.node? d) := by
  rw [find?, h]

theorem contains_of_place (h : t.place q = .ok d) : t.contains q = .ok (t.node? d).isSome := by
  rw [contains, find?_of_place h]
  rfl

/-- It is an error to ask for a name in a directory if the path of the name is too long. -/
theorem contains_child_of_le (hq : t.place q = .ok d) (hnull : '\x00' ∉ name.toList)
    (hlong : pathLimit ≤ (q.child name).text.utf8ByteSize) :
    t.contains (q.child name) = .error (.pathUnusable .tooLong (q.child name).text) := by
  have hchild := null_not_mem_child hnull (place_eq_ok.1 hq).1
  have hfault : textFault? (q.child name) = some .tooLong := by
    rw [textFault?, if_neg (by simpa using hchild), if_pos hlong]
  rw [contains, find?, FileTree.place, hfault]
  rfl

end FileTree

/-! ## Directories above a directory -/

namespace FileTree

/-- A place and those above it, the nearest first and the root last. -/
def upward (place : List String) : List (List String) :=
  (List.range (place.length + 1)).reverse.map place.take

/-- Whether there are settings in a directory. -/
def holdsSettings (t : FileTree) (d : List String) : Bool :=
  (t.node? (d ++ [Settings.fileName])).isSome

end FileTree

namespace Settings

open FileTree (upward)

variable {t : FileTree} {p : Path} {d e : List String} {s : Settings} {content : String}

/-- The directories in which settings are looked for from a path, in this order. -/
def searched (p : Path) : List (List String) := p.withParents.map fun q => Path.simplify q.parts

theorem upward_eq (h : Path.up ∉ p.parts) : upward p.parts = searched p ++ [[]] := by
  have hsimplify : ∀ n, Path.simplify (p.parts.take n) = p.parts.take n := fun n =>
    Path.simplify_of_notMem fun hmem => h (List.mem_of_mem_take hmem)
  simp only [upward, searched, Path.withParents, List.range_succ_eq_map, List.reverse_cons,
    List.map_append, List.map_reverse, List.map_map, List.map_cons, List.map_nil, List.take_zero]
  congr 2
  exact List.map_congr_left fun n _ => (hsimplify (n + 1)).symm

theorem ne_nil_of_mem_searched (h : Path.up ∉ p.parts) (hd : d ∈ searched p) : d ≠ [] := by
  obtain ⟨q, hq, rfl⟩ := List.mem_map.1 hd
  obtain ⟨parts, rest, hne, hparts, rfl⟩ := Path.mem_withParents.1 hq
  have hup : Path.up ∉ parts := fun hmem => h (by simp [hparts, hmem])
  rwa [Path.simplify_of_notMem hup]

/-! ## The search -/

/-- The settings in a text that stands at a path. -/
def ofText (content : String) (path : Path) : Except Error Settings := do
  ofIni (← (Ini.File.parse path.text (Text.withLineFeeds content)).mapError Error.settings) path

/-- Settings are those of the file in a directory. -/
def IsIn (s : Settings) (t : FileTree) (d : List String) : Prop :=
  ∃ path content, t.place path = .ok (d ++ [fileName]) ∧
    t.node? (d ++ [fileName]) = some (.text content) ∧ ofText content path = .ok s

/-- Whatever goes by the name of a settings file is one that can be read. -/
def AreValid (t : FileTree) : Prop :=
  ∀ d node, t.node? (d ++ [fileName]) = some node →
    ∃ content, node = .text content ∧ ∀ path, ∃ s, ofText content path = .ok s

/-- From a path, the settings of the nearest directory that has some are found among the directory
    it leads to and all those above, and none are found just where none of these has any. -/
structure FindsNearest (t : FileTree) (p : Path) : Prop where
  found : ∀ d, (upward (Path.simplify p.parts)).find? t.holdsSettings = some d →
    ∃ s, discover t p = .ok (some s) ∧ s.IsIn t d
  none_iff : discover t p = .ok .none ↔
    ∀ d ∈ upward (Path.simplify p.parts), t.holdsSettings d = false

theorem path_of_ofIni {file : Ini.File} {path : Path} (h : ofIni file path = .ok s) :
    s.path = some path := by
  rw [ofIni] at h
  obtain ⟨-, h⟩ := Except.guard_eq_ok.1 h
  obtain ⟨_, -, h⟩ := Except.bind_eq_ok.1 h
  obtain ⟨_, -, h⟩ := Except.bind_eq_ok.1 h
  obtain ⟨_, -, h⟩ := Except.bind_eq_ok.1 h
  obtain ⟨_, -, h⟩ := Except.bind_eq_ok.1 h
  obtain rfl := Except.ok.inj h
  rfl

theorem forall_holdsSettings_iff {ds : List (List String)} :
    (∀ d ∈ ds, t.holdsSettings d = false) ↔ ds.find? t.holdsSettings = .none := by
  simp [List.find?_eq_none]

theorem FindsNearest.exists_discover (h : FindsNearest t p) :
    ∃ found, discover t p = .ok found := by
  cases hnearest : (upward (Path.simplify p.parts)).find? t.holdsSettings with
  | none => exact ⟨.none, h.none_iff.2 (forall_holdsSettings_iff.2 hnearest)⟩
  | some d =>
    obtain ⟨s, hfound, -⟩ := h.found d hnearest
    exact ⟨some s, hfound⟩

/-- Settings say where they are from. -/
theorem IsIn.unique (h : s.IsIn t d) (h' : s.IsIn t e) : d = e := by
  obtain ⟨path, content, hplace, -, htext⟩ := h
  obtain ⟨path', content', hplace', -, htext'⟩ := h'
  obtain ⟨file, -, hfile⟩ := Except.bind_eq_ok.1 htext
  obtain ⟨file', -, hfile'⟩ := Except.bind_eq_ok.1 htext'
  obtain rfl : path = path' :=
    Option.some.inj ((path_of_ofIni hfile).symm.trans (path_of_ofIni hfile'))
  exact List.append_cancel_right (Except.ok.inj (hplace.symm.trans hplace'))

theorem load_of_find? {path : Path} (h : t.find? path = .ok (some (.text content))) :
    load t path = ofText content path := by
  rw [load, h, ofText]
  simp [bind, Except.bind, Node.text?]

theorem discover_of_nearest? {path : Path} (hnearest : nearest? t p = .ok (some path))
    (hload : load t path = .ok s) : discover t p = .ok (some s) := by
  rw [discover, hnearest]
  simp [bind, Except.bind, hload, Functor.map, Except.map]

/-- The first of some paths that something is at. -/
theorem firstTaken?_map {paths : List Path} {g : Path → Path} {f : Path → Bool}
    (h : ∀ q ∈ paths, t.contains (g q) = .ok (f q)) :
    firstTaken? t (paths.map g) = .ok ((paths.find? f).map g) := by
  induction paths with
  | nil => rfl
  | cons q paths ih =>
    obtain ⟨hq, hpaths⟩ := List.forall_mem_cons.1 h
    rw [List.map_cons, firstTaken?, hq, List.find?_cons]
    cases f q with
    | true => rfl
    | false => exact ih hpaths

/-- The search ends with an error where the path of a settings file would be too long. -/
theorem discover_of_not_fits (hp : t.find? p = .ok (some .directory))
    (hlong : ¬(p.child fileName).text.utf8ByteSize < FileTree.pathLimit) :
    ∃ cause, discover t p = .error cause := by
  have hne : p.parts ≠ [] := by
    intro hnone
    refine hlong ?_
    rw [FileTree.text_child, if_pos hnone]
    cases p.root <;> decide
  obtain ⟨above, habove⟩ := Path.exists_withParents_eq_cons hne
  obtain ⟨r, hplace, -⟩ := FileTree.find?_eq_directory.1 hp
  have hcontains := FileTree.contains_child_of_le hplace (by decide) (Nat.not_lt.1 hlong)
  rw [discover, nearest?, habove, List.map_cons, firstTaken?, hcontains]
  exact ⟨_, rfl⟩

section Directory

variable (habs : p.isAbsolute = true) (hp : t.find? p = .ok (some .directory))
include habs hp

theorem place_child_of_mem_withParents {q : Path} (hq : q ∈ p.withParents)
    (hfits : (p.child fileName).text.utf8ByteSize < FileTree.pathLimit) :
    t.place (q.child fileName) = .ok (Path.simplify q.parts ++ [fileName]) := by
  obtain ⟨d, hd, hdirectory⟩ := FileTree.exists_place_of_mem_withParents hp hq
  have hqabs : q.isAbsolute = true := by
    obtain ⟨parts, rest, -, -, rfl⟩ := Path.mem_withParents.1 hq
    exact habs
  obtain rfl := FileTree.eq_simplify_of_place hqabs hd
  have hle : (q.child fileName).text.utf8ByteSize ≤ (p.child fileName).text.utf8ByteSize :=
    FileTree.size_child_le_of_mem_withParents hq
  exact FileTree.place_child hd hdirectory (by decide) (by decide) (by decide) (by omega)

/-- The search ends at the first directory with settings that it comes to. -/
theorem nearest?_eq (hfits : (p.child fileName).text.utf8ByteSize < FileTree.pathLimit) :
    nearest? t p = .ok ((p.withParents.find? fun q => t.holdsSettings (Path.simplify q.parts)).map
      (·.child fileName)) :=
  firstTaken?_map fun _ hq =>
    FileTree.contains_of_place (place_child_of_mem_withParents habs hp hq hfits)

/-- What is found, by the first directory with settings that the search comes to. -/
theorem discover_of_fits (hvalid : AreValid t)
    (hfits : (p.child fileName).text.utf8ByteSize < FileTree.pathLimit) :
    (searched p).find? t.holdsSettings = .none ∧ discover t p = .ok .none ∨
      ∃ d s, (searched p).find? t.holdsSettings = some d ∧ discover t p = .ok (some s) ∧
        s.IsIn t d := by
  have hnearest := nearest?_eq habs hp hfits
  rw [searched, List.find?_map]
  cases hfind : p.withParents.find? fun q => t.holdsSettings (Path.simplify q.parts) with
  | none =>
    rw [hfind] at hnearest
    refine .inl ⟨congrArg _ hfind, ?_⟩
    rw [discover, hnearest]
    rfl
  | some q =>
    have hplace := place_child_of_mem_withParents habs hp (List.mem_of_find?_eq_some hfind) hfits
    have hholds := List.find?_some hfind
    obtain ⟨node, hnode⟩ := Option.isSome_iff_exists.1 hholds
    obtain ⟨content, rfl, htext⟩ := hvalid _ node hnode
    obtain ⟨s, hs⟩ := htext (q.child fileName)
    -- the file is found where its directory leads, and it can be read there
    have hload : load t (q.child fileName) = .ok s := by
      rw [load_of_find? (by rw [FileTree.find?_of_place hplace, hnode]), hs]
    rw [hfind] at hnearest
    exact .inr ⟨Path.simplify q.parts, s, congrArg _ hfind, discover_of_nearest? hnearest hload,
      _, content, hplace, hnode, hs⟩

/-- The settings of the nearest directory are found where the search comes to the same directory
    first as one that looks into all those above. -/
theorem findsNearest_of_find?_eq (hvalid : AreValid t)
    (hfits : (p.child fileName).text.utf8ByteSize < FileTree.pathLimit)
    (heq : (searched p).find? t.holdsSettings =
      (upward (Path.simplify p.parts)).find? t.holdsSettings) : FindsNearest t p := by
  rcases discover_of_fits habs hp hvalid hfits with ⟨hnone, hfound⟩ | ⟨d, s, hd, hfound, hs⟩
  · rw [heq] at hnone
    refine ⟨fun d hd => absurd (hnone.symm.trans hd) (by simp), ?_⟩
    exact iff_of_true hfound (forall_holdsSettings_iff.2 hnone)
  · rw [heq] at hd
    refine ⟨fun e he => ?_, iff_of_false (by simp [hfound]) ?_⟩
    · obtain rfl := Option.some.inj (hd.symm.trans he)
      exact ⟨s, hfound, hs⟩
    · rw [forall_holdsSettings_iff, hd]
      simp

theorem FindsNearest.find?_eq (h : FindsNearest t p) (hvalid : AreValid t)
    (hfits : (p.child fileName).text.utf8ByteSize < FileTree.pathLimit) :
    (searched p).find? t.holdsSettings =
      (upward (Path.simplify p.parts)).find? t.holdsSettings := by
  rcases discover_of_fits habs hp hvalid hfits with ⟨hnone, hfound⟩ | ⟨d, s, hd, hfound, hs⟩
  · rw [hnone, forall_holdsSettings_iff.1 (h.none_iff.1 hfound)]
  · cases hnearest : (upward (Path.simplify p.parts)).find? t.holdsSettings with
    | none =>
      have hnone := h.none_iff.2 (forall_holdsSettings_iff.2 hnearest)
      exact absurd (hfound.symm.trans hnone) (by simp)
    | some e =>
      obtain ⟨s', hfound', hs'⟩ := h.found e hnearest
      obtain rfl := Option.some.inj (Except.ok.inj (hfound.symm.trans hfound'))
      rw [hd, hs.unique hs']

end Directory

/-- Without parts that lead up, all that the search leaves out is the root. -/
theorem find?_searched_eq_iff (h : Path.up ∉ p.parts) :
    (searched p).find? t.holdsSettings = (upward p.parts).find? t.holdsSettings ↔
      (t.holdsSettings [] = true → ∃ d ∈ upward p.parts, d ≠ [] ∧ t.holdsSettings d = true) := by
  -- what is searched is all but the root
  have hmem : (∃ d ∈ upward p.parts, d ≠ [] ∧ t.holdsSettings d = true) ↔
      ∃ d ∈ searched p, t.holdsSettings d = true := by
    rw [upward_eq h]
    constructor
    · rintro ⟨d, hd, hne, hholds⟩
      rcases List.mem_append.1 hd with hd | hd
      · exact ⟨d, hd, hholds⟩
      · exact absurd (List.mem_singleton.1 hd) hne
    · rintro ⟨d, hd, hholds⟩
      exact ⟨d, List.mem_append_left _ hd, ne_nil_of_mem_searched h hd, hholds⟩
  rw [hmem, upward_eq h, List.find?_append]
  cases hfind : (searched p).find? t.holdsSettings with
  | none =>
    have hnone : ¬∃ d ∈ searched p, t.holdsSettings d = true := by
      simpa using List.find?_eq_none.1 hfind
    cases hroot : t.holdsSettings [] <;> simp [hroot, hnone]
  | some d =>
    have hholds := List.find?_some hfind
    exact iff_of_true rfl fun _ => ⟨d, List.mem_of_find?_eq_some hfind, hholds⟩

/-- In a tree of valid settings, the search from an absolute path to a directory finds the settings
    of the nearest directory just where the path leaves room for the name of a settings file and
    the search comes first to the directory that is the nearest.  If no part of the path leads up,
    that is so unless the root has settings and no other directory above does. -/
theorem findsNearest_iff (hvalid : AreValid t) (habs : p.isAbsolute = true)
    (hp : t.find? p = .ok (some .directory)) :
    (FindsNearest t p ↔ (p.child fileName).text.utf8ByteSize < FileTree.pathLimit ∧
      (searched p).find? t.holdsSettings =
        (upward (Path.simplify p.parts)).find? t.holdsSettings) ∧
    (Path.up ∉ p.parts →
      (FindsNearest t p ↔ (p.child fileName).text.utf8ByteSize < FileTree.pathLimit ∧
        (t.holdsSettings [] = true →
          ∃ d ∈ upward p.parts, d ≠ [] ∧ t.holdsSettings d = true))) := by
  have hfinds : FindsNearest t p ↔
      (p.child fileName).text.utf8ByteSize < FileTree.pathLimit ∧
        (searched p).find? t.holdsSettings =
          (upward (Path.simplify p.parts)).find? t.holdsSettings := by
    refine ⟨fun h => ?_, fun h => findsNearest_of_find?_eq habs hp hvalid h.1 h.2⟩
    have hfits : (p.child fileName).text.utf8ByteSize < FileTree.pathLimit := by
      by_contra hlong
      obtain ⟨cause, hcause⟩ := discover_of_not_fits hp hlong
      obtain ⟨found, hfound⟩ := h.exists_discover
      exact absurd (hcause.symm.trans hfound) (by simp)
    exact ⟨hfits, h.find?_eq habs hp hvalid hfits⟩
  refine ⟨hfinds, fun h => ?_⟩
  rw [hfinds, Path.simplify_of_notMem h, find?_searched_eq_iff h]

/-! ## Trees -/

/-- A text that names the module of the schema. -/
def appText : String := "[schemakit]\nschema_module = app.schema\n"

/-- The settings in that text. -/
def ofApp (path : Path) : Settings :=
  ⟨.none, .none, some "app.schema", .none, .info, [], some path⟩

theorem ofText_appText (path : Path) : ofText appText path = .ok (ofApp path) := by cbv

/-- A tree with settings at the root and in a directory. -/
def nested : FileTree :=
  ⟨[], [([fileName], .text appText), (["app"], .directory), (["app", fileName], .text appText),
    (["app", "src"], .directory)]⟩

theorem areValid_nested : AreValid nested := by
  intro d node h
  have hlookup : nested.entries.lookup (d ++ [fileName]) = some node := by
    cases d <;> exact h
  obtain ⟨before, after, hentries, -⟩ := List.lookup_eq_some_iff.1 hlookup
  have hmem : (d ++ [fileName], node) ∈ nested.entries := by simp [hentries]
  -- the last name of a directory is no name of settings
  have hlast : ∀ e ∈ nested.entries, e.1.getLast? = some fileName → e.2 = .text appText := by
    simp [nested, fileName]
  obtain rfl := hlast _ hmem (by simp)
  exact ⟨appText, rfl, fun path => ⟨_, ofText_appText path⟩⟩

theorem src_findsNearest : AreValid nested ∧ (Path.ofParts ["app", "src"]).isAbsolute = true ∧
    nested.find? (.ofParts ["app", "src"]) = .ok (some .directory) ∧
    FindsNearest nested (.ofParts ["app", "src"]) := by
  have hp : nested.find? (.ofParts ["app", "src"]) = .ok (some .directory) := rfl
  refine ⟨areValid_nested, rfl, hp, ((findsNearest_iff areValid_nested rfl hp).2 (by decide)).2 ?_⟩
  exact ⟨by decide, fun _ => ⟨["app"], by decide, by decide, by decide⟩⟩

/-- A tree with settings at the root alone. -/
def rooted : FileTree := ⟨[], [([fileName], .text appText), (["app"], .directory)]⟩

/-- A tree with settings in a directory, but none above it. -/
def below : FileTree := ⟨[], [(["app"], .directory), (["app", fileName], .text appText)]⟩

/-- Settings at the root are not found, and those of a directory that a path leaves again are. -/
theorem rooted_and_below_not_findsNearest :
    ¬ FindsNearest rooted (.ofParts ["app"]) ∧
      ¬ FindsNearest below (.ofParts ["app", Path.up]) := by
  constructor
  · intro h
    have hnone : discover rooted (.ofParts ["app"]) = .ok .none := rfl
    exact absurd (h.none_iff.1 hnone [] (by decide)) (by decide)
  · intro h
    have hnone := h.none_iff.2 (by decide)
    have hload : load below (.ofParts ["app", fileName]) = .ok (ofApp (.ofParts ["app", fileName])) :=
      (load_of_find? rfl).trans (ofText_appText _)
    have hfound : discover below (.ofParts ["app", Path.up]) = .ok (some _) :=
      discover_of_nearest? rfl hload
    exact absurd (hfound.symm.trans hnone) (by simp)

end Settings

end Accrete
