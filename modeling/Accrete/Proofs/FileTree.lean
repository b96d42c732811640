import Accrete.FileTree
import Accrete.Proofs.Logged

/-!
# Writing to file trees

What a path leads to after a text is put in its place, and in directories that are there.

* `FileTree.node?_put`        -- what stands at a place after something is put in one
* `FileTree.follow_put`       -- paths lead where they led
* `FileTree.find?_of_write`   -- a text that was written is found
* `FileTree.makeDirectories_of_find?` -- directories that are there are kept
-/

namespace Accrete.FileTree

variable {t t' : FileTree} {place q r : List String} {parts : List String} {node : Node} {p : Path}

/-! ## Putting something in a place -/

theorem lookup_map_of_ne (entries : List (List String × Node)) (h : q ≠ place) :
    (entries.map fun e => if e.1 = place then (place, node) else e).lookup q =
      entries.lookup q := by
  induction entries with
  | nil => rfl
  | cons e entries ih =>
    obtain ⟨key, value⟩ := e
    by_cases hkey : key = place
    · subst hkey
      simp [List.lookup_cons, beq_eq_false_iff_ne.2 h, ih]
    · simp [List.lookup_cons, hkey, ih]

theorem lookup_map_self {entries : List (List String × Node)}
    (h : (entries.lookup place).isSome = true) :
    (entries.map fun e => if e.1 = place then (place, node) else e).lookup place = some node := by
  induction entries with
  | nil => simp at h
  | cons e entries ih =>
    obtain ⟨key, value⟩ := e
    by_cases hkey : key = place
    · simp [hkey]
    · have hplace : place ≠ key := Ne.symm hkey
      simp only [List.lookup_cons, beq_eq_false_iff_ne.2 hplace] at h
      simp only [List.map_cons, if_neg hkey, List.lookup_cons, beq_eq_false_iff_ne.2 hplace]
      exact ih h

theorem node?_put (hplace : place ≠ []) :
    (t.put place node).node? q = if q = place then some node else t.node? q := by
  cases q with
  | nil => rw [if_neg (Ne.symm hplace)]; rfl
  | cons name names =>
    simp only [node?, put]
    by_cases hq : name :: names = place
    · subst hq
      rw [if_pos rfl]
      split
      next h => exact lookup_map_self h
      next h =>
        rw [Bool.not_eq_true, Option.isSome_eq_false_iff, Option.isNone_iff_eq_none] at h
        simp [List.lookup_append, h]
    · rw [if_neg hq]
      split
      · exact lookup_map_of_ne _ hq
      · simp [List.lookup_append, List.lookup_cons, beq_eq_false_iff_ne.2 hq]

theorem node?_put_self (hplace : place ≠ []) : (t.put place node).node? place = some node := by
  rw [node?_put hplace, if_pos rfl]

theorem isDirectory_iff : t.isDirectory q = true ↔ t.node? q = some .directory := by
  rw [isDirectory]
  cases t.node? q with
  | none => simp
  | some n => cases n <;> simp [Node.isDirectory]

theorem ne_nil_of_isDirectory (h : t.isDirectory place = false) : place ≠ [] := by
  rintro rfl
  exact absurd h (by simp [isDirectory, node?, Node.isDirectory])

theorem isDirectory_put (hplace : t.isDirectory place = false) (hq : t.isDirectory q = true) :
    (t.put place node).isDirectory q = true := by
  have hne : q ≠ place := by
    rintro rfl
    exact absurd (hq.symm.trans hplace) (by decide)
  rwa [isDirectory, node?_put (ne_nil_of_isDirectory hplace), if_neg hne]

@[simp] theorem here_put : (t.put place node).here = t.here := by
  rw [put]
  split <;> rfl

/-! ## Following paths -/

/-- A part leads on from a directory, if it is no longer than names can be. -/
theorem follow_cons_eq_ok {part : String} : t.follow q (part :: parts) = .ok r ↔
    t.isDirectory q = true ∧ part.utf8ByteSize ≤ nameLimit ∧
      t.follow (step q part) parts = .ok r := by
  rw [follow, isDirectory]
  cases t.node? q with
  | none => simp
  | some n =>
    cases hn : n.isDirectory with
    | false => simp [hn]
    | true =>
      by_cases hsize : part.utf8ByteSize > nameLimit
      · simp [hn, hsize, Nat.not_le.2 hsize]
      · simp [hn, hsize, Nat.le_of_not_lt hsize]

/-- Paths lead where they led after something is put where no directory was. -/
theorem follow_put (hplace : t.isDirectory place = false) (h : t.follow q parts = .ok r) :
    (t.put place node).follow q parts = .ok r := by
  induction parts generalizing q with
  | nil => exact h
  | cons part parts ih =>
    obtain ⟨hq, hsize, h⟩ := follow_cons_eq_ok.1 h
    exact follow_cons_eq_ok.2 ⟨isDirectory_put hplace hq, hsize, ih h⟩

theorem place_eq_ok : t.place p = .ok r ↔
    textFault? p = none ∧ t.follow (t.start p) p.parts = .ok r := by
  rw [FileTree.place]
  split
  next h => simp [h]
  next h => simp [h]

theorem place_put (hplace : t.isDirectory place = false) (h : t.place p = .ok r) :
    (t.put place node).place p = .ok r := by
  obtain ⟨htext, h⟩ := place_eq_ok.1 h
  refine place_eq_ok.2 ⟨htext, ?_⟩
  rw [start, here_put]
  exact follow_put hplace h

theorem follow_append {name : String} (hdirectory : t.isDirectory r = true)
    (hsize : name.utf8ByteSize ≤ nameLimit) (h : t.follow q parts = .ok r) :
    t.follow q (parts ++ [name]) = .ok (step r name) := by
  induction parts generalizing q with
  | nil =>
    obtain rfl := Except.ok.inj h
    exact follow_cons_eq_ok.2 ⟨hdirectory, hsize, rfl⟩
  | cons part parts ih =>
    obtain ⟨hq, hpart, h⟩ := follow_cons_eq_ok.1 h
    exact follow_cons_eq_ok.2 ⟨hq, hpart, ih h⟩

/-! ## Writing -/

theorem write_eq_ok {content : String} : t.write p content = .ok t' ↔
    ∃ place, t.place p = .ok place ∧ t.isDirectory place = false ∧
      t.put place (.text content) = t' := by
  rw [write]
  cases t.place p with
  | error fault => simp
  | ok place =>
    cases hnode : t.node? place with
    | none => simp [isDirectory, hnode]
    | some n => cases n <;> simp [isDirectory, hnode, Node.isDirectory]

theorem find?_of_write {content : String} (h : t.write p content = .ok t') :
    t'.find? p = .ok (some (.text content)) := by
  obtain ⟨place, hplace, hfree, rfl⟩ := write_eq_ok.1 h
  rw [find?, place_put hfree hplace]
  exact congrArg _ (node?_put_self (ne_nil_of_isDirectory hfree))

/-! ## Directories that are there -/

theorem makeAlong_of_follow {passed : List String} (hdirectory : t.isDirectory r = true)
    (h : t.follow q parts = .ok r) : t.makeAlong q passed parts = .ok t := by
  induction parts generalizing q passed with
  | nil => rfl
  | cons part parts ih =>
    obtain ⟨-, hpart, h⟩ := follow_cons_eq_ok.1 h
    have hstep : t.node? (step q part) = some .directory := by
      refine isDirectory_iff.1 ?_
      cases parts with
      | nil =>
        obtain rfl := Except.ok.inj h
        exact hdirectory
      | cons next parts => exact (follow_cons_eq_ok.1 h).1
    rw [makeAlong, if_neg (Nat.not_lt.2 hpart)]
    dsimp only
    rw [hstep]
    exact ih h

theorem find?_eq_directory : t.find? p = .ok (some .directory) ↔
    ∃ place, t.place p = .ok place ∧ t.isDirectory place = true := by
  simp only [isDirectory_iff]
  rw [find?]
  cases t.place p with
  | error fault => cases fault <;> simp
  | ok place => simp

theorem makeDirectories_of_find? (h : t.find? p = .ok (some .directory)) :
    t.makeDirectories p = .ok t := by
  obtain ⟨place, hplace, hdirectory⟩ := find?_eq_directory.1 h
  obtain ⟨htext, hfollow⟩ := place_eq_ok.1 hplace
  rw [makeDirectories, htext]
  exact Except.mapError_eq_ok.2 (makeAlong_of_follow hdirectory hfollow)

/-! ## Names in directories -/

theorem text_child (p : Path) (name : String) : (p.child name).text =
    if p.parts = [] then p.root.text ++ name else p.text ++ "/" ++ name := by
  have hchild : (p.child name).parts = p.parts ++ [name] := rfl
  have htext : (p.child name).text = p.root.text ++ "/".intercalate (p.parts ++ [name]) := by
    rw [Path.text, hchild, if_neg (by simp)]
    rfl
  split
  next hparts => rw [htext, hparts, List.nil_append, String.intercalate_singleton]
  next hparts =>
    rw [htext, String.intercalate_append_of_ne_nil hparts (by simp), String.intercalate_singleton,
      Path.text, if_neg (by simp [hparts])]
    simp only [String.append_assoc]

theorem null_not_mem_child {name : String} (hnull : '\x00' ∉ name.toList)
    (htext : textFault? p = none) : '\x00' ∉ (p.child name).text.toList := by
  have hp : '\x00' ∉ p.text.toList := by
    intro hmem
    rw [textFault?, if_pos (by simpa using hmem)] at htext
    contradiction
  have hroot : '\x00' ∉ p.root.text.toList := by cases p.root <;> decide
  rw [text_child]
  split
  · simp [hroot, hnull]
  · simp [hp, hnull]

/-- A name that is not taken in a directory has a place there. -/
theorem exists_place_child {name : String} (hsize : name.utf8ByteSize ≤ nameLimit)
    (hnull : '\x00' ∉ name.toList) (hp : t.find? p = .ok (some .directory))
    (hfree : t.contains (p.child name) = .ok false) :
    ∃ place, t.place (p.child name) = .ok place ∧ t.node? place = none := by
  obtain ⟨r, hplace, hdirectory⟩ := find?_eq_directory.1 hp
  obtain ⟨htext, hfollow⟩ := place_eq_ok.1 hplace
  have hchild : t.follow (t.start (p.child name)) (p.child name).parts = .ok (step r name) :=
    follow_append hdirectory hsize hfollow
  obtain ⟨found, hfound, hnone⟩ := Except.map_eq_ok.1 hfree
  -- a path that is too long would have been found to be at fault, not free
  have hfault : textFault? (p.child name) = none := by
    have hnone : ¬(p.child name).text.toList.contains '\x00' = true := by
      simpa using null_not_mem_child hnull htext
    rw [textFault?, if_neg hnone, ite_eq_right_iff]
    intro hlong
    have herror : t.place (p.child name) = .error .tooLong := by
      rw [FileTree.place, textFault?, if_neg hnone, if_pos hlong]
    rw [find?, herror] at hfound
    contradiction
  have hstep := place_eq_ok.2 ⟨hfault, hchild⟩
  refine ⟨_, hstep, ?_⟩
  rw [find?, hstep] at hfound
  obtain rfl := Except.ok.inj hfound
  simpa using hnone

end Accrete.FileTree
