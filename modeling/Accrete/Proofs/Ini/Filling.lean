import Accrete.Ini.Reference
import Accrete.Proofs.Correspondence
import Accrete.Proofs.Logged

/-!
# Filling in references

When a value that refers to other options stays as it is written.

* `Ini.Fills`            -- what is put in place of a part of a value
* `Ini.fill_eq_ok`       -- a value is filled in part by part
* `Ini.fill_of_plain`    -- a value without percent signs stays as it is
* `Ini.fill_ne_of_self`  -- a value that refers to its own option cannot be filled in
* `Ini.fill_eq_self_iff` -- a value among short ones stays as it is if it has no percent signs
-/

namespace Accrete.Ini

/-- What is put in place of a part of a value.  The values it refers to may themselves refer to
    others, through at most `depth` values. -/
inductive Fills (options : Options) (p : Place) (depth : Nat) : Piece → String → Prop
  | char (c : Char) : Fills options p depth (.char c) (String.singleton c)
  | plain {name other : String} (h : options.lookup (Text.lower name) = some other)
      (hother : '%' ∉ other.toList) : Fills options p depth (.reference name) other
  | filled {name other s : String} (h : options.lookup (Text.lower name) = some other)
      (hother : '%' ∈ other.toList) (hs : fill options p depth other = .ok s) :
      Fills options p depth (.reference name) s

variable {options : Options} {p : Place} {depth : Nat}

/-- A value is filled in part by part, if something can be put in place of every part. -/
theorem fill_eq_ok {value filled : String} :
    fill options p (depth + 1) value = .ok filled ↔
      ∃ parts, List.Forall₂ (Fills options p depth) (pieces value.toList) parts ∧
        String.join parts = filled := by
  rw [fill, Except.bind_eq_ok]
  refine exists_congr fun parts => ?_
  rw [Except.mapM_eq_ok, Except.pure_eq_ok]
  refine and_congr_left fun _ => ?_
  refine iff_of_eq (congrArg (List.Forall₂ · _ parts) (funext fun piece => funext fun s => ?_))
  refine propext ⟨fun h => ?_, fun h => ?_⟩
  · cases piece with
    | char c => exact Except.ok.inj h ▸ .char c
    | stray rest | unclosed rest => contradiction
    | reference name =>
      dsimp only at h
      split at h
      · contradiction
      next other hother =>
        split at h
        next hpercent => exact .filled hother (by simpa using hpercent) h
        next hpercent => exact Except.ok.inj h ▸ .plain hother (by simpa using hpercent)
  · cases h with
    | char c => rfl
    | plain h hother => simp [h, hother]
    | filled h hother hs => simp [h, hother, hs]

/-! ## Values without references -/

theorem pieces_cons {c : Char} {cs : List Char} (h : c ≠ '%') :
    pieces (c :: cs) = .char c :: pieces cs :=
  pieces.eq_5 _ _ (fun _ hc => absurd hc h) (fun _ hc => absurd hc h) h

theorem pieces_of_plain {cs : List Char} (h : '%' ∉ cs) : pieces cs = cs.map .char := by
  induction cs with
  | nil => rw [pieces]; rfl
  | cons c cs ih =>
    rw [List.mem_cons, not_or] at h
    rw [pieces_cons (Ne.symm h.1), ih h.2, List.map_cons]

theorem fill_of_plain {value : String} (h : '%' ∉ value.toList) :
    fill options p (depth + 1) value = .ok value := by
  refine fill_eq_ok.2 ⟨value.toList.map String.singleton, ?_, ?_⟩
  · rw [pieces_of_plain h, List.forall₂_map_left_iff, List.forall₂_map_right_iff,
      List.forall₂_same]
    exact fun c _ => .char c
  · apply String.toList_injective
    simp [String.toList_join, List.flatMap_map]

/-! ## Values with references -/

theorem pieces_reference {cs name rest : List Char} (h : reference? cs = some (name, rest)) :
    pieces ('%' :: '(' :: cs) = .reference (String.ofList name) :: pieces rest := by
  rw [pieces]
  split
  next h' =>
    obtain ⟨rfl, rfl⟩ := Prod.mk.inj (Option.some.inj (h.symm.trans h'))
    rfl
  next h' => exact absurd (h.symm.trans h') (by simp)

theorem pieces_unclosed {cs : List Char} (h : reference? cs = none) :
    pieces ('%' :: '(' :: cs) = [.unclosed (String.ofList ('%' :: '(' :: cs))] := by
  rw [pieces]
  split
  next h' => exact absurd (h.symm.trans h') (by simp)
  · rfl

theorem mem_of_reference_mem {cs : List Char} {name : String}
    (h : .reference name ∈ pieces cs) : '%' ∈ cs := by
  by_contra hmem
  rw [pieces_of_plain hmem] at h
  simp at h

/-- A value with a reference to its own option cannot be filled in, however deep references are
    followed. -/
theorem fill_ne_of_self {value name filled : String}
    (hself : options.lookup (Text.lower name) = some value)
    (hmem : .reference name ∈ pieces value.toList) : fill options p depth value ≠ .ok filled := by
  induction depth generalizing filled with
  | zero => simp [fill]
  | succ depth ih =>
    intro h
    obtain ⟨parts, hparts, -⟩ := fill_eq_ok.1 h
    obtain ⟨s, hs, -⟩ := exists_mem_zip_of_forall₂ hparts hmem
    cases hs with
    | plain h hother =>
      obtain rfl := Option.some.inj (hself.symm.trans h)
      exact hother (mem_of_reference_mem hmem)
    | filled h hother hs =>
      obtain rfl := Option.some.inj (hself.symm.trans h)
      exact ih hs

theorem eq_of_reference? {cs name rest : List Char} (h : reference? cs = some (name, rest)) :
    name ≠ [] ∧ cs = name ++ ')' :: 's' :: rest := by
  rw [reference?] at h
  split at h
  · contradiction
  next stated rest' hname hrest hne =>
    obtain ⟨rfl, rfl⟩ := Prod.mk.inj (Option.some.inj h)
    refine ⟨hne, ?_⟩
    rw [← hrest, List.takeWhile_append_dropWhile]
  · contradiction

theorem length_join_cons (s : String) (parts : List String) :
    (String.join (s :: parts)).length = s.length + (String.join parts).length := by
  rw [String.join_cons, String.length_append]

/-- A value does not get longer where references stand for at most four characters, and it gets
    shorter at every percent sign: a reference takes five characters at least. -/
theorem length_join_of_fills {cs : List Char} {parts : List String}
    (hparts : List.Forall₂ (Fills options p depth) (pieces cs) parts)
    (hshort : ∀ name s, .reference name ∈ pieces cs → Fills options p depth (.reference name) s →
      s.length ≤ 4) :
    (String.join parts).length ≤ cs.length ∧
      ('%' ∈ cs → (String.join parts).length < cs.length) := by
  induction cs using pieces.induct generalizing parts with
  | case1 =>
    rw [pieces, List.forall₂_nil_left_iff] at hparts
    exact ⟨by rw [hparts]; exact Nat.le_refl _, fun h => absurd h List.not_mem_nil⟩
  | case2 rest ih =>
    rw [pieces] at hparts hshort
    obtain ⟨s, parts, hs, hrest, rfl⟩ := List.forall₂_cons_left_iff.1 hparts
    -- a doubled percent sign makes way for a single one
    obtain ⟨hle, -⟩ := ih hrest fun name s h => hshort name s (List.mem_cons_of_mem _ h)
    cases hs
    rw [length_join_cons, String.length_singleton, List.length_cons, List.length_cons]
    omega
  | case3 rest name after h hlt ih =>
    rw [pieces_reference h] at hparts hshort
    obtain ⟨s, parts, hs, hrest, rfl⟩ := List.forall₂_cons_left_iff.1 hparts
    obtain ⟨hle, -⟩ := ih hrest fun name s h => hshort name s (List.mem_cons_of_mem _ h)
    -- the sign, two parentheses, the name and an `s` make way for at most four characters
    have hfour := hshort _ s List.mem_cons_self hs
    obtain ⟨hne, rfl⟩ := eq_of_reference? h
    have hname := List.length_pos_of_ne_nil hne
    rw [length_join_cons]
    simp only [List.length_cons, List.length_append]
    omega
  | case4 rest h =>
    rw [pieces_unclosed h] at hparts
    obtain ⟨s, parts, hs, -⟩ := List.forall₂_cons_left_iff.1 hparts
    cases hs
  | case5 rest h h' =>
    rw [pieces.eq_4 _ h h'] at hparts
    obtain ⟨s, parts, hs, -⟩ := List.forall₂_cons_left_iff.1 hparts
    cases hs
  | case6 c rest _ _ hc ih =>
    rw [pieces_cons hc] at hparts hshort
    obtain ⟨s, parts, hs, hrest, rfl⟩ := List.forall₂_cons_left_iff.1 hparts
    obtain ⟨hle, hlt⟩ := ih hrest fun name s h => hshort name s (List.mem_cons_of_mem _ h)
    cases hs
    rw [length_join_cons, String.length_singleton, List.length_cons]
    refine ⟨by omega, fun hmem => ?_⟩
    have hrest := hlt ((List.mem_cons.1 hmem).resolve_left (Ne.symm hc))
    omega

/-- A value among short ones stays as it is just where it has no percent signs. -/
theorem fill_eq_self_iff {value : String} (hshort : ∀ name other,
      options.lookup name = some other → other = value ∨ '%' ∉ other.toList ∧ other.length ≤ 4) :
    fill options p (depth + 1) value = .ok value ↔ '%' ∉ value.toList := by
  constructor
  · intro h hmem
    obtain ⟨parts, hparts, hjoin⟩ := fill_eq_ok.1 h
    -- what the value refers to is short, since it cannot be the value itself
    have hlt := (length_join_of_fills hparts ?_).2 hmem
    · rw [hjoin, String.length_toList] at hlt
      exact absurd hlt (Nat.lt_irrefl _)
    · intro name s hname hs
      cases hs with
      | plain hlookup hother =>
        obtain rfl | ⟨-, hlength⟩ := hshort _ _ hlookup
        · exact absurd hmem hother
        · exact hlength
      | filled hlookup hother hs =>
        obtain rfl | ⟨hplain, -⟩ := hshort _ _ hlookup
        · exact absurd hs (fill_ne_of_self hlookup hname)
        · exact absurd hother hplain
  · exact fill_of_plain

end Accrete.Ini
