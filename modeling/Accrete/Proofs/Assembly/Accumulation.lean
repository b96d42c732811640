import Accrete.Proofs.Assembly.Contribution
import Accrete.Proofs.Assembly.Loose
import Accrete.Proofs.Bags

/-!
# What an assembled schema consists of

Each table of an assembled schema as a function of the fragments that contribute to it, and of no
others.  Malformed fragments contribute nothing.

* `Fragment.declared`           -- the columns that a fragment declares, one by one
* `Fragment.ofTable`            -- the well-formed fragments of a table
* `Table.IsGathered`            -- a table that its fragments are gathered into
* `Schema.isGathered_gather`    -- which every gathered table is
* `Fragment.IsLastOf`           -- the fragment that names the table of a logical key
* `Table.IsAssembled`           -- a table that is assembled from fragments
* `Schema.IsAssembled`          -- a schema that is
* `Schema.assemble_spec`        -- what assembly yields, and what it reports
-/

namespace Accrete

/-! ## Declarations -/

namespace Bag

variable {table : Option String}

/-- Reading the entries of a bag reads each one and lays it over those before it. -/
theorem readEntries_eq_ok {entries : List (Value × Value)} {b b' : Bag} :
    readEntries table b entries = .ok b' ↔
      ∃ declared, (entries.mapM fun e => readEntry table e.1 e.2) = .ok declared ∧
        b' = b.merge declared := by
  simp only [Except.mapM_eq_ok]
  induction entries generalizing b with
  | nil =>
    simp only [readEntries, Except.ok.injEq, List.forall₂_nil_left_iff, exists_eq_left]
    exact eq_comm
  | cons e rest ih =>
    simp only [readEntries, Except.bind_eq_ok, List.forall₂_cons_left_iff, ih]
    constructor
    · rintro ⟨r, hr, declared, hdeclared, rfl⟩
      exact ⟨r :: declared, ⟨r, declared, hr, hdeclared, rfl⟩, rfl⟩
    · rintro ⟨_, ⟨r, declared, hr, hdeclared, rfl⟩, rfl⟩
      exact ⟨r, hr, declared, hdeclared, rfl⟩

/-- The column of an entry that is read is a key, and the one that its field names. -/
theorem columnName_of_readEntry {key value : Value} {e : Value × Field}
    (h : readEntry table key value = .ok e) :
    (∃ name, key.text? = some name ∧ name.isEmpty = false) ∧
      e.1 = e.2.columnName key ∧ e.1.notKey? = none := by
  obtain ⟨name, hname, h⟩ := Except.bind_eq_ok.1 h
  obtain ⟨f, -, h⟩ := Except.bind_eq_ok.1 h
  obtain ⟨⟨⟩, hkey, h⟩ := Except.bind_eq_ok.1 h
  obtain rfl := Except.pure_eq_ok.1 h
  exact ⟨exists_readKey_iff.1 ⟨name, hname⟩, rfl,
    Value.checkKey_eq_ok_iff.1 (Except.mapError_eq_ok.1 hkey)⟩

end Bag

namespace Fragment

/-- The entries of the fragment's mapping are read one by one, each to a column with its field. -/
def Declares (f : Fragment) (declared : Bag) : Prop :=
  ∃ entries, f.fields = .mapping entries ∧
    (entries.mapM fun e => Bag.readEntry (some f.tableName) e.1 e.2) = .ok declared

/-- The columns that a fragment declares, one by one. -/
def declared (f : Fragment) : Bag :=
  match f.fields with
  | .mapping entries =>
    (entries.mapM fun e => Bag.readEntry (some f.tableName) e.1 e.2).toOption.getD []
  | _ => []

theorem declared_eq {f : Fragment} {declared : Bag} (h : f.Declares declared) :
    f.declared = declared := by
  obtain ⟨entries, hfields, hdeclared⟩ := h
  rw [Fragment.declared, hfields]
  simp [hdeclared, Except.toOption]

/-- A fragment declares columns by keys, each by the name that its field states. -/
theorem columnName_of_declares {f : Fragment} {declared : Bag} (h : f.Declares declared) :
    ∀ e ∈ declared, (∃ key, (∃ name, key.text? = some name ∧ name.isEmpty = false) ∧
      e.1 = e.2.columnName key) ∧ e.1.notKey? = none := by
  obtain ⟨entries, -, hdeclared⟩ := h
  intro e he
  obtain ⟨entry, -, hread⟩ := Except.exists_of_mem_mapM hdeclared he
  obtain ⟨hname, hcolumn, hkey⟩ := Bag.columnName_of_readEntry hread
  exact ⟨⟨entry.1, hname, hcolumn⟩, hkey⟩

/-- The fields of a fragment are read to what it declares. -/
theorem ofValue_eq_ok {f : Fragment} {b : Bag} :
    Bag.ofValue (some f.tableName) f.fields = .ok b ↔
      f.Declares f.declared ∧ b = Bag.merge [] f.declared := by
  constructor
  · intro h
    cases hfields : f.fields with
    | mapping entries =>
      rw [hfields] at h
      obtain ⟨declared, hdeclared, hb⟩ := Bag.readEntries_eq_ok.1 h
      have hdeclares : f.Declares declared := ⟨entries, hfields, hdeclared⟩
      rw [declared_eq hdeclares]
      exact ⟨hdeclares, hb⟩
    | _ => simp [hfields, Bag.ofValue] at h
  · rintro ⟨⟨entries, hfields, hdeclared⟩, rfl⟩
    rw [hfields]
    exact Bag.readEntries_eq_ok.2 ⟨_, hdeclared, rfl⟩

/-- A fragment that is laid over a bag lays each column that it declares over it. -/
theorem overlay_eq_ok {f : Fragment} {base b : Bag}
    (h : Bag.overlay (some f.tableName) base f.fields = .ok b) :
    f.Declares f.declared ∧ b = base.merge f.declared := by
  obtain ⟨own, hown, hmerge⟩ := Except.bind_eq_ok.1 h
  obtain ⟨hdeclares, rfl⟩ := ofValue_eq_ok.1 hown
  obtain rfl := Except.pure_eq_ok.1 hmerge
  exact ⟨hdeclares, Bag.merge_merge_nil ..⟩

end Fragment

/-! ## Orders -/

namespace Number

variable {n : Number} {ns : List Number}

/-- The first of the least numbers of a list. -/
def IsFirstLeast (n : Number) (ns : List Number) : Prop :=
  ∃ before after, ns = before ++ n :: after ∧ (∀ m ∈ before, n.lt m = true) ∧
    ∀ m ∈ after, m.lt n = false

theorem isFirstLeast_singleton (n : Number) : n.IsFirstLeast [n] :=
  ⟨[], [], rfl, by simp, by simp⟩

theorem IsFirstLeast.append (h : n.IsFirstLeast ns) (m : Number) :
    (n.min m).IsFirstLeast (ns ++ [m]) := by
  obtain ⟨before, after, rfl, hbefore, hafter⟩ := h
  rw [Number.min]
  by_cases hlt : m.lt n = true
  · -- the new number is less than all that came before it
    refine ⟨before ++ n :: after, [], by simp [hlt], ?_, by simp⟩
    rw [if_pos hlt, List.forall_mem_append, List.forall_mem_cons]
    rw [lt_iff] at hlt
    refine ⟨fun k hk => lt_iff.2 (hlt.trans (lt_iff.1 (hbefore k hk))), lt_iff.2 hlt,
      fun k hk => ?_⟩
    have hk := hafter k hk
    rw [Bool.eq_false_iff, ne_eq, lt_iff, not_lt] at hk
    exact lt_iff.2 (hlt.trans_le hk)
  · refine ⟨before, after ++ [m], by simp [hlt], by rwa [if_neg hlt], ?_⟩
    rw [if_neg hlt, List.forall_mem_append, List.forall_mem_singleton]
    exact ⟨hafter, Bool.eq_false_iff.2 hlt⟩

end Number

/-! ## Gathering -/

namespace Fragment

/-- The well-formed fragments of a table. -/
def ofTable (name : String) (fragments : List Fragment) : List Fragment :=
  (wellFormed fragments).filter fun f => f.tableName = name

theorem wellFormed_append (fs gs : List Fragment) :
    wellFormed (fs ++ gs) = wellFormed fs ++ wellFormed gs :=
  List.filter_append ..

theorem ofTable_append (name : String) (fs gs : List Fragment) :
    ofTable name (fs ++ gs) = ofTable name fs ++ ofTable name gs := by
  simp [ofTable, wellFormed_append]

theorem wellFormed_singleton {f : Fragment} (h : f.fault? = none) : wellFormed [f] = [f] :=
  wellFormed_cons_of_fault?_eq_none h []

theorem wellFormed_singleton_of_fault? {f : Fragment} {fault : Fault} (h : f.fault? = some fault) :
    wellFormed [f] = [] :=
  wellFormed_cons_of_fault? h []

end Fragment

open Fragment

/-- A table that holds what its fragments declare, laid over each other, the first of their least
    orders, and all their constraints and indexes. -/
structure Table.IsGathered (own : List Fragment) (t : Table) : Prop where
  fields : t.fields = Bag.merge [] (own.flatMap Fragment.declared)
  order : t.order.IsFirstLeast (own.map Fragment.creationOrder)
  uniqueConstraints : t.uniqueConstraints = own.flatMap Fragment.uniqueConstraints
  indexes : t.indexes = own.flatMap Fragment.indexes

namespace Schema

variable {s s' : Schema} {f : Fragment} {fs gs : List Fragment}

theorem gather_append (s : Schema) (fs gs : List Fragment) :
    gather s (fs ++ gs) = gather s fs >>= fun s' => gather s' gs := by
  induction fs generalizing s with
  | nil => rfl
  | cons f rest ih =>
    rw [List.cons_append]
    cases hfault : f.fault? with
    | some fault =>
      simp only [gather_cons_of_fault? hfault, ih, bind_assoc]
    | none =>
      simp only [gather_cons_of_fault?_eq_none hfault, ih, bind_assoc]

theorem eraseDups_append_singleton (xs : List String) (x : String) :
    (xs ++ [x]).eraseDups = if x ∈ xs then xs.eraseDups else xs.eraseDups ++ [x] := by
  rw [List.eraseDups_append]
  by_cases hx : x ∈ xs <;> simp [List.removeAll, hx, List.eraseDups_cons]

/-- What a fragment makes of a table is gathered from one more fragment. -/
theorem isGathered_contribution {t? : Option Table} {t : Table} {own : List Fragment}
    (ht? : t?.elim (own = []) (Table.IsGathered own)) (h : contribution t? f = .ok t) :
    t.IsGathered (own ++ [f]) ∧ f.Declares f.declared := by
  cases t? with
  | none =>
    obtain rfl : own = [] := ht?
    obtain ⟨fields, hfields, rfl⟩ := Except.map_eq_ok.1 h
    obtain ⟨hdeclares, rfl⟩ := overlay_eq_ok hfields
    refine ⟨⟨?_, Number.isFirstLeast_singleton _, by simp [start], by simp [start]⟩, hdeclares⟩
    rw [start, List.nil_append, List.flatMap_singleton]
  | some u =>
    have hu : u.IsGathered own := ht?
    obtain ⟨fields, hfields, rfl⟩ := Except.map_eq_ok.1 h
    obtain ⟨hdeclares, rfl⟩ := overlay_eq_ok hfields
    refine ⟨⟨?_, ?_, ?_, ?_⟩, hdeclares⟩
    · rw [extend, hu.fields, List.flatMap_append, List.flatMap_singleton, Bag.merge_append]
    · rw [List.map_append, List.map_singleton]
      exact hu.order.append f.creationOrder
    · rw [extend, hu.uniqueConstraints, List.flatMap_append, List.flatMap_singleton]
    · rw [extend, hu.indexes, List.flatMap_append, List.flatMap_singleton]

/-- A schema that is gathered from the well-formed ones of a list of fragments. -/
structure IsGathered (fs : List Fragment) (s : Schema) : Prop where
  nodup : (s.map Table.name).Nodup
  names : s.map Table.name = ((wellFormed fs).map Fragment.tableName).eraseDups
  declares : ∀ f ∈ wellFormed fs, f.Declares f.declared
  tables : ∀ t ∈ s, t.IsGathered (ofTable t.name fs)

theorem IsGathered.skip {fault : Fault} (h : IsGathered fs s) (hfault : f.fault? = some fault) :
    IsGathered (fs ++ [f]) s := by
  have hwellFormed : wellFormed (fs ++ [f]) = wellFormed fs := by
    rw [wellFormed_append, wellFormed_singleton_of_fault? hfault, List.append_nil]
  obtain ⟨nodup, names, declares, tables⟩ := h
  exact ⟨nodup, hwellFormed ▸ names, hwellFormed ▸ declares, fun t ht => by
    rw [ofTable, hwellFormed]
    exact tables t ht⟩

theorem IsGathered.contribute (h : IsGathered fs s) (hfault : f.fault? = none)
    (hcontribute : s.contribute f = .ok s') : IsGathered (fs ++ [f]) s' := by
  have hwellFormed : wellFormed (fs ++ [f]) = wellFormed fs ++ [f] := by
    rw [wellFormed_append, wellFormed_singleton hfault]
  rw [contribute_eq_put] at hcontribute
  obtain ⟨t, ht, rfl⟩ := Except.map_eq_ok.1 hcontribute
  have hname := name_contribution ht
  -- a table that is not found has no fragments yet
  have hfound : (s.find? f.tableName).elim (ofTable f.tableName fs = [])
      (Table.IsGathered (ofTable f.tableName fs)) := by
    cases hfind : s.find? f.tableName with
    | none =>
      refine List.filter_eq_nil_iff.2 fun g hg hgf => ?_
      have hmem : f.tableName ∈ s.map Table.name := by
        rw [h.names, List.mem_eraseDups]
        exact List.mem_map.2 ⟨g, hg, of_decide_eq_true hgf⟩
      obtain ⟨u, hu, huf⟩ := List.mem_map.1 hmem
      exact absurd (List.find?_eq_none.1 hfind u hu) (by simp [huf])
    | some u =>
      obtain ⟨hu, huf⟩ := find?_inv hfind
      exact huf ▸ h.tables u hu
  obtain ⟨hgathered, hdeclares⟩ := isGathered_contribution hfound ht
  refine ⟨nodup_put h.nodup t, ?_, ?_, fun u hu => ?_⟩
  · rw [map_name_put, hname, hwellFormed, List.map_append, List.map_singleton,
      eraseDups_append_singleton, h.names]
    simp only [List.mem_eraseDups]
  · rw [hwellFormed, List.forall_mem_append, List.forall_mem_singleton]
    exact ⟨h.declares, hdeclares⟩
  · have hfind := find?_name (nodup_put h.nodup t) hu
    rw [find?_put] at hfind
    by_cases hsame : t.name = u.name
    · -- the table that the fragment contributes to
      rw [if_pos hsame] at hfind
      obtain rfl := Option.some.inj hfind
      rw [hname, ofTable_append, ofTable, ofTable, wellFormed_singleton hfault]
      simpa [ofTable] using hgathered
    · -- the other tables are left as they are
      rw [if_neg hsame] at hfind
      rw [ofTable_append, ofTable, ofTable, wellFormed_singleton hfault]
      simpa [ofTable, hname ▸ hsame] using h.tables u (find?_inv hfind).1

/-- Whatever is gathered is gathered from the well-formed fragments. -/
theorem isGathered_gather (h : (gather [] fs).outcome = .ok s) : IsGathered fs s := by
  -- from the end, since a fragment is gathered after all that come before it
  induction fs using List.reverseRecOn generalizing s with
  | nil =>
    obtain rfl := Except.ok.inj h
    exact ⟨List.nodup_nil, rfl, by simp [wellFormed], by simp⟩
  | append_singleton fs f ih =>
    rw [gather_append] at h
    obtain ⟨s₁, hs₁, h⟩ := Logged.outcome_bind_eq_ok.1 h
    cases hfault : f.fault? with
    | some fault =>
      rw [gather_cons_of_fault? hfault] at h
      obtain ⟨⟨⟩, -, h⟩ := Logged.outcome_bind_eq_ok.1 h
      obtain rfl := Except.ok.inj h
      exact (ih hs₁).skip hfault
    | none =>
      rw [gather_cons_of_fault?_eq_none hfault] at h
      obtain ⟨s₂, hs₂, h⟩ := Logged.outcome_bind_eq_ok.1 h
      obtain rfl := Except.ok.inj h
      exact (ih hs₁).contribute hfault (Except.mapError_eq_ok.1 hs₂)

theorem IsGathered.columnName_of_mem {name : String} {e : Value × Field} (h : IsGathered fs s)
    (he : e ∈ (ofTable name fs).flatMap Fragment.declared) :
    (∃ key, (∃ name, key.text? = some name ∧ name.isEmpty = false) ∧
      e.1 = e.2.columnName key) ∧ e.1.notKey? = none := by
  obtain ⟨f, hf, he⟩ := List.mem_flatMap.1 he
  exact columnName_of_declares (h.declares f (List.mem_of_mem_filter hf)) e he

end Schema

/-! ## Resolution -/

/-- The last fragment with a logical key. -/
def Fragment.IsLastOf (f : Fragment) (fragments : List Fragment) (key : String) : Prop :=
  ∃ before after, fragments = before ++ f :: after ∧ f.key = key ∧ ∀ g ∈ after, g.key ≠ key

/-- The name of the table with a logical key is the one that the last fragment with that key gives,
    if there is one. -/
theorem Schema.physicalName_spec (fragments : List Fragment) (key : String) :
    (∃ f : Fragment, f.IsLastOf fragments key ∧ physicalName fragments key = f.tableName) ∨
      (∀ f ∈ fragments, f.key ≠ key) ∧ physicalName fragments key = key := by
  induction fragments using List.reverseRecOn with
  | nil => exact .inr ⟨by simp, rfl⟩
  | append_singleton fragments g ih =>
    by_cases hkey : g.key = key
    · refine .inl ⟨g, ⟨fragments, [], rfl, hkey, by simp⟩, ?_⟩
      simp [physicalName, physicalName?, hkey]
    · have hname : physicalName (fragments ++ [g]) key = physicalName fragments key := by
        simp [physicalName, physicalName?, hkey]
      rw [hname, List.forall_mem_append, List.forall_mem_singleton]
      refine ih.imp ?_ fun h => ⟨⟨h.1, hkey⟩, h.2⟩
      rintro ⟨f, ⟨before, after, rfl, hf, hafter⟩, hfname⟩
      refine ⟨f, ⟨before, after ++ [g], by simp, hf, ?_⟩, hfname⟩
      rw [List.forall_mem_append, List.forall_mem_singleton]
      exact ⟨hafter, hkey⟩

namespace Reference

/-- A reference keeps its column and its delete action.  Its table becomes the one of the last
    fragment with the logical key that it names, if there is one. -/
def ResolvesTo (fragments : List Fragment) (r r' : Reference) : Prop :=
  r'.column = r.column ∧ r'.onDelete = r.onDelete ∧
    ((∃ key, ∃ f : Fragment, r.model.text? = some key ∧ f.IsLastOf fragments key ∧
        r'.model.text? = some f.tableName) ∨
      (∀ f ∈ fragments, r.model.text? ≠ some f.key) ∧ r'.model = r.model)

theorem resolvesTo_resolved (fragments : List Fragment) (r : Reference) :
    r.ResolvesTo fragments (r.resolved fragments) := by
  cases hm : r.model.text? with
  | none =>
    rw [resolved_of_text?_eq_none hm]
    exact ⟨rfl, rfl, .inr ⟨by simp [hm], rfl⟩⟩
  | some key =>
    have hparts : (r.resolved fragments).column = r.column ∧
        (r.resolved fragments).onDelete = r.onDelete := by
      rw [resolved, hm]
      dsimp only
      split <;> exact ⟨rfl, rfl⟩
    refine ⟨hparts.1, hparts.2, ?_⟩
    -- the name of the table depends on whether some fragment has the key
    rcases Schema.physicalName_spec fragments key with ⟨f, hf, hname⟩ | ⟨hnone, hname⟩
    · exact .inl ⟨key, f, hm, hf, hname ▸ text?_model_resolved hm⟩
    · refine .inr ⟨fun f hf heq => hnone f hf ?_, ?_⟩
      · rw [hm] at heq
        exact (Option.some.inj heq).symm
      · simp [resolved, hm, hname]

end Reference

namespace Field

/-- Nothing about a field changes but its reference, if it has one. -/
def ResolvesTo (fragments : List Fragment) (f f' : Field) : Prop :=
  (f.references = .null ∧ f' = f) ∨
    ∃ r r', f.references = .reference r ∧ r.ResolvesTo fragments r' ∧
      f' = { f with references := .reference r' }

theorem resolvesTo_resolved {fragments : List Fragment} {f : Field}
    (h : f.checkReference = .ok ()) : f.ResolvesTo fragments (f.resolved fragments) := by
  cases hreferences : f.references with
  | null => exact .inl ⟨hreferences, by rw [resolved, hreferences]⟩
  | reference r =>
    exact .inr ⟨r, _, hreferences, r.resolvesTo_resolved fragments, by rw [resolved, hreferences]⟩
  | _ => simp [checkReference, hreferences] at h

end Field

/-! ## Assembly -/

/-- A table that is assembled from fragments. -/
structure Table.IsAssembled (fragments : List Fragment) (t : Table) : Prop where
  /-- Its columns come in the sequence in which they are declared first. -/
  columns : t.fields.names =
    Value.distinct (((ofTable t.name fragments).flatMap Fragment.declared).map Prod.fst)
  /-- Each has the field that is declared last, with its reference resolved. -/
  fields : ∀ e ∈ t.fields, ∃ f,
    Bag.LastDeclares ((ofTable t.name fragments).flatMap Fragment.declared) e.1 f ∧
      f.ResolvesTo fragments e.2
  order : t.order.IsFirstLeast ((ofTable t.name fragments).map Fragment.creationOrder)
  uniqueConstraints :
    t.uniqueConstraints = (ofTable t.name fragments).flatMap Fragment.uniqueConstraints
  indexes : t.indexes = (ofTable t.name fragments).flatMap Fragment.indexes

namespace Schema

variable {s : Schema} {fragments : List Fragment}

theorem IsGathered.isAssembled {t : Table} (h : IsGathered fragments s) (ht : t ∈ s)
    (hcheck : t.checkReferences = .ok ()) :
    (t.resolved fragments).IsAssembled fragments := by
  obtain ⟨hfields, order, uniqueConstraints, indexes⟩ := h.tables t ht
  refine ⟨?_, fun e he => ?_, order, uniqueConstraints, indexes⟩
  · have hnames : (t.resolved fragments).fields.names = t.fields.names := by
      simp [Table.resolved, Bag.names]
    rw [hnames, hfields, Bag.names_merge]
    rfl
  · obtain ⟨d, hd, rfl⟩ := List.mem_map.1 he
    refine ⟨d.2, Bag.lastDeclares_of_mem (fun e he => ?_) (hfields ▸ hd),
      Field.resolvesTo_resolved (Except.forM_eq_ok.1 hcheck d hd)⟩
    exact Value.sameKey_self (h.columnName_of_mem he).2

/-- A schema that is assembled from fragments: a table for each name that well-formed ones give, in
    the sequence in which they give them first. -/
structure IsAssembled (fragments : List Fragment) (s : Schema) : Prop where
  declares : ∀ f ∈ wellFormed fragments, f.Declares f.declared
  names : s.map Table.name = ((wellFormed fragments).map Fragment.tableName).eraseDups
  tables : ∀ t ∈ s, t.IsAssembled fragments

theorem isAssembled_assemble (h : (assemble fragments).outcome = .ok s) :
    s.IsAssembled fragments := by
  obtain ⟨gathered, hgathered, hcheck, rfl⟩ := assemble_eq_ok.1 h
  have hspec := isGathered_gather hgathered
  refine ⟨hspec.declares, ?_, fun t ht => ?_⟩
  · rw [← hspec.names, List.map_map]
    rfl
  · obtain ⟨u, hu, rfl⟩ := List.mem_map.1 ht
    exact hspec.isAssembled hu (hcheck u hu)

/-- What assembly yields, and what it reports.  A malformed fragment changes nothing that was
    gathered before it, and is reported once. -/
theorem assemble_spec (h : (assemble fragments).outcome = .ok s) :
    s.IsAssembled fragments ∧
    (assemble fragments).events = fragments.filterMap Fragment.skipped? ++ s.orderWarnings ∧
    ∀ before f after, fragments = before ++ f :: after → f.isMalformed = true →
      ∃ gathered fault, f.fault? = some fault ∧
        (gather [] before).outcome = .ok gathered ∧
        (gather [] (before ++ [f])).outcome = .ok gathered ∧
        (gather [] (before ++ [f])).events =
          (gather [] before).events ++ [.fragmentSkipped f.tableName fault] := by
  obtain ⟨gathered, hgathered, -, hevents⟩ := assemble_inv h
  refine ⟨isAssembled_assemble h, by rw [hevents, events_gather hgathered], ?_⟩
  rintro before f after rfl hmalformed
  obtain ⟨fault, hfault⟩ := Option.isSome_iff_exists.1 hmalformed
  rw [gather_append] at hgathered
  obtain ⟨s₁, hs₁, -⟩ := Logged.outcome_bind_eq_ok.1 hgathered
  refine ⟨s₁, fault, hfault, hs₁, ?_, ?_⟩
  · rw [gather_append, Logged.outcome_bind hs₁, gather_cons_of_fault? hfault]
    rfl
  · rw [gather_append, Logged.events_bind hs₁, gather_cons_of_fault? hfault]
    rfl

/-- Two fragments of one table, with a malformed one between them, and one that references it. -/
def splitUser : List Fragment :=
  [⟨"user", .mapping [(.text "id", .field (.plain .number)),
      (.text "name", .field (.plain .string))], none, some "accounts", [[.text "id"]], []⟩,
    listedUser (some "accounts"),
    ⟨"user", .mapping [(.text "name", .field (.plain .json)),
      (.text "age", .field (.plain .number))], none, some "accounts", [[.text "age"]], []⟩,
    userReferrer]

/-- The tables that they are assembled to. -/
def joinedUser : Schema :=
  [⟨"accounts", [(.text "id", .plain .number), (.text "name", .plain .json),
      (.text "age", .plain .number)], Number.infinity, [[.text "id"], [.text "age"]], []⟩,
    referrerTo "accounts"]

theorem assemble_splitUser :
    (assemble splitUser).outcome = .ok joinedUser ∧
      joinedUser.IsAssembled splitUser := by
  have h : (assemble splitUser).outcome = .ok joinedUser := by cbv
  exact ⟨h, (assemble_spec h).1⟩

end Schema

end Accrete
