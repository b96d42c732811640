import Accrete.Proofs.Assembly.Accumulation

/-!
# One table for each logical key

Tables are gathered by the names that fragments give them, and references are resolved by logical
key.  The two agree just where all fragments with one logical key give it one name.

* `Fragment.ContributesTo`      -- a table has the fields of a fragment
* `Schema.LeadsTo`              -- references to a logical key point at one table
* `Schema.UnitesKeys`           -- fragments with one logical key describe one table
* `Schema.unitesKeys_iff`       -- when they do
* `Schema.accounts_split`       -- a table that is split in two
-/

namespace Accrete

open Fragment

/-- A fragment contributes its fields to a table: it names that table, which has its columns. -/
def Fragment.ContributesTo (f : Fragment) (t : Table) : Prop :=
  t.name = f.tableName ∧ ∀ e ∈ f.declared, ∃ d ∈ t.fields, d.1.sameKey e.1 = true

namespace Schema

variable {fragments : List Fragment} {s : Schema}

/-- Every reference that was declared with a logical key as its model points at a table. -/
def LeadsTo (fragments : List Fragment) (s : Schema) (key : String) (target : Table) : Prop :=
  ∀ t ∈ s, ∀ e ∈ t.fields, ∀ f r,
    Bag.LastDeclares ((ofTable t.name fragments).flatMap Fragment.declared) e.1 f →
    f.reference? = some r → r.model.text? = some key →
    ∃ r', e.2.reference? = some r' ∧ r'.model.text? = some target.name

/-- Fragments with one logical key describe one table, at which references to the key point. -/
def UnitesKeys (fragments : List Fragment) (s : Schema) : Prop :=
  ∀ f ∈ fragments, ∀ g ∈ fragments, f.key = g.key →
    ∃ t ∈ s, f.ContributesTo t ∧ g.ContributesTo t ∧ s.LeadsTo fragments f.key t

/-- A well-formed fragment contributes to a table of the assembled schema. -/
theorem exists_contributesTo (h : (assemble fragments).outcome = .ok s) {f : Fragment}
    (hf : f ∈ wellFormed fragments) : ∃ t ∈ s, f.ContributesTo t := by
  obtain ⟨hdeclares, hnames, htables⟩ := isAssembled_assemble h
  have hmem : f.tableName ∈ s.map Table.name := by
    rw [hnames, List.mem_eraseDups]
    exact List.mem_map_of_mem hf
  obtain ⟨t, ht, hname⟩ := List.mem_map.1 hmem
  refine ⟨t, ht, hname, fun e he => ?_⟩
  have hown : f ∈ ofTable t.name fragments :=
    List.mem_filter.2 ⟨hf, decide_eq_true hname.symm⟩
  have hcolumn := Bag.any_names_merge (List.mem_flatMap.2 ⟨f, hown, he⟩)
    (Value.sameKey_self (columnName_of_declares (hdeclares f hf) e he).2)
  rw [Bag.names_merge, ← (htables t ht).columns] at hcolumn
  obtain ⟨v, hv, hsame⟩ := List.any_eq_true.1 hcolumn
  obtain ⟨d, hd, rfl⟩ := List.mem_map.1 hv
  exact ⟨d, hd, hsame⟩

/-- References to a logical key that every fragment gives one name point at the table of that
    name. -/
theorem leadsTo_of_forall (h : (assemble fragments).outcome = .ok s) {f : Fragment} {target : Table}
    (hf : f ∈ fragments) (hname : ∀ g ∈ fragments, g.key = f.key → g.tableName = target.name) :
    s.LeadsTo fragments f.key target := by
  intro t ht e he declared r hlast href hkey
  obtain ⟨d, hlast', hresolves⟩ := ((isAssembled_assemble h).tables t ht).fields e he
  obtain rfl := hlast'.unique hlast
  rcases hresolves with ⟨hnull, -⟩ | ⟨q, r', hreference, hresolves, hfield⟩
  · simp [Field.reference?, hnull] at href
  · obtain rfl : q = r := by simpa [Field.reference?, hreference] using href
    refine ⟨r', by simp [hfield, Field.reference?], ?_⟩
    obtain ⟨-, -, ⟨key, g, hmodel, ⟨before, after, rfl, hg, -⟩, hname'⟩ | ⟨hnone, -⟩⟩ := hresolves
    · -- the last fragment with the key gives that name too
      obtain rfl := Option.some.inj (hmodel.symm.trans hkey)
      rw [hname', hname g (by simp) hg]
    · exact absurd hkey (hnone f hf)

/-- Fragments with one logical key describe one table just where they give it one name. -/
theorem unitesKeys_iff (hfragments : ∀ f ∈ fragments, f.isMalformed = false)
    (h : (assemble fragments).outcome = .ok s) :
    s.UnitesKeys fragments ↔
      ∀ f ∈ fragments, ∀ g ∈ fragments, f.key = g.key → f.tableName = g.tableName := by
  have hwellFormed : wellFormed fragments = fragments :=
    List.filter_eq_self.2 fun f hf => by simp [hfragments f hf]
  constructor
  · intro hunites f hf g hg hkey
    obtain ⟨t, -, hft, hgt, -⟩ := hunites f hf g hg hkey
    exact hft.1.symm.trans hgt.1
  · intro hnames f hf g hg hkey
    obtain ⟨t, ht, hft⟩ := exists_contributesTo h (hwellFormed.symm ▸ hf)
    obtain ⟨u, hu, hgu⟩ := exists_contributesTo h (hwellFormed.symm ▸ hg)
    -- the two fragments name the same table
    have hsame : u = t := by
      refine List.inj_on_of_nodup_map (assemble_nodup h) hu ht ?_
      rw [hgu.1, hft.1, hnames f hf g hg hkey]
    exact ⟨t, ht, hft, hsame ▸ hgu, leadsTo_of_forall h hf fun g hg hkey => by
      rw [hft.1, hnames g hg f hf hkey]⟩

/-- Two fragments with one logical key, the first of which names its table, and a table that
    references them. -/
def accountFragments (entityName : Option String) : List Fragment :=
  [⟨"user", .mapping [(.text "email", .field (.plain .string))], none, some "accounts", [], []⟩,
    ⟨"user", .mapping [(.text "age", .field (.plain .number))], none, entityName, [], []⟩,
    userReferrer]

/-- Both name one table, which has the columns of both. -/
theorem accounts_unite :
    ∃ s, (assemble (accountFragments (some "accounts"))).outcome = .ok s ∧
      s.UnitesKeys (accountFragments (some "accounts")) := by
  have h : (assemble (accountFragments (some "accounts"))).outcome = .ok
      [⟨"accounts", [(.text "email", .plain .string), (.text "age", .plain .number)],
        Number.infinity, [], []⟩, referrerTo "accounts"] := by cbv
  refine ⟨_, h, (unitesKeys_iff ?_ h).2 ?_⟩
  · decide +kernel
  · decide

/-- One names its table and the other does not: each has a table of its own, and the reference
    points at the one that is not named. -/
theorem accounts_split :
    (∀ f ∈ accountFragments none, f.isMalformed = false) ∧
      (assemble (accountFragments none)).outcome = .ok
        [⟨"accounts", [(.text "email", .plain .string)], Number.infinity, [], []⟩,
          ⟨"user", [(.text "age", .plain .number)], Number.infinity, [], []⟩,
          referrerTo "user"] ∧
      ∀ s, (assemble (accountFragments none)).outcome = .ok s →
        ¬ s.UnitesKeys (accountFragments none) := by
  refine ⟨by decide +kernel, by cbv, fun s _ hunites => ?_⟩
  obtain ⟨t, -, hf, hg, -⟩ := hunites _ (List.mem_cons_self) _
    (List.mem_cons_of_mem _ List.mem_cons_self) rfl
  exact absurd (hf.1.symm.trans hg.1) (by decide)

end Schema

end Accrete
