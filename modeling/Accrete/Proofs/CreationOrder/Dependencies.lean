import Accrete.Proofs.CreationOrder.Silence

/-!
# References that are followed

Which references between tables of one order are followed by the sequence of creation, and which
tables a warning about a cycle names.

* `tablesAt`                   -- the tables of an order
* `LiesOnCycle`                -- a table can reach itself by references
* `sublist_iff_of_dependsOn`   -- a reference is followed unless its target can reach a cycle
* `mem_names_iff`              -- a warning names the tables of its order that can reach a cycle
* `KeepsDependencies`          -- all references are followed that lie on no cycle
* `keepsDependencies_iff`      -- when they are

A table that can reach a cycle need not lie on it.  It is left over with those that do, and named
with them, so that a reference to a table of the cycle is only followed by the luck of names.
-/

namespace Accrete

def tablesAt (ts : List Table) (o : Number) : List Table := ts.filter fun t => t.order.same o

/-- By references inside a group a table can reach itself. -/
def LiesOnCycle (group : List Table) (t : Table) : Prop :=
  Relation.TransGen (DependsOn group) t t

/-! ## Cycles -/

theorem mem_tablesAt {ts : List Table} {o : Number} {t : Table} :
    t ∈ tablesAt ts o ↔ t ∈ ts ∧ t.order.same o = true := List.mem_filter

theorem mem_tablesAt_self {ts : List Table} {t : Table} (ht : t ∈ ts) : t ∈ tablesAt ts t.order :=
  mem_tablesAt.2 ⟨ht, Number.same_self _⟩

theorem tablesAt_congr (ts : List Table) {o o' : Number} (h : o.same o' = true) :
    tablesAt ts o = tablesAt ts o' := by
  apply List.filter_congr
  intro t _
  rw [Number.same_comm t.order, Number.same_comm t.order, Number.same_congr h]

theorem DependsOn.reachesCycle {group : List Table} {t u : Table} (h : DependsOn group t u)
    (hu : ReachesCycle group u) : ReachesCycle group t := by
  obtain ⟨v, hreach, hcycle⟩ := hu
  exact ⟨v, .head h hreach, hcycle⟩

theorem Settlement.mem_stuck_iff {group settled stuck : List Table}
    (hs : Settlement group settled stuck) (hnodup : group.Nodup) {t : Table} (ht : t ∈ group) :
    t ∈ stuck ↔ ReachesCycle group t := by
  constructor
  · intro hstuck
    by_contra hnone
    have hsettled := (hs.mem_settled_iff t ht).2 hnone
    exact (List.nodup_append.1 (hs.perm.nodup_iff.2 hnodup)).2.2 t hsettled t hstuck rfl
  · intro hcycle
    apply (List.mem_append.1 (hs.perm.mem_iff.2 ht)).resolve_left
    exact fun hsettled => (hs.mem_settled_iff t ht).1 hsettled hcycle

theorem sublist_pair_or {α : Type} {l : List α} {a b : α} (ha : a ∈ l) (hb : b ∈ l) (hne : a ≠ b) :
    [a, b].Sublist l ∨ [b, a].Sublist l := by
  obtain ⟨before, after, rfl⟩ := List.append_of_mem hb
  rcases List.mem_append.1 ha with ha | ha
  · left
    exact (List.singleton_sublist.2 ha).append (List.singleton_sublist.2 List.mem_cons_self)
  · right
    have ha : a ∈ after := (List.mem_cons.1 ha).resolve_left hne
    exact ((List.singleton_sublist.2 ha).cons_cons b).trans (List.sublist_append_right ..)

/-- Which of two tables of an order comes first does not depend on tables of other orders. -/
theorem sublist_tablesAt_iff {ts : List Table} {o : Number} {t u : Table}
    (ht : t.order.same o = true) (hu : u.order.same o = true) :
    [u, t].Sublist (tablesAt ts o) ↔ [u, t].Sublist ts := by
  refine ⟨fun hsub => hsub.trans List.filter_sublist, fun hsub => ?_⟩
  have hpair := hsub.filter fun v => v.order.same o
  rwa [List.filter_eq_self.2 (by simp [ht, hu])] at hpair

namespace Settlement

variable {group settled stuck : List Table} (hs : Settlement group settled stuck) {t u : Table}
include hs

/-- A table is only taken after those it references, and before all that are left over. -/
theorem sublist_of_settled (ht : t ∈ group) (hdepends : DependsOn group t u)
    (husettled : u ∈ settled) : [u, t].Sublist (settled ++ stuck) := by
  rcases List.mem_append.1 (hs.perm.mem_iff.2 ht) with htsettled | htstuck
  · obtain ⟨before, after, hsplit⟩ := List.append_of_mem htsettled
    have hbefore : u ∈ before := (hs.leastFirst before t after hsplit).2.1 u hdepends
    have hpair : [u, t].Sublist settled := hsplit ▸ (List.singleton_sublist.2 hbefore).append
      (List.singleton_sublist.2 List.mem_cons_self)
    exact hpair.trans (List.sublist_append_left ..)
  · exact (List.singleton_sublist.2 husettled).append (List.singleton_sublist.2 htstuck)

/-- Tables that are left over keep their order by name. -/
theorem sublist_iff_of_stuck (hu : u ∈ stuck) (ht : t ∈ stuck) (hunsettled : u ∉ settled)
    (hne : u.name ≠ t.name) : [u, t].Sublist (settled ++ stuck) ↔ u.name < t.name := by
  constructor
  · intro hsub
    obtain ⟨l, l', hpair, hl, hl'⟩ := List.sublist_append_iff.1 hsub
    cases l with
    | nil => exact List.pairwise_iff_forall_sublist.1 hs.stuck_by_name (hpair ▸ hl')
    | cons v l =>
      obtain ⟨rfl, -⟩ := List.cons.inj hpair
      exact absurd (hl.subset List.mem_cons_self) hunsettled
  · intro hlt
    rcases sublist_pair_or hu ht fun heq => hne (congrArg Table.name heq) with hsub | hsub
    · exact hsub.trans (List.sublist_append_right ..)
    · have hgt := List.pairwise_iff_forall_sublist.1 hs.stuck_by_name hsub
      exact absurd hgt (lt_asymm hlt)

end Settlement

/-! ## Single references -/

section Order

variable {ts out : List Table} (names : (ts.map Table.name).Nodup)
include names

theorem nodup_tablesAt (o : Number) : (tablesAt ts o).Nodup := (List.Nodup.of_map _ names).filter _

variable (h : (creationOrder ts).outcome = .ok out)
include h

/-- Where a table references another one of its order, that one is created first just if it can
    reach no cycle or comes first by name. -/
theorem sublist_iff_of_dependsOn {t u : Table} (ht : t ∈ ts)
    (hdepends : DependsOn (tablesAt ts t.order) t u) :
    [u, t].Sublist out ↔ ¬ ReachesCycle (tablesAt ts t.order) u ∨ u.name < t.name := by
  obtain ⟨settled, stuck, hs, hfilter, -⟩ := creationOrder_settlement names h t.order
  change Settlement (tablesAt ts t.order) settled stuck at hs
  have hstuck := fun {v} (hv : v ∈ tablesAt ts t.order) =>
    hs.mem_stuck_iff (nodup_tablesAt names _) hv
  have ht' : t ∈ tablesAt ts t.order := mem_tablesAt_self ht
  have hu' : u ∈ tablesAt ts t.order := hdepends.1
  change tablesAt out t.order = settled ++ stuck at hfilter
  rw [← sublist_tablesAt_iff (Number.same_self t.order) (mem_tablesAt.1 hu').2, hfilter]
  by_cases hu : ReachesCycle (tablesAt ts t.order) u
  · -- both can reach a cycle, so that both are stuck
    have hunsettled : u ∉ settled := fun hmem => (hs.mem_settled_iff u hu').1 hmem hu
    simp only [hu, not_true_eq_false, false_or]
    exact hs.sublist_iff_of_stuck ((hstuck hu').2 hu) ((hstuck ht').2 (hdepends.reachesCycle hu))
      hunsettled hdepends.2.1
  · simp only [hu, not_false_eq_true, true_or, iff_true]
    exact hs.sublist_of_settled ht' hdepends ((hs.mem_settled_iff u hu').2 hu)

/-! ## Warnings -/

/-- A warning names just the tables of its order that can reach a cycle. -/
theorem mem_names_iff {named : List String} {o : Number}
    (hevent : .cycleBroken named o ∈ (creationOrder ts).events) (name : String) :
    name ∈ named ↔ ∃ t ∈ tablesAt ts o, t.name = name ∧ ReachesCycle (tablesAt ts o) t := by
  obtain ⟨settled, stuck, hs, -, hreports⟩ := creationOrder_settlement names h o
  change Settlement (tablesAt ts o) settled stuck at hs
  have hfilter := List.mem_filter (p := Event.isCycleAt o).2 ⟨hevent, Number.same_self o⟩
  -- there is a warning, so that something is stuck, and it is the only one of its order
  have hne : stuck ≠ [] := by
    rintro rfl
    rw [hreports.1 rfl] at hfilter
    exact List.not_mem_nil hfilter
  obtain ⟨o', -, hevents⟩ := hreports.2 hne
  rw [hevents, List.mem_singleton] at hfilter
  obtain ⟨rfl, -⟩ := Event.cycleBroken.inj hfilter
  have hmem : ∀ t, t ∈ stuck ↔ t ∈ tablesAt ts o ∧ ReachesCycle (tablesAt ts o) t := by
    intro t
    constructor
    · intro ht
      have ht' : t ∈ tablesAt ts o := hs.perm.mem_iff.1 (List.mem_append_right settled ht)
      exact ⟨ht', (hs.mem_stuck_iff (nodup_tablesAt names o) ht').1 ht⟩
    · exact fun ⟨ht, hcycle⟩ => (hs.mem_stuck_iff (nodup_tablesAt names o) ht).2 hcycle
  simp only [List.mem_map, hmem]
  constructor
  · rintro ⟨t, ⟨ht, hcycle⟩, rfl⟩
    exact ⟨t, ht, rfl, hcycle⟩
  · rintro ⟨t, ht, rfl, hcycle⟩
    exact ⟨t, ⟨ht, hcycle⟩, rfl⟩

theorem exists_cycleBroken {t : Table} (ht : t ∈ ts)
    (hcycle : ReachesCycle (tablesAt ts t.order) t) :
    ∃ named o, .cycleBroken named o ∈ (creationOrder ts).events ∧ o.same t.order = true ∧
      t.name ∈ named := by
  obtain ⟨settled, stuck, hs, -, hreports⟩ := creationOrder_settlement names h t.order
  have hstuck : t ∈ stuck :=
    (hs.mem_stuck_iff (nodup_tablesAt names _) (mem_tablesAt_self ht)).2 hcycle
  obtain ⟨o, ho, hevents⟩ := hreports.2 (List.ne_nil_of_mem hstuck)
  refine ⟨stuck.map Table.name, o, ?_, ho, List.mem_map_of_mem hstuck⟩
  apply List.mem_of_mem_filter (p := Event.isCycleAt t.order)
  rw [hevents]
  exact List.mem_singleton_self _

end Order

/-! ## All references -/

theorem exists_dependsOn_of_transGen {group : List Table} {t u : Table} (hu : u ∈ group)
    (h : Relation.TransGen (DependsOn group) u t) : ∃ v ∈ group, DependsOn group v t := by
  obtain ⟨v, hreach, hlast⟩ := Relation.TransGen.tail'_iff.1 h
  cases hreach with
  | refl => exact ⟨u, hu, hlast⟩
  | tail _ hstep => exact ⟨v, hstep.1, hlast⟩

/-- A table that another one of its order references without being able to reach it is created
    first, and only tables on cycles are said to reference each other. -/
structure KeepsDependencies (ts out : List Table) (events : List Event) : Prop where
  referenced_first : ∀ t ∈ ts, ∀ u, DependsOn (tablesAt ts t.order) t u →
    ¬ Relation.TransGen (DependsOn (tablesAt ts t.order)) u t → [u, t].Sublist out
  names_cyclic : ∀ named o, .cycleBroken named o ∈ events → ∀ name ∈ named,
    ∃ t ∈ tablesAt ts o, t.name = name ∧ LiesOnCycle (tablesAt ts o) t

/-- That is so just if every table that can reach a cycle lies on one, and a reference that leads
    from one cycle to another leads to a table that comes first by name. -/
theorem keepsDependencies_iff {ts : List Table} (names : (ts.map Table.name).Nodup)
    (followed : ∀ t ∈ ts, t.checkReferences = .ok ()) :
    ∃ out, (creationOrder ts).outcome = .ok out ∧
      (KeepsDependencies ts out (creationOrder ts).events ↔
        ∀ t ∈ ts, ReachesCycle (tablesAt ts t.order) t →
          LiesOnCycle (tablesAt ts t.order) t ∧
          ∀ u, DependsOn (tablesAt ts t.order) t u → ReachesCycle (tablesAt ts t.order) u →
            ¬ Relation.TransGen (DependsOn (tablesAt ts t.order)) u t → u.name < t.name) := by
  have hok := creationOrder_eq_ok.2 ⟨followed, rfl⟩
  refine ⟨_, hok, fun hkeeps t ht hcycle => ⟨?_, fun u hdepends hu hback => ?_⟩,
    fun hcycles => ⟨fun t ht u hdepends hback => ?_, fun named o hevent name hname => ?_⟩⟩
  · obtain ⟨named, o, hevent, ho, hname⟩ := exists_cycleBroken names hok ht hcycle
    obtain ⟨u, hu, heq, hcyclic⟩ := hkeeps.names_cyclic named o hevent t.name hname
    obtain rfl : u = t := List.inj_on_of_nodup_map names (mem_tablesAt.1 hu).1 ht heq
    rwa [tablesAt_congr ts ho] at hcyclic
  · have hfirst := hkeeps.referenced_first t ht u hdepends hback
    exact ((sublist_iff_of_dependsOn names hok ht hdepends).1 hfirst).resolve_left (not_not.2 hu)
  · rw [sublist_iff_of_dependsOn names hok ht hdepends]
    by_cases hu : ReachesCycle (tablesAt ts t.order) u
    · exact .inr ((hcycles t ht (hdepends.reachesCycle hu)).2 u hdepends hu hback)
    · exact .inl hu
  · obtain ⟨t, ht, rfl, hcycle⟩ := (mem_names_iff names hok hevent name).1 hname
    refine ⟨t, ht, rfl, ?_⟩
    obtain ⟨ht, ho⟩ := mem_tablesAt.1 ht
    rw [← tablesAt_congr ts ho] at hcycle ⊢
    exact (hcycles t ht hcycle).1

def referringTable (name : String) (targets : List String) : Table :=
  ⟨name, targets.map fun target => (.text target, { Field.plain .string with
    references := .reference ⟨.text target, .text "id", none⟩ }), .int 1, [], []⟩

/-- Two rooms that lead into each other, and a hall to which one of them leads. -/
def adjoiningRooms : List Table :=
  [referringTable "hall" [], referringTable "room" ["hall", "study"],
    referringTable "study" ["room"]]

/-- Two rooms that lead into each other, and a door that leads to one of them. -/
def enteredRooms : List Table :=
  [referringTable "door" ["room"], referringTable "room" ["wall"], referringTable "wall" ["room"]]

theorem followed_referringTable (name : String) (targets : List String) :
    (referringTable name targets).checkReferences = .ok () := by
  refine Except.forM_eq_ok.2 fun e he => ?_
  obtain ⟨target, -, rfl⟩ := List.mem_map.1 he
  rfl

theorem adjoiningRooms_keepsDependencies :
    (adjoiningRooms.map Table.name).Nodup ∧
      (∀ t ∈ adjoiningRooms, t.checkReferences = .ok ()) ∧
      ∃ out, (creationOrder adjoiningRooms).outcome = .ok out ∧
        KeepsDependencies adjoiningRooms out (creationOrder adjoiningRooms).events := by
  have names : (adjoiningRooms.map Table.name).Nodup := by decide
  have followed : ∀ t ∈ adjoiningRooms, t.checkReferences = .ok () := by
    simp [adjoiningRooms, followed_referringTable]
  obtain ⟨out, hout, hiff⟩ := keepsDependencies_iff names followed
  refine ⟨names, followed, out, hout, hiff.2 ?_⟩
  have hgroup : ∀ t ∈ adjoiningRooms, tablesAt adjoiningRooms t.order = adjoiningRooms := by
    simp [adjoiningRooms, tablesAt, referringTable, Number.same_self]
  have hroom : DependsOn adjoiningRooms (referringTable "room" ["hall", "study"])
      (referringTable "study" ["room"]) := ⟨by simp [adjoiningRooms], by decide, by decide⟩
  have hstudy : DependsOn adjoiningRooms (referringTable "study" ["room"])
      (referringTable "room" ["hall", "study"]) := ⟨by simp [adjoiningRooms], by decide, by decide⟩
  -- the hall references nothing
  have hfree : ¬ ReachesCycle adjoiningRooms (referringTable "hall" []) := by
    rintro ⟨u, hreach, hcycle⟩
    have hnone : ∀ v, ¬ DependsOn adjoiningRooms (referringTable "hall" []) v :=
      fun v hv => absurd hv.2.2 (by simp [referringTable, Table.referencesTable])
    rcases hreach.cases_head with rfl | ⟨v, hv, -⟩
    · obtain ⟨v, hv, -⟩ := Relation.TransGen.head'_iff.1 hcycle
      exact hnone v hv
    · exact hnone v hv
  -- the others reference each other, so that each of them can reach both
  have hrooms : ∀ t ∈ adjoiningRooms, ReachesCycle adjoiningRooms t →
      t = referringTable "room" ["hall", "study"] ∨ t = referringTable "study" ["room"] := by
    intro t ht hcycle
    simp only [adjoiningRooms, List.mem_cons, List.not_mem_nil, or_false] at ht
    exact ht.resolve_left fun heq => hfree (heq ▸ hcycle)
  have hreach : ∀ t ∈ adjoiningRooms, ∀ u ∈ adjoiningRooms, ReachesCycle adjoiningRooms t →
      ReachesCycle adjoiningRooms u → Relation.TransGen (DependsOn adjoiningRooms) t u := by
    intro t ht u hu hcycle hcycle'
    rcases hrooms t ht hcycle with rfl | rfl <;> rcases hrooms u hu hcycle' with rfl | rfl
    · exact .head hroom (.single hstudy)
    · exact .single hroom
    · exact .single hstudy
    · exact .head hstudy (.single hroom)
  intro t ht
  rw [hgroup t ht]
  intro hcycle
  refine ⟨hreach t ht t ht hcycle hcycle, fun u hu hucycle hback => ?_⟩
  exact absurd (hreach u hu.1 t ht hucycle hcycle) hback

/-- The door leads to a room that does not lead back, and still it is created first. -/
theorem enteredRooms_not_keepsDependencies :
    (enteredRooms.map Table.name).Nodup ∧
      (∀ t ∈ enteredRooms, t.checkReferences = .ok ()) ∧
      ∃ out, (creationOrder enteredRooms).outcome = .ok out ∧
        ¬ KeepsDependencies enteredRooms out (creationOrder enteredRooms).events := by
  have names : (enteredRooms.map Table.name).Nodup := by decide
  have followed : ∀ t ∈ enteredRooms, t.checkReferences = .ok () := by
    simp [enteredRooms, followed_referringTable]
  have hok := creationOrder_eq_ok.2 ⟨followed, rfl⟩
  refine ⟨names, followed, _, hok, fun hkeeps => ?_⟩
  have hgroup : ∀ t ∈ enteredRooms, tablesAt enteredRooms t.order = enteredRooms := by
    simp [enteredRooms, tablesAt, referringTable, Number.same_self]
  have hdoor : referringTable "door" ["room"] ∈ enteredRooms := List.mem_cons_self
  have hroom : DependsOn enteredRooms (referringTable "room" ["wall"])
      (referringTable "wall" ["room"]) := ⟨by simp [enteredRooms], by decide, by decide⟩
  have hwall : DependsOn enteredRooms (referringTable "wall" ["room"])
      (referringTable "room" ["wall"]) := ⟨by simp [enteredRooms], by decide, by decide⟩
  have hdepends : DependsOn enteredRooms (referringTable "door" ["room"])
      (referringTable "room" ["wall"]) := ⟨by simp [enteredRooms], by decide, by decide⟩
  -- no room leads to the door
  have hback : ¬ Relation.TransGen (DependsOn enteredRooms) (referringTable "room" ["wall"])
      (referringTable "door" ["room"]) := by
    intro hreach
    obtain ⟨v, hv, -, -, hreferences⟩ := exists_dependsOn_of_transGen hdepends.1 hreach
    simp only [enteredRooms, List.mem_cons, List.not_mem_nil, or_false] at hv
    rcases hv with rfl | rfl | rfl
    all_goals exact absurd hreferences (by decide)
  have hfirst := hkeeps.referenced_first _ hdoor (referringTable "room" ["wall"])
  rw [hgroup _ hdoor] at hfirst
  have hiff := sublist_iff_of_dependsOn names hok hdoor (u := referringTable "room" ["wall"])
    (by rwa [hgroup _ hdoor])
  rw [hgroup _ hdoor] at hiff
  rcases hiff.1 (hfirst hdepends hback) with hfree | hname
  · exact hfree ⟨_, .refl, .head hroom (.single hwall)⟩
  · exact absurd hname (by decide)

end Accrete
