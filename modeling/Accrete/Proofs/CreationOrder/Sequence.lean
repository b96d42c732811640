import Accrete.Field.Defined
import Accrete.Proofs.CreationOrder.Grouping
import Accrete.Proofs.CreationOrder.Settling
import Accrete.Proofs.Logged
import Accrete.Proofs.Schema

/-!
# The sequence of creation

What creation order does to tables with distinct names.

* `creationOrder_eq_ok`    -- it succeeds whenever all references can be followed
* `creationOrder_perm`     -- the tables are the same as before
* `creationOrder_congr`    -- in whatever sequence they are given
* `Settlement`             -- how the tables of one order are parted
* `InCreationOrder`        -- how all tables stand, and what is reported about them
-/

namespace Accrete

open List (Perm)

/-! ## Groups -/

theorem dependsOn_congr {group group' : List Table} (h : ∀ t, t ∈ group ↔ t ∈ group') :
    DependsOn group = DependsOn group' := by
  funext t u
  rw [DependsOn, DependsOn, h]

theorem reachesCycle_congr {group group' : List Table} (h : ∀ t, t ∈ group ↔ t ∈ group')
    (t : Table) : ReachesCycle group t ↔ ReachesCycle group' t := by
  rw [ReachesCycle, ReachesCycle, dependsOn_congr h]

theorem LeastFirst.congr {group group' settled : List Table}
    (h : ∀ t, t ∈ group ↔ t ∈ group') (hleast : LeastFirst group settled) :
    LeastFirst group' settled := by
  intro before t after hsplit
  have hfree : IsFreeAfter group before = IsFreeAfter group' before := by
    funext u
    rw [IsFreeAfter, IsFreeAfter, dependsOn_congr h]
  obtain ⟨hbefore, htfree, hfirst⟩ := hleast before t after hsplit
  rw [hfree] at htfree hfirst
  exact ⟨hbefore, htfree, fun u hu => hfirst u ((h u).2 hu)⟩

/-! ## One order -/

/-- Whether an event reports a cycle among the tables of an order. -/
def Event.isCycleAt (o : Number) : Event → Bool
  | .cycleBroken _ o' => o'.same o
  | _ => false

theorem orderGroup_nil : orderGroup [] = ([], []) := by
  simp [orderGroup, Pending.settle]

theorem mem_of_mem_orderGroup {group : List Table} {t : Table} (h : t ∈ (orderGroup group).2) :
    t ∈ group := by
  have hmem := (settles_settle (group.foldl Schema.put [])).perm.mem_iff.1 h
  exact (Schema.mem_of_mem_foldl_put hmem).resolve_left List.not_mem_nil

theorem mem_events_orderGroup {group : List Table} {e : Event} (h : e ∈ (orderGroup group).1) :
    ∃ names, ∃ t ∈ group, e = .cycleBroken names t.order := by
  cases group with
  | nil => exact absurd h List.not_mem_nil
  | cons t rest =>
    simp only [orderGroup] at h
    split at h
    · exact ⟨_, t, List.mem_cons_self, List.mem_singleton.1 h⟩
    · exact absurd h List.not_mem_nil

theorem orderGroup_snd {group : List Table} (names : (group.map Table.name).Nodup) :
    (orderGroup group).2 = (Pending.settle group).1 ++ (Pending.settle group).2 := by
  have hdistinct : group.foldl Schema.put [] = group := Schema.foldl_put (s := []) names
  rw [orderGroup, hdistinct]

theorem orderGroup_perm {group : List Table} (names : (group.map Table.name).Nodup) :
    (orderGroup group).2.Perm group := by
  rw [orderGroup_snd names]
  exact (settles_settle group).perm

/-- How the tables of one order are parted: those that can reach no cycle, the least first, and
    the others, by name. -/
structure Settlement (group settled stuck : List Table) : Prop where
  perm : (settled ++ stuck).Perm group
  mem_settled_iff : ∀ t ∈ group, t ∈ settled ↔ ¬ ReachesCycle group t
  leastFirst : LeastFirst group settled
  stuck_by_name : stuck.Pairwise fun a b => a.name < b.name

/-- What is reported about the tables that are stuck at an order: nothing if there are none, and
    else their names, once. -/
def ReportsCycle (o : Number) (stuck : List Table) (events : List Event) : Prop :=
  (stuck = [] → events = []) ∧
    (stuck ≠ [] → ∃ o', o'.same o = true ∧ events = [.cycleBroken (stuck.map Table.name) o'])

theorem Settlement.congr {group group' settled stuck : List Table} (h : group.Perm group')
    (hs : Settlement group settled stuck) : Settlement group' settled stuck where
  perm := hs.perm.trans h
  mem_settled_iff t ht := by
    rw [← reachesCycle_congr (fun _ => h.mem_iff) t]
    exact hs.mem_settled_iff t (h.mem_iff.2 ht)
  leastFirst := hs.leastFirst.congr fun _ => h.mem_iff
  stuck_by_name := hs.stuck_by_name

theorem orderGroup_settlement {group : List Table} {o : Number}
    (sorted : group.Pairwise fun a b => a.name < b.name)
    (same : ∀ t ∈ group, t.order.same o = true) :
    ∃ settled stuck, Settlement group settled stuck ∧ (orderGroup group).2 = settled ++ stuck ∧
      ReportsCycle o stuck (orderGroup group).1 := by
  have names : (group.map Table.name).Nodup :=
    List.pairwise_map.2 (sorted.imp fun hlt => ne_of_lt hlt)
  have hdistinct : group.foldl Schema.put [] = group := Schema.foldl_put (s := []) names
  have hsettles := settles_settle group
  refine ⟨(Pending.settle group).1, (Pending.settle group).2, ⟨hsettles.perm,
    fun t ht => hsettles.mem_taken_iff sorted ht, hsettles.leastFirst sorted,
    sorted.sublist hsettles.left_sublist⟩, ?_, ?_⟩
  · exact orderGroup_snd names
  · -- a cycle is reported if fewer tables are settled than there are
    have hlength := hsettles.perm.length_eq
    rw [List.length_append] at hlength
    refine ⟨fun hnil => ?_, fun hne => ?_⟩
    · rw [hnil, List.length_nil] at hlength
      cases group with
      | nil => rfl
      | cons t rest =>
        simp only [orderGroup, hdistinct]
        rw [if_neg (by omega)]
    · have hpos : 0 < (Pending.settle group).2.length := List.length_pos_iff.2 hne
      cases group with
      | nil => rw [List.length_nil] at hlength; omega
      | cons t rest =>
        refine ⟨t.order, same t List.mem_cons_self, ?_⟩
        simp only [orderGroup, hdistinct]
        rw [if_pos (by omega)]

/-! ## All orders -/

/-- The groups of tables that are settled, in sequence. -/
def orderedGroups (ts : List Table) : List (List Table) :=
  orderGroups Table.order (byOrderAndName Table.order Table.name ts)

theorem flatten_orderedGroups (ts : List Table) :
    (orderedGroups ts).flatten = byOrderAndName Table.order Table.name ts :=
  flatten_orderGroups ..

theorem mem_of_mem_orderedGroups {ts group : List Table} (hg : group ∈ orderedGroups ts)
    {t : Table} (ht : t ∈ group) : t ∈ ts := by
  have hmem := List.mem_flatten_of_mem hg ht
  rw [flatten_orderedGroups] at hmem
  exact (byOrderAndName_perm ..).mem_iff.1 hmem

/-- Creation order can be found exactly when all references can be followed. -/
theorem creationOrder_eq_ok {ts out : List Table} :
    (creationOrder ts).outcome = .ok out ↔
      (∀ t ∈ ts, t.checkReferences = .ok ()) ∧
        out = (orderedGroups ts).flatMap fun group => (orderGroup group).2 := by
  -- each group is placed on its own, once all its references have been followed
  have hgroup : ∀ (group placed : List Table),
      (do let tables ← Logged.ofExcept
            ((group.mapM fun (t : Table) => do t.checkReferences; return t).mapError Error.misused)
          Logged.ofPair (orderGroup tables) : Logged (List Table)).outcome = .ok placed ↔
        (∀ t ∈ group, t.checkReferences = .ok ()) ∧ (orderGroup group).2 = placed := by
    intro group placed
    rw [Logged.outcome_bind_eq_ok]
    simp only [Logged.outcome_ofExcept, Except.mapError_eq_ok, Except.mapM_checked_eq_ok]
    constructor
    · rintro ⟨_, ⟨hcheck, rfl⟩, hplaced⟩
      exact ⟨hcheck, by simpa [Logged.ofPair] using hplaced⟩
    · rintro ⟨hcheck, rfl⟩
      exact ⟨group, ⟨hcheck, rfl⟩, rfl⟩
  simp only [creationOrder, creationOrderBy, Logged.outcome_bind_eq_ok, Logged.outcome_mapM_eq_ok,
    hgroup, Logged.outcome_pure, Except.ok.injEq]
  constructor
  · rintro ⟨placed, hplaced, rfl⟩
    obtain ⟨hcheck, hmap⟩ := (List.forall₂_and_left _ _).1 hplaced
    refine ⟨fun t ht => ?_, ?_⟩
    · obtain ⟨group, hg, htg⟩ := List.mem_flatten.1
        ((flatten_orderedGroups ts).symm ▸ (byOrderAndName_perm ..).mem_iff.2 ht)
      exact hcheck group hg t htg
    · rw [List.flatMap_def, ← map_eq_of_forall₂ hmap]
      rfl
  · rintro ⟨hcheck, rfl⟩
    refine ⟨(orderedGroups ts).map fun group => (orderGroup group).2, ?_, ?_⟩
    · rw [List.forall₂_map_right_iff]
      exact List.forall₂_same.2 fun group hg =>
        ⟨fun t ht => hcheck t (mem_of_mem_orderedGroups hg ht), rfl⟩
    · rw [List.flatMap_def]

theorem mem_of_mem_creationOrder {ts out : List Table} (h : (creationOrder ts).outcome = .ok out)
    {t : Table} (ht : t ∈ out) : t ∈ ts := by
  obtain ⟨-, rfl⟩ := creationOrder_eq_ok.1 h
  obtain ⟨group, hgroup, ht⟩ := List.mem_flatMap.1 ht
  exact mem_of_mem_orderedGroups hgroup (mem_of_mem_orderGroup ht)

theorem events_creationOrder {ts : List Table} (h : ∀ t ∈ ts, t.checkReferences = .ok ()) :
    (creationOrder ts).events = (orderedGroups ts).flatMap fun group => (orderGroup group).1 := by
  have hok := creationOrder_eq_ok.2 ⟨h, rfl⟩
  obtain ⟨placed, hplaced, _⟩ := Logged.outcome_bind_eq_ok.1 hok
  rw [creationOrder, creationOrderBy, Logged.events_bind hplaced, Logged.events_mapM hplaced,
    Logged.events_pure, List.append_nil]
  refine List.flatMap_congr fun group hg => ?_
  have hread : (group.mapM fun (t : Table) => do t.checkReferences; return t) = .ok group :=
    Except.mapM_checked_eq_ok.2 ⟨fun t ht => h t (mem_of_mem_orderedGroups hg ht), rfl⟩
  rw [hread]
  rfl

theorem ranks_byOrderAndName (ts : List Table) :
    (byOrderAndName Table.order Table.name ts).Pairwise fun a b => a.order.rank ≤ b.order.rank :=
  (byOrderAndName_pairwise Table.order Table.name ts).imp order_le_of_sortKey_le

/-! ## Tables of distinct names -/

section Distinct

variable {ts : List Table} (names : (ts.map Table.name).Nodup)
include names

theorem nodup_of_mem_orderedGroups {group : List Table} (hg : group ∈ orderedGroups ts) :
    (group.map Table.name).Nodup := by
  have hsublist : (group.map Table.name).Sublist
      ((byOrderAndName Table.order Table.name ts).map Table.name) := by
    rw [← flatten_orderedGroups]
    exact (List.sublist_flatten_of_mem hg).map _
  exact (((byOrderAndName_perm ..).map _).nodup_iff.2 names).sublist hsublist

theorem creationOrder_perm {out : List Table} (h : (creationOrder ts).outcome = .ok out) :
    out.Perm ts := by
  obtain ⟨_, rfl⟩ := creationOrder_eq_ok.1 h
  have hgroups : ((orderedGroups ts).flatMap fun group => (orderGroup group).2).Perm
      ((orderedGroups ts).flatMap id) :=
    List.Perm.flatMap_left _ fun group hg => orderGroup_perm (nodup_of_mem_orderedGroups names hg)
  rw [List.flatMap_id, flatten_orderedGroups] at hgroups
  exact hgroups.trans (byOrderAndName_perm ..)

theorem creationOrder_congr {ts' : List Table} (h : ts.Perm ts') :
    creationOrder ts = creationOrder ts' := by
  rw [creationOrder, creationOrder, creationOrderBy, creationOrderBy, byOrderAndName_congr names h]

/-- Tables in creation order stay as they are. -/
theorem creationOrder_idem {out : List Table} (h : (creationOrder ts).outcome = .ok out) :
    creationOrder out = creationOrder ts :=
  (creationOrder_congr names (creationOrder_perm names h).symm).symm

/-- The tables of one order, sorted, are in strict sequence of their names. -/
theorem filter_byOrderAndName_pairwise (o : Number) :
    ((byOrderAndName Table.order Table.name ts).filter fun t => t.order.same o).Pairwise
      fun a b => a.name < b.name := by
  have hnames : (byOrderAndName Table.order Table.name ts).Pairwise fun a b => a.name ≠ b.name :=
    List.pairwise_map.1 (((byOrderAndName_perm ..).map _).nodup_iff.2 names)
  refine List.pairwise_filter.2 (((byOrderAndName_pairwise ..).and hnames).imp ?_)
  rintro a b ⟨hle, hne⟩ ha hb
  refine lt_of_le_of_ne ?_ hne
  -- sort keys of one order differ in the names
  rcases Prod.Lex.toLex_le_toLex.1 hle with hlt | ⟨_, hname⟩
  · exact absurd ((Number.same_iff.1 ha).trans (Number.same_iff.1 hb).symm) (ne_of_lt hlt)
  · exact hname

/-- The tables of each order are parted, and what is reported at the order is what is stuck. -/
theorem creationOrder_settlement {out : List Table} (h : (creationOrder ts).outcome = .ok out)
    (o : Number) :
    ∃ settled stuck, Settlement (ts.filter fun t => t.order.same o) settled stuck ∧
      out.filter (fun t => t.order.same o) = settled ++ stuck ∧
      ReportsCycle o stuck ((creationOrder ts).events.filter (Event.isCycleAt o)) := by
  obtain ⟨hcheck, rfl⟩ := creationOrder_eq_ok.1 h
  have hrank := ranks_byOrderAndName ts
  -- the tables and the events of the other orders drop out
  have hplaced := filter_flatMap_orderGroups (fun group => (orderGroup group).2)
    (fun o t => t.order.same o) (congrArg Prod.snd orderGroup_nil)
    (fun group o hgroup t ht o' => Number.same_congr (hgroup t (mem_of_mem_orderGroup ht)) o')
    o hrank
  have hevents := filter_flatMap_orderGroups (fun group => (orderGroup group).1)
    Event.isCycleAt (congrArg Prod.fst orderGroup_nil)
    (fun group o hgroup e he o' => by
      obtain ⟨_, t, ht, rfl⟩ := mem_events_orderGroup he
      exact Number.same_congr (hgroup t ht) o')
    o hrank
  obtain ⟨settled, stuck, hsettlement, hout, hreport⟩ := orderGroup_settlement
    (filter_byOrderAndName_pairwise names o) (o := o)
    (fun t ht => (List.mem_filter.1 ht).2)
  refine ⟨settled, stuck, hsettlement.congr ((byOrderAndName_perm ..).filter _), ?_, ?_⟩
  · exact hplaced.trans hout
  · rw [events_creationOrder hcheck]
    exact hevents.symm ▸ hreport

end Distinct

theorem creationOrder_ascending {ts out : List Table} (h : (creationOrder ts).outcome = .ok out) :
    out.Pairwise fun a b => b.order.lt a.order = false := by
  obtain ⟨_, rfl⟩ := creationOrder_eq_ok.1 h
  have hrank : ∀ group : List Table, ∀ t ∈ (orderGroup group).2,
      ∃ u ∈ group, t.order.rank = u.order.rank :=
    fun group t ht => ⟨t, mem_of_mem_orderGroup ht, rfl⟩
  refine (pairwise_flatMap_orderGroups hrank (ranks_byOrderAndName ts)).imp fun hle => ?_
  exact Bool.eq_false_iff.2 fun hlt => absurd (Number.lt_iff.1 hlt) (not_lt.2 hle)

/-! ## The whole sequence -/

/-- How tables stand after they have been put in creation order, and what is reported. -/
structure InCreationOrder (ts out : List Table) (events : List Event) : Prop where
  perm : out.Perm ts
  ascending : out.Pairwise fun a b => b.order.lt a.order = false
  settlement : ∀ o : Number, ∃ settled stuck,
    Settlement (ts.filter fun t => t.order.same o) settled stuck ∧
      out.filter (fun t => t.order.same o) = settled ++ stuck ∧
      ReportsCycle o stuck (events.filter (Event.isCycleAt o))
  reports_cycles : ∀ e ∈ events, ∃ t ∈ ts, Event.isCycleAt t.order e = true

/-- Creation order, in full. -/
theorem creationOrder_inCreationOrder {ts : List Table} (names : (ts.map Table.name).Nodup)
    (followed : ∀ t ∈ ts, t.checkReferences = .ok ()) :
    ∃ out, (creationOrder ts).outcome = .ok out ∧
      InCreationOrder ts out (creationOrder ts).events := by
  have hok := creationOrder_eq_ok.2 ⟨followed, rfl⟩
  refine ⟨_, hok, creationOrder_perm names hok, creationOrder_ascending hok,
    creationOrder_settlement names hok, fun e he => ?_⟩
  rw [events_creationOrder followed] at he
  obtain ⟨group, hg, he⟩ := List.mem_flatMap.1 he
  obtain ⟨_, t, ht, rfl⟩ := mem_events_orderGroup he
  exact ⟨t, mem_of_mem_orderedGroups hg ht, Number.same_self _⟩

/-- A chain of references that ends in a cycle, and a table apart from it. -/
def crossReferencing : List Table :=
  let referencing (name target : String) (order : Number) : Table :=
    ⟨name, [(.text "to", { Field.plain .string with
      references := .reference ⟨.text target, .text "id", none⟩ })], order, [], []⟩
  [referencing "door" "room" (.int 1), referencing "room" "wall" (.int 1),
    referencing "wall" "room" (.int 1), referencing "town" "room" Number.infinity]

theorem crossReferencing_inCreationOrder :
    (crossReferencing.map Table.name).Nodup ∧
      (∀ t ∈ crossReferencing, t.checkReferences = .ok ()) ∧
      ∃ out, (creationOrder crossReferencing).outcome = .ok out ∧
        InCreationOrder crossReferencing out (creationOrder crossReferencing).events :=
  have names : (crossReferencing.map Table.name).Nodup := by decide
  have followed : ∀ t ∈ crossReferencing, t.checkReferences = .ok () := by
    intro t ht
    simp only [crossReferencing, List.mem_cons, List.not_mem_nil, or_false] at ht
    rcases ht with rfl | rfl | rfl | rfl <;> rfl
  ⟨names, followed, creationOrder_inCreationOrder names followed⟩

end Accrete
