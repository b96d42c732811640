import Accrete.Proofs.CreationOrder.Sequence

/-!
# Orders without cycles

What it means that creation order reports no cycle.

* `reportsNoCycle_iff`         -- nothing is reported exactly if no table can reach a cycle
* `mem_before_of_references`   -- then each table comes after the tables of its order it references
-/

namespace Accrete

/-- No cycle is among the events. -/
def ReportsNoCycle (events : List Event) : Prop :=
  ∀ names o, .cycleBroken names o ∉ events

theorem ReportsCycle.stuck_eq_nil {o : Number} {stuck : List Table} {events : List Event}
    (h : ReportsCycle o stuck (events.filter (Event.isCycleAt o)))
    (silent : ReportsNoCycle events) : stuck = [] := by
  by_contra hne
  obtain ⟨o', _, hevents⟩ := h.2 hne
  refine silent (stuck.map Table.name) o' (List.mem_of_mem_filter (p := Event.isCycleAt o) ?_)
  rw [hevents]
  exact List.mem_singleton_self _

section Silence

variable {ts out : List Table} (names : (ts.map Table.name).Nodup)
  (h : (creationOrder ts).outcome = .ok out)
include names h

/-- Nothing is stuck at an order exactly if nothing is reported at it. -/
theorem reportsNoCycle_iff :
    ReportsNoCycle (creationOrder ts).events ↔
      ∀ t ∈ ts, ¬ ReachesCycle (ts.filter fun u => u.order.same t.order) t := by
  constructor
  · intro hsilent t ht hcycle
    obtain ⟨settled, stuck, hs, _, hreports⟩ := creationOrder_settlement names h t.order
    have hmem : t ∈ ts.filter fun u => u.order.same t.order :=
      List.mem_filter.2 ⟨ht, Number.same_self _⟩
    -- a table that can reach a cycle is never settled
    have hstuck : t ∈ stuck := (List.mem_append.1 (hs.perm.mem_iff.2 hmem)).resolve_left
      fun hsettled => (hs.mem_settled_iff t hmem).1 hsettled hcycle
    exact List.ne_nil_of_mem hstuck (hreports.stuck_eq_nil hsilent)
  · intro hnone stuckNames o hevent
    obtain ⟨settled, stuck, hs, _, hreports⟩ := creationOrder_settlement names h o
    have hfilter := List.mem_filter (p := Event.isCycleAt o).2 ⟨hevent, Number.same_self o⟩
    have hstuck : stuck ≠ [] := fun hnil => by
      rw [hreports.1 hnil] at hfilter
      exact List.not_mem_nil hfilter
    obtain ⟨t, ht⟩ := List.exists_mem_of_ne_nil stuck hstuck
    have hmem := hs.perm.mem_iff.1 (List.mem_append_right settled ht)
    have hnodup : (settled ++ stuck).Nodup :=
      hs.perm.nodup_iff.2 ((List.Nodup.of_map _ names).filter _)
    -- what is stuck has the order that the warning names
    have hgroup : (ts.filter fun u => u.order.same o) =
        ts.filter fun u => u.order.same t.order := by
      refine List.filter_congr fun u _ => ?_
      rw [Number.same_comm u.order, Number.same_comm u.order,
        Number.same_congr (List.mem_filter.1 hmem).2]
    refine (List.nodup_append.1 hnodup).2.2 t ((hs.mem_settled_iff t hmem).2 ?_) t ht rfl
    rw [hgroup]
    exact hnone t (List.mem_filter.1 hmem).1

/-- Where no cycle is reported each table comes after the tables of its order that it
    references. -/
theorem mem_before_of_references (silent : ReportsNoCycle (creationOrder ts).events)
    {before after : List Table} {a b : Table} (hout : out = before ++ a :: after) (hb : b ∈ ts)
    (hsame : b.order.same a.order = true) (hname : b.name ≠ a.name)
    (hreferences : a.referencesTable b.name = true) : b ∈ before := by
  obtain ⟨settled, stuck, hs, hfilter, hreports⟩ := creationOrder_settlement names h a.order
  have hstuck := hreports.stuck_eq_nil silent
  have hsettled : settled = before.filter (fun t => t.order.same a.order) ++
      a :: after.filter fun t => t.order.same a.order := by
    rw [← List.append_nil settled, ← hstuck, ← hfilter, hout, List.filter_append,
      List.filter_cons_of_pos (p := fun (t : Table) => t.order.same a.order) (Number.same_self _)]
  have hfree := (hs.leastFirst _ a _ hsettled).2.1
  exact List.mem_of_mem_filter (hfree b ⟨List.mem_filter.2 ⟨hb, hsame⟩, hname, hreferences⟩)

/-- Whether a cycle is reported does not depend on the sequence of the tables. -/
theorem ReportsNoCycle.perm {ts' out' : List Table} (hperm : ts.Perm ts')
    (h' : (creationOrder ts').outcome = .ok out')
    (silent : ReportsNoCycle (creationOrder ts).events) :
    ReportsNoCycle (creationOrder ts').events := by
  rw [reportsNoCycle_iff ((hperm.map _).nodup_iff.1 names) h']
  intro t ht
  rw [← reachesCycle_congr fun u => (hperm.filter fun u => u.order.same t.order).mem_iff]
  exact (reportsNoCycle_iff names h).1 silent t (hperm.mem_iff.2 ht)

end Silence

end Accrete
