import Amalgam.Proofs.Graph.Order
import Amalgam.Proofs.Graph.Sorted

/-!
# Cycles are components

Labels that lead to each other make up a strongly connected component. The cycles
that are reported are the components that have more than one label or a label with
an edge to itself, each sorted, and sorted among themselves. Components do not
depend on the order of the edges, so neither does the report.

Whether there is a cycle is told by a tour and which cycles there are by exploring
from label to label; both come to the same.
-/

namespace Amalgam

open Relation (ReflTransGen TransGen)

def Connected (edges : List Edge) (a b : String) : Prop :=
  ReflTransGen (Linked edges) a b ∧ ReflTransGen (Linked edges) b a

def IsComponent (edges : List Edge) (labels : List String) : Prop :=
  ∃ a, ∀ b, b ∈ labels ↔ Connected edges a b

/-- There is more than one label, or a label with an edge to itself. -/
def Loops (edges : List Edge) (labels : List String) : Prop :=
  (∃ a ∈ labels, ∃ b ∈ labels, a ≠ b) ∨ ∃ a ∈ labels, Linked edges a a

variable {edges edges' : List Edge} {labels : List String} {a b c : String}

-- ---------------------------------------------------------------------------
-- Components
-- ---------------------------------------------------------------------------

namespace Connected

theorem refl (edges : List Edge) (a : String) : Connected edges a a :=
  ⟨.refl, .refl⟩

theorem symm (h : Connected edges a b) : Connected edges b a :=
  And.symm h

theorem trans (hab : Connected edges a b) (hbc : Connected edges b c) : Connected edges a c :=
  ⟨hab.1.trans hbc.1, hbc.2.trans hab.2⟩

theorem transGen_self (h : Connected edges a b) (ha : TransGen (Linked edges) a a) :
    TransGen (Linked edges) b b :=
  .trans_left (.trans_right h.2 ha) h.1

theorem transGen_of_ne (h : Connected edges a b) (hne : a ≠ b) : TransGen (Linked edges) a a := by
  rcases Relation.reflTransGen_iff_eq_or_transGen.mp h.1 with heq | hab
  · exact absurd heq.symm hne
  · exact hab.trans_left h.2

end Connected

theorem connected_iff (ha : TransGen (Linked edges) a a) :
    Connected edges a b ↔ TransGen (Linked edges) a b ∧ TransGen (Linked edges) b a :=
  ⟨fun h => ⟨ha.trans_left h.1, .trans_right h.2 ha⟩,
    fun h => ⟨h.1.to_reflTransGen, h.2.to_reflTransGen⟩⟩

theorem loops_iff (h : ∀ b, b ∈ labels ↔ Connected edges a b) :
    Loops edges labels ↔ TransGen (Linked edges) a a := by
  constructor
  · rintro (⟨b, hb, c, hc, hne⟩ | ⟨b, hb, hself⟩)
    · have hba := ((h b).mp hb).symm
      exact hba.transGen_self ((hba.trans ((h c).mp hc)).transGen_of_ne hne)
    · exact ((h b).mp hb).symm.transGen_self (.single hself)
  · intro ha
    have hmem : a ∈ labels := (h a).mpr (.refl edges a)
    obtain ⟨b, hab, hba⟩ := TransGen.head'_iff.mp ha
    by_cases hself : a = b
    · subst hself
      exact .inr ⟨a, hmem, hab⟩
    · exact .inl ⟨a, hmem, b, (h b).mpr ⟨.single hab, hba⟩, hself⟩

namespace Graph

variable {g : Graph}

-- ---------------------------------------------------------------------------
-- What is reached
-- ---------------------------------------------------------------------------

theorem explore_append {pending met met' : List String} {f : Forest String}
    (h : Explores g.dependencies pending met f met') (others : List String) :
    g.explore (pending ++ others) met = g.explore others met' := by
  -- what is pending after a visit is arbitrary, since the kids are pushed before the rest
  induction h generalizing others with
  | done => rfl
  | skip hv _ ih => rw [List.cons_append, explore, if_pos hv, ih]
  | visit hv _ _ ihk ihr => rw [List.cons_append, explore, if_neg hv, ihk, ihr]

theorem explore_eq {pending met met' : List String} {f : Forest String}
    (h : Explores g.dependencies pending met f met') : g.explore pending met = met' := by
  have happ := explore_append h []
  rwa [List.append_nil, explore] at happ

theorem reach_forest (g : Graph) (label : String) :
    ∃ f met', Explores g.dependencies (g.dependencies label) [] f met' ∧
      g.reach label = f.preorder.reverse := by
  obtain ⟨f, met', h⟩ :=
    exists_explores (fun _ hl => dependencies_eq_nil (g := g) hl) (g.dependencies label) []
  refine ⟨f, met', h, ?_⟩
  rw [reach, explore_eq h, h.seen_eq, List.append_nil]

theorem nodup_reach (g : Graph) (label : String) : (g.reach label).Nodup := by
  obtain ⟨f, met', h, hreach⟩ := g.reach_forest label
  rw [hreach, List.nodup_reverse]
  exact h.nodup_preorder

theorem mem_reach : b ∈ g.reach a ↔ TransGen (LeadsTo g.dependencies) a b := by
  obtain ⟨f, met', h, hreach⟩ := g.reach_forest a
  rw [hreach, List.mem_reverse, h.mem_iff_reachable, TransGen.head'_iff]
  rfl

theorem leadsTo_reverse (g : Graph) :
    LeadsTo g.reverse.dependencies = Function.swap (LeadsTo g.dependencies) := by
  funext a b
  simp only [Function.swap, LeadsTo, mem_dependencies, reverse, List.mem_map, eq_iff_iff]
  constructor
  · rintro ⟨e, he, heq⟩
    cases heq
    exact he
  · intro he
    exact ⟨_, he, rfl⟩

theorem isOnCycle_iff : (ofEdges edges).isOnCycle a = true ↔ TransGen (Linked edges) a a := by
  rw [isOnCycle, decide_eq_true_eq, mem_reach, leadsTo_dependencies]

theorem mem_cycleOf :
    b ∈ (ofEdges edges).cycleOf a ↔
      TransGen (Linked edges) a b ∧ TransGen (Linked edges) b a := by
  rw [cycleOf]
  simp only [List.mem_filter, decide_eq_true_eq, mem_reach, leadsTo_reverse, leadsTo_dependencies,
    Relation.transGen_swap]

theorem mem_cycleOf_iff_connected (ha : (ofEdges edges).isOnCycle a = true) :
    b ∈ (ofEdges edges).cycleOf a ↔ Connected edges a b := by
  rw [mem_cycleOf, connected_iff (isOnCycle_iff.mp ha)]

theorem nodup_cycleOf (g : Graph) (label : String) : (g.cycleOf label).Nodup :=
  (g.nodup_reach label).filter _

-- ---------------------------------------------------------------------------
-- All cycles
-- ---------------------------------------------------------------------------

theorem cyclesAmong_induction {motive : List String → Prop} (nil : motive [])
    (cycle : ∀ label labels, g.isOnCycle label = true →
      motive (labels.filter (· ∉ g.cycleOf label)) → motive (label :: labels))
    (skip : ∀ label labels, g.isOnCycle label = false → motive labels → motive (label :: labels))
    (labels : List String) : motive labels := by
  match labels with
  | [] => exact nil
  | label :: labels =>
    have hlen := List.length_filter_le (· ∉ g.cycleOf label) labels
    cases h : g.isOnCycle label with
    | false => exact skip label labels h (cyclesAmong_induction nil cycle skip labels)
    | true => exact cycle label labels h (cyclesAmong_induction nil cycle skip _)
termination_by labels.length
decreasing_by
  · exact Nat.lt_succ_self _
  · exact Nat.lt_succ_of_le hlen

theorem cyclesAmong_cycle (h : g.isOnCycle a = true) (labels : List String) :
    g.cyclesAmong (a :: labels) =
      g.cycleOf a :: g.cyclesAmong (labels.filter (· ∉ g.cycleOf a)) := by
  rw [cyclesAmong, if_pos h]

theorem cyclesAmong_skip (h : g.isOnCycle a = false) (labels : List String) :
    g.cyclesAmong (a :: labels) = g.cyclesAmong labels := by
  rw [cyclesAmong, if_neg (by simp [h])]

theorem exists_label_of_mem_cyclesAmong {cycle : List String} (h : cycle ∈ g.cyclesAmong labels) :
    ∃ label ∈ labels, g.isOnCycle label = true ∧ cycle = g.cycleOf label := by
  induction labels using cyclesAmong_induction (g := g) with
  | nil => simp [cyclesAmong] at h
  | cycle label labels hl ih =>
    rw [cyclesAmong_cycle hl] at h
    rcases List.mem_cons.mp h with rfl | h
    · exact ⟨label, by simp, hl, rfl⟩
    · obtain ⟨other, ho, hcycle⟩ := ih h
      exact ⟨other, List.mem_cons_of_mem _ (List.mem_filter.mp ho).1, hcycle⟩
  | skip label labels hl ih =>
    rw [cyclesAmong_skip hl] at h
    obtain ⟨other, ho, hcycle⟩ := ih h
    exact ⟨other, List.mem_cons_of_mem _ ho, hcycle⟩

theorem exists_mem_cyclesAmong (ha : (ofEdges edges).isOnCycle a = true) (hm : a ∈ labels) :
    ∃ cycle ∈ (ofEdges edges).cyclesAmong labels, a ∈ cycle := by
  induction labels using cyclesAmong_induction (g := ofEdges edges) with
  | nil => cases hm
  | cycle label labels hl ih =>
    rw [cyclesAmong_cycle hl]
    by_cases hc : a ∈ (ofEdges edges).cycleOf label
    · exact ⟨_, by simp, hc⟩
    · rcases List.mem_cons.mp hm with rfl | hm
      · exact absurd ((mem_cycleOf_iff_connected ha).mpr (.refl edges a)) hc
      · obtain ⟨cycle, hcycle, hac⟩ := ih (List.mem_filter.mpr ⟨hm, by simpa using hc⟩)
        exact ⟨cycle, List.mem_cons_of_mem _ hcycle, hac⟩
  | skip label labels hl ih =>
    rw [cyclesAmong_skip hl]
    rcases List.mem_cons.mp hm with rfl | hm
    · rw [ha] at hl
      cases hl
    · exact ih hm

theorem disjoint_cyclesAmong (edges : List Edge) (labels : List String) :
    ((ofEdges edges).cyclesAmong labels).Pairwise fun cycle cycle' => ∀ b ∈ cycle, b ∉ cycle' := by
  induction labels using cyclesAmong_induction (g := ofEdges edges) with
  | nil => simp [cyclesAmong]
  | cycle label labels hl ih =>
    rw [cyclesAmong_cycle hl]
    refine List.Pairwise.cons ?_ ih
    intro cycle hcycle b hb hb'
    obtain ⟨other, ho, hcyclic, rfl⟩ := exists_label_of_mem_cyclesAmong hcycle
    -- a label in both would connect the one cycle with the other
    have hlabel := (mem_cycleOf_iff_connected hl).mp hb
    have hother := (mem_cycleOf_iff_connected hcyclic).mp hb'
    have hmem := (mem_cycleOf_iff_connected hl).mpr (hlabel.trans hother.symm)
    simpa [hmem] using (List.mem_filter.mp ho).2
  | skip label labels hl ih => rwa [cyclesAmong_skip hl]

-- ---------------------------------------------------------------------------
-- The report
-- ---------------------------------------------------------------------------

theorem mem_cycles {cycle : List String} :
    cycle ∈ g.cycles ↔ ∃ labels ∈ g.cyclesAmong g.nodes, sortLabels labels = cycle := by
  rw [cycles, List.mem_mergeSort, List.mem_map]

theorem mem_nodes_of_isOnCycle (h : (ofEdges edges).isOnCycle a = true) :
    a ∈ (ofEdges edges).nodes := by
  obtain ⟨b, hab, -⟩ := TransGen.head'_iff.mp (isOnCycle_iff.mp h)
  exact source_mem_nodes hab

theorem mem_cycles_iff {cycle : List String} :
    cycle ∈ (ofEdges edges).cycles ↔
      IsComponent edges cycle ∧ Loops edges cycle ∧ cycle.Pairwise (· < ·) := by
  rw [mem_cycles]
  constructor
  · rintro ⟨labels, hlabels, rfl⟩
    obtain ⟨a, -, ha, rfl⟩ := exists_label_of_mem_cyclesAmong hlabels
    have hcomponent : ∀ b, b ∈ sortLabels ((ofEdges edges).cycleOf a) ↔ Connected edges a b := by
      intro b
      rw [mem_sortLabels, mem_cycleOf_iff_connected ha]
    exact ⟨⟨a, hcomponent⟩, (loops_iff hcomponent).mpr (isOnCycle_iff.mp ha),
      pairwise_sortLabels (nodup_cycleOf _ _)⟩
  · rintro ⟨⟨a, hcomponent⟩, hloops, hsorted⟩
    have ha := isOnCycle_iff.mpr ((loops_iff hcomponent).mp hloops)
    obtain ⟨labels, hlabels, hmem⟩ := exists_mem_cyclesAmong ha (mem_nodes_of_isOnCycle ha)
    obtain ⟨a', -, ha', rfl⟩ := exists_label_of_mem_cyclesAmong hlabels
    -- both are the component of `a`, and sorted
    have hconnected := (mem_cycleOf_iff_connected ha').mp hmem
    refine ⟨_, hlabels, eq_of_pairwise (pairwise_sortLabels (nodup_cycleOf _ _)) hsorted ?_⟩
    intro b
    rw [mem_sortLabels, mem_cycleOf_iff_connected ha', hcomponent]
    exact ⟨hconnected.symm.trans, hconnected.trans⟩

theorem pairwise_cycles (edges : List Edge) : (ofEdges edges).cycles.Pairwise (· < ·) := by
  refine pairwise_mergeSort_lexLE ?_
  rw [List.Nodup, List.pairwise_map]
  refine (disjoint_cyclesAmong edges (ofEdges edges).nodes).imp_of_mem ?_
  intro cycle cycle' hcycle _ hdisjoint heq
  obtain ⟨a, -, ha, rfl⟩ := exists_label_of_mem_cyclesAmong hcycle
  have hmem : a ∈ (ofEdges edges).cycleOf a := (mem_cycleOf_iff_connected ha).mpr (.refl edges a)
  refine hdisjoint a hmem ?_
  rwa [← mem_sortLabels, ← heq, mem_sortLabels]

theorem cycles_congr (h : ∀ e, e ∈ edges' ↔ e ∈ edges) :
    (ofEdges edges').cycles = (ofEdges edges).cycles := by
  have hlinked : Linked edges' = Linked edges := by
    funext a b
    exact propext (h ⟨a, b⟩)
  refine eq_of_pairwise (pairwise_cycles edges') (pairwise_cycles edges) fun cycle => ?_
  simp only [mem_cycles_iff, IsComponent, Loops, Connected, hlinked]

theorem exists_cycle_iff :
    (∃ cycle ∈ (ofEdges edges).cycles, a ∈ cycle) ↔ TransGen (Linked edges) a a := by
  constructor
  · rintro ⟨cycle, hcycle, hm⟩
    obtain ⟨⟨b, hcomponent⟩, hloops, -⟩ := mem_cycles_iff.mp hcycle
    exact ((hcomponent a).mp hm).transGen_self ((loops_iff hcomponent).mp hloops)
  · intro ha
    have hcyclic := isOnCycle_iff.mpr ha
    obtain ⟨labels, hlabels, hm⟩ :=
      exists_mem_cyclesAmong hcyclic (mem_nodes_of_isOnCycle hcyclic)
    exact ⟨_, mem_cycles.mpr ⟨labels, hlabels, rfl⟩, mem_sortLabels.mpr hm⟩

theorem cycles_eq_nil : (ofEdges edges).cycles = [] ↔ Acyclic edges := by
  constructor
  · intro h a ha
    obtain ⟨cycle, hcycle, -⟩ := exists_cycle_iff.mpr ha
    simp [h] at hcycle
  · intro h
    refine List.eq_nil_iff_forall_not_mem.mpr fun cycle hcycle => ?_
    obtain ⟨⟨a, hcomponent⟩, hloops, -⟩ := mem_cycles_iff.mp hcycle
    exact h a ((loops_iff hcomponent).mp hloops)

theorem isCyclic_iff : (ofEdges edges).isCyclic = true ↔ (ofEdges edges).cycles ≠ [] := by
  rw [Ne, cycles_eq_nil, ← isCyclic_eq_false, Bool.not_eq_false]

/-- The cycles of an edge list are its strongly connected components of more than
one label or with an edge from a label to itself, each with its labels increasing,
and increasing themselves. They depend on which edges there are only, hold the
labels that lead back to themselves, and are what keeps a graph from being put in
order. -/
theorem cycles_exact (edges : List Edge) :
    (∀ cycle, cycle ∈ (ofEdges edges).cycles ↔
      IsComponent edges cycle ∧ Loops edges cycle ∧ cycle.Pairwise (· < ·)) ∧
    (ofEdges edges).cycles.Pairwise (· < ·) ∧
    (∀ edges', (∀ e, e ∈ edges' ↔ e ∈ edges) →
      (ofEdges edges').cycles = (ofEdges edges).cycles) ∧
    (∀ label, (∃ cycle ∈ (ofEdges edges).cycles, label ∈ cycle) ↔
      TransGen (Linked edges) label label) ∧
    ((ofEdges edges).isCyclic = true ↔ (ofEdges edges).cycles ≠ []) ∧
    (∀ root e, (ofEdges edges).order root = .error e ↔
      (ofEdges edges).cycles ≠ [] ∧ e = ⟨(ofEdges edges).cycles⟩) := by
  refine ⟨fun _ => mem_cycles_iff, pairwise_cycles edges, fun _ => cycles_congr,
    fun _ => exists_cycle_iff, isCyclic_iff, ?_⟩
  intro root e
  rw [← isCyclic_iff, order]
  cases (ofEdges edges).isCyclic <;> simp [eq_comm]

def threeCycles : List Edge :=
  [⟨"a", "b"⟩, ⟨"b", "a"⟩, ⟨"a", "b"⟩, ⟨"s", "s"⟩, ⟨"x", "y"⟩, ⟨"y", "z"⟩, ⟨"z", "y"⟩]

theorem cycles_threeCycles_reversed :
    (∀ e, e ∈ threeCycles.reverse ↔ e ∈ threeCycles) ∧
    (ofEdges threeCycles.reverse).cycles = [["a", "b"], ["s"], ["y", "z"]] := by
  have hperm : ∀ e, e ∈ threeCycles.reverse ↔ e ∈ threeCycles := fun _ => List.mem_reverse
  have hamong : (ofEdges threeCycles).cyclesAmong (ofEdges threeCycles).nodes =
      [["a", "b"], ["s"], ["y", "z"]] := by decide +kernel
  have hsorted : ∀ labels ∈ [["a", "b"], ["s"], ["y", "z"]], sortLabels labels = labels := by
    intro labels hm
    refine List.mergeSort_of_pairwise ?_
    revert labels
    decide
  have hcycles : (ofEdges threeCycles).cycles = [["a", "b"], ["s"], ["y", "z"]] := by
    rw [cycles, hamong, List.map_congr_left hsorted, List.map_id']
    exact List.mergeSort_of_pairwise (by decide)
  exact ⟨hperm, ((cycles_exact threeCycles).2.2.1 _ hperm).trans hcycles⟩

end Graph

end Amalgam
