import Amalgam.Proofs.Graph.Order

/-!
# The graph of a forest

A visit that started at a root records one edge for each place, from where it
was first met. These edges make a forest, and the graph of the edges is put in
the order in which the visit finished: `order_edges`. Nothing else can come of
it, unless the root was met on the way; then the edges have a cycle.
-/

namespace Amalgam

open Relation (ReflTransGen TransGen)

namespace Forest

/-- The edges of a forest below `parent`, each label's before those below it. -/
def edges (parent : String) : Forest String → List Edge
  | nil => []
  | node v kids rest => ⟨parent, v⟩ :: (kids.edges v ++ rest.edges parent)

variable {f : Forest String} {parent label : String} {e : Edge}

theorem map_target_edges (f : Forest String) (parent : String) :
    (f.edges parent).map (·.target) = f.preorder := by
  induction f generalizing parent with
  | nil => rfl
  | node v kids rest ihk ihr => simp [edges, preorder, ihk, ihr]

theorem nodup_edges (h : f.preorder.Nodup) (parent : String) : (f.edges parent).Nodup := by
  rw [← map_target_edges f parent] at h
  exact .of_map _ h

theorem source_earlier {before after : List Edge} (h : f.edges parent = before ++ e :: after) :
    e.source = parent ∨ e.source ∈ before.map (·.target) := by
  induction f generalizing parent before after with
  | nil => simp [edges] at h
  | node v kids rest ihk ihr =>
    cases before with
    | nil =>
      simp only [edges, List.nil_append, List.cons.injEq] at h
      exact .inl (h.1 ▸ rfl)
    | cons first before =>
      simp only [edges, List.cons_append, List.cons.injEq] at h
      obtain ⟨rfl, h⟩ := h
      rcases List.append_eq_append_iff.mp h with ⟨mid, hbefore, hrest⟩ | ⟨mid, hkids, hafter⟩
      · rcases ihr hrest with hs | hs
        · exact .inl hs
        · exact .inr (by simp [hbefore, hs])
      · cases mid with
        | nil =>
          have hrest : rest.edges parent = [] ++ e :: after := hafter.symm
          rcases ihr hrest with hs | hs
          · exact .inl hs
          · cases hs
        | cons e' mid =>
          simp only [List.cons_append, List.cons.injEq] at hafter
          rcases ihk (hafter.1 ▸ hkids) with hs | hs
          · exact .inr (by simp [hs])
          · exact .inr (by simp [hs])

theorem source_mem (h : e ∈ f.edges parent) : e.source = parent ∨ e.source ∈ f.preorder := by
  obtain ⟨before, after, hs⟩ := List.append_of_mem h
  rcases source_earlier hs with he | he
  · exact .inl he
  · refine .inr ?_
    rw [← map_target_edges f parent, hs, List.map_append]
    exact List.mem_append_left _ he

theorem transGen_edges (h : label ∈ f.preorder) : TransGen (Linked (f.edges parent)) parent label := by
  induction f generalizing parent with
  | nil => cases h
  | node v kids rest ihk ihr =>
    have hv : Linked ((node v kids rest).edges parent) parent v := by simp [Linked, edges]
    simp only [preorder, List.mem_cons, List.mem_append] at h
    rcases h with rfl | h | h
    · exact .single hv
    · refine .head hv (transGen_linked_mono ?_ (ihk h))
      exact fun e he => List.mem_cons_of_mem _ (List.mem_append_left _ he)
    · refine transGen_linked_mono ?_ (ihr h)
      exact fun e he => List.mem_cons_of_mem _ (List.mem_append_right _ he)

theorem precedes_of_mem_edges (h : e ∈ f.edges parent) :
    Precedes (f.postorder ++ [parent]) e.target e.source := by
  induction f generalizing parent with
  | nil => cases h
  | node v kids rest ihk ihr =>
    simp only [edges, List.mem_cons, List.mem_append] at h
    simp only [postorder, List.append_assoc, List.cons_append]
    rcases h with rfl | h | h
    · exact .append_left ((List.singleton_sublist.mpr (by simp)).cons_cons v)
    · have hk : Precedes (kids.postorder ++ [v] ++ (rest.postorder ++ [parent])) e.target e.source :=
        (ihk h).append_right
      rwa [List.append_assoc] at hk
    · exact .append_left ((ihr h).cons v)

-- ---------------------------------------------------------------------------
-- What stands below a label
-- ---------------------------------------------------------------------------

theorem targetsFrom_other (hp : label ≠ parent) (hf : label ∉ f.preorder) :
    targetsFrom label (f.edges parent) = [] := by
  refine List.map_eq_nil_iff.mpr (List.filter_eq_nil_iff.mpr ?_)
  intro e he
  rw [decide_eq_true_eq]
  rintro rfl
  rcases source_mem he with hs | hs
  · exact hp hs
  · exact hf hs

theorem targetsFrom_parent (hp : parent ∉ f.preorder) :
    targetsFrom parent (f.edges parent) = f.roots := by
  induction f with
  | nil => rfl
  | node v kids rest _ ihr =>
    simp only [preorder, List.mem_cons, List.mem_append, not_or] at hp
    rw [edges, targetsFrom_cons, if_pos rfl, targetsFrom_append, targetsFrom_other hp.1 hp.2.1,
      ihr hp.2.2]
    rfl

/-- Whatever reads the edges of each label off a forest without repetitions
finds what stands directly below it. -/
theorem matches_of_targetsFrom {next : String → List String} (hf : f.preorder.Nodup)
    (hp : parent ∉ f.preorder)
    (hn : ∀ label ∈ f.preorder, next label = targetsFrom label (f.edges parent)) :
    f.Matches next := by
  induction f generalizing parent with
  | nil => trivial
  | node v kids rest ihk ihr =>
    simp only [preorder, List.nodup_cons, List.mem_append, not_or] at hf
    obtain ⟨⟨hvk, hvr⟩, hf⟩ := hf
    obtain ⟨hk, hr, hdisj⟩ := List.nodup_append'.mp hf
    simp only [preorder, List.mem_cons, List.mem_append, not_or] at hp
    obtain ⟨hpv, hpk, hpr⟩ := hp
    refine ⟨?_, ihk hk hvk ?_, ihr hr hpr ?_⟩
    · rw [hn v (by simp [preorder]), edges, targetsFrom_cons, if_neg hpv, targetsFrom_append,
        targetsFrom_parent hvk, targetsFrom_other (Ne.symm hpv) hvr, List.append_nil]
    · intro label hl
      have hlp : parent ≠ label := fun h => hpk (h ▸ hl)
      rw [hn label (by simp [preorder, hl]), edges, targetsFrom_cons, if_neg hlp,
        targetsFrom_append, targetsFrom_other (Ne.symm hlp) (hdisj hl), List.append_nil]
    · intro label hl
      have hlp : parent ≠ label := fun h => hpr (h ▸ hl)
      have hlv : label ≠ v := fun h => hvr (h ▸ hl)
      rw [hn label (by simp [preorder, hl]), edges, targetsFrom_cons, if_neg hlp,
        targetsFrom_append, targetsFrom_other hlv fun hm => hdisj hm hl, List.nil_append]

end Forest

-- ---------------------------------------------------------------------------
-- Order
-- ---------------------------------------------------------------------------

namespace Graph

variable {f : Forest String} {root : String} {next : String → List String}
  {pending seen' : List String}

theorem not_acyclic_edges (h : root ∈ f.preorder) : ¬ Acyclic (f.edges root) :=
  fun ha => ha root (Forest.transGen_edges h)

theorem acyclic_edges (hf : f.postorder.Nodup) (hroot : root ∉ f.preorder) :
    Acyclic (f.edges root) := by
  have hnodup : (f.postorder ++ [root]).Nodup := by
    rw [List.nodup_append_comm]
    exact List.nodup_cons.mpr ⟨by simpa using hroot, hf⟩
  exact acyclic_of_ordered fun e he => (Forest.precedes_of_mem_edges he).idxOf_lt hnodup

theorem dependencies_edges (hf : f.preorder.Nodup) (label : String) :
    (ofEdges (f.edges root)).dependencies label = targetsFrom label (f.edges root) := by
  rw [dependencies_eq, edges_ofEdges, distinct_eq_self (Forest.nodup_edges hf root)]

theorem starts_edges (hroot : root ∉ f.preorder) (hne : f.edges root ≠ []) :
    (ofEdges (f.edges root)).starts = [root] := by
  have htarget : ∀ e ∈ f.edges root, e.target ∈ f.preorder := by
    intro e he
    rw [← Forest.map_target_edges f root]
    exact List.mem_map_of_mem he
  have hmem : ∀ label, label ∈ (ofEdges (f.edges root)).starts ↔ label ∈ [root] := by
    intro label
    rw [mem_starts, mem_nodes, List.mem_singleton]
    constructor
    · rintro ⟨⟨e, he, rfl | rfl⟩, ht⟩
      · rcases Forest.source_mem he with hs | hs
        · exact hs
        · rw [← Forest.map_target_edges f root, List.mem_map] at hs
          obtain ⟨e', he', hs⟩ := hs
          exact absurd hs (ht e' he')
      · exact absurd rfl (ht e he)
    · rintro rfl
      refine ⟨?_, fun e he hs => hroot (hs ▸ htarget e he)⟩
      cases f with
      | nil => exact absurd rfl hne
      | node v kids rest => exact ⟨⟨label, v⟩, by simp [Forest.edges], .inl rfl⟩
  have hnodup : (ofEdges (f.edges root)).starts.Nodup := (nodup_nodes _).filter _
  exact List.perm_singleton.mp ((List.perm_ext_iff_of_nodup hnodup (by simp)).mpr hmem)

theorem tour_edges (h : Explores next pending [] f seen') (hroot : root ∉ f.preorder) :
    (ofEdges (f.edges root)).tour [root] = f.postorder ++ [root] := by
  have hdeps : ∀ label, (ofEdges (f.edges root)).dependencies label =
      targetsFrom label (f.edges root) := dependencies_edges h.nodup_preorder
  have hmatches : f.Matches (ofEdges (f.edges root)).dependencies :=
    Forest.matches_of_targetsFrom h.nodup_preorder hroot fun label _ => hdeps label
  have hbelow := h.prune hmatches [root] fun v hv hm => hroot (List.mem_singleton.mp hm ▸ hv)
  rw [← Forest.targetsFrom_parent hroot, ← hdeps root] at hbelow
  have htree : Explores (ofEdges (f.edges root)).dependencies [root] [] (.node root f .nil)
      (seen' ++ [root]) := .visit (by simp) hbelow .done
  exact tour_eq htree

/-- The graph of the edges that a visit records is put in the order in which the
visit finished. -/
theorem order_edges (h : Explores next pending [] f seen') (hroot : root ∉ f.preorder) :
    (ofEdges (f.edges root)).order root = .ok f.postorder := by
  refine order_eq_ok.mpr ⟨acyclic_edges h.nodup_postorder hroot, ?_⟩
  cases f with
  | nil => rfl
  | node v kids rest =>
    rw [emission, starts_edges hroot (by simp [Forest.edges]), tour_edges h hroot,
      List.filter_append]
    have hkeep : ∀ label ∈ (Forest.node v kids rest).postorder, decide (label ≠ root) = true := by
      intro label hl
      rw [decide_eq_true_eq]
      rintro rfl
      exact hroot (Forest.mem_postorder.mp hl)
    rw [List.filter_eq_self.mpr hkeep]
    simp

end Graph

end Amalgam
