import Amalgam.Graph.Tour
import Amalgam.Proofs.Forest
import Amalgam.Proofs.Graph.Edges

/-!
# Tours leave forests

A tour keeps its own stack. Whatever lies below on the stack, it visits the
pending dependencies of the innermost label as `Explores` says, emits the
forest that this leaves in postorder, and then the label. A tour from a list of
labels so emits the postorder of one forest.
-/

namespace Amalgam

namespace Tour

variable {g : Graph} {pending seen seen' : List String} {f : Forest String}

theorem run_nil (g : Graph) (seen emitted : List String) :
    run g ⟨[], seen, emitted⟩ = ⟨[], seen, emitted⟩ := by
  rw [run]
  rfl

theorem run_cons (g : Graph) (v : Visit) (outer : List Visit) (seen emitted : List String) :
    run g ⟨v :: outer, seen, emitted⟩ = run g (step g ⟨v :: outer, seen, emitted⟩) := by
  rw [run]
  rfl

/-- The innermost label is emitted after the forest that its pending
dependencies leave; the labels around it wait. -/
theorem run_visits (h : Explores g.dependencies pending seen f seen') (label : String)
    (outer : List Visit) (emitted : List String) :
    run g ⟨⟨label, pending⟩ :: outer, seen, emitted⟩ =
      run g ⟨outer, seen', emitted ++ f.postorder ++ [label]⟩ := by
  induction h generalizing label outer emitted with
  | done =>
    rw [run_cons]
    simp [step, Forest.postorder]
  | skip hv _ ih =>
    rw [run_cons, ← ih label outer emitted]
    simp [step, hv]
  | @visit v pending _ _ _ kids rest hv _ _ ihk ihr =>
    rw [run_cons]
    simp only [step, hv, if_false]
    rw [ihk v (⟨label, pending⟩ :: outer) emitted, ihr label outer]
    simp [Forest.postorder]

theorem foldl_visit (h : Explores g.dependencies pending seen f seen') (emitted : List String) :
    pending.foldl (visit g) ⟨[], seen, emitted⟩ = ⟨[], seen', emitted ++ f.postorder⟩ := by
  induction h generalizing emitted with
  | done => simp [Forest.postorder]
  | skip hv _ ih => simp only [List.foldl_cons, visit, hv, if_true, ih]
  | visit hv hk _ _ ihr =>
    simp only [List.foldl_cons, visit, hv, if_false]
    rw [run_visits hk, run_nil, ihr]
    simp [Forest.postorder]

end Tour

namespace Graph

variable {g : Graph} {starts seen' : List String} {f : Forest String}

theorem tour_eq (h : Explores g.dependencies starts [] f seen') : g.tour starts = f.postorder := by
  rw [tour, show ({} : Tour) = ⟨[], [], []⟩ from rfl, Tour.foldl_visit h]
  rfl

theorem exists_forest (g : Graph) (starts : List String) :
    ∃ f seen', Explores g.dependencies starts [] f seen' ∧ g.tour starts = f.postorder := by
  obtain ⟨f, seen', h⟩ := exists_explores (fun _ hl => dependencies_eq_nil (g := g) hl) starts []
  exact ⟨f, seen', h, tour_eq h⟩

theorem nodup_tour (g : Graph) (starts : List String) : (g.tour starts).Nodup := by
  obtain ⟨f, seen', h, htour⟩ := g.exists_forest starts
  rw [htour]
  exact h.nodup_postorder

theorem mem_tour {label : String} :
    label ∈ g.tour starts ↔
      ∃ start ∈ starts, Relation.ReflTransGen (LeadsTo g.dependencies) start label := by
  obtain ⟨f, seen', h, htour⟩ := g.exists_forest starts
  rw [htour, Forest.mem_postorder, h.mem_iff_reachable]

theorem precedes_tour {v w : String} (hv : v ∈ g.tour starts) (hw : w ∈ g.dependencies v) :
    Precedes (g.tour starts) w v ∨ Relation.ReflTransGen (LeadsTo g.dependencies) w v := by
  obtain ⟨f, seen', h, htour⟩ := g.exists_forest starts
  rw [htour, Forest.mem_postorder] at hv
  rw [htour]
  exact h.precedes_or_back hv hw

end Graph

end Amalgam
