import Amalgam.Graph.Basic
import Amalgam.Total

/-!
# Tours of a graph

A tour visits a graph depth first and emits a label once everything it includes
has been looked at. It keeps a stack of labels that are being visited, each with
the dependencies still to be looked at. Every step lowers `work`, so every tour
ends.
-/

namespace Amalgam

structure Visit where
  label : String
  pending : List String

structure Tour where
  /-- The labels being visited, the innermost first. -/
  visits : List Visit := []
  seen : List String := []
  emitted : List String := []

namespace Tour

def step (g : Graph) (t : Tour) : Tour :=
  match t.visits with
  | [] => t
  | ⟨label, []⟩ :: outer => { t with visits := outer, emitted := t.emitted ++ [label] }
  | ⟨label, dep :: pending⟩ :: outer =>
    let rest := ⟨label, pending⟩ :: outer
    if dep ∈ t.seen then { t with visits := rest }
    else { t with visits := ⟨dep, g.dependencies dep⟩ :: rest, seen := dep :: t.seen }

def visitWork (v : Visit) : Nat :=
  2 * v.pending.length + 1

def work (g : Graph) (t : Tour) : Nat :=
  total visitWork t.visits + 2 * (g.edgesOutside t.seen).length

theorem work_step_lt (g : Graph) (t : Tour) (h : t.visits.isEmpty = false) :
    (t.step g).work g < t.work g := by
  rw [step]
  split
  next hv => simp [hv] at h
  next hv => simp [work, hv, visitWork]
  next label dep pending outer hv =>
    simp only
    split
    next => simp [work, hv, visitWork]
    next hd =>
      have := g.length_edgesOutside_cons hd
      simp [work, hv, visitWork]
      omega

def run (g : Graph) (t : Tour) : Tour :=
  if t.visits.isEmpty then t else (t.step g).run g
termination_by t.work g
decreasing_by exact work_step_lt g t (by simp_all)

/-- Visits a label and all it leads to, unless it was seen before. -/
def visit (g : Graph) (t : Tour) (label : String) : Tour :=
  if label ∈ t.seen then t
  else
    { t with visits := [⟨label, g.dependencies label⟩], seen := label :: t.seen }.run g

end Tour

def Graph.tour (g : Graph) (starts : List String) : List String :=
  (starts.foldl (Tour.visit g) {}).emitted

end Amalgam
