import Amalgam.Proofs.Graph.Order

/-!
# The order by recursion

`visitEach` visits labels in turn, read off the edge list itself. It marks a label,
visits what the label's edges lead to in the order in which they first come, and
then appends the label. It keeps no stack: each label being visited is a call.

The order of a graph is what these visits append when they start at the labels that
nothing includes, in the order in which the edges first name them
(`order_eq_orderByRecursion`). Both orders settle every tie.
-/

namespace Amalgam

structure Progress where
  seen : List String := []
  appended : List String := []

namespace Progress

def mark (p : Progress) (label : String) : Progress :=
  { p with seen := label :: p.seen }

def append (p : Progress) (label : String) : Progress :=
  { p with appended := p.appended ++ [label] }

@[simp] theorem seen_mark (p : Progress) (label : String) :
    (p.mark label).seen = label :: p.seen := rfl

@[simp] theorem appended_mark (p : Progress) (label : String) :
    (p.mark label).appended = p.appended := rfl

@[simp] theorem seen_append (p : Progress) (label : String) :
    (p.append label).seen = p.seen := rfl

@[simp] theorem appended_append (p : Progress) (label : String) :
    (p.append label).appended = p.appended ++ [label] := rfl

/-- Progress in which everything that `p` has marked is marked. -/
abbrev Beyond (p : Progress) : Type :=
  { q : Progress // p.seen ⊆ q.seen }

def Beyond.widen {p mid : Progress} (h : p.seen ⊆ mid.seen) (q : mid.Beyond) : p.Beyond :=
  ⟨q.val, List.Subset.trans h q.property⟩

end Progress

-- ---------------------------------------------------------------------------
-- What the edge list says
-- ---------------------------------------------------------------------------

/-- The labels in the order in which edges first name them, a source before its
target. -/
def discovered (edges : List Edge) : List String :=
  distinct (edges.flatMap Edge.ends)

def unincluded (edges : List Edge) : List String :=
  (discovered edges).filter fun label => ∀ e ∈ edges, e.target ≠ label

def included (edges : List Edge) (label : String) : List String :=
  distinct (targetsFrom label edges)

def edgesLeft (edges : List Edge) (seen : List String) : Nat :=
  (edges.filter (·.source ∉ seen)).length

theorem edgesLeft_mono (edges : List Edge) {seen seen' : List String} (h : seen ⊆ seen') :
    edgesLeft edges seen' ≤ edgesLeft edges seen := by
  refine (List.monotone_filter_right edges ?_).length_le
  intro e he
  simp only [decide_eq_true_eq] at he ⊢
  exact fun hm => he (h hm)

theorem edgesLeft_cons_le (edges : List Edge) {label : String} {seen : List String}
    (h : label ∉ seen) :
    edgesLeft edges (label :: seen) + (included edges label).length ≤ edgesLeft edges seen := by
  have hsplit := Graph.length_edgesOutside_cons { edges } h
  have hlen := (distinct_sublist (targetsFrom label edges)).length_le
  rw [Graph.dependencies_eq] at hsplit
  simp only [Graph.edgesOutside] at hsplit
  simp only [edgesLeft, included]
  omega

-- ---------------------------------------------------------------------------
-- The recursive visit
-- ---------------------------------------------------------------------------

/-- Visits the labels that have not been marked, each completely before the next. -/
def visitEach (edges : List Edge) (labels : List String) (p : Progress) : p.Beyond :=
  match labels with
  | [] => ⟨p, fun _ h => h⟩
  | label :: labels =>
    if h : label ∈ p.seen then visitEach edges labels p
    else
      have := edgesLeft_cons_le edges h
      match visitEach edges (included edges label) (p.mark label) with
      | ⟨mid, hmid⟩ =>
        have hseen : p.seen ⊆ mid.seen := List.Subset.trans (List.subset_cons_self label p.seen) hmid
        (visitEach edges labels (mid.append label)).widen hseen
termination_by edgesLeft edges p.seen + labels.length
decreasing_by
  · simp
  · simp only [Progress.seen_mark, List.length_cons]
    omega
  · have hle : edgesLeft edges mid.seen ≤ edgesLeft edges (label :: p.seen) :=
      edgesLeft_mono edges hmid
    simp only [Progress.seen_append, List.length_cons]
    omega

def orderByRecursion (edges : List Edge) (root : String) : List String :=
  (visitEach edges (unincluded edges) {}).val.appended.filter (· ≠ root)

theorem visitEach_explores (edges : List Edge) (labels : List String) (p : Progress) :
    ∃ f, Explores (included edges) labels p.seen f (visitEach edges labels p).val.seen ∧
      (visitEach edges labels p).val.appended = p.appended ++ f.postorder := by
  fun_induction visitEach edges labels p with
  | case1 p => exact ⟨.nil, .done, by simp [Forest.postorder]⟩
  | case2 p label labels h ih =>
    obtain ⟨f, hf, happ⟩ := ih
    exact ⟨f, .skip h hf, happ⟩
  | case3 p label labels h _ mid _ hvisit _ ihk ihr =>
    obtain ⟨kids, hk, hkids⟩ := ihk
    obtain ⟨rest, hr, hrest⟩ := ihr
    rw [hvisit] at hk hkids
    have hmid : mid.appended = p.appended ++ kids.postorder := hkids
    refine ⟨.node label kids rest, .visit h hk hr, hrest.trans ?_⟩
    simp [hmid, Forest.postorder]

-- ---------------------------------------------------------------------------
-- Both orders are one
-- ---------------------------------------------------------------------------

namespace Graph

theorem dependencies_eq_included (edges : List Edge) :
    (ofEdges edges).dependencies = included edges :=
  funext (dependencies_ofEdges edges)

theorem starts_eq_unincluded (edges : List Edge) : (ofEdges edges).starts = unincluded edges := by
  rw [starts, unincluded, discovered, nodes_ofEdges]
  refine List.filter_congr fun label _ => ?_
  simp [indegree_eq_zero]

theorem emission_eq (edges : List Edge) :
    (ofEdges edges).emission = (visitEach edges (unincluded edges) {}).val.appended := by
  obtain ⟨f, hf, happ⟩ := visitEach_explores edges (unincluded edges) {}
  rw [← dependencies_eq_included] at hf
  rw [emission, starts_eq_unincluded, tour_eq hf, happ]
  rfl

/-- The labels of an edge list without cycles, and of no other, are put in the order
that the recursive visits from the labels that nothing includes give. -/
theorem order_eq_orderByRecursion (edges : List Edge) (root : String) :
    (ofEdges edges).order root = .ok (orderByRecursion edges root) ↔ Acyclic edges := by
  rw [order_eq_ok, emission_eq, orderByRecursion]
  exact and_iff_left rfl

end Graph

end Amalgam
