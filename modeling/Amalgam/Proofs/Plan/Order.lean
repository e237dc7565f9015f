import Amalgam.Proofs.Plan.Failure
import Amalgam.Proofs.Plan.Headers
import Amalgam.Proofs.Walk.Failure
import Amalgam.Proofs.Walk.Run
import Amalgam.Proofs.Walk.Vertices

/-!
# The order of a plan

The headers of a plan are put in order by a tour of the graph of the edges. The
tour only finds again the order in which the walk left the headers.

Include loops never keep a plan from being made, since a header that was met
before gets no second edge. What does is a header that the root reaches and that
bears the name of the root: its edge leads back to where the edges start. No
header bears that name if the include directory is rooted.
-/

namespace Amalgam

-- ---------------------------------------------------------------------------
-- The order in which a walk leaves
-- ---------------------------------------------------------------------------

/-- A plan lists the headers in the order in which the walk uses up their lines and
leaves them. The root is left last. -/
theorem Plan.walk_leaves_in_order (inl : Inliner) (source : String) (plan : Plan)
    (h : inl.plan source = .ok plan) :
    (Walk.start inl.includeDir source).leavingOrder inl.reader inl.exclusion =
      plan.order ++ [rootLabel] ∧
    rootLabel ∉ plan.order := by
  obtain ⟨hx, horder, -⟩ := Inliner.plan_eq_ok h
  obtain ⟨f, hspans⟩ := exists_spans h
  obtain ⟨_, hf⟩ := hspans.explores
  refine ⟨?_, ?_⟩
  · rw [Walk.leavingOrder_start hx hf, hspans.order]
  · rw [(Graph.order_eq_ok.mp horder).2]
    simp

theorem Plan.walk_leaves_diamond :
    (Walk.start "inc" "#include \"a.h\"").leavingOrder Inliner.diamond.reader .none =
      ["inc/c.h", "inc/sub/b.h", "inc/a.h", "<root>"] :=
  (walk_leaves_in_order .diamond _ _ plan_diamond).1

-- ---------------------------------------------------------------------------
-- Cycles
-- ---------------------------------------------------------------------------

section Reach

variable {reader : Reader} {ex : Exclusion} {rootDir : Path} {source : String}

theorem not_reach_rootLabel (hd : rootDir.isRooted = true) :
    ¬ Reach reader ex rootDir source rootLabel := by
  intro h
  have hne : rootDir ≠ "" := by
    rintro rfl
    cases hd
  have hroot : Path.isRooted rootLabel = true := (h.isRooted hne).trans hd
  exact absurd hroot (by decide)

theorem acyclic_of_extract {x : Extraction} (h : extract reader ex rootDir source = .ok x) :
    Acyclic x.edges ↔ ¬ Reach reader ex rootDir source rootLabel := by
  obtain ⟨f, seen', hf, hedges, -⟩ := extract_forest h
  rw [reach_iff, ← hf.mem_iff_reachable, hedges]
  exact ⟨fun ha hm => Graph.not_acyclic_edges hm ha, Graph.acyclic_edges hf.nodup_postorder⟩

end Reach

namespace Inliner

variable {inl : Inliner} {source : String}

abbrev AllReadable (inl : Inliner) (source : String) : Prop :=
  Amalgam.AllReadable inl.reader inl.exclusion inl.includeDir source

theorem plan_eq_cyclic {e : CycleError} :
    inl.plan source = .error (.cyclic e) ↔
      ∃ x, extract inl.reader inl.exclusion inl.includeDir source = .ok x ∧
        (Graph.ofEdges x.edges).order rootLabel = .error e := by
  rw [plan_eq_error]
  simp

theorem exists_plan :
    (∃ plan, inl.plan source = .ok plan) ↔
      inl.AllReadable source ∧ ¬ inl.Reaches source rootLabel := by
  constructor
  · rintro ⟨plan, hplan⟩
    obtain ⟨hx, horder, -⟩ := plan_eq_ok hplan
    exact ⟨allReadable_of_extract hx, (acyclic_of_extract hx).mp (Graph.order_eq_ok.mp horder).1⟩
  · rintro ⟨hread, hroot⟩
    cases hplan : inl.plan source with
    | ok plan => exact ⟨plan, rfl⟩
    | error err =>
      rcases plan_eq_error.mp hplan with ⟨e, hx, -⟩ | ⟨x, e, hx, horder, -⟩
      · obtain ⟨x, hx'⟩ := exists_extract hread
        rw [hx] at hx'
        cases hx'
      · exact absurd ((acyclic_of_extract hx).mpr hroot) (Graph.order_eq_error.mp ⟨e, horder⟩)

theorem exists_plan_eq_cyclic :
    (∃ e, inl.plan source = .error (.cyclic e)) ↔
      inl.Reaches source rootLabel ∧ inl.AllReadable source := by
  simp only [plan_eq_cyclic]
  constructor
  · rintro ⟨e, x, hx, he⟩
    have hcyclic := Graph.order_eq_error.mp ⟨e, he⟩
    rw [acyclic_of_extract hx, not_not] at hcyclic
    exact ⟨hcyclic, allReadable_of_extract hx⟩
  · rintro ⟨hroot, hread⟩
    obtain ⟨x, hx⟩ := exists_extract hread
    have hcyclic : ¬ Acyclic x.edges := fun ha => (acyclic_of_extract hx).mp ha hroot
    obtain ⟨e, he⟩ := Graph.order_eq_error.mpr hcyclic
    exact ⟨e, x, hx, he⟩

theorem inline_eq_cyclic {e : CycleError} :
    inl.inline source = .error (.cyclic e) ↔ inl.plan source = .error (.cyclic e) :=
  inline_eq_error

/-- A plan or a unit fails with a cycle if and only if everything that the root
reaches can be read and one of these headers bears the name of the root. So the
edges of a walk are acyclic as long as no header does, which none can if the
include directory is rooted. -/
theorem cycle_iff_reaches_root (inl : Inliner) (source : String) :
    ((∃ e, inl.plan source = .error (.cyclic e)) ↔
      inl.Reaches source rootLabel ∧ inl.AllReadable source) ∧
    ((∃ e, inl.inline source = .error (.cyclic e)) ↔
      inl.Reaches source rootLabel ∧ inl.AllReadable source) ∧
    (∀ x, extract inl.reader inl.exclusion inl.includeDir source = .ok x →
      (Acyclic x.edges ↔ ¬ inl.Reaches source rootLabel)) ∧
    (inl.includeDir.isRooted = true → ¬ inl.Reaches source rootLabel) := by
  refine ⟨exists_plan_eq_cyclic, ?_, fun _ => acyclic_of_extract, not_reach_rootLabel⟩
  simp only [inline_eq_cyclic]
  exact exists_plan_eq_cyclic

def loop : Inliner where
  includeDir := "/inc"
  reader := Store.reader ⟨[("/inc/a.h", "#include \"b.h\""), ("/inc/b.h", "#include \"a.h\"")]⟩

def loopEdges : List Edge :=
  [⟨"<root>", "/inc/a.h"⟩, ⟨"/inc/a.h", "/inc/b.h"⟩]

theorem no_cycle_loop :
    Acyclic loopEdges ∧ ¬ ∃ e, loop.inline "#include \"a.h\"" = .error (.cyclic e) := by
  obtain ⟨-, hinline, hedges, hrooted⟩ := cycle_iff_reaches_root loop "#include \"a.h\""
  have hroot : ¬ loop.Reaches "#include \"a.h\"" rootLabel := hrooted (by decide +kernel)
  have hx : extract loop.reader .none "/inc" "#include \"a.h\"" = .ok
      { edges := loopEdges
        sources := [("/inc/a.h", "#include \"b.h\""), ("/inc/b.h", "#include \"a.h\"")] } := by
    decide +kernel
  exact ⟨(hedges _ hx).mpr hroot, fun he => hroot (hinline.mp he).1⟩

def rootNamed : Inliner where
  includeDir := "."
  reader := Store.reader ⟨[("<root>", "int r;\n")]⟩

theorem cycle_rootNamed :
    rootNamed.plan "#include \"<root>\"\nint main();\n" = .error (.cyclic ⟨[["<root>"]]⟩) ∧
    rootNamed.inline "#include \"<root>\"\nint main();\n" = .error (.cyclic ⟨[["<root>"]]⟩) := by
  decide +kernel

end Inliner

end Amalgam
