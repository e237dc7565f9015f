import Amalgam.Pattern.Engine
import Amalgam.Proofs.Plan.Unit
import Amalgam.Proofs.Walk.Failure
import Amalgam.Proofs.Walk.Run

/-!
# Inlining a unit again

A root that follows nothing is its own unit, and no header is asked for. A unit
is such a root: its text lines are text wherever they come from, and a marker
holds no quote as long as the include directory has none. Only a lifted line can
still lead somewhere, if it was excluded as seen from a header and is not excluded
as seen from the root.
-/

namespace Amalgam

theorem extract_of_no_follow {reader : Reader} {ex : Exclusion} {rootDir : Path} {source : String}
    (h : ∀ target, ¬ Follows ex rootDir source target) :
    ∃ x, extract reader ex rootDir source = .ok x ∧ x.edges = [] := by
  have hreach : ∀ target, ¬ Reach reader ex rootDir source target := by
    intro target ht
    induction ht with
    | root hf => exact h _ hf
    | step _ _ ih => exact ih
  obtain ⟨x, hx⟩ := exists_extract fun target ht => absurd ht (hreach target)
  obtain ⟨f, seen', hf, hedges, -⟩ := extract_forest hx
  refine ⟨x, hx, List.eq_nil_iff_forall_not_mem.mpr fun e he => hreach e.target ?_⟩
  rw [reach_iff, ← hf.mem_iff_reachable, ← Forest.map_target_edges f rootLabel, ← hedges]
  exact List.mem_map_of_mem he

namespace Inliner

variable {inl : Inliner} {source unit : String} {plan : Plan}

def FollowsNothing (inl : Inliner) (source : String) : Prop :=
  ∀ line ∈ Text.split '\n' source, ∀ target, inl.asks line ≠ .follow target

theorem FollowsNothing.extract_eq (h : inl.FollowsNothing source) :
    ∃ x, extract inl.reader inl.exclusion inl.includeDir source = .ok x ∧ x.edges = [] := by
  refine extract_of_no_follow fun target ht => ?_
  obtain ⟨line, hm, hl⟩ := follows_iff.mp ht
  exact h line hm target hl

/-- A root that follows nothing is its own unit, whatever the reader, for the
reader is never asked. -/
theorem inline_of_followsNothing (h : inl.FollowsNothing source) :
    inl.inline source = .ok source ∧ (inl.walk source).reads = [] := by
  obtain ⟨x, hx, hedges⟩ := h.extract_eq
  refine ⟨?_, (Walk.reads_eq_edges hx).trans hedges⟩
  have hresult : (inl.walk source).result = .ok x := hx
  have horder : (Graph.ofEdges []).order rootLabel = .ok [] := rfl
  have hempty : x.isEmpty = true := by rw [Extraction.isEmpty, hedges]; rfl
  rw [inline, plan, hresult]
  simp only [planOf, hedges, horder, hempty, if_true]

-- ---------------------------------------------------------------------------
-- The lines of a unit
-- ---------------------------------------------------------------------------

/-- A marker holds no quote that the header's name lacks, and no include is
followed without one. -/
theorem StandsFor.not_follow_marker {header target : Path} {b : Block} {line : String}
    (h : inl.StandsFor header b) (hq : '"' ∉ header.toList)
    (hl : line = beginMarker b.label ∨ line = endMarker b.label) :
    inl.asks line ≠ .follow target := by
  have hlabel : '"' ∉ b.label.toList :=
    MarkerStyle.not_mem_label (by decide) (by decide) h.label hq
  intro ha
  have hm := quote_mem_of_follow ha
  rcases hl with rfl | rfl
  · simp [beginMarker, hlabel] at hm
  · simp [endMarker, hlabel] at hm

theorem not_follow_text {lines : List String} (hlines : lines.filter isIncludeLine = plan.includes)
    (hlift : ∀ line ∈ plan.includes, inl.asks line = .lift) {line : String} (hl : line ∈ lines)
    (target : Path) : inl.asks line ≠ .follow target := by
  cases hinc : isIncludeLine line with
  | false => simp [asks, directive_eq_text.mpr hinc]
  | true =>
    have hm : line ∈ plan.includes := hlines ▸ List.mem_filter.mpr ⟨hl, hinc⟩
    simp [hlift line hm]

theorem followsNothing_unit (hquote : '"' ∉ inl.includeDir.toList)
    (hfeed : '\n' ∉ inl.includeDir.toList) (h : inl.inline source = .ok unit)
    (hplan : inl.plan source = .ok plan) (hlift : ∀ line ∈ plan.includes, inl.asks line = .lift) :
    inl.FollowsNothing unit := by
  by_cases hfollow : ∃ line ∈ Text.split '\n' source, ∃ target, inl.asks line = .follow target
  · obtain ⟨blocks, hb, hsplit⟩ := split_unit hplan hfeed hfollow h
    have hlines := filter_outside_markers hplan hb
    intro line hl target
    rw [hsplit, List.mem_append, List.mem_append, List.mem_flatMap] at hl
    rcases hl with (hl | ⟨b, hbm, hl⟩) | hl
    · exact not_follow_text hlines hlift (by simp [hl]) target
    · rw [Block.lines, List.mem_append, List.mem_cons, List.mem_singleton, or_right_comm] at hl
      rcases hl with hl | hl
      · obtain ⟨header, hh, hs⟩ := exists_header hb b hbm
        obtain ⟨f, hspans⟩ := Plan.exists_spans hplan
        have hreach := hspans.mem_order.mp hh
        exact hs.not_follow_marker (not_mem_of_reaches (.inl rfl) hquote hreach) hl
      · have hm : line ∈ blocks.flatMap Block.body := List.mem_flatMap.mpr ⟨b, hbm, hl⟩
        exact not_follow_text hlines hlift (by simp [hm]) target
    · exact not_follow_text hlines hlift (by simp [hl]) target
  · have hnone : inl.FollowsNothing source :=
      fun line hm target ha => hfollow ⟨line, hm, target, ha⟩
    rw [(inline_of_followsNothing hnone).1] at h
    cases h
    exact hnone

theorem lift_of_mem_includes (hex : inl.exclusion.isEmpty = true)
    (hplan : inl.plan source = .ok plan) : ∀ line ∈ plan.includes, inl.asks line = .lift := by
  intro line hl
  rcases (Plan.mem_includes hplan).mp hl with ⟨-, ha⟩ | ⟨-, ha⟩ | ⟨-, _, -, -, ha⟩
  · exact ha
  · exact ha
  · exact lift_of_isEmpty hex ha inl.includeDir

/-- Inlining a unit again, with whatever reader and markers, gives the unit and
asks for no header, provided that the lifted lines are to be lifted as seen from
the root too. They are if nothing is excluded. -/
theorem inline_unit_again (inl : Inliner) (source unit : String) (plan : Plan)
    (hquote : '"' ∉ inl.includeDir.toList) (hfeed : '\n' ∉ inl.includeDir.toList)
    (h : inl.inline source = .ok unit) (hplan : inl.plan source = .ok plan) :
    ((∀ line ∈ plan.includes, inl.asks line = .lift) →
      ∀ (style : MarkerStyle) (reader : Reader),
        ({ inl with style, reader } : Inliner).inline unit = .ok unit ∧
        (({ inl with style, reader } : Inliner).walk unit).reads = []) ∧
    (inl.exclusion.isEmpty = true → ∀ line ∈ plan.includes, inl.asks line = .lift) := by
  refine ⟨fun hlift style reader => ?_, fun hex => lift_of_mem_includes hex hplan⟩
  have hnone : inl.FollowsNothing unit := followsNothing_unit hquote hfeed h hplan hlift
  -- what a line asks for depends on neither the markers nor the reader
  have hagain : ({ inl with style, reader } : Inliner).FollowsNothing unit := hnone
  exact inline_of_followsNothing hagain

def excluding : Inliner where
  includeDir := "inc"
  exclusion := ⟨(Pattern.matcher? "debug/.*").toList⟩
  style := .relative
  reader := Store.reader ⟨[("inc/a.h", "#include \"debug/log.h\"\n#include <set>\nint a;\n")]⟩

def excludingRoot : String :=
  "// top\n#include \"debug/log.h\"\n#include \"a.h\"\nint main();"

def excludingUnit : String :=
  "// top\n#include \"debug/log.h\"\n#include <set>\n// BEGIN a.h\nint a;\n// END a.h\nint main();"

def excludingPlan : Plan where
  order := ["inc/a.h"]
  includes := ["#include \"debug/log.h\"", "#include <set>"]
  extraction :=
    { edges := [⟨"<root>", "inc/a.h"⟩]
      lifted := ⟨["#include \"debug/log.h\"", "#include \"debug/log.h\"", "#include <set>"]⟩
      sources := [("inc/a.h", "#include \"debug/log.h\"\n#include <set>\nint a;\n")] }

theorem inline_excluding_again :
    excluding.inline excludingRoot = .ok excludingUnit ∧
    ({ excluding with style := .resolved, reader := Store.reader {} } : Inliner).inline
      excludingUnit = .ok excludingUnit := by
  have hplan : excluding.plan excludingRoot = .ok excludingPlan := by decide +kernel
  have hunit : excluding.inline excludingRoot = .ok excludingUnit := by
    rw [inline, hplan]
    decide +kernel
  have hlift : ∀ line ∈ excludingPlan.includes, excluding.asks line = .lift := by decide +kernel
  have hagain := (inline_unit_again excluding excludingRoot excludingUnit excludingPlan
    (by decide +kernel) (by decide +kernel) hunit hplan).1 hlift .resolved (Store.reader {})
  exact ⟨hunit, hagain.1⟩

end Inliner

end Amalgam
