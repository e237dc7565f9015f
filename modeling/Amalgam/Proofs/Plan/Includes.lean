import Amalgam.Proofs.Layout
import Amalgam.Proofs.Plan.Headers
import Amalgam.Proofs.Walk.Lifted
import Amalgam.Proofs.Walk.Root

/-!
# The lifted lines of a plan

A plan lifts the lines that the root or a header it reaches has to lift, each
text once. The root counts in both readings: its layout lifts lines as they
stand between line feeds, the walk lifts them as it reads lines. So a line of
the root that ends in a return can be lifted twice, with the return and without.
-/

namespace Amalgam

abbrev Inliner.asks (inl : Inliner) (line : String) : Directive :=
  directive inl.exclusion inl.includeDir line

inductive Inliner.Lifted (inl : Inliner) (source line : String) : Prop where
  | layout : line ∈ Text.split '\n' source → inl.asks line = .lift → Lifted inl source line
  | root : line ∈ Text.lines source → inl.asks line = .lift → Lifted inl source line
  | header {header : Path} :
      inl.Reaches source header → HasLifted inl.reader inl.exclusion header line →
      Lifted inl source line

namespace Plan

variable {inl : Inliner} {source line : String} {plan : Plan}

theorem includes_eq (h : inl.plan source = .ok plan) :
    plan.includes = distinct
      ((Text.split '\n' source).filter (inl.asks · = .lift) ++ plan.extraction.lifted.lines) := by
  rw [(Inliner.plan_eq_ok h).2.2, LiftedLines.uniqueAfter, Inliner.layout, Layout.lifted_scan]

theorem nodup_includes (h : inl.plan source = .ok plan) : plan.includes.Nodup := by
  rw [includes_eq h]
  exact nodup_distinct _

theorem mem_includes (h : inl.plan source = .ok plan) :
    line ∈ plan.includes ↔ inl.Lifted source line := by
  obtain ⟨met, hl, hmet⟩ := extract_lifts (Inliner.plan_eq_ok h).1
  rw [includes_eq h, mem_distinct, List.mem_append, List.mem_filter, hl.mem_iff]
  constructor
  · rintro (⟨hm, ha⟩ | ⟨hm, ha⟩ | ⟨header, hm, -, hh⟩)
    · exact .layout hm (by simpa using ha)
    · exact .root hm ha
    · exact .header ((hmet header).mp hm) hh
  · rintro (⟨hm, ha⟩ | ⟨hm, ha⟩ | ⟨hr, hh⟩)
    · exact .inl ⟨hm, by simpa using ha⟩
    · exact .inr (.inl ⟨hm, ha⟩)
    · exact .inr (.inr ⟨_, (hmet _).mpr hr, by simp, hh⟩)

theorem exists_lifts (h : inl.plan source = .ok plan) (hr : '\r' ∉ source.toList) :
    ∃ added met,
      Lifts inl.reader inl.exclusion inl.includeDir
        ((Text.lines source).filter (inl.asks · ≠ .lift)) [] added met ∧
      (∀ header, header ∈ met ↔ inl.Reaches source header) ∧
      plan.includes = distinct ((Text.lines source).filter (inl.asks · = .lift) ++ added) := by
  obtain ⟨met, hl, hmet⟩ := extract_lifts (Inliner.plan_eq_ok h).1
  obtain ⟨added, ha, hsame⟩ := hl.without_own
  refine ⟨added, met, ha, hmet, ?_⟩
  have hroot : (Text.lines source).filter (inl.asks · = .lift) =
      (Text.split '\n' source).filter (inl.asks · = .lift) :=
    filter_lines hr (by simp [Inliner.asks, directive_empty])
  rw [includes_eq h, ← hroot, distinct_append, distinct_append, hsame]
  intro line hm hlift
  exact List.mem_filter.mpr ⟨hm, by simpa using hlift⟩

end Plan

end Amalgam
