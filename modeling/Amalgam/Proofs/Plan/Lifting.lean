import Amalgam.Proofs.Plan.Unit
import Mathlib.Data.List.Count

/-!
# No include is lost

An include line leaves the text around it and comes back as a lifted line or as
the block of the header that it leads to. The lifted lines stand in front of the
first block, those of the root first and then those of the headers in the order
of the scan.

Each lifted text stands in the unit once. The same cannot be said of lines as
they are read, without a return at the end: a line that is lifted with the return
and without it stands there twice, and there is no other way to repeat one.
-/

namespace Amalgam

/-- The line, which does not end in a return, is lifted as it is and with one. -/
structure Inliner.LiftedBothWays (inl : Inliner) (source line : String) : Prop where
  bare : Text.dropReturn line = line
  lifted : inl.Lifted source line
  returned : inl.Lifted source (line ++ "\r")

def Inliner.single : Inliner where
  includeDir := "inc"
  reader := Store.reader ⟨[("inc/a.h", "int a;\n")]⟩

def Plan.Serves (plan : Plan) (line : String) : Directive → Prop
  | .follow target => target ∈ plan.order
  | .lift => line ∈ plan.includes
  | .text => True

namespace Plan

variable {inl : Inliner} {source : String} {plan : Plan}

-- ---------------------------------------------------------------------------
-- Lines that end in a return
-- ---------------------------------------------------------------------------

theorem nodup_map_dropReturn (h : inl.plan source = .ok plan) :
    (plan.includes.map Text.dropReturn).Nodup ↔ ∀ line, ¬ inl.LiftedBothWays source line := by
  constructor
  · rintro hnodup line ⟨hbare, hl, hr⟩
    have hsame : line = line ++ "\r" := by
      refine List.inj_on_of_nodup_map hnodup ((mem_includes h).mpr hl) ((mem_includes h).mpr hr) ?_
      rw [hbare, Text.dropReturn_append]
    simpa using congrArg String.length hsame
  · intro hno
    refine List.Nodup.map_on ?_ (nodup_includes h)
    intro a ha b hb hab
    rw [mem_includes h] at ha hb
    rcases Text.dropReturn_cases a with hfa | hra
    · rcases Text.dropReturn_cases b with hfb | hrb
      · exact hfa.symm.trans (hab.trans hfb)
      · rw [← hab, hfa] at hrb
        exact absurd ⟨hfa, ha, hrb ▸ hb⟩ (hno a)
    · rcases Text.dropReturn_cases b with hfb | hrb
      · rw [hab, hfb] at hra
        exact absurd ⟨hfb, hb, hra ▸ ha⟩ (hno b)
      · rw [hra, hab, ← hrb]

theorem liftedBothWays_of_return {line : String} (hbare : Text.dropReturn line = line)
    (ha : inl.asks line = .lift) (hm : line ++ "\r" ∈ (Text.split '\n' source).dropLast) :
    inl.LiftedBothWays source line := by
  have hline : line ∈ Text.lines source := by
    simpa [Text.dropReturn_append] using Text.dropReturn_mem_lines hm
  have hasks : inl.asks (line ++ "\r") = .lift := by
    rw [Inliner.asks, ← directive_dropReturn, Text.dropReturn_append]
    exact ha
  exact ⟨hbare, .root hline ha, .layout ((List.dropLast_sublist _).subset hm) hasks⟩

theorem count_dropReturn (h : inl.plan source = .ok plan)
    (hno : ∀ line, ¬ inl.LiftedBothWays source line) {lines : List String}
    (hlines : lines.filter isIncludeLine = plan.includes) {line : String}
    (hl : inl.Lifted source line) :
    (lines.map Text.dropReturn).count (Text.dropReturn line) = 1 := by
  have hmem : line ∈ plan.includes := (mem_includes h).mpr hl
  have hkind : ∀ other, Text.dropReturn other = Text.dropReturn line → isIncludeLine other = true := by
    intro other ho
    rw [← isIncludeLine_dropReturn, ho, isIncludeLine_dropReturn]
    exact Inliner.isIncludeLine_of_mem_includes h hmem
  calc (lines.map Text.dropReturn).count (Text.dropReturn line)
    _ = lines.countP (fun other => Text.dropReturn other == Text.dropReturn line) := by
      rw [List.count, List.countP_map]
      rfl
    _ = (lines.filter isIncludeLine).countP
          (fun other => Text.dropReturn other == Text.dropReturn line) := by
      rw [List.countP_filter]
      refine List.countP_congr fun other _ => ?_
      simpa using fun ho => hkind other ho
    _ = (plan.includes.map Text.dropReturn).count (Text.dropReturn line) := by
      rw [hlines, List.count, List.countP_map]
      rfl
    _ = 1 :=
      List.count_eq_one_of_mem ((nodup_map_dropReturn h).mpr hno) (List.mem_map_of_mem hmem)

/-- Every lifted text is listed once. Read without a return at the end, every
line is listed once if and only if no line is lifted both with the return and
without, as happens to a line of the root that ends in a return and a line feed.
If none is, every line also stands once in the unit, markers apart. -/
theorem includes_once (inl : Inliner) (source : String) (plan : Plan)
    (h : inl.plan source = .ok plan) :
    plan.includes.Nodup ∧
    ((plan.includes.map Text.dropReturn).Nodup ↔ ∀ line, ¬ inl.LiftedBothWays source line) ∧
    (∀ line, Text.dropReturn line = line → inl.asks line = .lift →
      line ++ "\r" ∈ (Text.split '\n' source).dropLast → inl.LiftedBothWays source line) ∧
    ((∀ line, ¬ inl.LiftedBothWays source line) →
      ∀ unit, inl.inline source = .ok unit →
      (∃ line ∈ Text.split '\n' source, ∃ target, inl.asks line = .follow target) →
      '\n' ∉ inl.includeDir.toList →
      ∃ front blocks back,
        Text.split '\n' unit = front ++ blocks.flatMap Block.lines ++ back ∧
        List.Forall₂ inl.StandsFor plan.order blocks ∧
        ∀ line, inl.Lifted source line →
          ((front ++ blocks.flatMap Block.body ++ back).map Text.dropReturn).count
            (Text.dropReturn line) = 1) := by
  refine ⟨nodup_includes h, nodup_map_dropReturn h, fun _ => liftedBothWays_of_return, ?_⟩
  intro hno unit hunit hfollow hdir
  obtain ⟨blocks, hb, hsplit⟩ := Inliner.split_unit h hdir hfollow hunit
  exact ⟨_, blocks, _, hsplit, hb, fun line hl =>
    count_dropReturn h hno (Inliner.filter_outside_markers h hb) hl⟩

theorem includes_once_nested :
    Inliner.nested.plan Inliner.nestedRoot = .ok Inliner.nestedPlan ∧
    ∀ line, ¬ Inliner.nested.LiftedBothWays Inliner.nestedRoot line :=
  ⟨Inliner.plan_nested,
    (includes_once .nested Inliner.nestedRoot Inliner.nestedPlan Inliner.plan_nested).2.1.mp
      (by decide +kernel)⟩

/-- A root whose lines end in returns repeats what it lifts. -/
theorem includes_repeat_returned :
    ∃ plan, Inliner.single.plan "#include <vector>\r\n#include \"a.h\"\r\n" = .ok plan ∧
      plan.includes = ["#include <vector>\r", "#include <vector>"] ∧
      ¬ (plan.includes.map Text.dropReturn).Nodup := by
  refine ⟨⟨["inc/a.h"], ["#include <vector>\r", "#include <vector>"],
    { edges := [⟨"<root>", "inc/a.h"⟩]
      lifted := ⟨["#include <vector>"]⟩
      sources := [("inc/a.h", "int a;\n")] }⟩, ?_, rfl, ?_⟩
  · decide +kernel
  · decide +kernel

-- ---------------------------------------------------------------------------
-- The order of the lifted lines
-- ---------------------------------------------------------------------------

/-- If the root has no returns, its lines to lift come first and then those of
the headers, each header scanned completely where it is first met. In the unit
the include lines other than markers are these, in front of the first block. -/
theorem includes_in_scan_order (inl : Inliner) (source : String) (plan : Plan)
    (hr : '\r' ∉ source.toList) (h : inl.plan source = .ok plan) :
    (∃ added met,
      Lifts inl.reader inl.exclusion inl.includeDir
        ((Text.lines source).filter (inl.asks · ≠ .lift)) [] added met ∧
      (∀ header, header ∈ met ↔ inl.Reaches source header) ∧
      plan.includes = distinct ((Text.lines source).filter (inl.asks · = .lift) ++ added)) ∧
    ∀ unit, inl.inline source = .ok unit →
      (∃ line ∈ Text.split '\n' source, ∃ target, inl.asks line = .follow target) →
      '\n' ∉ inl.includeDir.toList →
      ∃ front blocks back,
        Text.split '\n' unit = front ++ blocks.flatMap Block.lines ++ back ∧
        List.Forall₂ inl.StandsFor plan.order blocks ∧
        (front ++ blocks.flatMap Block.body ++ back).filter isIncludeLine = plan.includes ∧
        front.filter isIncludeLine = plan.includes := by
  refine ⟨exists_lifts h hr, ?_⟩
  intro unit hunit hfollow hdir
  obtain ⟨blocks, hb, hsplit⟩ := Inliner.split_unit h hdir hfollow hunit
  exact ⟨_, blocks, _, hsplit, hb, Inliner.filter_outside_markers h hb, Inliner.filter_front h⟩

theorem includes_in_scan_order_nested :
    '\r' ∉ Inliner.nestedRoot.toList ∧
    ∃ front blocks back,
      Text.split '\n' Inliner.nestedUnit = front ++ blocks.flatMap Block.lines ++ back ∧
      List.Forall₂ Inliner.nested.StandsFor ["inc/b.h", "inc/a.h"] blocks ∧
      front.filter isIncludeLine = ["#include <map>", "#include <set>"] := by
  have hr : '\r' ∉ Inliner.nestedRoot.toList := by decide +kernel
  obtain ⟨front, blocks, back, hsplit, hb, -, hfront⟩ :=
    (includes_in_scan_order .nested Inliner.nestedRoot Inliner.nestedPlan hr
      Inliner.plan_nested).2 Inliner.nestedUnit Inliner.inline_nested Inliner.follow_nested
      (by decide +kernel)
  exact ⟨hr, front, blocks, back, hsplit, hb, hfront⟩

-- ---------------------------------------------------------------------------
-- Every include is served
-- ---------------------------------------------------------------------------

theorem serves_root (h : inl.plan source = .ok plan) {line : String}
    (hm : line ∈ Text.split '\n' source) : plan.Serves line (inl.asks line) := by
  obtain ⟨f, hspans⟩ := exists_spans h
  cases ha : inl.asks line with
  | follow target => exact hspans.mem_order.mpr (.root (follows_iff.mpr ⟨line, hm, ha⟩))
  | lift => exact (mem_includes h).mpr (.layout hm ha)
  | text => trivial

theorem serves_header (h : inl.plan source = .ok plan) {header : Path} {content line : String}
    (hh : header ∈ plan.order) (hr : inl.reader.read header = .ok content)
    (hm : line ∈ Text.lines content) :
    plan.Serves line (directive inl.exclusion header.dir line) := by
  obtain ⟨f, hspans⟩ := exists_spans h
  have hreach := hspans.mem_order.mp hh
  cases hd : directive inl.exclusion header.dir line with
  | follow target => exact hspans.mem_order.mpr (.step hreach ⟨content, hr, line, hm, hd⟩)
  | lift => exact (mem_includes h).mpr (.header hreach ⟨content, hr, hm, hd⟩)
  | text => trivial

theorem omitted_iff {header : Path} {b : Block} {content line : String}
    (hb : inl.StandsFor header b) (hr : inl.reader.read header = .ok content)
    (hm : line ∈ Text.lines content) :
    line ∉ b.body ↔ directive inl.exclusion header.dir line ≠ .text := by
  obtain ⟨content', hr', hbody⟩ := hb.body
  rw [hr] at hr'
  cases hr'
  rw [hbody, List.mem_filter, directive_ne_text]
  simp [hm]

theorem order_eq_nil (h : inl.plan source = .ok plan) (he : plan.extraction.isEmpty = true) :
    plan.order = [] := by
  obtain ⟨f, hspans⟩ := exists_spans h
  rw [← List.length_eq_zero_iff, hspans.length_order, List.length_eq_zero_iff]
  simpa [Extraction.isEmpty] using he

/-- A line of a header is left out of its block if and only if it is an include,
and then the plan has what it asks for: the very line among the lifted ones, or
the header that it leads to. The same holds of the include lines of the root. -/
theorem no_include_lost (inl : Inliner) (source unit : String) (plan : Plan)
    (h : inl.inline source = .ok unit) (hplan : inl.plan source = .ok plan) :
    (∃ front blocks rest,
      unit = Text.unlines (front ++ blocks.flatMap Block.lines) ++ rest ∧
      List.Forall₂
        (fun header b => inl.StandsFor header b ∧
          ∀ content, inl.reader.read header = .ok content → ∀ line ∈ Text.lines content,
            (line ∉ b.body ↔ directive inl.exclusion header.dir line ≠ .text) ∧
            plan.Serves line (directive inl.exclusion header.dir line))
        plan.order blocks) ∧
    ∀ line ∈ Text.split '\n' source, plan.Serves line (inl.asks line) := by
  refine ⟨?_, fun line hm => serves_root hplan hm⟩
  obtain ⟨plan', hplan', hcases⟩ := Inliner.inline_cases h
  obtain rfl : plan = plan' := Except.ok.inj (hplan.symm.trans hplan')
  rcases hcases with ⟨he, rfl⟩ | ⟨-, blocks, hb, hunit⟩
  · refine ⟨[], [], unit, by simp [Text.unlines], ?_⟩
    rw [order_eq_nil hplan he]
    exact .nil
  · refine ⟨inl.front source plan, blocks, _, hunit, ?_⟩
    have hmem : List.Forall₂ (fun header b => header ∈ plan.order ∧ inl.StandsFor header b)
        plan.order blocks := (List.forall₂_and_left _ _).mpr ⟨fun _ hh => hh, hb⟩
    refine hmem.imp ?_
    rintro header b ⟨hh, hs⟩
    exact ⟨hs, fun content hr line hm => ⟨omitted_iff hs hr hm, serves_header hplan hh hr hm⟩⟩

theorem no_include_lost_nested :
    Inliner.nested.inline Inliner.nestedRoot = .ok Inliner.nestedUnit ∧
    ∀ line ∈ Text.split '\n' Inliner.nestedRoot,
      Inliner.nestedPlan.Serves line (Inliner.nested.asks line) :=
  ⟨Inliner.inline_nested,
    (no_include_lost .nested Inliner.nestedRoot Inliner.nestedUnit Inliner.nestedPlan
      Inliner.inline_nested Inliner.plan_nested).2⟩

end Plan

end Amalgam
