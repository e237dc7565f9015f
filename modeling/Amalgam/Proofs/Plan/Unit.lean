import Amalgam.Proofs.Path.Chars
import Amalgam.Proofs.Plan.Includes
import Mathlib.Data.List.Forall2

/-!
# The lines of a unit

A unit is made of lines: the head of the root, the lifted lines, the text between
its include lines, one block for each header of the plan, and the tail of the
root. So each text line of the root stands in the unit once and where it stood
among the others.

Cutting the unit at line feeds gives these lines back, provided that no marker
holds a line feed. Header names hold one only if the include directory does.
-/

namespace Amalgam

structure Block where
  label : String
  body : List String

def Block.lines (b : Block) : List String :=
  beginMarker b.label :: b.body ++ [endMarker b.label]

namespace Inliner

/-- The block bears the header's label and holds what the reader gives for the
header, less the include lines. -/
structure StandsFor (inl : Inliner) (header : Path) (b : Block) : Prop where
  label : inl.style.label inl.includeDir header = .ok b.label
  body : ∃ content, inl.reader.read header = .ok content ∧
    b.body = (Text.lines content).filter fun line => !isIncludeLine line

variable {inl : Inliner} {source unit : String} {plan : Plan} {blocks : List Block}

theorem blocks_eq_ok {x : Extraction} {headers : List Path} {lines : List String}
    (h : inl.blocks x headers = .ok lines)
    (hx : ∀ header ∈ headers, ∃ content, inl.reader.read header = .ok content ∧
      x.source? header = some content) :
    ∃ blocks, List.Forall₂ inl.StandsFor headers blocks ∧ lines = blocks.flatMap Block.lines := by
  induction headers generalizing lines with
  | nil =>
    cases h
    exact ⟨[], .nil, rfl⟩
  | cons header headers ih =>
    rw [blocks, block] at h
    cases hlabel : inl.style.label inl.includeDir header with
    | error e => simp [hlabel] at h
    | ok label =>
      cases hmore : inl.blocks x headers with
      | error e => simp [hlabel, hmore] at h
      | ok more =>
        simp only [hlabel, hmore] at h
        cases h
        obtain ⟨rest, hrest, rfl⟩ := ih hmore fun other ho => hx other (List.mem_cons_of_mem _ ho)
        obtain ⟨content, hread, hsource⟩ := hx header List.mem_cons_self
        refine ⟨⟨label, body x header⟩ :: rest, .cons ⟨hlabel, content, hread, ?_⟩ hrest, rfl⟩
        simp [body, hsource]

theorem inline_cases (h : inl.inline source = .ok unit) :
    ∃ plan, inl.plan source = .ok plan ∧
      (plan.extraction.isEmpty = true ∧ unit = source ∨
        plan.extraction.isEmpty = false ∧ ∃ blocks, List.Forall₂ inl.StandsFor plan.order blocks ∧
          unit = inl.assemble (inl.layout source) plan.includes (blocks.flatMap Block.lines)) := by
  rw [inline] at h
  split at h
  next => cases h
  next plan hplan =>
    refine ⟨plan, hplan, ?_⟩
    split at h
    next hempty =>
      cases h
      exact .inl ⟨hempty, rfl⟩
    next hempty =>
      rw [render] at h
      split at h
      next => cases h
      next lines hlines =>
        obtain ⟨f, hspans⟩ := Plan.exists_spans hplan
        obtain ⟨blocks, hb, rfl⟩ := blocks_eq_ok hlines fun header hm =>
          hspans.source?_of_reach (hspans.mem_order.mp hm)
        exact .inr ⟨by simpa using hempty, blocks, hb, (Except.ok.inj h).symm⟩

theorem isEmpty_of_follow (hplan : inl.plan source = .ok plan) {line : String} {target : Path}
    (hm : line ∈ Text.split '\n' source) (ha : inl.asks line = .follow target) :
    plan.extraction.isEmpty = false := by
  obtain ⟨f, hspans⟩ := Plan.exists_spans hplan
  have ht := hspans.mem_targets.mpr (.root (follows_iff.mpr ⟨line, hm, ha⟩))
  rw [Extraction.isEmpty, List.isEmpty_eq_false_iff]
  intro he
  simp [he] at ht

theorem inline_of_follow (h : inl.inline source = .ok unit) {line : String} {target : Path}
    (hm : line ∈ Text.split '\n' source) (ha : inl.asks line = .follow target) :
    ∃ plan blocks, inl.plan source = .ok plan ∧ List.Forall₂ inl.StandsFor plan.order blocks ∧
      unit = inl.assemble (inl.layout source) plan.includes (blocks.flatMap Block.lines) := by
  obtain ⟨plan, hplan, ⟨he, -⟩ | ⟨-, blocks, hb, hunit⟩⟩ := inline_cases h
  · rw [isEmpty_of_follow hplan hm ha] at he
    cases he
  · exact ⟨plan, blocks, hplan, hb, hunit⟩

/-- Every text line of a root that follows an include stands in the unit once,
and in order: those before the first include line in front of the lifted lines,
those after the last include line at the end, and the others in between. -/
theorem inline_keeps_text (inl : Inliner) (source unit : String)
    (hfollow : ∃ line ∈ Text.split '\n' source, ∃ target, inl.asks line = .follow target)
    (h : inl.inline source = .ok unit) :
    ∃ plan head interlude tail blocks,
      inl.plan source = .ok plan ∧
      head ++ interlude ++ tail = (Text.split '\n' source).filter (inl.asks · = .text) ∧
      (∃ first rest, Text.split '\n' source = head ++ first :: rest ∧
        inl.asks first ≠ .text ∧ ∀ line ∈ head, inl.asks line = .text) ∧
      (∃ rest last, Text.split '\n' source = rest ++ last :: tail ∧
        inl.asks last ≠ .text ∧ ∀ line ∈ tail, inl.asks line = .text) ∧
      List.Forall₂ inl.StandsFor plan.order blocks ∧
      unit = Text.unlines (head ++ plan.includes ++ interlude ++ blocks.flatMap Block.lines) ++
        Text.join '\n' tail := by
  obtain ⟨line, hm, target, ha⟩ := hfollow
  obtain ⟨plan, blocks, hplan, hb, hunit⟩ := inline_of_follow h hm ha
  have hdiv := Layout.divides_scan inl.exclusion inl.includeDir source
  have hblock := hdiv.block_ne_nil hm (by simp [ha])
  obtain ⟨first, after, hfirst, hnf⟩ := hdiv.exists_first hblock
  obtain ⟨before, last, hlast, hnl⟩ := hdiv.exists_last hblock
  refine ⟨plan, _, _, _, blocks, hplan, hdiv.filter_text.symm, ⟨first, after, hfirst, ?_, ?_⟩,
    ⟨before, last, hlast, ?_, ?_⟩, hb, hunit⟩
  · simpa using hnf
  · simpa using hdiv.head
  · simpa using hnl
  · simpa using hdiv.tail

def nested : Inliner where
  includeDir := "inc"
  reader := Store.reader ⟨[
    ("inc/a.h", "#include <set>\n#include \"b.h\"\nint a;"),
    ("inc/b.h", "#include <map>\r\nint b;\r\n")]⟩

def nestedRoot : String :=
  "// top\n#include <map>\nusing std::map;\n#include \"a.h\"\nint main();\n"

def nestedUnit : String :=
  "// top\n#include <map>\n#include <set>\nusing std::map;\n" ++
    "// BEGIN inc/b.h\nint b;\n// END inc/b.h\n// BEGIN inc/a.h\nint a;\n// END inc/a.h\n" ++
    "int main();\n"

def nestedPlan : Plan where
  order := ["inc/b.h", "inc/a.h"]
  includes := ["#include <map>", "#include <set>"]
  extraction :=
    { edges := [⟨"<root>", "inc/a.h"⟩, ⟨"inc/a.h", "inc/b.h"⟩]
      lifted := ⟨["#include <map>", "#include <set>", "#include <map>"]⟩
      sources := [
        ("inc/a.h", "#include <set>\n#include \"b.h\"\nint a;"),
        ("inc/b.h", "#include <map>\r\nint b;\r\n")] }

theorem plan_nested : nested.plan nestedRoot = .ok nestedPlan := by decide +kernel

theorem inline_nested : nested.inline nestedRoot = .ok nestedUnit := by
  rw [inline, plan_nested]
  decide +kernel

theorem follow_nested :
    ∃ line ∈ Text.split '\n' nestedRoot, ∃ target, nested.asks line = .follow target :=
  ⟨"#include \"a.h\"", by decide +kernel, "inc/a.h", by decide +kernel⟩

theorem inline_keeps_text_nested :
    nested.inline nestedRoot = .ok nestedUnit ∧
    ∃ plan head interlude tail blocks,
      nested.plan nestedRoot = .ok plan ∧
      head ++ interlude ++ tail = ["// top", "using std::map;", "int main();", ""] ∧
      List.Forall₂ nested.StandsFor plan.order blocks ∧
      nestedUnit = Text.unlines
          (head ++ plan.includes ++ interlude ++ blocks.flatMap Block.lines) ++
        Text.join '\n' tail := by
  obtain ⟨plan, head, interlude, tail, blocks, hplan, htext, -, -, hb, hunit⟩ :=
    inline_keeps_text nested nestedRoot nestedUnit follow_nested inline_nested
  exact ⟨inline_nested, plan, head, interlude, tail, blocks, hplan,
    htext.trans (by decide +kernel), hb, hunit⟩

-- ---------------------------------------------------------------------------
-- Line feeds
-- ---------------------------------------------------------------------------

theorem not_mem_target {ex : Exclusion} {dir target : Path} {line : String} {c : Char}
    (hc : c = '"' ∨ c = '\n') (hd : c ∉ dir.toList) (h : directive ex dir line = .follow target) :
    c ∉ target.toList := by
  obtain ⟨path, rfl, hq, hn⟩ := exists_path_of_follow h
  rcases hc with rfl | rfl
  · exact Path.not_mem_join (by decide) (by decide) hd hq
  · exact Path.not_mem_join (by decide) (by decide) hd hn

theorem not_mem_of_reaches {header : Path} {c : Char} (hc : c = '"' ∨ c = '\n')
    (hd : c ∉ inl.includeDir.toList) (h : inl.Reaches source header) : c ∉ header.toList := by
  induction h with
  | root hf =>
    obtain ⟨line, -, hl⟩ := hf
    exact not_mem_target hc hd hl
  | step _ hab ih =>
    obtain ⟨content, -, line, -, hl⟩ := hab
    refine not_mem_target hc (Path.not_mem_dir ?_ ?_ ih) hl
    · rcases hc with rfl | rfl <;> decide
    · rcases hc with rfl | rfl <;> decide

theorem StandsFor.not_mem_lines {header : Path} {b : Block} (h : inl.StandsFor header b)
    (hn : '\n' ∉ header.toList) : ∀ line ∈ b.lines, '\n' ∉ line.toList := by
  have hlabel : '\n' ∉ b.label.toList :=
    MarkerStyle.not_mem_label (by decide) (by decide) h.label hn
  obtain ⟨content, -, hbody⟩ := h.body
  intro line hl
  rw [Block.lines, List.mem_append, List.mem_cons, List.mem_singleton] at hl
  rcases hl with (rfl | hl) | rfl
  · simp [beginMarker, hlabel]
  · rw [hbody] at hl
    exact Text.not_mem_of_mem_lines (List.mem_filter.mp hl).1
  · simp [endMarker, hlabel]

theorem exists_header {headers : List Path} (h : List.Forall₂ inl.StandsFor headers blocks) :
    ∀ b ∈ blocks, ∃ header ∈ headers, inl.StandsFor header b := by
  induction h with
  | nil => simp
  | cons hb _ ih =>
    intro b hm
    rcases List.mem_cons.mp hm with rfl | hm
    · exact ⟨_, List.mem_cons_self, hb⟩
    · obtain ⟨header, hh, hs⟩ := ih b hm
      exact ⟨header, List.mem_cons_of_mem _ hh, hs⟩

def front (inl : Inliner) (source : String) (plan : Plan) : List String :=
  (inl.layout source).head ++ plan.includes ++
    (inl.layout source).interlude inl.exclusion inl.includeDir

def back (inl : Inliner) (source : String) : List String :=
  Text.split '\n' (Text.join '\n' (inl.layout source).tail)

theorem not_mem_front (hplan : inl.plan source = .ok plan) :
    ∀ line ∈ inl.front source plan, '\n' ∉ line.toList := by
  have hdiv := Layout.divides_scan inl.exclusion inl.includeDir source
  intro line hl
  rw [front, List.mem_append, List.mem_append] at hl
  rcases hl with (hl | hl) | hl
  · exact Text.not_mem_of_mem_split (hdiv.head_subset hl)
  · rcases (Plan.mem_includes hplan).mp hl with ⟨hm, -⟩ | ⟨hm, -⟩ | ⟨-, _, -, hm, -⟩
    · exact Text.not_mem_of_mem_split hm
    · exact Text.not_mem_of_mem_lines hm
    · exact Text.not_mem_of_mem_lines hm
  · exact Text.not_mem_of_mem_split (hdiv.block_subset (List.mem_filter.mp hl).1)

theorem isIncludeLine_of_mem_includes (hplan : inl.plan source = .ok plan) {line : String}
    (h : line ∈ plan.includes) : isIncludeLine line = true := by
  rcases (Plan.mem_includes hplan).mp h with ⟨-, ha⟩ | ⟨-, ha⟩ | ⟨-, _, -, -, ha⟩
  all_goals exact isIncludeLine_of_lift ha

theorem filter_front (hplan : inl.plan source = .ok plan) :
    (inl.front source plan).filter isIncludeLine = plan.includes := by
  have hdiv := Layout.divides_scan inl.exclusion inl.includeDir source
  have hhead : (inl.layout source).head.filter isIncludeLine = [] := by
    refine List.filter_eq_nil_iff.mpr fun line hl => ?_
    simpa using directive_eq_text.mp (of_decide_eq_true (hdiv.head line hl))
  have hinterlude :
      ((inl.layout source).interlude inl.exclusion inl.includeDir).filter isIncludeLine = [] := by
    refine List.filter_eq_nil_iff.mpr fun line hl => ?_
    simpa using directive_eq_text.mp (of_decide_eq_true (List.mem_filter.mp hl).2)
  have hincludes : plan.includes.filter isIncludeLine = plan.includes :=
    List.filter_eq_self.mpr fun line hl => isIncludeLine_of_mem_includes hplan hl
  rw [front, List.filter_append, List.filter_append, hhead, hinterlude, hincludes, List.nil_append,
    List.append_nil]

theorem isIncludeLine_of_mem_back {line : String} (h : line ∈ inl.back source) :
    isIncludeLine line = false := by
  have hdiv := Layout.divides_scan inl.exclusion inl.includeDir source
  by_cases ht : (inl.layout source).tail = []
  · have hback : inl.back source = [""] := by rw [back, ht]; rfl
    obtain rfl : line = "" := by simpa [hback] using h
    decide
  · rw [back, Text.split_join ht fun other ho => Text.not_mem_of_mem_split (hdiv.tail_subset ho)] at h
    exact directive_eq_text.mp (of_decide_eq_true (hdiv.tail line h))

theorem split_unit (hplan : inl.plan source = .ok plan) (hdir : '\n' ∉ inl.includeDir.toList)
    (hfollow : ∃ line ∈ Text.split '\n' source, ∃ target, inl.asks line = .follow target)
    (h : inl.inline source = .ok unit) :
    ∃ blocks, List.Forall₂ inl.StandsFor plan.order blocks ∧
      Text.split '\n' unit =
        inl.front source plan ++ blocks.flatMap Block.lines ++ inl.back source := by
  obtain ⟨line, hm, target, ha⟩ := hfollow
  obtain ⟨plan', blocks, hplan', hb, rfl⟩ := inline_of_follow h hm ha
  obtain rfl : plan = plan' := Except.ok.inj (hplan.symm.trans hplan')
  refine ⟨blocks, hb, ?_⟩
  rw [assemble, Text.split_unlines_append]
  · rfl
  · intro line hl
    rcases List.mem_append.mp hl with hl | hl
    · exact not_mem_front hplan line hl
    · obtain ⟨b, hbm, hl⟩ := List.mem_flatMap.mp hl
      obtain ⟨header, hh, hs⟩ := exists_header hb b hbm
      obtain ⟨f, hspans⟩ := Plan.exists_spans hplan
      have hreach := hspans.mem_order.mp hh
      exact hs.not_mem_lines (not_mem_of_reaches (.inr rfl) hdir hreach) line hl

/-- Of the lines other than markers only the lifted ones are includes. -/
theorem filter_outside_markers (hplan : inl.plan source = .ok plan)
    (hb : List.Forall₂ inl.StandsFor plan.order blocks) :
    (inl.front source plan ++ blocks.flatMap Block.body ++ inl.back source).filter isIncludeLine =
      plan.includes := by
  have hbodies : (blocks.flatMap Block.body).filter isIncludeLine = [] := by
    refine List.filter_eq_nil_iff.mpr fun line hl => ?_
    obtain ⟨b, hm, hl⟩ := List.mem_flatMap.mp hl
    obtain ⟨header, -, hs⟩ := exists_header hb b hm
    obtain ⟨content, -, hbody⟩ := hs.body
    rw [hbody] at hl
    simpa using (List.mem_filter.mp hl).2
  have hback : (inl.back source).filter isIncludeLine = [] :=
    List.filter_eq_nil_iff.mpr fun line hl => by simp [isIncludeLine_of_mem_back hl]
  rw [List.filter_append, List.filter_append, filter_front hplan, hbodies, hback, List.append_nil,
    List.append_nil]

end Inliner

end Amalgam
