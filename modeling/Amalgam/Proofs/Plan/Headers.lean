import Amalgam.Inliner
import Amalgam.Proofs.Walk.Reach
import Amalgam.Store

/-!
# The headers of a plan

A plan comes of two visits: the walk over the contents, which keeps one edge for
each header, and the tour of the graph of those edges. Both leave the same
forest (`exists_spans`). So a plan lists what the root reaches, each header once
and after whatever it really includes, although most includes left no edge.
-/

namespace Amalgam

open Relation (ReflTransGen TransGen)

abbrev Inliner.Includes (inl : Inliner) : Path → Path → Prop :=
  Amalgam.Includes inl.reader inl.exclusion

abbrev Inliner.Reaches (inl : Inliner) (source : String) : Path → Prop :=
  Reach inl.reader inl.exclusion inl.includeDir source

/-- What a plan says about the forest that the walk from its root leaves. -/
structure Plan.Spans (inl : Inliner) (source : String) (plan : Plan) (f : Forest Path) : Prop where
  explores : ∃ seen', Explores (includesOf inl.reader inl.exclusion)
    (followed inl.exclusion inl.includeDir (Text.lines source)) [] f seen'
  order : plan.order = f.postorder
  edges : plan.extraction.edges = f.edges rootLabel
  keys : plan.extraction.sources.map (·.1) = f.preorder
  read : ∀ entry ∈ plan.extraction.sources, inl.reader.read entry.1 = .ok entry.2

theorem Inliner.plan_eq_ok {inl : Inliner} {source : String} {plan : Plan}
    (h : inl.plan source = .ok plan) :
    extract inl.reader inl.exclusion inl.includeDir source = .ok plan.extraction ∧
      (Graph.ofEdges plan.extraction.edges).order rootLabel = .ok plan.order ∧
      plan.includes = plan.extraction.lifted.uniqueAfter
        ((inl.layout source).lifted inl.exclusion inl.includeDir) := by
  rw [Inliner.plan] at h
  split at h
  next => cases h
  next x hx =>
    rw [planOf] at h
    split at h
    next => cases h
    next order horder =>
      cases h
      exact ⟨hx, horder, rfl⟩

/-- The order is that in which the walk finishes. A header that bears the name of
the root would lead back to it, and no plan could be made. -/
theorem Plan.exists_spans {inl : Inliner} {source : String} {plan : Plan}
    (h : inl.plan source = .ok plan) : ∃ f, plan.Spans inl source f := by
  obtain ⟨hx, horder, -⟩ := Inliner.plan_eq_ok h
  obtain ⟨f, seen', hf, hedges, hkeys, hread⟩ := extract_forest hx
  refine ⟨f, ⟨seen', hf⟩, ?_, hedges, hkeys, hread⟩
  rw [hedges] at horder
  have hroot : rootLabel ∉ f.preorder :=
    fun hm => Graph.not_acyclic_edges hm (Graph.order_eq_ok.mp horder).1
  rw [Graph.order_edges hf hroot] at horder
  exact (Except.ok.inj horder).symm

namespace Plan.Spans

variable {inl : Inliner} {source : String} {plan : Plan} {f : Forest Path} {header : Path}

theorem nodup_order (h : plan.Spans inl source f) : plan.order.Nodup := by
  obtain ⟨_, hf⟩ := h.explores
  rw [h.order]
  exact hf.nodup_postorder

theorem nodup_targets (h : plan.Spans inl source f) :
    (plan.extraction.edges.map (·.target)).Nodup := by
  obtain ⟨_, hf⟩ := h.explores
  rw [h.edges, Forest.map_target_edges]
  exact hf.nodup_preorder

theorem mem_preorder (h : plan.Spans inl source f) :
    header ∈ f.preorder ↔ inl.Reaches source header := by
  obtain ⟨_, hf⟩ := h.explores
  rw [hf.mem_iff_reachable, Inliner.Reaches, reach_iff]

theorem mem_order (h : plan.Spans inl source f) :
    header ∈ plan.order ↔ inl.Reaches source header := by
  rw [h.order, Forest.mem_postorder, h.mem_preorder]

theorem mem_targets (h : plan.Spans inl source f) :
    header ∈ plan.extraction.edges.map (·.target) ↔ inl.Reaches source header := by
  rw [h.edges, Forest.map_target_edges, h.mem_preorder]

theorem length_order (h : plan.Spans inl source f) :
    plan.order.length = plan.extraction.edges.length := by
  rw [h.order, f.postorder_perm.length_eq, h.edges, ← Forest.map_target_edges f rootLabel,
    List.length_map]

theorem headerCount (h : plan.Spans inl source f) :
    plan.extraction.edges.length = plan.extraction.headerCount := by
  have hlen := congrArg List.length h.keys
  rw [← Forest.map_target_edges f rootLabel, ← h.edges] at hlen
  simpa [Extraction.headerCount] using hlen.symm

theorem source?_of_reach (h : plan.Spans inl source f) (hr : inl.Reaches source header) :
    ∃ content, inl.reader.read header = .ok content ∧
      plan.extraction.source? header = some content := by
  have hm : header ∈ plan.extraction.sources.map (·.1) := by rw [h.keys, h.mem_preorder]; exact hr
  obtain ⟨entry, he, rfl⟩ := List.mem_map.mp hm
  rw [Extraction.source?]
  cases hfind : plan.extraction.sources.find? (·.1 = entry.1) with
  | none => simpa using List.find?_eq_none.mp hfind entry he
  | some other =>
    have hkey : other.1 = entry.1 := by simpa using List.find?_some hfind
    refine ⟨other.2, ?_, rfl⟩
    rw [← hkey]
    exact h.read other (List.mem_of_find?_eq_some hfind)

theorem source?_of_not_reach (h : plan.Spans inl source f) (hr : ¬ inl.Reaches source header) :
    plan.extraction.source? header = none := by
  rw [Extraction.source?, Option.map_eq_none_iff, List.find?_eq_none]
  intro entry he
  rw [decide_eq_true_eq]
  rintro rfl
  refine hr (h.mem_preorder.mp ?_)
  rw [← h.keys]
  exact List.mem_map_of_mem he

theorem idxOf_lt_or_back (h : plan.Spans inl source f) {a b : Path} (ha : a ∈ plan.order)
    (hab : inl.Includes a b) :
    plan.order.idxOf b < plan.order.idxOf a ∨ ReflTransGen inl.Includes b a := by
  obtain ⟨_, hf⟩ := h.explores
  rw [h.order] at ha ⊢
  rw [Inliner.Includes, ← leadsTo_includesOf] at hab ⊢
  rcases hf.precedes_or_back (Forest.mem_postorder.mp ha) hab with hp | hback
  · exact .inl (hp.idxOf_lt hf.nodup_postorder)
  · exact .inr hback

end Plan.Spans

-- ---------------------------------------------------------------------------
-- Plans
-- ---------------------------------------------------------------------------

/-- A header is included twice, under two spellings, and includes itself. -/
def Inliner.diamond : Inliner where
  includeDir := "inc"
  reader := Store.reader ⟨[
    ("inc/a.h", "#include \"sub/b.h\"\n#include \"c.h\""),
    ("inc/sub/b.h", "#include \"../c.h\""),
    ("inc/c.h", "#include \"c.h\"")]⟩

namespace Plan

def diamond : Plan where
  order := ["inc/c.h", "inc/sub/b.h", "inc/a.h"]
  includes := []
  extraction :=
    { edges := [⟨"<root>", "inc/a.h"⟩, ⟨"inc/a.h", "inc/sub/b.h"⟩, ⟨"inc/sub/b.h", "inc/c.h"⟩]
      sources := [
        ("inc/a.h", "#include \"sub/b.h\"\n#include \"c.h\""),
        ("inc/sub/b.h", "#include \"../c.h\""),
        ("inc/c.h", "#include \"c.h\"")] }

theorem plan_diamond : Inliner.diamond.plan "#include \"a.h\"" = .ok diamond := by decide +kernel

variable (inl : Inliner) (source : String) (plan : Plan)

/-- A header stands after everything that it includes, be it over an edge or not,
unless what it includes leads back to it. -/
theorem includes_before (h : inl.plan source = .ok plan) :
    (∀ a ∈ plan.order, ∀ b, inl.Includes a b →
      b ∈ plan.order ∧
      (plan.order.idxOf b < plan.order.idxOf a ∨ ReflTransGen inl.Includes b a)) ∧
    ((∀ a, inl.Reaches source a → ¬ TransGen inl.Includes a a) →
      ∀ a ∈ plan.order, ∀ b, inl.Includes a b → plan.order.idxOf b < plan.order.idxOf a) := by
  obtain ⟨f, hspans⟩ := exists_spans h
  refine ⟨?_, ?_⟩
  · intro a ha b hab
    have hb : inl.Reaches source b := .step (hspans.mem_order.mp ha) hab
    exact ⟨hspans.mem_order.mpr hb, hspans.idxOf_lt_or_back ha hab⟩
  · intro hacyclic a ha b hab
    rcases hspans.idxOf_lt_or_back ha hab with hlt | hback
    · exact hlt
    · exact absurd (TransGen.head' hab hback) (hacyclic a (hspans.mem_order.mp ha))

theorem includes_before_diamond :
    Inliner.diamond.Includes "inc/a.h" "inc/c.h" ∧
    ⟨"inc/a.h", "inc/c.h"⟩ ∉ diamond.extraction.edges ∧
    "inc/c.h" ∈ diamond.order ∧
    (diamond.order.idxOf "inc/c.h" < diamond.order.idxOf "inc/a.h" ∨
      ReflTransGen Inliner.diamond.Includes "inc/c.h" "inc/a.h") := by
  have hinc : Inliner.diamond.Includes "inc/a.h" "inc/c.h" :=
    ⟨"#include \"sub/b.h\"\n#include \"c.h\"", by decide +kernel, "#include \"c.h\"",
      by decide +kernel, by decide +kernel⟩
  refine ⟨hinc, by decide, ?_⟩
  exact (includes_before .diamond _ _ plan_diamond).1 "inc/a.h" (by decide) "inc/c.h" hinc

/-- A plan lists exactly what the root reaches, each header once. The edges lead
to the same headers, each from the root or from a header that an earlier edge
leads to, and their contents are what the reader gives. -/
theorem lists_reach (h : inl.plan source = .ok plan) :
    plan.order.Nodup ∧
    (∀ header, header ∈ plan.order ↔ inl.Reaches source header) ∧
    (plan.extraction.edges.map (·.target)).Nodup ∧
    (∀ header, header ∈ plan.extraction.edges.map (·.target) ↔ inl.Reaches source header) ∧
    (∀ before e after, plan.extraction.edges = before ++ e :: after →
      e.source = rootLabel ∨ e.source ∈ before.map (·.target)) ∧
    (∀ header, inl.Reaches source header →
      ∃ content, inl.reader.read header = .ok content ∧
        plan.extraction.source? header = some content) ∧
    (∀ header, ¬ inl.Reaches source header → plan.extraction.source? header = none) ∧
    plan.order.length = plan.extraction.edges.length ∧
    plan.extraction.edges.length = plan.extraction.headerCount := by
  obtain ⟨f, hspans⟩ := exists_spans h
  refine ⟨hspans.nodup_order, fun _ => hspans.mem_order, hspans.nodup_targets,
    fun _ => hspans.mem_targets, ?_, fun _ => hspans.source?_of_reach,
    fun _ => hspans.source?_of_not_reach, hspans.length_order, hspans.headerCount⟩
  intro before e after hsplit
  rw [hspans.edges] at hsplit
  exact Forest.source_earlier hsplit

theorem lists_reach_diamond :
    Inliner.diamond.plan "#include \"a.h\"" = .ok diamond ∧
    ∀ header, header ∈ ["inc/c.h", "inc/sub/b.h", "inc/a.h"] ↔
      Inliner.diamond.Reaches "#include \"a.h\"" header :=
  ⟨plan_diamond, (lists_reach .diamond _ _ plan_diamond).2.1⟩

end Plan

end Amalgam
