import Amalgam.Proofs.Path.Route

/-!
# Joining in steps

To join one relative path after another is to join what they are together: a `..`
of the later path takes back the same segment, whether it meets the earlier path
alone or what the base and the earlier path have become. So a chain of relative
steps leads to one path, whatever is joined first.
-/

namespace Amalgam.Path

variable {a b c base rel : Path}

-- ---------------------------------------------------------------------------
-- Two steps
-- ---------------------------------------------------------------------------

theorem join_of_ne_empty (h : base ≠ "") (rel : Path) : base.join rel = clean (base ++ "/" ++ rel) := by
  unfold join
  rw [if_neg h]
  split
  next hrel =>
    subst hrel
    -- the slash at the end makes an empty segment
    refine clean_congr (isRooted_append h).symm ?_
    rw [route_append h, foldl_splitChars]
    simp [Text.splitChars, keep]
  next => rfl

theorem join_ne_empty (h : base ≠ "") (rel : Path) : base.join rel ≠ "" := by
  rw [join_of_ne_empty h]
  exact clean_ne_empty _

theorem empty_join (h : rel ≠ "") : join "" rel = rel.clean := by
  simp [join, h]

theorem join_empty (h : base ≠ "") : base.join "" = base.clean := by
  simp [join, h]

theorem join_clean (h : base ≠ "") (hrel : rel.isRooted = false) :
    base.join rel.clean = base.join rel := by
  rw [join_of_ne_empty h, join_of_ne_empty h, clean_append_relative h hrel]

theorem relative_join (hbase : base.isRooted = false) (hrel : rel.isRooted = false) :
    (base.join rel).isRooted = false := by
  by_cases hb : base = ""
  · subst hb
    by_cases hr : rel = ""
    · subst hr
      rfl
    · rw [empty_join hr, isRooted_clean, hrel]
  · rw [isRooted_join hb, hbase]

theorem empty_join_join (h : b ≠ "") (c : Path) : join "" (b.join c) = b.join c := by
  rw [empty_join (join_ne_empty h c), clean_join_self (.inl h)]

theorem join_join_of_ne_empty (ha : a ≠ "") (hb : b ≠ "") (hrel : b.isRooted = false) (c : Path) :
    (a.join b).join c = a.join (b.join c) := by
  have hab : a ++ "/" ++ b ≠ "" := by simp [ha]
  have hbc : isRooted (b ++ "/" ++ c) = false := by rw [isRooted_append hb, hrel]
  calc (a.join b).join c
      = (clean (a ++ "/" ++ b)).join c := by rw [join_of_ne_empty ha]
    _ = clean (a ++ "/" ++ b ++ "/" ++ c) := by rw [clean_join hab, join_of_ne_empty hab]
    _ = clean (a ++ "/" ++ (b ++ "/" ++ c)) := by simp only [String.append_assoc]
    _ = a.join (b ++ "/" ++ c) := (join_of_ne_empty ha _).symm
    _ = a.join (b.join c) := by rw [← join_clean ha hbc, join_of_ne_empty hb]

theorem join_empty_join (hc : c.isRooted = false) : (a.join "").join c = a.join (join "" c) := by
  by_cases hempty : c = ""
  · subst hempty
    by_cases ha : a = ""
    · subst ha
      rfl
    · rw [join_empty ha, clean_join ha]
      rfl
  · rw [empty_join hempty]
    by_cases ha : a = ""
    · subst ha
      rw [empty_join (clean_ne_empty c), clean_clean]
      exact empty_join hempty
    · rw [join_empty ha, clean_join ha, join_clean ha hc]

/-- Only an empty middle keeps a rooted path from being joined first. -/
theorem join_join (hrel : b.isRooted = false) (h : b ≠ "" ∨ c.isRooted = false) :
    (a.join b).join c = a.join (b.join c) := by
  by_cases hb : b = ""
  · subst hb
    exact join_empty_join (h.resolve_left (by simp))
  · by_cases ha : a = ""
    · subst ha
      rw [empty_join hb, clean_join hb, empty_join_join hb]
    · exact join_join_of_ne_empty ha hb hrel c

-- ---------------------------------------------------------------------------
-- Any number of steps
-- ---------------------------------------------------------------------------

inductive Grouping where
  | step (rel : Path)
  | both (first second : Grouping)

namespace Grouping

def steps : Grouping → List Path
  | step rel => [rel]
  | both first second => first.steps ++ second.steps

def resolve : Grouping → Path
  | step rel => rel
  | both first second => first.resolve.join second.resolve

variable {g : Grouping}

theorem isRooted_resolve (h : ∀ rel ∈ g.steps, rel.isRooted = false) :
    g.resolve.isRooted = false := by
  induction g with
  | step rel => simpa [steps, resolve] using h
  | both first second ihf ihs =>
    simp only [steps, List.forall_mem_append] at h
    exact relative_join (ihf h.1) (ihs h.2)

theorem join_resolve (h : ∀ rel ∈ g.steps, rel.isRooted = false) (base : Path) :
    base.join g.resolve = g.steps.foldl join base := by
  induction g generalizing base with
  | step rel => rfl
  | both first second ihf ihs =>
    simp only [steps, List.forall_mem_append] at h
    have hfirst := isRooted_resolve h.1
    have hsecond := isRooted_resolve h.2
    rw [resolve, ← join_join hfirst (.inr hsecond), ihf h.1, ihs h.2, steps, List.foldl_append]

end Grouping

/-- Joining is associative where the middle is relative and does not vanish before
a rooted path, so a chain of relative steps leads to one path however its steps
are grouped. -/
theorem join_regrouped (a : Path) :
    (∀ b c : Path, b.isRooted = false → (b ≠ "" ∨ c.isRooted = false) →
      (a.join b).join c = a.join (b.join c)) ∧
    ∀ g : Grouping, (∀ rel ∈ g.steps, rel.isRooted = false) →
      a.join g.resolve = g.steps.foldl join a :=
  ⟨fun _ _ hrel h => join_join hrel h, fun _ h => Grouping.join_resolve h a⟩

theorem join_regrouped_climbing :
    (join "/inc/lib" "../io").join "/../a.h" = join "/inc/lib" (join "../io" "/../a.h") ∧
    join "/inc" (join "lib" (join "../.." "a.h")) = join (join (join "/inc" "lib") "../..") "a.h" := by
  refine ⟨(join_regrouped "/inc/lib").1 "../io" "/../a.h" (by decide +kernel) (.inl (by decide)), ?_⟩
  exact (join_regrouped "/inc").2 (.both (.step "lib") (.both (.step "../..") (.step "a.h")))
    (by decide +kernel)

-- joined first, the rooted path climbs nowhere; joined last, it climbs out of `a`
example : join (join "a" "") "/../x" ≠ join "a" (join "" "/../x") := by decide +kernel

end Amalgam.Path
