import Amalgam.Proofs.Directive
import Amalgam.Proofs.Path.Join

/-!
# Directory and file name

A path is cut at its last slash into the directory that it lies in and its file name.
The directory is cleaned, so the two may not spell the path as it was; joined again they
still lead where it leads.
-/

namespace Amalgam.Path

variable {p d name : Path}

-- ---------------------------------------------------------------------------
-- The cut
-- ---------------------------------------------------------------------------

def fileName (p : Path) : Path :=
  String.ofList (p.toList.reverse.takeWhile (· != '/')).reverse

inductive Cut : Path → Path → Path → Prop where
  | whole {p : Path} : '/' ∉ p.toList → Cut p "." p
  | root {name : Path} : '/' ∉ name.toList → Cut ("/" ++ name) "/" name
  | below {before name : Path} :
      before ≠ "" → '/' ∉ name.toList → Cut (before ++ "/" ++ name) before.clean name

theorem bne_of_mem_reverse {cs : List Char} (h : '/' ∉ cs) :
    ∀ c ∈ cs.reverse, (c != '/') = true := by
  intro c hc
  rw [bne_iff_ne]
  rintro rfl
  exact h (List.mem_reverse.mp hc)

theorem fileName_of_not_mem (h : '/' ∉ p.toList) : p.fileName = p := by
  simp [fileName, List.takeWhile_eq_self_iff.mpr (bne_of_mem_reverse h)]

theorem fileName_of_toList {before after : List Char} (hp : p.toList = before ++ '/' :: after)
    (h : '/' ∉ after) : p.fileName = String.ofList after := by
  simp [fileName, hp, List.takeWhile_append_of_pos (bne_of_mem_reverse h)]

theorem cut_dir (p : Path) : Cut p p.dir p.fileName := by
  unfold dir
  split
  next hcut =>
    have hs := Text.cutLast?_eq_none.mp hcut
    rw [fileName_of_not_mem hs]
    exact .whole hs
  next after hcut =>
    obtain ⟨hp, hs⟩ := Text.of_cutLast? hcut
    obtain rfl : p = "/" ++ String.ofList after := String.toList_inj.mp (by simp [hp])
    rw [fileName_of_toList hp hs]
    exact .root (by simpa using hs)
  next before after hne hcut =>
    obtain ⟨hp, hs⟩ := Text.of_cutLast? hcut
    obtain rfl : p = String.ofList before ++ "/" ++ String.ofList after :=
      String.toList_inj.mp (by simp [hp])
    rw [fileName_of_toList hp hs]
    refine .below ?_ (by simpa using hs)
    simpa using hne

-- ---------------------------------------------------------------------------
-- Joined again
-- ---------------------------------------------------------------------------

theorem clean_dot_append (h : p.isRooted = false) : clean ("." ++ "/" ++ p) = p.clean := by
  have hdot : ("." : Path) ≠ "" := by decide
  refine clean_congr ?_ ?_
  · rw [isRooted_append hdot, h]
    rfl
  · rw [route_append hdot, route, h]
    rfl

theorem clean_root_append (name : Path) : clean ("/" ++ "/" ++ name) = clean ("/" ++ name) := by
  refine clean_congr ?_ ?_
  · simp [isRooted]
  · simp [route, isRooted, reduce, Text.splitChars, keep]

theorem Cut.clean_eq (h : Cut p d name) : d.clean = d := by
  cases h with
  | whole => decide +kernel
  | root => decide +kernel
  | below => exact clean_clean _

theorem Cut.join_eq (h : Cut p d name) : d.join name = p.clean := by
  cases h with
  | whole hs =>
    rw [join_of_ne_empty (by decide)]
    exact clean_dot_append (isRooted_of_not_mem hs)
  | root =>
    rw [join_of_ne_empty (by decide)]
    exact clean_root_append name
  | below hne =>
    rw [join_of_ne_empty (clean_ne_empty _)]
    exact clean_append_clean hne name

/-- A directory is a clean path, and the file name leads back from it to the clean form
of the path. So a header with a clean path that quotes its own file name asks for itself. -/
theorem dir_splits_join (p : Path) :
    p.dir ≠ "" ∧ p.dir.clean = p.dir ∧ p.dir.join p.fileName = p.clean ∧
    (p.clean = p →
      p.dir.join p.fileName = p ∧
      ∀ (ex : Exclusion) (line : String), Line.classify line = .quoted p.fileName →
        directive ex p.dir line = if ex.excludes p then .lift else .follow p) := by
  have hcut := p.cut_dir
  refine ⟨dir_ne_empty p, hcut.clean_eq, hcut.join_eq, ?_⟩
  intro hclean
  have hjoin : p.dir.join p.fileName = p := hcut.join_eq.trans hclean
  refine ⟨hjoin, ?_⟩
  intro ex line hline
  simp only [directive, hline, hjoin]

theorem dir_splits_join_climbing :
    (clean "../../a.h" = "../../a.h" ∧ join (dir "../../a.h") "a.h" = "../../a.h" ∧
      directive .none (dir "../../a.h") "#include \"a.h\"" = .follow "../../a.h") ∧
    (clean "../.." = "../.." ∧ join (dir "../..") ".." = "../..") ∧
    (clean "/a.h" = "/a.h" ∧ join (dir "/a.h") "a.h" = "/a.h") ∧
    (clean "/" = "/" ∧ join (dir "/") "" = "/") ∧
    clean "." = "." ∧ join (dir ".") "." = "." := by
  have hheader : clean "../../a.h" = "../../a.h" := by decide +kernel
  have hclimb : clean "../.." = "../.." := by decide +kernel
  have hrooted : clean "/a.h" = "/a.h" := by decide +kernel
  have hroot : clean "/" = "/" := by decide +kernel
  have hdot : clean "." = "." := by decide +kernel
  obtain ⟨hjoin, hline⟩ := (dir_splits_join "../../a.h").2.2.2 hheader
  exact ⟨⟨hheader, hjoin, hline .none "#include \"a.h\"" (by decide +kernel)⟩,
    ⟨hclimb, ((dir_splits_join "../..").2.2.2 hclimb).1⟩,
    ⟨hrooted, ((dir_splits_join "/a.h").2.2.2 hrooted).1⟩,
    ⟨hroot, ((dir_splits_join "/").2.2.2 hroot).1⟩,
    hdot, ((dir_splits_join ".").2.2.2 hdot).1⟩

end Amalgam.Path
